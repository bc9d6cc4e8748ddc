import Mathlib.Algebra.BigOperators.Group.List.Lemmas
import Mathlib.Algebra.Order.BigOperators.Group.List
import Mathlib.Algebra.Order.Field.Basic
import Mathlib.Algebra.Order.Floor.Semiring
import Mathlib.Data.Finset.Max
import Mathlib.Data.List.GetD
import Mathlib.Data.List.Sort
import Mathlib.Tactic.Linarith
import Mathlib.Tactic.Ring
/-!
# Aggregates of a table

`GROUP BY` with its groups in the order of their keys, and the aggregate
functions `AVG` and `PERCENTILE_CONT` over any ordered field: the percentile
at a position between two samples lies on the line between them.
-/

namespace Dreamscroll

namespace Aggregate

/-! ## Groups -/

section Groups

variable {α κ : Type*} {l : List α} {k : κ}

/-- A group: the rows with the key. -/
def group [DecidableEq κ] (key : α → κ) (l : List α) (k : κ) : List α :=
  l.filter fun x => key x = k

/-- **The groups are a partition**: whatever rows are counted, each of them
is counted in one group. -/
theorem sum_group [DecidableEq κ] (key : α → κ) {keys : List κ} (hnodup : keys.Nodup)
    (hcover : ∀ x ∈ l, key x ∈ keys) (p : α → Bool) :
    (keys.map fun k => ((group key l k).filter p).length).sum = (l.filter p).length := by
  induction l with
  | nil => simp [group]
  | cons x l ih =>
    have htail := ih fun y hy => hcover y (List.mem_cons_of_mem _ hy)
    -- the head is counted in the group of its key and in no other
    have hhead : (keys.map fun k => if key x = k ∧ p x then 1 else 0).sum =
        if p x then 1 else 0 := by
      rw [List.sum_map_eq_nsmul_single (key x) _ fun k hk _ => by simp [hk.symm],
        List.count_eq_one_of_mem hnodup (hcover x List.mem_cons_self)]
      simp
    have hgroup : ∀ k, ((group key (x :: l) k).filter p).length =
        (if key x = k ∧ p x then 1 else 0) + ((group key l k).filter p).length := by
      intro k
      by_cases hk : key x = k <;> by_cases hp : p x = true <;>
        simp [group, hk, hp, Nat.add_comm]
    simp only [hgroup]
    rw [List.sum_map_add, hhead, htail]
    by_cases hp : p x = true <;> simp [hp, Nat.add_comm]

variable [LinearOrder κ] {key : α → κ}

/-- The keys of the groups, ascending. -/
def groupKeys (key : α → κ) (l : List α) : List κ := (l.map key).dedup.insertionSort (· ≤ ·)

/-- There is a group for each key, and no other. -/
theorem mem_groupKeys : k ∈ groupKeys key l ↔ ∃ x ∈ l, key x = k := by
  rw [groupKeys, (List.perm_insertionSort _ _).mem_iff, List.mem_dedup, List.mem_map]

theorem groupKeys_pairwise : (groupKeys key l).Pairwise (· < ·) := by
  have hsorted : (groupKeys key l).Pairwise (· ≤ ·) := List.pairwise_insertionSort _ _
  have hnodup : (groupKeys key l).Nodup :=
    (List.perm_insertionSort _ _).nodup_iff.2 (List.nodup_dedup _)
  exact (hsorted.and hnodup).imp fun h => lt_of_le_of_ne h.1 h.2

theorem sum_groupKeys (p : α → Bool) :
    ((groupKeys key l).map fun k => ((group key l k).filter p).length).sum =
      (l.filter p).length :=
  sum_group key (groupKeys_pairwise.imp fun h => h.ne)
    (fun x hx => mem_groupKeys.2 ⟨x, hx, rfl⟩) p

end Groups

/-! ## Between two samples -/

variable {K : Type*} [Field K] [LinearOrder K] [IsStrictOrderedRing K] [FloorSemiring K]
variable {f : ℕ → K} {r r' lo hi : K} {N : ℕ}

/-- The value at a position, on the line between the samples next to it. -/
def lerp (f : ℕ → K) (r : K) : K := f ⌊r⌋₊ + (r - ⌊r⌋₊) * (f ⌈r⌉₊ - f ⌊r⌋₊)

/-- The weight of the sample above. -/
theorem weight_nonneg (hr : 0 ≤ r) : 0 ≤ r - ⌊r⌋₊ := sub_nonneg.2 (Nat.floor_le hr)

theorem weight_le_one : r - ⌊r⌋₊ ≤ 1 := by
  have h := Nat.lt_floor_add_one r
  linarith

omit [IsStrictOrderedRing K] in
theorem ceil_le_of_le (h : r ≤ N) : ⌈r⌉₊ ≤ N := Nat.ceil_le.2 h

/-- **A position's value is between its samples**, whatever they are. -/
theorem lerp_mem (hr : 0 ≤ r) (hlow : lo ≤ f ⌊r⌋₊ ∧ lo ≤ f ⌈r⌉₊)
    (hhigh : f ⌊r⌋₊ ≤ hi ∧ f ⌈r⌉₊ ≤ hi) : lo ≤ lerp f r ∧ lerp f r ≤ hi := by
  have hweight := weight_nonneg hr
  have hone := weight_le_one (r := r)
  have heq : lerp f r = (1 - (r - ⌊r⌋₊)) * f ⌊r⌋₊ + (r - ⌊r⌋₊) * f ⌈r⌉₊ := by
    rw [lerp]
    ring
  have hrest : 0 ≤ 1 - (r - ⌊r⌋₊) := sub_nonneg.2 hone
  have hsplit : ∀ x : K, (1 - (r - ⌊r⌋₊)) * x + (r - ⌊r⌋₊) * x = x := fun x => by ring
  rw [heq]
  constructor
  · calc lo = (1 - (r - ⌊r⌋₊)) * lo + (r - ⌊r⌋₊) * lo := (hsplit lo).symm
      _ ≤ _ := add_le_add (mul_le_mul_of_nonneg_left hlow.1 hrest)
        (mul_le_mul_of_nonneg_left hlow.2 hweight)
  · calc (1 - (r - ⌊r⌋₊)) * f ⌊r⌋₊ + (r - ⌊r⌋₊) * f ⌈r⌉₊
        ≤ (1 - (r - ⌊r⌋₊)) * hi + (r - ⌊r⌋₊) * hi :=
          add_le_add (mul_le_mul_of_nonneg_left hhigh.1 hrest)
            (mul_le_mul_of_nonneg_left hhigh.2 hweight)
      _ = hi := hsplit hi

/-- **Of ascending samples, a later position has a larger value.** -/
theorem lerp_mono (hf : ∀ i j, i ≤ j → j ≤ N → f i ≤ f j) (hr : 0 ≤ r) (h : r ≤ r') (hN : r' ≤ N) :
    lerp f r ≤ lerp f r' := by
  have hr' := hr.trans h
  have hceil := ceil_le_of_le hN
  have hfloors : ⌊r'⌋₊ ≤ ⌈r'⌉₊ := Nat.floor_le_ceil r'
  have hbelow : lerp f r ≤ f ⌈r⌉₊ := by
    have hceil' := ceil_le_of_le (h.trans hN)
    have hstep := hf ⌊r⌋₊ ⌈r⌉₊ (Nat.floor_le_ceil r) hceil'
    exact (lerp_mem hr ⟨le_rfl, hstep⟩ ⟨hstep, le_rfl⟩).2
  have habove : f ⌊r'⌋₊ ≤ lerp f r' := by
    have hstep := hf ⌊r'⌋₊ ⌈r'⌉₊ hfloors hceil
    exact (lerp_mem hr' ⟨le_rfl, hstep⟩ ⟨hstep, le_rfl⟩).1
  rcases Nat.lt_or_ge ⌊r'⌋₊ ⌈r⌉₊ with hlt | hge
  · -- the two positions are between the same two samples
    have hfloor : ⌊r⌋₊ = ⌊r'⌋₊ := by
      have hmono := Nat.floor_mono h
      have hup := Nat.ceil_le_floor_add_one r
      omega
    have hceils : ⌈r⌉₊ = ⌈r'⌉₊ := by
      have hmono := Nat.ceil_mono h
      have hup := Nat.ceil_le_floor_add_one r'
      omega
    have hstep := hf ⌊r'⌋₊ ⌈r'⌉₊ hfloors hceil
    rw [lerp, lerp, hfloor, hceils]
    have hmul : (r - (⌊r'⌋₊ : K)) * (f ⌈r'⌉₊ - f ⌊r'⌋₊) ≤
        (r' - (⌊r'⌋₊ : K)) * (f ⌈r'⌉₊ - f ⌊r'⌋₊) :=
      mul_le_mul_of_nonneg_right (by linarith) (sub_nonneg.2 hstep)
    linarith
  · exact hbelow.trans ((hf _ _ hge (hfloors.trans hceil)).trans habove)

/-! ## The functions -/

/-- `AVG`. -/
def avg (xs : List K) : Option K := if xs = [] then none else some (xs.sum / xs.length)

/-- `PERCENTILE_CONT(p) WITHIN GROUP (ORDER BY x)`. -/
def percentileCont (p : K) (xs : List K) : Option K :=
  let sorted := xs.insertionSort (· ≤ ·)
  if xs = [] then none else some (lerp (fun i => sorted.getD i 0) (p * (xs.length - 1 : ℕ)))

variable {xs ys : List K} {p q a b : K}

omit [IsStrictOrderedRing K] [FloorSemiring K] in
/-- A sample of the sorted list is one of the list. -/
theorem getD_mem {i : ℕ} (hi : i < xs.length) :
    (xs.insertionSort (· ≤ ·)).getD i 0 ∈ xs := by
  have hlt : i < (xs.insertionSort (· ≤ ·)).length := by rwa [List.length_insertionSort]
  rw [List.getD_eq_getElem _ _ hlt]
  exact (List.perm_insertionSort _ _).mem_iff.1 (List.getElem_mem hlt)

omit [IsStrictOrderedRing K] [FloorSemiring K] in
theorem getD_mono {i j : ℕ} (hij : i ≤ j) (hj : j < xs.length) :
    (xs.insertionSort (· ≤ ·)).getD i 0 ≤ (xs.insertionSort (· ≤ ·)).getD j 0 := by
  have hlt : j < (xs.insertionSort (· ≤ ·)).length := by rwa [List.length_insertionSort]
  rw [List.getD_eq_getElem _ _ hlt, List.getD_eq_getElem _ _ (hij.trans_lt hlt)]
  rcases hij.eq_or_lt with rfl | hij
  · exact le_rfl
  · exact List.pairwise_iff_getElem.1 (List.pairwise_insertionSort _ _) i j _ _ hij

omit [Field K] [IsStrictOrderedRing K] [FloorSemiring K] in
/-- Some sample is the least and some the greatest. -/
theorem exists_bounds (h : xs ≠ []) : ∃ lo ∈ xs, ∃ hi ∈ xs, ∀ x ∈ xs, lo ≤ x ∧ x ≤ hi := by
  have hne : xs.toFinset.Nonempty := by rwa [List.toFinset_nonempty_iff]
  obtain ⟨lo, hlo, hmin⟩ := xs.toFinset.exists_min_image id hne
  obtain ⟨hi, hhi, hmax⟩ := xs.toFinset.exists_max_image id hne
  simp only [List.mem_toFinset, id] at hlo hmin hhi hmax
  exact ⟨lo, hlo, hi, hhi, fun x hx => ⟨hmin x hx, hmax x hx⟩⟩

/-- A percentile is between the samples. -/
theorem percentileCont_mem (hp : 0 ≤ p) (hp' : p ≤ 1) (h : percentileCont p xs = some a)
    (hlow : ∀ x ∈ xs, lo ≤ x) (hhigh : ∀ x ∈ xs, x ≤ hi) : lo ≤ a ∧ a ≤ hi := by
  unfold percentileCont at h
  dsimp only at h
  split_ifs at h with hnil
  cases h
  have hpos := List.length_pos_iff.2 hnil
  have hbound : p * ((xs.length - 1 : ℕ) : K) ≤ (xs.length - 1 : ℕ) :=
    mul_le_of_le_one_left (Nat.cast_nonneg _) hp'
  have hceil := ceil_le_of_le hbound
  have hfloor := (Nat.floor_le_ceil (p * ((xs.length - 1 : ℕ) : K))).trans hceil
  have hmem : ∀ i ≤ xs.length - 1, (xs.insertionSort (· ≤ ·)).getD i 0 ∈ xs :=
    fun i hi => getD_mem (by omega)
  exact lerp_mem (mul_nonneg hp (Nat.cast_nonneg _))
    ⟨hlow _ (hmem _ hfloor), hlow _ (hmem _ hceil)⟩
    ⟨hhigh _ (hmem _ hfloor), hhigh _ (hmem _ hceil)⟩

/-- **A higher percentile is no smaller.** -/
theorem percentileCont_mono (hp : 0 ≤ p) (hpq : p ≤ q) (hq : q ≤ 1)
    (ha : percentileCont p xs = some a) (hb : percentileCont q xs = some b) : a ≤ b := by
  unfold percentileCont at ha hb
  dsimp only at ha hb
  split_ifs at ha hb with hnil
  cases ha
  cases hb
  have hpos := List.length_pos_iff.2 hnil
  refine lerp_mono (N := xs.length - 1) (fun i j hij hj => getD_mono hij (by omega))
    (mul_nonneg hp (Nat.cast_nonneg _)) (mul_le_mul_of_nonneg_right hpq (Nat.cast_nonneg _)) ?_
  exact mul_le_of_le_one_left (Nat.cast_nonneg _) hq

omit [IsStrictOrderedRing K] in
theorem percentileCont_isSome : (percentileCont p xs).isSome ↔ xs ≠ [] := by
  unfold percentileCont
  dsimp only
  split_ifs with hnil <;> simp [hnil]

omit [LinearOrder K] [IsStrictOrderedRing K] [FloorSemiring K] in
theorem avg_isSome : (avg xs).isSome ↔ xs ≠ [] := by
  unfold avg
  split_ifs with hnil <;> simp [hnil]

omit [FloorSemiring K] in
/-- The average is between the samples too. -/
theorem avg_mem (h : avg xs = some a) (hlow : ∀ x ∈ xs, lo ≤ x) (hhigh : ∀ x ∈ xs, x ≤ hi) :
    lo ≤ a ∧ a ≤ hi := by
  unfold avg at h
  split_ifs at h with hnil
  cases h
  have hpos : (0 : K) < xs.length := Nat.cast_pos.2 (List.length_pos_iff.2 hnil)
  have hge := List.card_nsmul_le_sum xs lo hlow
  have hle := List.sum_le_card_nsmul xs hi hhigh
  rw [nsmul_eq_mul] at hge hle
  exact ⟨(le_div_iff₀ hpos).2 (by rwa [mul_comm]), (div_le_iff₀ hpos).2 (by rwa [mul_comm])⟩

end Aggregate

end Dreamscroll
