import Dreamscroll.Common.Sql
import Mathlib.Algebra.BigOperators.Group.Finset.Piecewise
import Mathlib.Algebra.BigOperators.Pi
import Mathlib.Algebra.GroupWithZero.Nat
/-!
# What a program of inserts needs

A program that only inserts runs one statement for each key it draws. How
many it draws of which sequence is its demand, and demands add up: so the
program returns exactly where the session grants its demand and the rows it
inserts are admitted (`Costs`), whatever the order of its inserts.
-/

namespace Dreamscroll

namespace Sql

variable {τ ς ε α β κ : Type}

/-- The sequences of a database, by name, and what is left of them after so
many keys. -/
structure Sequences (ς κ : Type) where
  get : ς → κ → Sequence
  draw : ς → (κ → ℕ) → ς
  get_draw : ∀ q d k, get (draw q d) k = ⟨(get q k).last + d k⟩
  draw_zero : ∀ q, draw q 0 = q
  draw_draw : ∀ q d d', draw (draw q d) d' = draw q (d + d')

variable [Fintype κ] {sequences : Sequences ς κ}

/-- The statements of a demand. -/
def size (d : κ → ℕ) : ℕ := ∑ k, d k

theorem size_add (d d' : κ → ℕ) : size (d + d') = size d + size d' := Finset.sum_add_distrib

theorem size_single [DecidableEq κ] (k : κ) (n : ℕ) : size (Pi.single k n) = n :=
  Finset.sum_pi_single' k n Finset.univ |>.trans (if_pos (Finset.mem_univ k))

/-- **The session grants the demand**: none of its statements is refused,
and every sequence has the keys. -/
structure Grants (sequences : Sequences ς κ) (s : Session τ ς ε) (d : κ → ℕ) : Prop where
  unrefused : ∀ k < size d, s.faults[k]?.join = none
  keys : ∀ k, d k = 0 ∨ (sequences.get s.sequences k).last + d k ≤ Sequence.maxValue

/-- What is left once the demand is met. -/
structure After (sequences : Sequences ς κ) (s t : Session τ ς ε) (d : κ → ℕ) : Prop where
  faults : t.faults = s.faults.drop (size d)
  sequences : t.sequences = sequences.draw s.sequences d

variable {s t t' : Session τ ς ε} {d d' : κ → ℕ}

theorem grants_zero : Grants sequences s 0 where
  unrefused k hk := absurd hk (by simp [size])
  keys _ := Or.inl rfl

theorem After.refl : After sequences s s 0 where
  faults := by rw [show size (0 : κ → ℕ) = 0 from Finset.sum_const_zero, List.drop_zero]
  sequences := (sequences.draw_zero _).symm

theorem After.trans (h : After sequences s t d) (h' : After sequences t t' d') :
    After sequences s t' (d + d') where
  faults := by rw [h'.faults, h.faults, List.drop_drop, size_add]
  sequences := by rw [h'.sequences, h.sequences, sequences.draw_draw]

/-- **A sum of demands is granted** where the second is by what the first
leaves. -/
theorem grants_add (h : After sequences s t d) :
    Grants sequences s (d + d') ↔ Grants sequences s d ∧ Grants sequences t d' := by
  have hlast : ∀ k, (sequences.get t.sequences k).last =
      (sequences.get s.sequences k).last + d k := by
    intro k
    rw [h.sequences, sequences.get_draw]
  constructor
  · intro hg
    refine ⟨⟨fun k hk => hg.unrefused k ?_, fun k => ?_⟩, fun k hk => ?_, fun k => ?_⟩
    · rw [size_add]
      omega
    · have hk := hg.keys k
      rw [Pi.add_apply] at hk
      omega
    · rw [h.faults, List.getElem?_drop]
      refine hg.unrefused _ ?_
      rw [size_add]
      omega
    · have hk := hg.keys k
      rw [Pi.add_apply] at hk
      rw [hlast]
      omega
  · rintro ⟨hd, hd'⟩
    refine ⟨fun k hk => ?_, fun k => ?_⟩
    · by_cases hlt : k < size d
      · exact hd.unrefused k hlt
      · have hk' := hd'.unrefused (k - size d) (by rw [size_add] at hk; omega)
        rw [h.faults, List.getElem?_drop] at hk'
        rwa [Nat.add_sub_cancel' (by omega)] at hk'
    · have hk := hd.keys k
      have hk' := hd'.keys k
      rw [hlast] at hk'
      rw [Pi.add_apply]
      omega

/-! ## The cost of a program -/

/-- **The cost of a program**, on tables with this property: it returns
exactly where its demand is granted and its rows are admitted, and then
leaves the rest. -/
structure Costs (sequences : Sequences ς κ) (J : τ → Prop) (x : Sql τ ς ε α) (d : κ → ℕ)
    (C : Prop) : Prop where
  returns : ∀ s, J s.tables → ((∃ a t, x s = .ok a t) ↔ Grants sequences s d ∧ C)
  leaves : ∀ s a t, J s.tables → x s = .ok a t → After sequences s t d ∧ J t.tables

variable {J : τ → Prop} {x : Sql τ ς ε α} {f : α → Sql τ ς ε β} {a : α} {C C' : Prop}

theorem costs_pure : Costs sequences J (pure a : Sql τ ς ε α) 0 True where
  returns s _ := iff_of_true ⟨a, s, rfl⟩ ⟨grants_zero, trivial⟩
  leaves s a' t hJ h := by
    obtain ⟨-, rfl⟩ := pure_eq_ok.1 h
    exact ⟨After.refl, hJ⟩

/-- **The costs of what is run one after the other add up.** -/
theorem costs_bind (hx : Costs sequences J x d C) (hf : ∀ a, Costs sequences J (f a) d' C') :
    Costs sequences J (x >>= f) (d + d') (C ∧ C') where
  returns s hJ := by
    constructor
    · rintro ⟨b, t', hrun⟩
      obtain ⟨a, t, hfirst, hrest⟩ := bind_eq_ok.1 hrun
      obtain ⟨hafter, hJ'⟩ := hx.leaves s a t hJ hfirst
      obtain ⟨hd, hC⟩ := (hx.returns s hJ).1 ⟨a, t, hfirst⟩
      obtain ⟨hd', hC'⟩ := ((hf a).returns t hJ').1 ⟨b, t', hrest⟩
      exact ⟨(grants_add hafter).2 ⟨hd, hd'⟩, hC, hC'⟩
    · rintro ⟨hg, hC, hC'⟩
      have hd : Grants sequences s d := by
        refine ⟨fun k hk => hg.unrefused k ?_, fun k => ?_⟩
        · rw [size_add]
          omega
        · have hk := hg.keys k
          rw [Pi.add_apply] at hk
          omega
      obtain ⟨a, t, hfirst⟩ := (hx.returns s hJ).2 ⟨hd, hC⟩
      obtain ⟨hafter, hJ'⟩ := hx.leaves s a t hJ hfirst
      obtain ⟨b, t', hrest⟩ := ((hf a).returns t hJ').2 ⟨((grants_add hafter).1 hg).2, hC'⟩
      exact ⟨b, t', bind_eq_ok.2 ⟨a, t, hfirst, hrest⟩⟩
  leaves s b t' hJ h := by
    obtain ⟨a, t, hfirst, hrest⟩ := bind_eq_ok.1 h
    obtain ⟨hafter, hJ'⟩ := hx.leaves s a t hJ hfirst
    obtain ⟨hafter', hJ''⟩ := (hf a).leaves t b t' hJ' hrest
    exact ⟨hafter.trans hafter', hJ''⟩

theorem costs_forM {γ : Type} {body : γ → Sql τ ς ε PUnit} {demand : γ → κ → ℕ}
    {Admits : γ → Prop} (h : ∀ c, Costs sequences J (body c) (demand c) (Admits c))
    (l : List γ) :
    Costs sequences J (l.forM body) (l.map demand).sum (∀ c ∈ l, Admits c) := by
  induction l with
  | nil =>
    rw [List.map_nil, List.sum_nil, eq_true (List.forall_mem_nil Admits)]
    exact costs_pure
  | cons c l ih =>
    rw [List.map_cons, List.sum_cons, List.forall_mem_cons]
    exact costs_bind (h c) fun _ => ih

/-- **One insert**: it draws one key of its sequence, and `write` admits its
row or does not. -/
theorem costs_insertSerial [DecidableEq κ] (k : κ) {sequence : ς → Sequence}
    {store : ς → Sequence → ς} {exhausted : ε} {write : ℤ → τ → Except ε (α × τ)}
    (hget : ∀ q, sequence q = sequences.get q k)
    (hstore : ∀ q, store q ⟨(sequence q).last + 1⟩ = sequences.draw q (Pi.single k 1))
    (hadmits : ∀ id t, J t → ((∃ p, write id t = .ok p) ↔ C))
    (hkeeps : ∀ id t a t', J t → write id t = .ok (a, t') → J t') :
    Costs sequences J (insertSerial sequence store exhausted write) (Pi.single k 1) C where
  returns s hJ := by
    have hgrants : Grants sequences s (Pi.single k 1) ↔
        s.faults.head?.join = none ∧ (sequence s.sequences).last < Sequence.maxValue := by
      rw [hget, List.head?_eq_getElem?]
      constructor
      · intro hg
        refine ⟨hg.unrefused 0 (by rw [size_single]; omega), ?_⟩
        have hk := hg.keys k
        rw [Pi.single_eq_same] at hk
        omega
      · rintro ⟨hfault, hlt⟩
        refine ⟨fun j hj => ?_, fun j => ?_⟩
        · rw [size_single] at hj
          rw [show j = 0 by omega]
          exact hfault
        · by_cases hjk : j = k
          · rw [hjk, Pi.single_eq_same]
            omega
          · exact Or.inl (Pi.single_eq_of_ne hjk 1)
    rw [hgrants, insertSerial_returns_iff, hadmits _ _ hJ, and_assoc]
  leaves s a t hJ h := by
    obtain ⟨-, hwrite, hsequences⟩ := insertSerial_eq_ok h
    refine ⟨⟨?_, hsequences.trans (hstore _)⟩, hkeeps _ _ _ _ hJ hwrite⟩
    rw [size_single, List.drop_one, faults_of_statement_ok h]

end Sql

end Dreamscroll
