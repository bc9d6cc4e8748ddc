import Mathlib.Data.List.Basic
import Mathlib.Data.Int.Order.Basic
/-!
# Paging by a key

The rows of a table are read in the order of their keys, one page at a time:
a page is what comes after the last key seen, and the reading goes on for as
long as pages are full. `drain` is a reader with a budget, which shortens its
last request to what is left of it.
-/

namespace Dreamscroll

namespace Keyset

variable {α : Type} (key : α → ℤ)

/-- The first rows after the cursor. -/
def page (rows : List α) (after : ℤ) (limit : ℕ) : List α :=
  (rows.filter fun r => after < key r).take limit

/-- The cursor a page ends with, absent where the page is not full. -/
def nextAfter (page : List α) (limit : ℕ) : Option ℤ :=
  if page.length = limit then page.getLast?.map key else none

/-- The length of the next request of a reader that has `total` rows. -/
def nextLimit (size : ℕ) (max : Option ℕ) (total : ℕ) : ℕ :=
  min size ((max.map fun max => max - total).getD size)

/-- What is read in at most `fuel` requests, `none` where these do not end
it. -/
def drain (rows : List α) (size : ℕ) (max : Option ℕ) : ℕ → ℤ → List α → Option (List α)
  | 0, _, _ => none
  | fuel + 1, after, acc =>
    let limit := nextLimit size max acc.length
    if limit = 0 then some acc
    else
      let got := page key rows after limit
      match nextAfter key got limit with
      | some next => drain rows size max fuel next (acc ++ got)
      | none => some (acc ++ got)

variable {key} {rows seen rest acc : List α} {after next : ℤ} {size limit fuel : ℕ}
  {max : Option ℕ}

/-! ## One page -/

/-- The cursor stands between what was seen and the rest. -/
structure Split (key : α → ℤ) (rows : List α) (after : ℤ) (seen rest : List α) : Prop where
  append : rows = seen ++ rest
  before : ∀ r ∈ seen, key r ≤ after
  behind : ∀ r ∈ rest, after < key r

/-- A page is the beginning of the rest. -/
theorem Split.page_eq (h : Split key rows after seen rest) :
    page key rows after limit = rest.take limit := by
  have hseen : seen.filter (fun r => after < key r) = [] := by
    refine List.filter_eq_nil_iff.2 fun r hr => ?_
    have hle := h.before r hr
    simp only [decide_eq_true_eq]
    omega
  have hrest : rest.filter (fun r => after < key r) = rest :=
    List.filter_eq_self.2 fun r hr => decide_eq_true (h.behind r hr)
  rw [page, h.append, List.filter_append, hseen, hrest, List.nil_append]

theorem mem_of_nextAfter {got : List α} (h : nextAfter key got limit = some next) :
    got.length = limit ∧ ∃ r ∈ got, key r = next := by
  unfold nextAfter at h
  split_ifs at h with hlen
  obtain ⟨r, hr, hkey⟩ := Option.map_eq_some_iff.1 h
  exact ⟨hlen, r, List.mem_of_getLast? hr, hkey⟩

/-- A page that is not full is the whole rest. -/
theorem nextAfter_of_lt (h : rest.length < limit) : nextAfter key (rest.take limit) limit = none := by
  rw [nextAfter, if_neg]
  rw [List.length_take]
  omega

/-- **A full page moves the cursor behind its last row.** -/
theorem Split.full_page (h : Split key rows after seen rest)
    (hsorted : rows.Pairwise fun a b => key a < key b) (hpos : 0 < limit)
    (hlimit : limit ≤ rest.length) :
    ∃ next, nextAfter key (rest.take limit) limit = some next ∧
      Split key rows next (seen ++ rest.take limit) (rest.drop limit) := by
  have hlen : (rest.take limit).length = limit := by
    rw [List.length_take]
    omega
  have hne : rest.take limit ≠ [] := by
    intro hnil
    rw [hnil] at hlen
    simp only [List.length_nil] at hlen
    omega
  have hsplit : rest.take limit = (rest.take limit).dropLast ++ [(rest.take limit).getLast hne] :=
    (List.dropLast_append_getLast hne).symm
  have hmem : (rest.take limit).getLast hne ∈ rest.take limit := List.getLast_mem hne
  have hrest : rest.Pairwise fun a b => key a < key b := by
    rw [h.append] at hsorted
    exact (List.pairwise_append.1 hsorted).2.1
  have hparts : (rest.take limit ++ rest.drop limit).Pairwise fun a b => key a < key b := by
    rwa [List.take_append_drop]
  refine ⟨key ((rest.take limit).getLast hne), ?_, ?_, ?_, ?_⟩
  · rw [nextAfter, if_pos hlen, List.getLast?_eq_some_getLast hne, Option.map_some]
  · rw [List.append_assoc, List.take_append_drop, h.append]
  · intro r hr
    rcases List.mem_append.1 hr with hr | hr
    · have hle := h.before r hr
      have hlt := h.behind _ (List.mem_of_mem_take hmem)
      omega
    · have htake := (List.pairwise_append.1 hparts).1
      rw [hsplit] at htake hr
      rcases List.mem_append.1 hr with hr | hr
      · exact le_of_lt ((List.pairwise_append.1 htake).2.2 r hr _ List.mem_cons_self)
      · rw [List.mem_singleton.1 hr]
  · intro r hr
    exact (List.pairwise_append.1 hparts).2.2 _ hmem r hr

/-! ## All pages -/

/-- What the budget leaves of the rest. -/
def withinBudget (max : Option ℕ) (total : ℕ) (rest : List α) : List α :=
  rest.take ((max.map fun max => max - total).getD rest.length)

theorem withinBudget_of_nextLimit_eq_zero (hsize : 0 < size)
    (h : nextLimit size max acc.length = 0) : withinBudget max acc.length rest = [] := by
  unfold nextLimit at h
  unfold withinBudget
  cases max with
  | none =>
    simp only [Option.map_none, Option.getD_none] at h
    omega
  | some max =>
    simp only [Option.map_some, Option.getD_some] at h ⊢
    rw [show max - acc.length = 0 by omega, List.take_zero]

theorem withinBudget_of_lt (h : rest.length < nextLimit size max acc.length) :
    withinBudget max acc.length rest = rest := by
  unfold nextLimit at h
  unfold withinBudget
  cases max with
  | none => exact List.take_length
  | some max =>
    simp only [Option.map_some, Option.getD_some] at h ⊢
    exact List.take_of_length_le (by omega)

/-- The budget over a page and what follows it. -/
theorem withinBudget_page (hlimit : limit = nextLimit size max acc.length)
    (hle : limit ≤ rest.length) :
    withinBudget max acc.length rest = rest.take limit ++
      withinBudget max (acc ++ rest.take limit).length (rest.drop limit) := by
  unfold nextLimit at hlimit
  unfold withinBudget
  rw [List.length_append, List.length_take, Nat.min_eq_left hle]
  cases max with
  | none =>
    rw [Option.map_none, Option.getD_none, Option.map_none, Option.getD_none, List.take_length,
      List.take_length, List.take_append_drop]
  | some max =>
    simp only [Option.map_some, Option.getD_some] at hlimit ⊢
    rw [show max - acc.length = limit + (max - (acc.length + limit)) by omega, List.take_add]

/-- **A reader gets the rows its budget allows, in order and each once.** It
needs at most one request for each row and one more. -/
theorem drain_eq (hsorted : rows.Pairwise fun a b => key a < key b) (hsize : 0 < size)
    (h : Split key rows after seen rest) (hfuel : rest.length < fuel) :
    drain key rows size max fuel after acc = some (acc ++ withinBudget max acc.length rest) := by
  induction fuel generalizing after seen rest acc with
  | zero => omega
  | succ fuel ih =>
    rw [drain, h.page_eq]
    simp only
    by_cases hzero : nextLimit size max acc.length = 0
    · rw [if_pos hzero, withinBudget_of_nextLimit_eq_zero hsize hzero, List.append_nil]
    · rw [if_neg hzero]
      have hpos : 0 < nextLimit size max acc.length := Nat.pos_of_ne_zero hzero
      by_cases hlt : rest.length < nextLimit size max acc.length
      · rw [nextAfter_of_lt hlt, withinBudget_of_lt hlt, List.take_of_length_le (Nat.le_of_lt hlt)]
      · have hle : nextLimit size max acc.length ≤ rest.length := Nat.le_of_not_lt hlt
        obtain ⟨next, hnext, hsplit⟩ := h.full_page hsorted hpos hle
        rw [hnext]
        simp only
        rw [ih hsplit (by rw [List.length_drop]; omega), withinBudget_page rfl hle,
          List.append_assoc]

end Keyset

end Dreamscroll
