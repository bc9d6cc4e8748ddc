import Mathlib.Data.List.Nodup
import Mathlib.Data.List.Sort
import Mathlib.Order.Basic
/-!
# Selecting and sorting by a key

`Iterator::max_by_key` and `slice::sort_by_key`: of several maximal
elements the last one is taken, and the sort is stable.
-/

namespace Dreamscroll

variable {α : Type} (key : α → ℤ)

/-- The better of the best so far and the next element, which wins a tie. -/
def laterMax (best x : α) : α := if key x < key best then best else x

/-- `Iterator::max_by_key`. -/
def maxByKey : List α → Option α
  | [] => none
  | x :: l => some (l.foldl (laterMax key) x)

/-- `slice::sort_by_key`. -/
def sortByKey (l : List α) : List α := l.insertionSort fun a b => key a ≤ key b

variable {key} {l l' : List α} {a b x : α}

theorem laterMax_or (key : α → ℤ) (a x : α) :
    laterMax key a x = a ∨ laterMax key a x = x := by
  unfold laterMax
  split
  · exact Or.inl rfl
  · exact Or.inr rfl

theorem le_laterMax (key : α → ℤ) (a x : α) :
    key a ≤ key (laterMax key a x) ∧ key x ≤ key (laterMax key a x) := by
  unfold laterMax
  split
  · omega
  · omega

/-- The best of a list and one element more. -/
theorem foldl_laterMax :
    l.foldl (laterMax key) a ∈ a :: l ∧
      ∀ b ∈ a :: l, key b ≤ key (l.foldl (laterMax key) a) := by
  induction l generalizing a with
  | nil => simp
  | cons x l ih =>
    obtain ⟨hmem, hle⟩ := @ih (laterMax key a x)
    rw [List.foldl_cons]
    constructor
    · rcases List.mem_cons.1 hmem with heq | hl
      · rw [heq]
        rcases laterMax_or key a x with h | h <;> simp [h]
      · exact List.mem_cons_of_mem _ (List.mem_cons_of_mem _ hl)
    · intro b hb
      have hbest := hle _ List.mem_cons_self
      have hstep := le_laterMax key a x
      rcases List.mem_cons.1 hb with rfl | hb
      · omega
      · rcases List.mem_cons.1 hb with rfl | hb
        · omega
        · exact hle b (List.mem_cons_of_mem _ hb)

/-- **The maximum is an element, and no key is above its own.** -/
theorem maxByKey_eq_some (h : maxByKey key l = some a) :
    a ∈ l ∧ ∀ b ∈ l, key b ≤ key a := by
  cases l with
  | nil => cases h
  | cons x l =>
    cases h
    exact foldl_laterMax

/-- **An element above all others is the maximum**, where no two elements
share a key. -/
theorem maxByKey_eq_of_forall (hnd : (l.map key).Nodup) (ha : a ∈ l)
    (h : ∀ b ∈ l, key b ≤ key a) : maxByKey key l = some a := by
  cases l with
  | nil => cases ha
  | cons x l =>
    obtain ⟨hmem, hmax⟩ := @maxByKey_eq_some _ key (x :: l) _ rfl
    have heq := List.inj_on_of_nodup_map hnd hmem ha (le_antisymm (h _ hmem) (hmax a ha))
    rw [← heq]
    rfl

/-- **What is sorted by the key stays as it is.** -/
theorem sortByKey_eq_self (h : l.Pairwise fun a b => key a ≤ key b) : sortByKey key l = l :=
  List.Pairwise.insertionSort_eq h

end Dreamscroll
