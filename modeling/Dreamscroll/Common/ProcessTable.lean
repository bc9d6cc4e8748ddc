import Mathlib.Algebra.GroupWithZero.Nat
import Mathlib.Data.List.Basic
import Mathlib.Data.List.Perm.Basic
import Mathlib.Tactic.Common
/-!
# Tables of processes

The processes of a system are a list, addressed by position: a new process
is appended, and a step replaces one entry. These are the two lookups such
an update asks for, and what an update does to a list of values read off
the entries.
-/

namespace Dreamscroll

variable {α β : Type*} {l : List α} {i j : ℕ} {x y z : α} {f : α → Option β}

/-- After one entry is replaced, an entry is the new one or an old one. -/
theorem getElem?_set_eq_some (h : (l.set i y)[j]? = some x) :
    j = i ∧ x = y ∨ j ≠ i ∧ l[j]? = some x := by
  rw [List.getElem?_set] at h
  split_ifs at h with hij hlt
  · exact Or.inl ⟨hij.symm, (Option.some.inj h).symm⟩
  · exact Or.inr ⟨fun h' => hij h'.symm, h⟩

theorem getElem?_set_of_some (h : l[i]? = some x) : (l.set i y)[i]? = some y := by
  rw [List.getElem?_set, if_pos rfl, if_pos (List.getElem?_eq_some_iff.1 h).1]

theorem getElem?_set_of_ne (h : j ≠ i) : (l.set i y)[j]? = l[j]? := by
  rw [List.getElem?_set, if_neg fun h' => h h'.symm]

/-- After one entry is appended, an entry is the new one or an old one. -/
theorem getElem?_concat_eq_some (h : (l ++ [y])[j]? = some x) :
    j = l.length ∧ x = y ∨ l[j]? = some x := by
  rcases Nat.lt_trichotomy j l.length with hj | rfl | hj
  · rw [List.getElem?_append_left hj] at h
    exact Or.inr h
  · rw [List.getElem?_concat_length] at h
    exact Or.inl ⟨rfl, (Option.some.inj h).symm⟩
  · rw [List.getElem?_eq_none (by simp; omega)] at h
    cases h

/-- And the old entries are where they were. -/
theorem getElem?_concat_of_some (h : l[j]? = some x) : (l ++ [y])[j]? = some x := by
  rw [List.getElem?_append_left (List.getElem?_eq_some_iff.1 h).1, h]

theorem mem_of_getElem? (h : l[i]? = some x) : x ∈ l := List.mem_of_getElem? h

/-- An entry of a list with one entry replaced. -/
theorem mem_set_of_some (h : x ∈ l.set i y) : x = y ∨ ∃ j, j ≠ i ∧ l[j]? = some x := by
  obtain ⟨j, hj⟩ := List.mem_iff_getElem?.1 h
  rcases getElem?_set_eq_some hj with ⟨-, rfl⟩ | ⟨hne, hx⟩
  · exact Or.inl rfl
  · exact Or.inr ⟨j, hne, hx⟩

theorem set_of_getElem? (h : l[i]? = some x) : l.set i x = l := by
  obtain ⟨hlt, rfl⟩ := List.getElem?_eq_some_iff.1 h
  exact List.set_getElem_self hlt

/-- An entry that is replaced makes room for the new one. -/
theorem cons_set_perm (h : l[i]? = some x) : (x :: l.set i y).Perm (y :: l) := by
  obtain ⟨hlt, rfl⟩ := List.getElem?_eq_some_iff.1 h
  have hset := (List.set_perm_cons_eraseIdx hlt y).cons l[i]
  have herase := (List.getElem_cons_eraseIdx_perm hlt).cons y
  exact hset.trans ((List.Perm.swap ..).trans herase)

theorem cons_eraseIdx_perm (h : l[i]? = some x) : (x :: l.eraseIdx i).Perm l := by
  obtain ⟨hlt, rfl⟩ := List.getElem?_eq_some_iff.1 h
  exact List.getElem_cons_eraseIdx_perm hlt

theorem sum_map_set (g : α → ℕ) (h : l[i]? = some x) :
    g x + ((l.set i y).map g).sum = g y + (l.map g).sum := by
  rw [← List.sum_cons, ← List.sum_cons, ← List.map_cons, ← List.map_cons]
  exact ((cons_set_perm h).map g).sum_nat

theorem sum_map_eraseIdx (g : α → ℕ) (h : l[i]? = some x) :
    g x + ((l.eraseIdx i).map g).sum = (l.map g).sum := by
  rw [← List.sum_cons, ← List.map_cons]
  exact ((cons_eraseIdx_perm h).map g).sum_nat

/-! ## Values read off the entries -/

theorem filterMap_cons_toList : (x :: l).filterMap f = (f x).toList ++ l.filterMap f := by
  rw [List.filterMap_cons]
  cases f x <;> rfl

/-- The reading of an entry that is replaced makes room for the new one. -/
theorem filterMap_set_toList_perm (h : l[i]? = some x) :
    ((f x).toList ++ (l.set i y).filterMap f).Perm ((f y).toList ++ l.filterMap f) := by
  rw [← filterMap_cons_toList, ← filterMap_cons_toList]
  exact (cons_set_perm h).filterMap f

theorem filterMap_eraseIdx_toList_perm (h : l[i]? = some x) :
    ((f x).toList ++ (l.eraseIdx i).filterMap f).Perm (l.filterMap f) := by
  rw [← filterMap_cons_toList]
  exact (cons_eraseIdx_perm h).filterMap f

/-- Replacing an entry by one that reads the same changes no reading. -/
theorem filterMap_set_of_eq (h : l[i]? = some x) (hf : f y = f x) :
    (l.set i y).filterMap f = l.filterMap f := by
  induction l generalizing i with
  | nil => rfl
  | cons a l ih =>
    cases i with
    | zero =>
      cases h
      rw [List.set_cons_zero, List.filterMap_cons, List.filterMap_cons, hf]
    | succ i =>
      rw [List.set_cons_succ, List.filterMap_cons, List.filterMap_cons, ih h]

/-- Replacing an entry that reads nothing by one that reads a value adds
that value. -/
theorem filterMap_set_perm {b : β} (h : l[i]? = some x) (hx : f x = none) (hy : f y = some b) :
    ((l.set i y).filterMap f).Perm (b :: l.filterMap f) := by
  induction l generalizing i with
  | nil => cases h
  | cons a l ih =>
    cases i with
    | zero =>
      cases h
      rw [List.set_cons_zero, List.filterMap_cons_some hy, List.filterMap_cons_none hx]
    | succ i =>
      rw [List.set_cons_succ]
      cases ha : f a with
      | none => rw [List.filterMap_cons_none ha, List.filterMap_cons_none ha]; exact ih h
      | some v =>
        rw [List.filterMap_cons_some ha, List.filterMap_cons_some ha]
        exact ((ih h).cons v).trans (List.Perm.swap b v _)

/-- Replacing an entry that reads a value replaces that value in place. -/
theorem filterMap_set_split {a b : β} (h : l[i]? = some x) (hx : f x = some a)
    (hy : f y = some b) :
    ∃ l₁ l₂, l.filterMap f = l₁ ++ a :: l₂ ∧ (l.set i y).filterMap f = l₁ ++ b :: l₂ := by
  induction l generalizing i with
  | nil => cases h
  | cons c l ih =>
    cases i with
    | zero =>
      cases h
      exact ⟨[], l.filterMap f, List.filterMap_cons_some hx, List.filterMap_cons_some hy⟩
    | succ i =>
      obtain ⟨l₁, l₂, h₁, h₂⟩ := ih h
      rw [List.set_cons_succ]
      cases hc : f c with
      | none =>
        exact ⟨l₁, l₂, by rw [List.filterMap_cons_none hc, h₁],
          by rw [List.filterMap_cons_none hc, h₂]⟩
      | some v =>
        exact ⟨v :: l₁, l₂, by rw [List.filterMap_cons_some hc, h₁, List.cons_append],
          by rw [List.filterMap_cons_some hc, h₂, List.cons_append]⟩

/-- A reading that says less is a sublist. -/
theorem filterMap_sublist {g : α → Option β} (h : ∀ x ∈ l, f x = none ∨ f x = g x) :
    (l.filterMap f).Sublist (l.filterMap g) := by
  induction l with
  | nil => exact List.Sublist.slnil
  | cons a l ih =>
    have ih' := ih fun x hx => h x (List.mem_cons_of_mem a hx)
    cases ha : f a with
    | none =>
      rw [List.filterMap_cons_none ha]
      cases hg : g a with
      | none => rw [List.filterMap_cons_none hg]; exact ih'
      | some b => rw [List.filterMap_cons_some hg]; exact ih'.cons b
    | some b =>
      have hg : g a = some b := by
        rcases h a List.mem_cons_self with hn | heq
        · rw [ha] at hn; cases hn
        · rw [← heq, ha]
      rw [List.filterMap_cons_some ha, List.filterMap_cons_some hg]
      exact ih'.cons_cons b

end Dreamscroll
