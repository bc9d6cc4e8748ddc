import Mathlib.Data.List.Basic
/-!
# The order of a log

Two entries of a log stand in an order if they are a sublist of it. A log
only grows at its end, so an order stays, and the new entry comes after all
that were there.
-/

namespace Dreamscroll

variable {α : Type*} {l l' : List α} {a b x : α}

/-- **An occurrence of `a` comes before one of `b`.** -/
def Before (l : List α) (a b : α) : Prop := [a, b].Sublist l

instance [DecidableEq α] (l : List α) (a b : α) : Decidable (Before l a b) :=
  inferInstanceAs (Decidable ([a, b].Sublist l))

theorem Before.mem_left (h : Before l a b) : a ∈ l := h.subset List.mem_cons_self

theorem Before.mem_right (h : Before l a b) : b ∈ l :=
  h.subset (List.mem_cons_of_mem _ (List.mem_singleton_self b))

theorem Before.append (h : Before l a b) : Before (l ++ l') a b :=
  h.trans (List.sublist_append_left l l')

/-- What is new comes after what was there. -/
theorem before_of_mem_append (ha : a ∈ l) (hb : b ∈ l') : Before (l ++ l') a b :=
  (List.singleton_sublist.2 ha).append (List.singleton_sublist.2 hb)

theorem before_last (h : a ∈ l) : Before (l ++ [x]) a x :=
  before_of_mem_append h (List.mem_singleton_self x)

/-- **The order of a log that grows.** -/
theorem before_append :
    Before (l ++ l') a b ↔ Before l a b ∨ a ∈ l ∧ b ∈ l' ∨ Before l' a b := by
  constructor
  · intro h
    obtain ⟨l₁, l₂, heq, h₁, h₂⟩ := List.sublist_append_iff.1 h
    rcases l₁ with _ | ⟨a', _ | ⟨b', l₁⟩⟩
    · rw [List.nil_append] at heq
      rw [← heq] at h₂
      exact Or.inr (Or.inr h₂)
    · obtain ⟨rfl, rfl⟩ := List.cons.inj heq
      exact Or.inr (Or.inl ⟨List.singleton_sublist.1 h₁, List.singleton_sublist.1 h₂⟩)
    · have hnil : l₁ ++ l₂ = [] := (List.cons.inj (List.cons.inj heq).2).2.symm
      rw [(List.append_eq_nil_iff.1 hnil).2, List.append_nil] at heq
      rw [← heq] at h₁
      exact Or.inl h₁
  · rintro (h | ⟨ha, hb⟩ | h)
    · exact h.append
    · exact before_of_mem_append ha hb
    · exact h.trans (List.sublist_append_right l l')

theorem before_append_singleton :
    Before (l ++ [x]) a b ↔ Before l a b ∨ a ∈ l ∧ b = x := by
  rw [before_append, List.mem_singleton]
  have hno : ¬ Before [x] a b := fun h => by simpa using h.length_le
  simp only [hno, or_false]

/-- **Two different entries stand in one order or the other.** -/
theorem before_or_before (ha : a ∈ l) (hb : b ∈ l) (hne : a ≠ b) : Before l a b ∨ Before l b a := by
  induction l with
  | nil => cases ha
  | cons x l ih =>
    rcases List.mem_cons.1 ha with rfl | ha'
    · rcases List.mem_cons.1 hb with rfl | hb'
      · exact absurd rfl hne
      · exact Or.inl ((List.singleton_sublist.2 hb').cons_cons _)
    · rcases List.mem_cons.1 hb with rfl | hb'
      · exact Or.inr ((List.singleton_sublist.2 ha').cons_cons _)
      · exact (ih ha' hb').imp (List.Sublist.cons x) (List.Sublist.cons x)

end Dreamscroll
