import Dreamscroll.Common.Chronology
import Dreamscroll.Common.Procedure
/-!
# Calls that overlap

The history of a procedure's calls says when each was invoked and when it
answered. A call precedes another if it had answered before the other was
invoked, and two calls overlap if neither precedes the other.

A run invokes no call twice, so what a state says of two calls stays
(`precedes_iff_of_run`): a call that is under way precedes none of those
invoked so far, and one that has answered precedes all that are invoked
later.
-/

namespace Dreamscroll

/-- When a call begins, and when it ends. -/
inductive Moment
  | invoked (c : ℕ)
  | answered (c : ℕ)
  deriving DecidableEq, Repr

/-- An item of the history, without what was asked and answered. -/
def HistoryItem.moment {ω ρ : Type*} : HistoryItem ω ρ Empty → Moment
  | .invoke c _ => .invoked c
  | .respond c _ => .answered c

namespace Procedure

variable {σ ω ι κ ρ : Type*} {p : Procedure σ ω ι κ ρ} {s s' : State σ ω κ ρ}
variable {e : Event ω ι} {es : List (Event ω ι)} {i j c : ℕ} {op : ω} {pc : κ} {r : ρ}

namespace State

/-- The begins and ends of the calls so far. -/
def moments (s : State σ ω κ ρ) : List Moment := s.history.map HistoryItem.moment

/-- **The first call had answered before the second was invoked.** -/
def Precedes (s : State σ ω κ ρ) (i j : ℕ) : Prop :=
  Before s.moments (.answered i) (.invoked j)

instance (s : State σ ω κ ρ) (i j : ℕ) : Decidable (s.Precedes i j) :=
  inferInstanceAs (Decidable (Before ..))

/-- **The calls were under way at the same time.** -/
def Overlap (s : State σ ω κ ρ) (i j : ℕ) : Prop := ¬ s.Precedes i j ∧ ¬ s.Precedes j i

instance (s : State σ ω κ ρ) (i j : ℕ) : Decidable (s.Overlap i j) :=
  inferInstanceAs (Decidable (_ ∧ _))

@[simp] theorem moments_start {x : σ} : (start x : State σ ω κ ρ).moments = [] := rfl

/-- An invocation is the next moment. -/
theorem moments_invoked : (s.invoked op pc).moments = s.moments ++ [.invoked s.calls.length] := by
  unfold moments invoked
  rw [List.map_append]
  rfl

/-- A step is a moment when it answers. -/
theorem moments_advanced {result : σ × (κ ⊕ ρ)} :
    (s.advanced c op result).moments =
      s.moments ++ result.2.elim (fun _ => []) fun _ => [.answered c] := by
  unfold moments advanced
  rw [List.map_append]
  cases result.2 <;> rfl

end State

/-! ## Which calls have answered -/

/-- **The moments tell who has answered.** -/
def Timed (s : State σ ω κ ρ) : Prop :=
  ∀ i, .answered i ∈ s.moments ↔ ∃ op r, s.calls[i]? = some ⟨op, .inr r⟩

/-- No moment at the start. -/
theorem timed_start {x : σ} : Timed (State.start x : State σ ω κ ρ) := by
  intro i
  rw [State.moments_start]
  simp [State.start]

/-- One event keeps the moments of a call in order: invoked, and answered
after that. -/
theorem Timed.step (h : Timed s) (hstep : p.system.step s e = some s') : Timed s' := by
  intro i
  rcases step_cases hstep with ⟨op, rfl, rfl⟩ | ⟨c, input, op, pc, rfl, hc, rfl⟩
  · rw [State.moments_invoked, List.mem_append, List.mem_singleton, h i]
    constructor
    · rintro (⟨op', r, hi⟩ | hi)
      · exact ⟨op', r, getElem?_concat_of_some hi⟩
      · cases hi
    · rintro ⟨op', r, hi⟩
      rcases getElem?_concat_eq_some hi with ⟨-, heq⟩ | hi
      · cases heq
      · exact Or.inl ⟨op', r, hi⟩
  · rw [State.moments_advanced, List.mem_append, h i]
    have hnew : (s.advanced c op (p.next op input s.shared pc)).calls =
      s.calls.set c ⟨op, (p.next op input s.shared pc).2⟩ := rfl
    rw [hnew]
    by_cases hi : i = c
    · -- the call itself was under way, and has answered if the statement did
      subst hi
      rw [getElem?_set_of_some hc, hc]
      cases (p.next op input s.shared pc).2 with
      | inl pc' => simp
      | inr r => simp
    · rw [getElem?_set_of_ne hi]
      refine or_iff_left ?_
      cases (p.next op input s.shared pc).2 with
      | inl pc' => simp
      | inr r => simp [hi]

/-- The moments are in order along every run. -/
theorem timed_of_run {x : σ} (h : p.system.run (State.start x) es = some s) : Timed s :=
  System.run_inv (fun _ _ _ hs hstep => hs.step hstep) timed_start h

/-- A call under way precedes none. -/
theorem Timed.not_precedes (h : Timed s) (hc : s.calls[i]? = some ⟨op, .inl pc⟩) :
    ¬ s.Precedes i j := by
  intro hbefore
  obtain ⟨op', r, hi⟩ := (h i).1 hbefore.mem_left
  rw [hc] at hi
  cases hi

/-! ## What a run adds -/

/-- **A run adds moments**, and among them the beginnings of the calls it
invokes. -/
structure Adds (s s' : State σ ω κ ρ) : Prop where
  length_le : s.calls.length ≤ s'.calls.length
  moments : ∃ rest, s'.moments = s.moments ++ rest ∧
    ∀ j, .invoked j ∈ rest ↔ s.calls.length ≤ j ∧ j < s'.calls.length

/-- A state adds nothing to itself. -/
theorem adds_refl : Adds s s := ⟨Nat.le_refl _, [], (List.append_nil _).symm, fun j => by simp⟩

/-- One event only adds calls and moments. -/
theorem Adds.step {t : State σ ω κ ρ} (h : Adds s t) (hstep : p.system.step t e = some s') :
    Adds s s' := by
  obtain ⟨hle, rest, hrest, hin⟩ := h
  rcases step_cases hstep with ⟨op, rfl, rfl⟩ | ⟨c, input, op, pc, rfl, hc, rfl⟩
  · have hlen : (t.invoked op (p.start op)).calls.length = t.calls.length + 1 :=
      List.length_append
    refine ⟨by omega, rest ++ [.invoked t.calls.length], ?_, fun j => ?_⟩
    · rw [State.moments_invoked, hrest, List.append_assoc]
    · rw [List.mem_append, List.mem_singleton, hin j, hlen, Moment.invoked.injEq]
      omega
  · have hlen : (t.advanced c op (p.next op input t.shared pc)).calls.length = t.calls.length :=
      List.length_set
    refine ⟨by omega, rest ++ (p.next op input t.shared pc).2.elim (fun _ => [])
      fun _ => [.answered c], ?_, fun j => ?_⟩
    · rw [State.moments_advanced, hrest, List.append_assoc]
    · rw [List.mem_append, hin j, hlen]
      refine or_iff_left ?_
      cases (p.next op input t.shared pc).2 <;> simp

/-- A run only adds calls and moments. -/
theorem adds_of_run (h : p.system.run s es = some s') : Adds s s' :=
  System.run_inv (fun _ _ _ hs hstep => hs.step hstep) adds_refl h

/-- **What a state says of a call that was invoked, stays.** -/
theorem precedes_iff_of_run (h : p.system.run s es = some s') (hj : j < s.calls.length) :
    s'.Precedes i j ↔ s.Precedes i j := by
  obtain ⟨-, rest, hrest, hin⟩ := adds_of_run h
  have hnot : .invoked j ∉ rest := fun hmem => by
    have := ((hin j).1 hmem).1
    omega
  unfold State.Precedes
  rw [hrest, before_append]
  constructor
  · rintro (hold | ⟨-, hnew⟩ | hnew)
    · exact hold
    · exact absurd hnew hnot
    · exact absurd hnew.mem_right hnot
  · exact Or.inl

/-- Calls that were once under way together overlap. -/
theorem Timed.overlap_of_run {op' : ω} {pc' : κ} (ht : Timed s)
    (hi : s.calls[i]? = some ⟨op, .inl pc⟩) (hj : s.calls[j]? = some ⟨op', .inl pc'⟩)
    (h : p.system.run s es = some s') : s'.Overlap i j := by
  have hilt : i < s.calls.length := (List.getElem?_eq_some_iff.1 hi).1
  have hjlt : j < s.calls.length := (List.getElem?_eq_some_iff.1 hj).1
  constructor
  · rw [precedes_iff_of_run h hjlt]
    exact ht.not_precedes hi
  · rw [precedes_iff_of_run h hilt]
    exact ht.not_precedes hj

/-- **A call that has answered precedes all that are invoked later.** -/
theorem Timed.precedes_of_run (ht : Timed s) (hi : s.calls[i]? = some ⟨op, .inr r⟩)
    (h : p.system.run s es = some s') (hj : s.calls.length ≤ j) (hj' : j < s'.calls.length) :
    s'.Precedes i j := by
  obtain ⟨-, rest, hrest, hin⟩ := adds_of_run h
  unfold State.Precedes
  rw [hrest]
  exact before_of_mem_append ((ht i).2 ⟨op, r, hi⟩) ((hin j).2 ⟨hj, hj'⟩)

/-- A call goes on under what it was asked, and ends once. -/
theorem call_of_run {stands : κ ⊕ ρ} (h : p.system.run s es = some s')
    (hc : s.calls[c]? = some ⟨op, stands⟩) :
    ∃ stands', s'.calls[c]? = some ⟨op, stands'⟩ ∧ ∀ r, stands = .inr r → stands' = .inr r := by
  refine System.run_inv (I := fun t : State σ ω κ ρ => ∃ stands', t.calls[c]? = some ⟨op, stands'⟩ ∧
    ∀ r, stands = .inr r → stands' = .inr r) ?_ ⟨stands, hc, fun _ => id⟩ h
  rintro t e t' ⟨stands', hcall, hend⟩ hstep
  rcases step_cases hstep with ⟨op', rfl, rfl⟩ | ⟨d, input, op', pc, rfl, hd, rfl⟩
  · exact ⟨stands', getElem?_concat_of_some hcall, hend⟩
  · by_cases hcd : c = d
    · subst hcd
      rw [hd] at hcall
      cases hcall
      exact ⟨_, getElem?_set_of_some hd, fun r hr => by cases hend r hr⟩
    · exact ⟨stands', (getElem?_set_of_ne hcd).trans hcall, hend⟩

end Procedure

end Dreamscroll
