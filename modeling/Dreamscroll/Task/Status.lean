import Mathlib.Data.Int.Notation
import Mathlib.Tactic.SplitIfs
/-!
# The status of a task run

`TaskRunStatus` and its persisted discriminants. A row stores only the
integer, so the code that reads it goes through `fromI32` and has to say
what an unknown integer means; `isInFlight` is the predicate a duplicate
submission is refused by.
-/

namespace Dreamscroll

/-- Typed status values which track a run of a background task. -/
inductive TaskRunStatus
  | submissionFailed
  | queued
  | inProgress
  | errorWillRetry
  | completeSuccess
  | completeFailure
  deriving DecidableEq, Repr

namespace TaskRunStatus

/-- Stable snake-case name used on the JSON wire. -/
def asStr : TaskRunStatus → String
  | submissionFailed => "submission_failed"
  | queued => "queued"
  | inProgress => "in_progress"
  | errorWillRetry => "error_will_retry"
  | completeSuccess => "complete_success"
  | completeFailure => "complete_failure"

/-- The integer persisted in the `task_runs.status_code` column. -/
def asI32 : TaskRunStatus → ℤ
  | submissionFailed => 0
  | queued => 1
  | inProgress => 2
  | errorWillRetry => 3
  | completeSuccess => 4
  | completeFailure => 5

/-- The status stored as an integer. -/
def fromI32 (v : ℤ) : Except String TaskRunStatus :=
  if v = 0 then .ok submissionFailed
  else if v = 1 then .ok queued
  else if v = 2 then .ok inProgress
  else if v = 3 then .ok errorWillRetry
  else if v = 4 then .ok completeSuccess
  else if v = 5 then .ok completeFailure
  else .error ("unknown task status integer: " ++ toString v)

/-- True while the work is queued, running, or awaiting another retry. -/
def isInFlight : TaskRunStatus → Bool
  | queued | inProgress | errorWillRetry => true
  | submissionFailed | completeSuccess | completeFailure => false

/-- True of the statuses an attempt ends with. -/
def isOutcome : TaskRunStatus → Bool
  | errorWillRetry | completeSuccess | completeFailure => true
  | submissionFailed | queued | inProgress => false

variable {st st' : TaskRunStatus} {v : ℤ}

@[simp] theorem fromI32_asI32 (st : TaskRunStatus) : fromI32 st.asI32 = .ok st := by
  cases st <;> rfl

/-- **The codec is exact**: an integer decodes to the status that encodes
to it, and to no other. -/
theorem fromI32_eq_ok : fromI32 v = .ok st ↔ st.asI32 = v := by
  constructor
  · intro h
    simp only [fromI32] at h
    split_ifs at h with h0 h1 h2 h3 h4 h5
    all_goals cases h; simp only [asI32, *]
  · rintro rfl
    exact fromI32_asI32 st

theorem asI32_injective (h : st.asI32 = st'.asI32) : st = st' := by
  have h' := fromI32_asI32 st
  rw [h, fromI32_asI32] at h'
  exact (Except.ok.inj h').symm

@[simp] theorem asI32_inj : st.asI32 = st'.asI32 ↔ st = st' :=
  ⟨asI32_injective, fun h => h ▸ rfl⟩

end TaskRunStatus

end Dreamscroll
