import Dreamscroll.Api.ApiError
import Dreamscroll.Task.Status
import Dreamscroll.Task.TaskDef
import Mathlib.Tactic.Common
/-!
# The `task_runs` table

One row of the table, and the three unique keys the database enforces on
an insert. The table itself is the list of its rows, oldest first: rows
are appended and updated in place, never deleted.
-/

namespace Dreamscroll

/-- Microseconds since the epoch, the resolution of a Postgres timestamp. -/
abbrev Timestamp := ℤ

/-- A row of `task_runs`, less its serial primary key. The counters are `i32`
in the source and count on here: what happens after `2^31` runs of a task,
or attempts of a run, is left out. -/
structure TaskRunModel where
  logicalId : String
  runId : String
  /-- 1-based ordinal among runs of the same logical task. -/
  runNumber : ℕ
  /-- Backfill correlation; null for ordinary submissions. -/
  backfillId : Option String
  taskType : String
  entityOwnerId : ℤ
  entityType : String
  entityId : ℤ
  taskPayload : Option Json
  /-- Integer discriminant of `TaskRunStatus`. -/
  statusCode : ℤ
  attempts : ℕ
  createdAt : Timestamp
  /-- When the most recent attempt entered `InProgress`. -/
  processingStartedAt : Option Timestamp
  lastErrorCode : Option ℤ
  lastErrorMessage : Option String
  lastErrorDurationMs : Option ℤ
  successDurationMs : Option ℤ
  updatedAt : Timestamp

/-- **The identity columns**: what a row says about which work it is. -/
structure RunIdentity where
  logicalId : String
  runId : String
  runNumber : ℕ
  backfillId : Option String
  taskType : String
  entityOwnerId : ℤ
  entityType : String
  entityId : ℤ
  taskPayload : Option Json

namespace TaskRunModel

/-- The columns no write changes. -/
def identity (row : TaskRunModel) : RunIdentity where
  logicalId := row.logicalId
  runId := row.runId
  runNumber := row.runNumber
  backfillId := row.backfillId
  taskType := row.taskType
  entityOwnerId := row.entityOwnerId
  entityType := row.entityType
  entityId := row.entityId
  taskPayload := row.taskPayload

/-- The row holds this status. -/
def HasStatus (row : TaskRunModel) (st : TaskRunStatus) : Prop := row.statusCode = st.asI32

instance (row : TaskRunModel) (st : TaskRunStatus) : Decidable (row.HasStatus st) :=
  inferInstanceAs (Decidable (_ = _))

/-- The row's run is in flight, as `decide_next_run` reads it: an unknown
status integer is not. -/
def inFlight (row : TaskRunModel) : Bool :=
  match TaskRunStatus.fromI32 row.statusCode with
  | .ok status => status.isInFlight
  | .error _ => false

theorem inFlight_eq_of_hasStatus {row : TaskRunModel} {st : TaskRunStatus}
    (h : row.HasStatus st) : row.inFlight = st.isInFlight := by
  rw [inFlight, h, TaskRunStatus.fromI32_asI32]

end TaskRunModel

/-! ## The unique keys -/

/-- `unique_key = "task_run"` of the model. -/
def taskRunKey : String := "idx-task_runs-task_run"

/-- `idx-task_runs-backfill_task`, whose nulls are distinct. -/
def backfillTaskKey : String := "idx-task_runs-backfill_task"

/-- The unique column `run_id`. -/
def runIdKey : String := "task_runs_run_id_key"

/-- The unique keys an insert of `row` would violate. -/
def violatedKeys (rows : List TaskRunModel) (row : TaskRunModel) : List String :=
  (if ∃ r ∈ rows, r.logicalId = row.logicalId ∧ r.runNumber = row.runNumber
    then [taskRunKey] else []) ++
  (if ∃ r ∈ rows, r.backfillId = row.backfillId ∧ r.logicalId = row.logicalId ∧
      row.backfillId.isSome then [backfillTaskKey] else []) ++
  (if ∃ r ∈ rows, r.runId = row.runId then [runIdKey] else [])

variable {rows : List TaskRunModel} {row r : TaskRunModel}

theorem violatedKeys_eq_nil :
    violatedKeys rows row = [] ↔ ∀ r ∈ rows,
      ¬ (r.logicalId = row.logicalId ∧ r.runNumber = row.runNumber) ∧
      ¬ (r.backfillId = row.backfillId ∧ r.logicalId = row.logicalId ∧ row.backfillId.isSome) ∧
      r.runId ≠ row.runId := by
  simp only [violatedKeys, List.append_eq_nil_iff, ite_eq_right_iff, List.cons_ne_nil, imp_false,
    not_exists, not_and]
  constructor
  · rintro ⟨⟨h₁, h₂⟩, h₃⟩ r hr
    exact ⟨h₁ r hr, h₂ r hr, h₃ r hr⟩
  · intro h
    exact ⟨⟨fun r hr => (h r hr).1, fun r hr => (h r hr).2.1⟩, fun r hr => (h r hr).2.2⟩

theorem mem_violatedKeys_taskRunKey (h : taskRunKey ∈ violatedKeys rows row) :
    ∃ r ∈ rows, r.logicalId = row.logicalId ∧ r.runNumber = row.runNumber := by
  by_contra hn
  rw [violatedKeys, if_neg hn] at h
  simp only [List.nil_append, List.mem_append, List.mem_ite_nil_right, List.mem_singleton] at h
  rcases h with ⟨-, h⟩ | ⟨-, h⟩ <;> exact absurd h (by decide)

theorem mem_violatedKeys_backfillTaskKey (h : backfillTaskKey ∈ violatedKeys rows row) :
    ∃ r ∈ rows, r.backfillId = row.backfillId ∧ r.logicalId = row.logicalId ∧
      row.backfillId.isSome := by
  by_contra hn
  rw [violatedKeys, if_neg hn] at h
  simp only [List.append_nil, List.mem_append, List.mem_ite_nil_right, List.mem_singleton] at h
  rcases h with ⟨-, h⟩ | ⟨-, h⟩ <;> exact absurd h (by decide)

end Dreamscroll
