import Dreamscroll.Task.Model
/-!
# Task-status events

The announcement a status change is published as. `fromRow` reads every
field off the row but the processing estimate, which comes from the timing
aggregate of the task type.
-/

namespace Dreamscroll

/-- Aggregate timing estimate used by task-status events. -/
structure TaskTimingEstimate where
  taskType : String
  sampleCount : ℤ
  durationMsAvg : ℤ
  durationMsP50 : ℤ
  durationMsP75 : ℤ
  durationMsP90 : ℤ
  deriving DecidableEq, Repr

/-- `MINIMUM_CLIENT_ESTIMATE_SAMPLES`. -/
def minimumClientEstimateSamples : ℤ := 5

/-- The processing estimate, when enough history makes it useful. -/
def TaskTimingEstimate.clientProcessingDurationMs (estimate : TaskTimingEstimate) : Option ℤ :=
  if minimumClientEstimateSamples ≤ estimate.sampleCount then some estimate.durationMsP50
  else none

/-- `CURRENT_SCHEMA_VERSION`. -/
def currentSchemaVersion : ℕ := 4

/-- What an event says of its run. -/
structure TaskStatusPayload where
  taskType : String
  status : TaskRunStatus
  logicalId : String
  runId : String
  runNumber : ℕ
  attempts : ℕ
  processingStartedAt : Option Timestamp
  estimatedDurationMsP50 : Option ℤ
  deriving DecidableEq, Repr

/-- The concrete announcement streamed for a task status change: the one
event kind there is, `task_status`. -/
structure TaskStatusUpdate where
  schemaVersion : ℕ
  timestamp : Timestamp
  entityType : String
  entityId : ℤ
  entityOwnerId : Option ℤ
  payload : TaskStatusPayload
  deriving DecidableEq, Repr

/-- The event of a row, `none` for an unknown status. -/
def TaskStatusUpdate.fromRow (row : TaskRunModel) (estimate : Option TaskTimingEstimate) :
    Option TaskStatusUpdate :=
  match TaskRunStatus.fromI32 row.statusCode with
  | .error _ => none
  | .ok status => some {
      schemaVersion := currentSchemaVersion
      timestamp := row.updatedAt
      entityType := row.entityType
      entityId := row.entityId
      entityOwnerId := some row.entityOwnerId
      payload := {
        taskType := row.taskType
        status := status
        logicalId := row.logicalId
        runId := row.runId
        runNumber := row.runNumber
        attempts := row.attempts
        processingStartedAt := row.processingStartedAt
        estimatedDurationMsP50 :=
          estimate.bind TaskTimingEstimate.clientProcessingDurationMs } }

/-- **An event says what its row says.** -/
theorem TaskStatusUpdate.fromRow_eq_some {row : TaskRunModel}
    {estimate : Option TaskTimingEstimate} {ev : TaskStatusUpdate}
    (h : TaskStatusUpdate.fromRow row estimate = some ev) :
    row.HasStatus ev.payload.status ∧ ev.payload.runId = row.runId ∧
      ev.payload.runNumber = row.runNumber ∧ ev.payload.logicalId = row.logicalId ∧
      ev.payload.attempts = row.attempts := by
  rw [fromRow] at h
  split at h
  · cases h
  · rename_i status hst
    cases h
    exact ⟨(TaskRunStatus.fromI32_eq_ok.1 hst).symm, rfl, rfl, rfl, rfl⟩

/-- The event is what the row is published as. -/
def Announces (row : TaskRunModel) (ev : TaskStatusUpdate) : Prop :=
  ∃ estimate, TaskStatusUpdate.fromRow row estimate = some ev

variable {row : TaskRunModel} {ev : TaskStatusUpdate}

theorem Announces.runNumber (h : Announces row ev) : ev.payload.runNumber = row.runNumber := by
  obtain ⟨estimate, h⟩ := h
  exact (TaskStatusUpdate.fromRow_eq_some h).2.2.1

theorem Announces.logicalId (h : Announces row ev) : ev.payload.logicalId = row.logicalId := by
  obtain ⟨estimate, h⟩ := h
  exact (TaskStatusUpdate.fromRow_eq_some h).2.2.2.1

theorem Announces.hasStatus (h : Announces row ev) : row.HasStatus ev.payload.status := by
  obtain ⟨estimate, h⟩ := h
  exact (TaskStatusUpdate.fromRow_eq_some h).1

theorem Announces.runId (h : Announces row ev) : ev.payload.runId = row.runId := by
  obtain ⟨estimate, h⟩ := h
  exact (TaskStatusUpdate.fromRow_eq_some h).2.1

theorem Announces.attempts (h : Announces row ev) : ev.payload.attempts = row.attempts := by
  obtain ⟨estimate, h⟩ := h
  exact (TaskStatusUpdate.fromRow_eq_some h).2.2.2.2

end Dreamscroll
