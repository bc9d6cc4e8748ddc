import Dreamscroll.Task.Model
import Mathlib.Data.List.MinMax
/-!
# The run tracker

`TaskRunTracker`: the direct reads and writes of `task_runs`, each one
statement. `insertRun` is arbitrated by the unique keys, and every status
write is one `StatusWrite`, an update filtered by `run_id` that returns the
row it wrote; what `set_status`, `mark_in_progress` and `record_outcome`
add to it are the columns of `WriteExtras`.
-/

namespace Dreamscroll

variable {T : Type} [Task T]

/-! ## Inserting -/

/-- A database error, as far as `is_submission_conflict` looks at it. -/
inductive DbErr
  /-- SQLSTATE 23505, with the constraint it names. -/
  | uniqueViolation (constraint : String)
  | other (message : String)
  deriving DecidableEq, Repr

/-- Only the two submission keys arbitrate duplicate work. -/
def isSubmissionConflict : DbErr → Bool
  | .uniqueViolation constraint => constraint = taskRunKey || constraint = backfillTaskKey
  | .other _ => false

/-- The row `insert_run` writes: `Queued`, with no attempts. -/
def queuedRow (run : TaskRun T) (now : Timestamp) : TaskRunModel where
  logicalId := run.logicalId
  runId := run.runId
  runNumber := run.runNumber
  backfillId := run.backfillId
  taskType := Task.taskType run.task
  entityOwnerId := Task.entityOwnerId run.task
  entityType := Task.entityType run.task
  entityId := Task.entityId run.task
  taskPayload := some (Task.toJson run.task)
  statusCode := TaskRunStatus.queued.asI32
  attempts := 0
  createdAt := now
  processingStartedAt := none
  lastErrorCode := none
  lastErrorMessage := none
  lastErrorDurationMs := none
  successDurationMs := none
  updatedAt := now

/-- What `insert_run` answers: `Ok(true)`, `Ok(false)` or the error. -/
inductive InsertAnswer
  | inserted (row : TaskRunModel)
  | conflict
  | failed (err : DbErr)

/-- The insert statement. Where several keys are violated the database
reports one of them; `reported` says which, and a report of a key that is
not violated is no answer. -/
def insertRun (rows : List TaskRunModel) (run : TaskRun T) (now : Timestamp)
    (reported : String) : Option InsertAnswer :=
  let row := queuedRow run now
  if violatedKeys rows row = [] then some (.inserted row)
  else if reported ∈ violatedKeys rows row then
    let err := DbErr.uniqueViolation reported
    if isSubmissionConflict err then some .conflict else some (.failed err)
  else none

/-! ## Status writes -/

/-- Milliseconds of a duration in microseconds, rounded half away from zero
as `CAST(… AS BIGINT)` does. -/
def roundToMs (micros : ℤ) : ℤ :=
  if 0 ≤ micros then (micros + 500) / 1000 else -((-micros + 500) / 1000)

/-- `ATTEMPT_DURATION_MS`: null when no attempt ever started. -/
def attemptDurationMs (now : Timestamp) (row : TaskRunModel) : Option ℤ :=
  row.processingStartedAt.map fun started => roundToMs (now - started)

/-- `ERROR_MESSAGE_MAX_CHARS`. -/
def errorMessageMaxChars : ℕ := 2000

/-- The ellipsis counts toward the cap. -/
def truncateErrorMessage (message : String) : String :=
  if message.length ≤ errorMessageMaxChars then message
  else String.ofList (message.toList.take (errorMessageMaxChars - 1)) ++ "…"

/-- The columns of an error, its message cut to what the column holds. -/
def withErrorColumns (error : ApiError) (row : TaskRunModel) : TaskRunModel :=
  { row with
    lastErrorCode := some error.innerStatusCode
    lastErrorMessage := some (truncateErrorMessage error.message) }

/-- The columns a transition adds to the common ones. -/
inductive WriteExtras
  /-- `set_status`. -/
  | outside (error : Option ApiError)
  /-- `mark_in_progress`. -/
  | started
  /-- `record_outcome`. -/
  | outcome (error : Option ApiError)

/-- **One status write**: the update of `write_status`, with the time its
`CURRENT_TIMESTAMP` reads. -/
structure StatusWrite where
  runId : String
  status : TaskRunStatus
  attempts : ℕ
  now : Timestamp
  extras : WriteExtras

namespace StatusWrite

/-- The columns a write sets beside the status. -/
def applyExtras (w : StatusWrite) (row : TaskRunModel) : TaskRunModel :=
  match w.extras with
  | .outside (some error) => withErrorColumns error row
  | .outside none => row
  | .started => { row with processingStartedAt := some w.now }
  | .outcome error =>
    if w.status = .completeSuccess then
      { row with successDurationMs := attemptDurationMs w.now row }
    else if w.status = .errorWillRetry ∨ w.status = .completeFailure then
      let row := { row with lastErrorDurationMs := attemptDurationMs w.now row }
      match error with
      | some error => withErrorColumns error row
      | none => row
    else row

/-- The row after the update. -/
def update (w : StatusWrite) (row : TaskRunModel) : TaskRunModel :=
  w.applyExtras
    { row with statusCode := w.status.asI32, attempts := w.attempts, updatedAt := w.now }

/-- The table after the update, filtered by `run_id`. -/
def apply (w : StatusWrite) (rows : List TaskRunModel) : List TaskRunModel :=
  rows.map fun row => if row.runId = w.runId then w.update row else row

/-- The row the update returns, if it met one. -/
def returning (w : StatusWrite) (rows : List TaskRunModel) : Option TaskRunModel :=
  (rows.find? fun row => row.runId = w.runId).map w.update

end StatusWrite

/-- Set a run's status outside an attempt. -/
def setStatus (run : TaskRun T) (status : TaskRunStatus) (attempts : ℕ)
    (error : Option ApiError) (now : Timestamp) : StatusWrite :=
  ⟨run.runId, status, attempts, now, .outside error⟩

/-- Mark the most recent attempt as processing. -/
def markInProgress (run : TaskRun T) (attempts : ℕ) (now : Timestamp) : StatusWrite :=
  ⟨run.runId, .inProgress, attempts, now, .started⟩

/-- Record an attempt outcome. -/
def recordOutcome (run : TaskRun T) (status : TaskRunStatus) (attempts : ℕ)
    (error : Option ApiError) (now : Timestamp) : StatusWrite :=
  ⟨run.runId, status, attempts, now, .outcome error⟩

/-! ## Queries -/

/-- A logical task's latest run, or a particular run number, optionally
scoped to its target owner. -/
def queryRunStatus (rows : List TaskRunModel) (logicalId : String) (runNumber : Option ℕ)
    (entityOwnerId : Option ℤ) : Option TaskRunModel :=
  (rows.filter fun r => r.logicalId = logicalId && runNumber.all (· = r.runNumber) &&
    entityOwnerId.all (· = r.entityOwnerId)).argmax (·.runNumber)

/-- A logical task already submitted for a backfill, in any state. -/
def queryBackfillRun (rows : List TaskRunModel) (backfillId logicalId : String) :
    Option TaskRunModel :=
  rows.find? fun r => r.backfillId = some backfillId && r.logicalId = logicalId

/-- One run by its global ID, optionally scoped to its owner. -/
def queryRunById (rows : List TaskRunModel) (runId : String) (entityOwnerId : Option ℤ) :
    Option TaskRunModel :=
  rows.find? fun r => r.runId = runId && entityOwnerId.all (· = r.entityOwnerId)

/-! ## What an insert can answer -/

variable {rows : List TaskRunModel} {row : TaskRunModel} {run : TaskRun T} {now : Timestamp}
variable {reported : String} {w : StatusWrite}

/-- A row that is inserted is the queued one, and violates no key. -/
theorem insertRun_inserted (h : insertRun rows run now reported = some (.inserted row)) :
    row = queuedRow run now ∧ violatedKeys rows (queuedRow run now) = [] := by
  simp only [insertRun] at h
  split_ifs at h with h₁ h₂ h₃ <;> cases h
  exact ⟨rfl, h₁⟩

/-- A conflict is a row holding the run's ordinal, or its backfill claim. -/
theorem insertRun_conflict (h : insertRun rows run now reported = some .conflict) :
    (∃ r ∈ rows, r.logicalId = run.logicalId ∧ r.runNumber = run.runNumber) ∨
    (∃ r ∈ rows, r.backfillId = run.backfillId ∧ r.logicalId = run.logicalId ∧
      run.backfillId.isSome) := by
  simp only [insertRun] at h
  split_ifs at h with h₁ h₂ h₃ <;> cases h
  simp only [isSubmissionConflict, Bool.or_eq_true, decide_eq_true_eq] at h₃
  rcases h₃ with rfl | rfl
  · exact Or.inl (mem_violatedKeys_taskRunKey h₂)
  · exact Or.inr (mem_violatedKeys_backfillTaskKey h₂)

/-- Any other violation is an error: only the `run_id` key is left. -/
theorem insertRun_failed {err : DbErr}
    (h : insertRun rows run now reported = some (.failed err)) :
    err = .uniqueViolation reported ∧ reported ∈ violatedKeys rows (queuedRow run now) := by
  simp only [insertRun] at h
  split_ifs at h with h₁ h₂ h₃ <;> cases h
  exact ⟨rfl, h₂⟩

/-! ## What a status write leaves alone -/

namespace StatusWrite

/-- A status write does not change who the row is. -/
@[simp] theorem update_identity : (w.update row).identity = row.identity := by
  simp only [update, applyExtras, withErrorColumns]
  split <;> (try split_ifs) <;> (try split) <;> rfl

/-- A status write sets the status. -/
@[simp] theorem update_statusCode : (w.update row).statusCode = w.status.asI32 := by
  simp only [update, applyExtras, withErrorColumns]
  split <;> (try split_ifs) <;> (try split) <;> rfl

/-- A status write sets the attempts. -/
@[simp] theorem update_attempts : (w.update row).attempts = w.attempts := by
  simp only [update, applyExtras, withErrorColumns]
  split <;> (try split_ifs) <;> (try split) <;> rfl

@[simp] theorem update_runId : (w.update row).runId = row.runId :=
  congrArg RunIdentity.runId update_identity

@[simp] theorem update_logicalId : (w.update row).logicalId = row.logicalId :=
  congrArg RunIdentity.logicalId update_identity

@[simp] theorem update_runNumber : (w.update row).runNumber = row.runNumber :=
  congrArg RunIdentity.runNumber update_identity

@[simp] theorem update_backfillId : (w.update row).backfillId = row.backfillId :=
  congrArg RunIdentity.backfillId update_identity

@[simp] theorem apply_nil : w.apply [] = [] := rfl

/-- **A status write keeps the identity of every row.** -/
@[simp] theorem map_identity_apply :
    (w.apply rows).map TaskRunModel.identity = rows.map TaskRunModel.identity := by
  rw [apply, List.map_map]
  refine List.map_congr_left fun r _ => ?_
  simp only [Function.comp_apply]
  split_ifs <;> simp

/-- So it keeps whatever is read off the identity columns. -/
theorem map_apply_of_identity {α : Type*} {f : TaskRunModel → α} {g : RunIdentity → α}
    (hf : ∀ r, f r = g r.identity) : (w.apply rows).map f = rows.map f := by
  have h : f = g ∘ TaskRunModel.identity := funext hf
  rw [h, ← List.map_map, map_identity_apply, List.map_map]

@[simp] theorem map_runId_apply :
    (w.apply rows).map TaskRunModel.runId = rows.map TaskRunModel.runId :=
  map_apply_of_identity (g := RunIdentity.runId) fun _ => rfl

/-- **A row of another run is untouched.** -/
theorem mem_apply_of_ne (hr : row ∈ rows) (hne : row.runId ≠ w.runId) : row ∈ w.apply rows :=
  List.mem_map.2 ⟨row, hr, if_neg hne⟩

/-- The row of the run is updated. -/
theorem update_mem_apply (hr : row ∈ rows) (heq : row.runId = w.runId) :
    w.update row ∈ w.apply rows :=
  List.mem_map.2 ⟨row, hr, if_pos heq⟩

/-- A row after the write was there before it, or is the update of one. -/
theorem mem_apply (hr : row ∈ w.apply rows) :
    ∃ r ∈ rows, r.identity = row.identity ∧
      (r.runId ≠ w.runId ∧ row = r ∨ r.runId = w.runId ∧ row = w.update r) := by
  obtain ⟨r, hmem, heq⟩ := List.mem_map.1 hr
  split_ifs at heq with h
  · exact ⟨r, hmem, by rw [← heq, update_identity], Or.inr ⟨h, heq.symm⟩⟩
  · exact ⟨r, hmem, by rw [heq], Or.inl ⟨h, heq.symm⟩⟩

end StatusWrite

end Dreamscroll
