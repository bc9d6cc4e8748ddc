import Dreamscroll.Sse.Event
import Dreamscroll.Task.Tracker
/-!
# The decisions of the task master

What `TaskMaster` decides between two statements: the ordinal of the next
run, the number of the next attempt, whether a failure is retried, and
which earlier run a backfill submission is answered with. None of them
touches the table; `Machine` runs them one statement at a time.
-/

namespace Dreamscroll

/-- The outcome of a task submission. -/
inductive SubmitOutcome
  | enqueued (runId : String) (runNumber : ℕ)
  | alreadySubmittedBackfill (runId : String) (runNumber : ℕ)
  | refusedAlreadyInFlight
  deriving DecidableEq, Repr

/-- The error of a submission: a failed statement, or a failed enqueue. -/
inductive SubmitError
  | db (err : DbErr)
  | enqueue (err : ApiError)
  deriving DecidableEq, Repr

/-- The error of a submission, as `ApiError::internal` renders it. -/
def SubmitError.message : SubmitError → String
  | .db (.uniqueViolation constraint) =>
    "duplicate key value violates unique constraint \"" ++ constraint ++ "\""
  | .db (.other message) => message
  | .enqueue err => err.error

/-- The next 1-based run number, or `none` if the latest run is in flight. -/
def decideNextRun (latestRun : Option TaskRunModel) : Option ℕ :=
  match latestRun with
  | some latest => if latest.inFlight then none else some (latest.runNumber + 1)
  | none => some 1

/-- The 1-based attempt number for a run about to start. -/
def decideNextAttempt (status : Option TaskRunModel) : Option ℕ :=
  match status with
  | some row =>
    if row.statusCode = TaskRunStatus.completeSuccess.asI32 then none
    else if row.statusCode = TaskRunStatus.submissionFailed.asI32 then none
    else some (row.attempts + 1)
  | none => some 1

/-- Whether a failed attempt should be retried. -/
def decideWillRetry (err : ApiError) (attempt : ℕ) (maxAttempts : ℤ) : Bool :=
  (attempt : ℤ) < maxAttempts && err.isRetryable

/-- The parts of `TaskMaster` a decision reads: the retry budget, and
whether there is a notifier to publish to. -/
structure TaskMaster where
  maxAttemptsPerRun : ℤ
  notifier : Bool
  deriving DecidableEq, Repr

/-- `TaskMasterBuilder::build`: three attempts by default, and at least
one. -/
def TaskMaster.build (maxAttempts : Option ℤ) (notifier : Bool) : TaskMaster where
  maxAttemptsPerRun := max (maxAttempts.getD 3) 1
  notifier := notifier

/-- The status `finish_attempt` records for an attempt's result. -/
def TaskMaster.outcomeStatus (m : TaskMaster) (attempt : ℕ) (result : Except ApiError Unit) :
    TaskRunStatus :=
  match result with
  | .ok () => .completeSuccess
  | .error err =>
    if decideWillRetry err attempt m.maxAttemptsPerRun then .errorWillRetry else .completeFailure

/-- What an attempt leaves is an outcome. -/
theorem TaskMaster.isOutcome_outcomeStatus (m : TaskMaster) (attempt : ℕ)
    (result : Except ApiError Unit) : (m.outcomeStatus attempt result).isOutcome = true := by
  cases result with
  | ok => rfl
  | error err =>
    simp only [outcomeStatus]
    split_ifs <;> rfl

/-- No attempt leaves its run in progress. -/
theorem TaskMaster.outcomeStatus_ne_inProgress (m : TaskMaster) (attempt : ℕ)
    (result : Except ApiError Unit) : m.outcomeStatus attempt result ≠ .inProgress := by
  intro h
  have hout := m.isOutcome_outcomeStatus attempt result
  rw [h] at hout
  cases hout

/-- No attempt leaves its run as one that never reached the queue. -/
theorem TaskMaster.outcomeStatus_ne_submissionFailed (m : TaskMaster) (attempt : ℕ)
    (result : Except ApiError Unit) : m.outcomeStatus attempt result ≠ .submissionFailed := by
  intro h
  have hout := m.isOutcome_outcomeStatus attempt result
  rw [h] at hout
  cases hout

/-- The error columns it records with it. -/
def resultError : Except ApiError Unit → Option ApiError
  | .ok () => none
  | .error err => some err

variable {T : Type} [Task T]

/-- The write of `finish_attempt`. -/
def TaskMaster.finishWrite (m : TaskMaster) (run : TaskRun T) (attempt : ℕ)
    (result : Except ApiError Unit) (now : Timestamp) : StatusWrite :=
  recordOutcome run (m.outcomeStatus attempt result) attempt (resultError result) now

/-- `StatusPublisher::publish`: the event handed to the notifier, if any. -/
def TaskMaster.publish (m : TaskMaster) (row : TaskRunModel)
    (estimate : Option TaskTimingEstimate) : Option TaskStatusUpdate :=
  if m.notifier then TaskStatusUpdate.fromRow row estimate else none

/-- The run a backfill submission is answered with; an untagged submission
reads nothing. -/
def alreadySubmitted (rows : List TaskRunModel) (backfillId : Option String)
    (logicalId : String) : Option SubmitOutcome :=
  match backfillId with
  | none => none
  | some backfillId => (queryBackfillRun rows backfillId logicalId).map fun row =>
      .alreadySubmittedBackfill row.runId row.runNumber

/-! ## The highest run number -/

/-- The rows of a logical task. -/
def runsOf (rows : List TaskRunModel) (logicalId : String) : List TaskRunModel :=
  rows.filter fun r => r.logicalId = logicalId

/-- The run numbers of a logical task, in the order they were inserted. -/
def runNumbers (rows : List TaskRunModel) (logicalId : String) : List ℕ :=
  (runsOf rows logicalId).map (·.runNumber)

/-- The highest run number of a logical task, `0` before the first run. -/
def topRun (rows : List TaskRunModel) (logicalId : String) : ℕ :=
  (runNumbers rows logicalId).foldr max 0

variable {rows rows' : List TaskRunModel} {row r : TaskRunModel} {L : String}

/-- The runs of a task are the rows under its logical id. -/
theorem mem_runsOf : r ∈ runsOf rows L ↔ r ∈ rows ∧ r.logicalId = L := by
  simp [runsOf]

/-- The run numbers of a task, through its rows. -/
theorem mem_runNumbers {n : ℕ} :
    n ∈ runNumbers rows L ↔ ∃ r ∈ rows, r.logicalId = L ∧ r.runNumber = n := by
  simp [runNumbers, mem_runsOf, and_assoc]

/-- No number is above the maximum. -/
theorem le_foldr_max {l : List ℕ} {n : ℕ} (h : n ∈ l) : n ≤ l.foldr max 0 := by
  induction l with
  | nil => cases h
  | cons a l ih =>
    rw [List.foldr_cons]
    rcases List.mem_cons.1 h with rfl | h
    · exact Nat.le_max_left _ _
    · exact (ih h).trans (Nat.le_max_right _ _)

/-- The maximum is the least upper bound, counted from zero. -/
theorem foldr_max_le {l : List ℕ} {b : ℕ} (h : ∀ n ∈ l, n ≤ b) : l.foldr max 0 ≤ b := by
  induction l with
  | nil => exact Nat.zero_le b
  | cons a l ih =>
    rw [List.foldr_cons]
    exact Nat.max_le.2 ⟨h a List.mem_cons_self, ih fun n hn => h n (List.mem_cons_of_mem a hn)⟩

/-- No run of a task is above its highest run number. -/
theorem runNumber_le_topRun (hr : r ∈ rows) (hL : r.logicalId = L) :
    r.runNumber ≤ topRun rows L :=
  le_foldr_max (mem_runNumbers.2 ⟨r, hr, hL, rfl⟩)

/-- Both readings of a table, the run numbers and their maximum, are of the
identity columns. -/
theorem runNumbers_congr
    (h : rows.map TaskRunModel.identity = rows'.map TaskRunModel.identity) (L : String) :
    runNumbers rows L = runNumbers rows' L := by
  have hn : ∀ rows : List TaskRunModel, runNumbers rows L =
      ((rows.map TaskRunModel.identity).filter fun i => i.logicalId = L).map
        RunIdentity.runNumber := by
    intro rows
    rw [List.filter_map, List.map_map]
    rfl
  rw [hn, hn, h]

/-- The highest run number depends on the identities of the rows alone. -/
theorem topRun_congr
    (h : rows.map TaskRunModel.identity = rows'.map TaskRunModel.identity) (L : String) :
    topRun rows L = topRun rows' L := by
  rw [topRun, runNumbers_congr h, ← topRun]

/-- A status write keeps the run numbers. -/
@[simp] theorem runNumbers_apply {w : StatusWrite} :
    runNumbers (w.apply rows) L = runNumbers rows L :=
  runNumbers_congr StatusWrite.map_identity_apply L

/-- A status write keeps the highest run number. -/
@[simp] theorem topRun_apply {w : StatusWrite} : topRun (w.apply rows) L = topRun rows L :=
  topRun_congr StatusWrite.map_identity_apply L

/-- The run numbers of two tables, one after the other. -/
@[simp] theorem runNumbers_append :
    runNumbers (rows ++ rows') L = runNumbers rows L ++ runNumbers rows' L := by
  simp [runNumbers, runsOf]

/-- A row counts for its own task. -/
theorem runNumbers_singleton :
    runNumbers [row] L = if row.logicalId = L then [row.runNumber] else [] := by
  simp only [runNumbers, runsOf, List.filter_cons, List.filter_nil, decide_eq_true_eq]
  split_ifs <;> rfl

/-- The maximum with one more number. -/
theorem foldr_max_append_singleton (l : List ℕ) (n : ℕ) :
    (l ++ [n]).foldr max 0 = max (l.foldr max 0) n := by
  induction l with
  | nil => simp
  | cons a l ih => rw [List.cons_append, List.foldr_cons, ih, List.foldr_cons, Nat.max_assoc]

/-- The highest run number with one more row. -/
theorem topRun_append_singleton :
    topRun (rows ++ [row]) L =
      if row.logicalId = L then max (topRun rows L) row.runNumber else topRun rows L := by
  rw [topRun, runNumbers_append, runNumbers_singleton]
  split_ifs
  · exact foldr_max_append_singleton _ _
  · rw [List.append_nil, topRun]

/-! ## What the latest run is -/

/-- Without a run number and a backfill the query answers the latest run. -/
theorem queryRunStatus_latest :
    queryRunStatus rows L none none = (runsOf rows L).argmax (·.runNumber) := by
  simp [queryRunStatus, runsOf]

/-- **The latest run is the one with the highest number.** -/
theorem queryRunStatus_eq_some (h : queryRunStatus rows L none none = some r) :
    r ∈ rows ∧ r.logicalId = L ∧ r.runNumber = topRun rows L := by
  rw [queryRunStatus_latest] at h
  have hmem := mem_runsOf.1 (List.argmax_mem h)
  refine ⟨hmem.1, hmem.2, le_antisymm (runNumber_le_topRun hmem.1 hmem.2) ?_⟩
  refine foldr_max_le fun n hn => ?_
  obtain ⟨r', hr', hL', rfl⟩ := mem_runNumbers.1 hn
  exact List.le_of_mem_argmax (mem_runsOf.2 ⟨hr', hL'⟩) h

/-- The query of the latest run finds nothing only when the task has no run. -/
theorem queryRunStatus_eq_none (h : queryRunStatus rows L none none = none) :
    runsOf rows L = [] :=
  List.argmax_eq_none.1 (queryRunStatus_latest ▸ h)

/-- **The next run is the one above the highest.** -/
theorem decideNextRun_eq_some {n : ℕ}
    (h : decideNextRun (queryRunStatus rows L none none) = some n) :
    n = topRun rows L + 1 := by
  cases hq : queryRunStatus rows L none none with
  | none =>
    rw [hq] at h
    cases h
    rw [topRun, runNumbers, queryRunStatus_eq_none hq]
    rfl
  | some latest =>
    rw [hq] at h
    simp only [decideNextRun] at h
    split_ifs at h with hf
    cases h
    rw [(queryRunStatus_eq_some hq).2.2]

/-- And a refusal is an in-flight run holding the highest number. -/
theorem decideNextRun_eq_none (h : decideNextRun (queryRunStatus rows L none none) = none) :
    ∃ r, queryRunStatus rows L none none = some r ∧ r.inFlight := by
  cases hq : queryRunStatus rows L none none with
  | none => rw [hq] at h; cases h
  | some latest =>
    rw [hq] at h
    simp only [decideNextRun] at h
    split_ifs at h with hf
    exact ⟨latest, rfl, hf⟩

/-! ## What an attempt may find -/

/-- An attempt is granted on a row that is neither a success nor a failed
submission, and is the next one. -/
theorem decideNextAttempt_eq_some {n : ℕ} (h : decideNextAttempt (some row) = some n) :
    n = row.attempts + 1 ∧ ¬ row.HasStatus .completeSuccess ∧
      ¬ row.HasStatus .submissionFailed := by
  simp only [decideNextAttempt] at h
  split_ifs at h with h₁ h₂
  cases h
  exact ⟨rfl, h₁, h₂⟩

/-- A run that has succeeded is not attempted again. -/
theorem decideNextAttempt_of_completeSuccess (h : row.HasStatus .completeSuccess) :
    decideNextAttempt (some row) = none := if_pos h

/-- A run whose submission failed is not attempted. -/
theorem decideNextAttempt_of_submissionFailed (h : row.HasStatus .submissionFailed) :
    decideNextAttempt (some row) = none := by
  simp only [decideNextAttempt]
  split_ifs with h₁ h₂
  · rfl
  · rfl
  · exact absurd h h₂

end Dreamscroll
