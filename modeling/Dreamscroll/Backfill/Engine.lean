import Dreamscroll.Webhook.Retry
import Mathlib.Data.List.Sort
import Mathlib.Logic.Function.Basic
/-!
# The backfill engine

A backfill is a batch workload defined in code: a relation of targets and
the task to run on each. One pump selects the targets that have no run of
the backfill yet, submits a bounded batch of them one by one, and records
what it saw. Pumps are processes over the task machine, each standing at
the statement it runs next; nothing serializes two of them.
-/

namespace Dreamscroll

/-! ## Definitions -/

/-- A row of a definition's candidate relation. -/
structure BackfillTarget where
  entityId : ℤ
  ownerId : ℤ
  deriving DecidableEq, Repr

/-- **A code-defined batch workload.** The relation `targets()` queries is
live data, so it is passed to a selection as the rows it had then. -/
structure Backfill where
  /-- Stable execution ID. -/
  id : String
  /-- `Task::task_type()` of the one task type of the definition. -/
  taskType : String
  entityType : String
  makeTask : BackfillTarget → AnyTask
  taskType_makeTask : ∀ target, Task.taskType (makeTask target) = taskType
  entityType_makeTask : ∀ target, Task.entityType (makeTask target) = entityType

/-- The registered definition, over the captures and their owners. -/
def illuminateV2Backfill : Backfill where
  id := "illuminate-v2-all-captures-2026-10-16"
  taskType := "illuminate"
  entityType := "capture"
  makeTask target := .illuminate
    ⟨target.entityId, target.ownerId, "gemini-3.8-flash", .v2, none, true⟩
  taskType_makeTask _ := rfl
  entityType_makeTask _ := rfl

namespace Backfill

variable (b : Backfill)

/-- The correlated subquery `submitted` has a row for the target. -/
def Submitted (rows : List TaskRunModel) (target : BackfillTarget) : Prop :=
  ∃ row ∈ rows, row.backfillId = some b.id ∧ row.taskType = b.taskType ∧
    row.entityType = b.entityType ∧ row.entityOwnerId = target.ownerId ∧
    row.entityId = target.entityId

instance (rows : List TaskRunModel) (target : BackfillTarget) : Decidable (b.Submitted rows target) :=
  inferInstanceAs (Decidable (∃ _ ∈ _, _))

end Backfill

/-- The order of the selection: by entity and then by owner, both
descending. -/
def BackfillTarget.DescLe (t u : BackfillTarget) : Prop :=
  u.entityId < t.entityId ∨ u.entityId = t.entityId ∧ u.ownerId ≤ t.ownerId

instance : DecidableRel BackfillTarget.DescLe := fun _ _ => inferInstanceAs (Decidable (_ ∨ _))

/-- **`select_targets`**: exclusion precedes the batch limit. -/
def selectTargets (b : Backfill) (rows : List TaskRunModel) (relation : List BackfillTarget)
    (limit : ℕ) : List BackfillTarget :=
  ((relation.filter fun target => ¬ b.Submitted rows target).insertionSort
    BackfillTarget.DescLe).take limit

/-! ## The durable record -/

/-- A row of `backfills`, less its key. -/
structure BackfillModel where
  lastPumpedAt : Timestamp
  /-- Start of the current dry streak. -/
  drySince : Option Timestamp
  deriving DecidableEq, Repr

/-- `RECORD_PUMP_SQL` on the row of the backfill, `now` the time its
statement reads. -/
def recordPump (record : Option BackfillModel) (dry : Bool) (now : Timestamp) : BackfillModel where
  lastPumpedAt := now
  drySince :=
    if dry then
      match record with
      | none => some now
      -- `COALESCE(backfills.dry_since, now())`
      | some record => record.drySince.or (some now)
    else none

/-! ## What a pump counts -/

/-- A candidate that was not submitted, with the error. -/
structure BackfillSubmissionError where
  entityId : ℤ
  error : String
  deriving DecidableEq, Repr

/-- The counters of one pump. -/
structure PumpTally where
  enqueuedCount : ℕ
  alreadySubmittedCount : ℕ
  refusedInFlightCount : ℕ
  errors : List BackfillSubmissionError
  deriving DecidableEq, Repr

/-- Nothing is counted yet. -/
def PumpTally.zero : PumpTally := ⟨0, 0, 0, []⟩

/-- One arm of the loop's `match`. An error is one text here; the source
reports the outermost message of its chain. -/
def PumpTally.add (tally : PumpTally) (target : BackfillTarget) :
    Except ApiError SubmitOutcome → PumpTally
  | .ok (.enqueued _ _) => { tally with enqueuedCount := tally.enqueuedCount + 1 }
  | .ok (.alreadySubmittedBackfill _ _) =>
    { tally with alreadySubmittedCount := tally.alreadySubmittedCount + 1 }
  | .ok .refusedAlreadyInFlight =>
    { tally with refusedInFlightCount := tally.refusedInFlightCount + 1 }
  | .error error =>
    { tally with errors := tally.errors ++ [⟨target.entityId, error.error⟩] }

/-- What a pump answers: its counts, and what the record of the backfill says. -/
structure BackfillPumpResponse extends PumpTally where
  backfillId : String
  /-- Candidates selected and attempted, including skips and errors. -/
  selectedCount : ℕ
  drySince : Option Timestamp
  pumpedAt : Timestamp
  deriving DecidableEq, Repr

/-! ## Pumps -/

/-- Where a pump stands. -/
inductive PumpPc
  | ensureNotDry
  | select
  /-- The loop over the targets, or the final record. -/
  | submit (rest : List BackfillTarget)
  /-- The submission of a target is call `c` of the task machine. -/
  | awaiting (target : BackfillTarget) (c : ℕ) (rest : List BackfillTarget)
  | returned (result : Except ApiError BackfillPumpResponse)

/-- A pump, and how far it is. -/
structure Pump where
  limit : ℕ
  force : Bool
  /-- The selected targets, once they are. -/
  targets : List BackfillTarget
  tally : PumpTally
  pc : PumpPc

/-- `pump_definition` up to its first statement. -/
def Pump.start (limit : ℕ) (force : Bool) : Pump where
  limit := limit
  force := force
  targets := []
  tally := .zero
  pc := if limit = 0 then
      .returned (.error (ApiError.badRequest "Candidate limit must be greater than zero"))
    else .ensureNotDry

/-- What only the environment knows about a pump's next statement. -/
inductive PumpChoice
  | read
  /-- The rows of the candidate relation at this time. -/
  | select (relation : List BackfillTarget)
  | submit
  /-- The awaited submission has returned. -/
  | collect
  | record (now : Timestamp)

/-- The tasks, the records of the backfills, and the pumps under way. -/
structure BackfillState where
  tasks : TaskState AnyTask
  /-- The table `backfills`, by its primary key. -/
  backfills : String → Option BackfillModel
  pumps : List Pump

namespace BackfillState

/-- Empty tables and no process. -/
def start : BackfillState := ⟨TaskState.start [] [], fun _ => none, []⟩

/-- A pump goes on. -/
def setPump (s : BackfillState) (i : ℕ) (p : Pump) : BackfillState :=
  { s with pumps := s.pumps.set i p }

/-- The upsert of a record. -/
def setRecord (s : BackfillState) (id : String) (record : BackfillModel) : BackfillState :=
  { s with backfills := Function.update s.backfills id (some record) }

end BackfillState

/-- What happens to a backfill, in any order. -/
inductive BackfillEv
  /-- Anything else that happens to the tasks. -/
  | task (e : Ev AnyTask)
  /-- A pump request arrives. -/
  | pump (limit : ℕ) (force : Bool)
  /-- Pump `i` runs its next statement. -/
  | next (i : ℕ) (choice : PumpChoice)

/-- One definition's pump, as an admin may call it. -/
structure Engine where
  definition : Backfill
  /-- The caller every submission is made for. -/
  context : Context
  /-- `format_time`. -/
  formatTime : Timestamp → String

/-- What `submit_inner` returned, as `submit_illuminate` and its siblings
return it. -/
def submitResult (outcome : Except SubmitError SubmitOutcome) : Except ApiError SubmitOutcome :=
  outcome.mapError fun err => ApiError.internal err.message

/-- What a call has returned. -/
def Call.outcome (call : Call AnyTask) : Option (Except SubmitError SubmitOutcome) :=
  match call.pc with
  | .returned outcome => some outcome
  | _ => none

namespace Engine

variable (g : Engine)

/-- The refusal of a pump while a dry streak is recorded. -/
def dryConflict (record : BackfillModel) (drySince : Timestamp) : ApiError :=
  ApiError.conflict
    ("Backfill " ++ g.definition.id.quote ++ " has had no eligible targets since " ++
      g.formatTime drySince ++ " (last pumped " ++ g.formatTime record.lastPumpedAt ++
      "); pass force=true (CLI --force) to pump again")

/-- Refuse the default pump once a dry streak is recorded. -/
def ensureNotDry (record : Option BackfillModel) (force : Bool) : Except ApiError Unit :=
  if force then .ok ()
  else match record with
    | none => .ok ()
    | some record =>
      match record.drySince with
      | none => .ok ()
      | some drySince => .error (g.dryConflict record drySince)

/-- The response to a pump whose outcome was recorded. -/
def response (p : Pump) (record : BackfillModel) : BackfillPumpResponse :=
  { p.tally with
    backfillId := g.definition.id
    selectedCount := p.targets.length
    drySince := record.drySince
    pumpedAt := record.lastPumpedAt }

/-- **`pump_definition`, one statement at a time.** -/
def pumpStep (m : TaskMaster) (s : BackfillState) (i : ℕ) (p : Pump) (choice : PumpChoice) :
    Option BackfillState :=
  match p.pc, choice with
  | .ensureNotDry, .read =>
    match g.ensureNotDry (s.backfills g.definition.id) p.force with
    | .ok () => some (s.setPump i { p with pc := .select })
    | .error err => some (s.setPump i { p with pc := .returned (.error err) })
  | .select, .select relation =>
    let targets := selectTargets g.definition s.tasks.rows relation p.limit
    some (s.setPump i { p with targets := targets, pc := .submit targets })
  | .submit (target :: rest), .submit =>
    let task := g.definition.makeTask target
    match task.submitCheck g.context with
    | .error err => some (s.setPump i
        { p with tally := p.tally.add target (.error err), pc := .submit rest })
    | .ok () => (m.step s.tasks (.submit task (some g.definition.id))).map fun tasks =>
        { s with tasks := tasks }.setPump i
          { p with pc := .awaiting target s.tasks.calls.length rest }
  | .awaiting target c rest, .collect =>
    ((s.tasks.calls[c]?).bind Call.outcome).map fun outcome => s.setPump i
      { p with tally := p.tally.add target (submitResult outcome), pc := .submit rest }
  | .submit [], .record now =>
    let record := recordPump (s.backfills g.definition.id) p.targets.isEmpty now
    some ((s.setRecord g.definition.id record).setPump i
      { p with pc := .returned (.ok (g.response p record)) })
  | _, _ => none

/-- What an event does. -/
def step (m : TaskMaster) (s : BackfillState) : BackfillEv → Option BackfillState
  | .task e => (m.step s.tasks e).map fun tasks => { s with tasks := tasks }
  | .pump limit force => some { s with pumps := s.pumps ++ [Pump.start limit force] }
  | .next i choice => (s.pumps[i]?).bind fun p => g.pumpStep m s i p choice

/-- The pumps of one backfill, over the task machine. -/
def system (m : TaskMaster) : System BackfillState BackfillEv := ⟨g.step m⟩

end Engine

end Dreamscroll
