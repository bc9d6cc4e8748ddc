import Dreamscroll.Common.System
import Dreamscroll.Webhook.HttpStatus
/-!
# The task machine

`submit_inner`, `begin_attempt` and `finish_attempt` at the granularity of
single database statements. A call or a delivery is a process standing at
the statement it runs next; an event lets one process take that statement,
and any interleaving of any number of processes is a run of the machine.

The queue backend delivers at least once: a run that was handed to it may
be accepted whatever its answer, and an accepted run may be delivered any
number of times, overlapping or after it settled. A process that is never
scheduled again is a worker that crashed.
-/

namespace Dreamscroll

variable {T : Type}

/-! ## The processes -/

/-- Where a `submit_inner` call stands: the statement it runs next. -/
inductive SubmitPc (T : Type)
  /-- The first `already_submitted`. -/
  | dedup
  /-- The latest run, and the ordinal decided from it. -/
  | latest
  /-- `already_submitted` again, after an in-flight latest run. -/
  | recheckInFlight
  | insert (run : TaskRun T)
  | publishQueued (run : TaskRun T) (row : TaskRunModel)
  /-- `already_submitted` again, after a lost race. -/
  | recheckConflict
  /-- Inside `queue.enqueue`. -/
  | enqueue (run : TaskRun T)
  | failWrite (run : TaskRun T) (err : ApiError)
  | publishFailed (row : TaskRunModel) (err : ApiError)
  | returned (outcome : Except SubmitError SubmitOutcome)

/-- A call of `submit_inner`, and where it is. -/
structure Call (T : Type) where
  task : T
  backfillId : Option String
  pc : SubmitPc T

/-- Where a delivery stands in its webhook: `begin_attempt`'s read and
write, the task body, `finish_attempt`'s write. -/
inductive DeliveryPc
  | beginRead
  | beginWrite (attempt : ℕ)
  | publishBegin (attempt : ℕ) (row : TaskRunModel)
  /-- `begin_attempt` returned `Some(attempt)`; the task body runs. -/
  | running (attempt : ℕ)
  | publishFinish (attempt : ℕ) (status : TaskRunStatus) (row : TaskRunModel)
  /-- The response, and the attempt it is about if one began. -/
  | responded (attempt : Option ℕ) (httpStatus : ℕ)

/-- A delivery of a run to a worker, and where its attempt is. -/
structure Delivery (T : Type) where
  run : TaskRun T
  pc : DeliveryPc

/-- What only the environment knows about the next statement. -/
inductive Choice
  | read
  | latest (runId : String)
  | insert (now : Timestamp) (reported : String)
  | publish (estimate : Option TaskTimingEstimate)
  | enqueued
  | enqueueFailed (error : String)
  | write (now : Timestamp)
  | finish (result : Except ApiError Unit) (now : Timestamp)

/-! ## The state -/

/-- What a statement did, as the log records it. -/
inductive Effect (T : Type)
  | invoke (c : ℕ) (logicalId : String) (backfillId : Option String)
  | insert (c : ℕ) (row : TaskRunModel)
  /-- The run is passed to `TaskQueue::enqueue`. -/
  | hand (c : ℕ) (run : TaskRun T)
  | respond (c : ℕ) (logicalId : String) (outcome : Except SubmitError SubmitOutcome)
  | write (w : StatusWrite)
  /-- The event is passed to the notifier. -/
  | publish (event : TaskStatusUpdate)

/-- What an effect does to the table. -/
def Effect.apply (rows : List TaskRunModel) : Effect T → List TaskRunModel
  | .insert _ row => rows ++ [row]
  | .write w => w.apply rows
  | .invoke .. | .hand .. | .respond .. | .publish .. => rows

/-- The table, the calls and deliveries under way, and the history. -/
structure TaskState (T : Type) where
  /-- The table. -/
  rows : List TaskRunModel
  calls : List (Call T)
  deliveries : List (Delivery T)
  /-- The runs the backend has accepted, each deliverable from then on. -/
  accepted : List (TaskRun T)
  /-- Every effect so far, oldest first. -/
  log : List (Effect T)

namespace TaskState

/-- A table and a queue, with no process yet. -/
def start (rows : List TaskRunModel) (accepted : List (TaskRun T)) : TaskState T :=
  ⟨rows, [], [], accepted, []⟩

/-- The effects take place, one after the other, and are logged. -/
def perform (s : TaskState T) (effects : List (Effect T)) : TaskState T :=
  { s with rows := effects.foldl Effect.apply s.rows, log := s.log ++ effects }

/-- A call goes on. -/
def setCall (s : TaskState T) (c : ℕ) (call : Call T) : TaskState T :=
  { s with calls := s.calls.set c call }

/-- A delivery goes on. -/
def setDelivery (s : TaskState T) (d : ℕ) (delivery : Delivery T) : TaskState T :=
  { s with deliveries := s.deliveries.set d delivery }

/-- The hand-overs so far, each with the call that made it. -/
def handed (s : TaskState T) : List (ℕ × TaskRun T) :=
  s.log.filterMap fun
    | .hand c run => some (c, run)
    | _ => none

/-- The row of a run. -/
def rowOf (s : TaskState T) (runId : String) : Option TaskRunModel :=
  s.rows.find? fun row => row.runId = runId

end TaskState

/-- What happens to the tasks, in any order. -/
inductive Ev (T : Type)
  /-- A `submit_inner` call starts. -/
  | submit (task : T) (backfillId : Option String)
  /-- A call runs its next statement. -/
  | call (c : ℕ) (choice : Choice)
  /-- The backend accepts a run that was handed to it. -/
  | accept (i : ℕ)
  /-- The backend delivers a run it accepted. -/
  | deliver (i : ℕ)
  /-- A delivery runs its next statement. -/
  | delivery (d : ℕ) (choice : Choice)

/-! ## The steps -/

variable [WebhookTask T]

/-- The logical task of the call. -/
def Call.logicalId (call : Call T) : String := TaskRun.makeLogicalId call.task

/-- The invocation a call decided to insert. -/
def Call.newRun (call : Call T) (nextRun : ℕ) (runId : String) : TaskRun T :=
  { TaskRun.new call.task nextRun runId with backfillId := call.backfillId }

namespace TaskMaster

variable (m : TaskMaster)

/-- The event a committed row is published as, as the log records it. -/
def publishEffects (row : TaskRunModel) (estimate : Option TaskTimingEstimate) :
    List (Effect T) :=
  ((m.publish row estimate).map Effect.publish).toList

/-- **`submit_inner`, one statement at a time.** -/
def submitStep (rows : List TaskRunModel) (c : ℕ) (call : Call T) (choice : Choice) :
    Option (SubmitPc T × List (Effect T)) :=
  let respond outcome := some (SubmitPc.returned outcome, [.respond c call.logicalId outcome])
  match call.pc, choice with
  | .dedup, .read =>
    match alreadySubmitted rows call.backfillId call.logicalId with
    | some outcome => respond (.ok outcome)
    | none => some (.latest, [])
  | .latest, .latest runId =>
    match decideNextRun (queryRunStatus rows call.logicalId none none) with
    | some nextRun => some (.insert (call.newRun nextRun runId), [])
    | none => some (.recheckInFlight, [])
  | .recheckInFlight, .read =>
    match alreadySubmitted rows call.backfillId call.logicalId with
    | some outcome => respond (.ok outcome)
    | none => respond (.ok .refusedAlreadyInFlight)
  | .insert run, .insert now reported =>
    match insertRun rows run now reported with
    | some (.inserted row) => some (.publishQueued run row, [.insert c row])
    | some .conflict => some (.recheckConflict, [])
    | some (.failed err) => respond (.error (.db err))
    | none => none
  | .publishQueued run row, .publish estimate =>
    some (.enqueue run, m.publishEffects row estimate ++ [.hand c run])
  | .recheckConflict, .read =>
    match alreadySubmitted rows call.backfillId call.logicalId with
    | some outcome => respond (.ok outcome)
    | none => respond (.ok .refusedAlreadyInFlight)
  | .enqueue run, .enqueued => respond (.ok (.enqueued run.runId run.runNumber))
  | .enqueue run, .enqueueFailed error => some (.failWrite run (ApiError.internal error), [])
  | .failWrite run err, .write now =>
    let w := setStatus run .submissionFailed 0 (some err) now
    match w.returning rows with
    | some row => some (.publishFailed row err, [.write w])
    | none => some (.returned (.error (.enqueue err)),
        [.write w, .respond c call.logicalId (.error (.enqueue err))])
  | .publishFailed row err, .publish estimate =>
    some (.returned (.error (.enqueue err)),
      m.publishEffects row estimate ++ [.respond c call.logicalId (.error (.enqueue err))])
  | _, _ => none

/-- **A webhook delivery, one statement at a time.** The 2xx that ignores a
delivery and the response to a finished attempt both end it. -/
def deliveryStep (rows : List TaskRunModel) (delivery : Delivery T) (choice : Choice) :
    Option (DeliveryPc × List (Effect T)) :=
  let run := delivery.run
  match delivery.pc, choice with
  | .beginRead, .read =>
    match WebhookTask.reject run.task with
    | some err => some (.responded none err.httpStatusCode, [])
    | none =>
      match decideNextAttempt (queryRunById rows run.runId none) with
      | some attempt => some (.beginWrite attempt, [])
      | none => some (.responded none noContent, [])
  | .beginWrite attempt, .write now =>
    let w := markInProgress run attempt now
    match w.returning rows with
    | some row => some (.publishBegin attempt row, [.write w])
    | none => some (.running attempt, [.write w])
  | .publishBegin attempt row, .publish estimate =>
    some (.running attempt, m.publishEffects row estimate)
  | .running attempt, .finish result now =>
    let status := m.outcomeStatus attempt result
    let w := m.finishWrite run attempt result now
    match w.returning rows with
    | some row => some (.publishFinish attempt status row, [.write w])
    | none => some (.responded (some attempt) (httpStatusForTaskRun status), [.write w])
  | .publishFinish attempt status row, .publish estimate =>
    some (.responded (some attempt) (httpStatusForTaskRun status),
      m.publishEffects row estimate)
  | _, _ => none

/-- **The machine**: any process may take its next statement. -/
def step (s : TaskState T) : Ev T → Option (TaskState T)
  | .submit task backfillId =>
    let call : Call T := ⟨task, backfillId, .dedup⟩
    some <| { s with calls := s.calls ++ [call] }.perform
      [.invoke s.calls.length call.logicalId backfillId]
  | .call c choice =>
    (s.calls[c]?).bind fun call => (m.submitStep s.rows c call choice).map fun next =>
      (s.setCall c { call with pc := next.1 }).perform next.2
  | .accept i => (s.handed[i]?).map fun h => { s with accepted := s.accepted ++ [h.2] }
  | .deliver i => (s.accepted[i]?).map fun run =>
      { s with deliveries := s.deliveries ++ [⟨run, .beginRead⟩] }
  | .delivery d choice =>
    (s.deliveries[d]?).bind fun delivery =>
      (m.deliveryStep s.rows delivery choice).map fun next =>
        (s.setDelivery d { delivery with pc := next.1 }).perform next.2

/-- The machine as a transition system. -/
def system (T : Type) [WebhookTask T] (m : TaskMaster) : System (TaskState T) (Ev T) :=
  ⟨m.step⟩

end TaskMaster

/-! ## Schedules -/

namespace Ev

/-- Call `c` submits a task while nothing else runs. -/
def submission (c : ℕ) (task : T) (backfillId : Option String) (runId : String)
    (now : Timestamp) : List (Ev T) :=
  [.submit task backfillId, .call c .read, .call c (.latest runId),
    .call c (.insert now taskRunKey), .call c (.publish none), .call c .enqueued]

/-- Delivery `d`, of the accepted run `i`, runs an attempt while nothing
else runs. -/
def attempt (i d : ℕ) (result : Except ApiError Unit) (now : Timestamp) : List (Ev T) :=
  [.deliver i, .delivery d .read, .delivery d (.write now), .delivery d (.publish none),
    .delivery d (.finish result now), .delivery d (.publish none)]

end Ev

end Dreamscroll
