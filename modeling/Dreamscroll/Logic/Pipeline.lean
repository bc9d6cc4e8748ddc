import Dreamscroll.Common.Chronology
import Dreamscroll.Task.Machine
import Mathlib.Data.List.MinMax
import Mathlib.Logic.Function.Basic
/-!
# From illumination to search index

The bodies of the two task types that feed the vector store, one external
statement at a time, over the task machine: an illuminate attempt reads its
capture, calls the model, stores the raw output, commits the projection and
has `Beacon` submit a search-index run; a search-index attempt reads the
capture, embeds it and upserts its object in the vector store.

A body belongs to a delivery and runs while the delivery does. The
follow-up submission is a call of the machine, so it interleaves with
everything else there. Any statement that leaves the process may fail. The
captures are fixed. A spark attempt is one statement here: it reads captures
and ends as it likes.
-/

namespace Dreamscroll

/-! ## The stores -/

/-- A row of `captures`, as far as the pipeline reads it. -/
structure Capture where
  id : ℤ
  userId : ℤ
  deriving DecidableEq, Repr

/-- A row of `illuminations`, one per task run. -/
structure Illumination where
  /-- Drawn from the sequence of the table. -/
  id : ℤ
  captureId : ℤ
  taskRunId : String
  /-- Summary, details, entities and searches, as `make_text` renders them. -/
  text : String
  deriving DecidableEq, Repr

/-- A capture as the service API returns it. -/
structure CaptureInfo where
  id : ℤ
  userId : ℤ
  illuminations : List Illumination
  deriving DecidableEq, Repr

/-- What the vector store keeps of a capture. -/
structure DataObject where
  userId : String
  captureId : String
  illuminationId : String
  illuminationText : String
  deriving DecidableEq, Repr

/-- The illumination with the highest id. -/
def newest (illuminations : List Illumination) : Option Illumination :=
  @List.argmax Illumination ℤ Int.instLinearOrder.toPreorder Int.decLt Illumination.id illuminations

/-- The most recent illumination of a capture: the one with the highest
id. -/
def latestIllumination (illuminations : List Illumination) (captureId : ℤ) : Option Illumination :=
  newest (illuminations.filter fun i => i.captureId = captureId)

/-- `InfoMaker::make_capture_info`: only the most recent illumination is
exposed. -/
def makeCaptureInfo (illuminations : List Illumination) (capture : Capture) : CaptureInfo where
  id := capture.id
  userId := capture.userId
  illuminations := (latestIllumination illuminations capture.id).toList

/-- `ServiceApiClient::get_captures`. -/
def getCaptures (captures : List Capture) (illuminations : List Illumination) (ids : List ℤ) :
    List CaptureInfo :=
  (captures.filter fun capture => capture.id ∈ ids).map (makeCaptureInfo illuminations)

/-- `insert_illumination_v2`, one transaction: the row of the run is
replaced, or a new one takes the id the sequence gives it, which no row
has. -/
def insertIlluminationV2 (illuminations : List Illumination) (captureId : ℤ) (taskRunId : String)
    (id : ℤ) (text : String) : Option (List Illumination) :=
  if ∃ i ∈ illuminations, i.taskRunId = taskRunId then
    some (illuminations.map fun i =>
      if i.taskRunId = taskRunId then { i with captureId := captureId, text := text } else i)
  else if ∃ i ∈ illuminations, i.id = id then none
  else some (illuminations ++ [⟨id, captureId, taskRunId, text⟩])

namespace CaptureInfo

/-- The id of the capture's object in the vector store. -/
def dataObjectId (capture : CaptureInfo) : String :=
  "u" ++ toString capture.userId ++ "-c" ++ toString capture.id

/-- `data_object_json`, of the latest illumination. -/
def dataObject (capture : CaptureInfo) : Option DataObject :=
  (newest capture.illuminations).map fun i =>
    ⟨toString capture.userId, toString capture.id, toString i.id, i.text⟩

end CaptureInfo

/-! ## The bodies -/

/-- Where the body of an attempt stands: the statement it runs next. -/
inductive Body
  /-- `get_captures`. -/
  | fetch
  /-- The call of the model. -/
  | illuminate (capture : CaptureInfo)
  | insertRaw (capture : CaptureInfo) (text : String)
  | project (capture : CaptureInfo) (text : String)
  /-- `Beacon::new_illumination`, after `exec` returned `Ok`. -/
  | newIllumination
  /-- Waiting for its follow-up submission. -/
  | submitted (c : ℕ)
  /-- The call of the embedder. -/
  | embed (capture : CaptureInfo)
  | update (capture : CaptureInfo)
  /-- The update of the object found none. -/
  | create (capture : CaptureInfo) (object : DataObject)
  | done (result : Except ApiError Unit)
  deriving DecidableEq

/-- The statements that may fail, `get_captures` aside. -/
def Body.fallible : Body → Bool
  | .illuminate _ | .insertRaw .. | .project .. | .embed _ | .update _ | .create .. => true
  | .fetch | .newIllumination | .submitted _ | .done _ => false

/-- What only the environment knows about the next statement of a body. -/
inductive BodyChoice
  | proceed
  /-- The output of the model. -/
  | output (text : String)
  /-- The id the sequence draws. -/
  | drawn (id : ℤ)
  | failed (err : ApiError)
  /-- A spark attempt ends. -/
  | ended (result : Except ApiError Unit)

/-- What the bodies did, as the history records it: each entry with the
delivery and its run. -/
inductive Access
  | fetch (d : ℕ) (run : TaskRun AnyTask)
  /-- The projection is committed, and leaves the table so. -/
  | commit (d : ℕ) (run : TaskRun AnyTask) (table : List Illumination)
  /-- The follow-up submission is call `c`. -/
  | followUp (d : ℕ) (run : TaskRun AnyTask) (c : ℕ)
  /-- An object is written to the vector store. -/
  | write (d : ℕ) (run : TaskRun AnyTask) (objectId : String)
  /-- The attempt ends, and its result is recorded. -/
  | finish (d : ℕ) (run : TaskRun AnyTask) (result : Except ApiError Unit)

/-- The task machine, the bodies of its attempts, and what these write. -/
structure PipelineState where
  tasks : TaskState AnyTask
  bodies : ℕ → Body
  illuminations : List Illumination
  /-- The vector store. -/
  objects : String → Option DataObject
  /-- Every access so far, oldest first. -/
  log : List Access

namespace PipelineState

/-- Nothing was submitted yet. -/
def start : PipelineState := ⟨TaskState.start [] [], fun _ => .fetch, [], fun _ => none, []⟩

/-- The body of a delivery goes on to its next statement. -/
def goto (s : PipelineState) (d : ℕ) (body : Body) (accesses : List Access) : PipelineState :=
  { s with bodies := Function.update s.bodies d body, log := s.log ++ accesses }

/-- The capture as `get_captures` returns it. -/
def fetchCapture (s : PipelineState) (captures : List Capture) (id : ℤ) : Option CaptureInfo :=
  (getCaptures captures s.illuminations [id]).head?

/-- A `submit_inner` call starts. -/
def invoke (s : PipelineState) (task : AnyTask) (backfillId : Option String) : PipelineState :=
  let call : Call AnyTask := ⟨task, backfillId, .dedup⟩
  let tasks := { s.tasks with calls := s.tasks.calls ++ [call] }.perform
    [.invoke s.tasks.calls.length call.logicalId backfillId]
  { s with tasks := tasks }

/-- `upsert_object_embedding` writes an object. -/
def putObject (s : PipelineState) (objectId : String) (object : DataObject) : PipelineState :=
  { s with objects := Function.update s.objects objectId (some object) }

end PipelineState

namespace IlluminationTask

/-- The task persists a projection, and `Beacon` has it indexed. -/
def Projected (t : IlluminationTask) : Prop :=
  t.persistProjection = true ∧ t.promptVersion = .v2

instance (t : IlluminationTask) : Decidable t.Projected := inferInstanceAs (Decidable (_ ∧ _))

/-- **`illuminate::exec`, then `Beacon::new_illumination`.** -/
def step (captures : List Capture) (s : PipelineState) (d : ℕ) (run : TaskRun AnyTask)
    (t : IlluminationTask) : Body → BodyChoice → Option PipelineState
  | .fetch, .proceed =>
    match s.fetchCapture captures t.captureId with
    | none => some (s.goto d (.done (.error (ApiError.notFound
        ("Capture " ++ toString t.captureId ++ " not found during illumination"))))
        [.fetch d run])
    | some capture => some (s.goto d (.illuminate capture) [.fetch d run])
  | .illuminate capture, .output text => some (s.goto d (.insertRaw capture text) [])
  | .insertRaw capture text, .proceed =>
    some (s.goto d (if t.Projected then .project capture text else .newIllumination) [])
  | .project capture text, .drawn id =>
    (insertIlluminationV2 s.illuminations capture.id run.runId id text).map fun table =>
      { s with illuminations := table }.goto d .newIllumination [.commit d run table]
  | .newIllumination, .proceed =>
    if t.Projected then
      some ((s.invoke (.searchIndex ⟨t.captureId, t.entityOwnerId⟩) run.backfillId).goto
        d (.submitted s.tasks.calls.length) [.followUp d run s.tasks.calls.length])
    else some (s.goto d (.done (.ok ())) [])
  | .submitted c, .proceed =>
    match (s.tasks.calls[c]?).map Call.pc with
    | some (.returned (.ok _)) => some (s.goto d (.done (.ok ())) [])
    | some (.returned (.error err)) =>
      some (s.goto d (.done (.error (ApiError.internal err.message))) [])
    | _ => none
  | _, _ => none

end IlluminationTask

namespace SearchIndexTask

/-- **`search_index::exec`.** -/
def step (captures : List Capture) (s : PipelineState) (d : ℕ) (run : TaskRun AnyTask)
    (t : SearchIndexTask) : Body → BodyChoice → Option PipelineState
  | .fetch, .proceed =>
    match s.fetchCapture captures t.captureId with
    | none => some (s.goto d (.done (.ok ())) [.fetch d run])
    | some capture =>
      if capture.illuminations.isEmpty then
        some (s.goto d (.done (.error (ApiError.internal
          ("capture_id=" ++ toString t.captureId ++ " has no illuminations")))) [.fetch d run])
      else some (s.goto d (.embed capture) [.fetch d run])
  | .embed capture, .proceed => some (s.goto d (.update capture) [])
  | .update capture, .proceed =>
    match capture.dataObject with
    | none => some (s.goto d (.done (.error (ApiError.internal
        "Capture has no illumination, required for embedding"))) [])
    | some object =>
      match s.objects capture.dataObjectId with
      | some _ => some ((s.putObject capture.dataObjectId object).goto d (.done (.ok ()))
          [.write d run capture.dataObjectId])
      | none => some (s.goto d (.create capture object) [])
  | .create capture object, .proceed =>
    match s.objects capture.dataObjectId with
    | none => some ((s.putObject capture.dataObjectId object).goto d (.done (.ok ()))
        [.write d run capture.dataObjectId])
    -- the service reports that the object exists by now
    | some _ => some (s.goto d (.done (.ok ())) [])
  | _, _ => none

end SearchIndexTask

/-- **`spark::exec`**, of which only its first statement shows. -/
def SparkTask.step (s : PipelineState) (d : ℕ) (run : TaskRun AnyTask) :
    Body → BodyChoice → Option PipelineState
  | .fetch, .ended result => some (s.goto d (.done result) [.fetch d run])
  | _, _ => none

/-! ## The system -/

/-- What happens, in any order. -/
inductive PipelineEv
  /-- A step of the task machine. -/
  | task (e : Ev AnyTask)
  /-- The body of a delivery runs its next statement. -/
  | body (d : ℕ) (choice : BodyChoice)

namespace PipelineState

/-- **The next statement of a body.** -/
def bodyStep (captures : List Capture) (s : PipelineState) (d : ℕ) (run : TaskRun AnyTask) :
    BodyChoice → Option PipelineState
  | .failed err =>
    if s.bodies d = .fetch then some (s.goto d (.done (.error err)) [.fetch d run])
    else if (s.bodies d).fallible then some (s.goto d (.done (.error err)) [])
    else none
  | choice =>
    match run.task with
    | .illuminate t => t.step captures s d run (s.bodies d) choice
    | .searchIndex t => t.step captures s d run (s.bodies d) choice
    | .spark _ => SparkTask.step s d run (s.bodies d) choice

/-- An attempt is finished with the result of its body. -/
def finishes (s : PipelineState) : Ev AnyTask → Option (List Access)
  | .delivery d (.finish result _) =>
    if s.bodies d = .done result then
      (s.tasks.deliveries[d]?).map fun delivery => [.finish d delivery.run result]
    else none
  | .delivery .. | .submit .. | .call .. | .accept _ | .deliver _ => some []

variable (captures : List Capture) (m : TaskMaster)

/-- What an event does. A body runs while its attempt does. -/
def step (s : PipelineState) : PipelineEv → Option PipelineState
  | .task e =>
    (s.finishes e).bind fun accesses => (m.step s.tasks e).map fun tasks =>
      { s with tasks := tasks, log := s.log ++ accesses }
  | .body d choice =>
    (s.tasks.deliveries[d]?).bind fun delivery =>
      match delivery.pc with
      | .running _ => s.bodyStep captures d delivery.run choice
      | _ => none

end PipelineState

/-- The pipeline as a transition system. -/
def pipeline (captures : List Capture) (m : TaskMaster) : System PipelineState PipelineEv :=
  ⟨PipelineState.step captures m⟩

/-! ## Schedules -/

namespace PipelineEv

/-- Delivery `d`, of the accepted run `i`, begins an attempt. -/
def begins (i d : ℕ) (now : Timestamp) : List PipelineEv :=
  [.task (.deliver i), .task (.delivery d .read), .task (.delivery d (.write now)),
    .task (.delivery d (.publish none))]

/-- The attempt of delivery `d` succeeds. -/
def succeeds (d : ℕ) (now : Timestamp) : List PipelineEv :=
  [.task (.delivery d (.finish (.ok ()) now)), .task (.delivery d (.publish none))]

/-- An illuminate body commits its projection and submits the follow-up. -/
def projects (d : ℕ) (text : String) (id : ℤ) : List PipelineEv :=
  [.body d .proceed, .body d (.output text), .body d .proceed, .body d (.drawn id),
    .body d .proceed]

/-- Call `c` enqueues its run, which the backend accepts. -/
def enqueues (c i : ℕ) (runId : String) (now : Timestamp) : List PipelineEv :=
  [.task (.call c .read), .task (.call c (.latest runId)),
    .task (.call c (.insert now taskRunKey)), .task (.call c (.publish none)),
    .task (.call c .enqueued), .task (.accept i)]

/-- Call `c` finds the latest run in flight. -/
def refused (c : ℕ) : List PipelineEv :=
  [.task (.call c .read), .task (.call c (.latest "")), .task (.call c .read)]

end PipelineEv

end Dreamscroll
