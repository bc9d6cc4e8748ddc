import Dreamscroll.Common.Broadcast
import Dreamscroll.Common.System
import Dreamscroll.Sse.Event
/-!
# The HTTP event stream

`make_sse_stream` and the frames a browser receives. The stream is the
catch-up events chained to an unfold loop; the loop looks at the shutdown
flag, then waits in a `select!` of four branches, of which any that is
ready may be taken. One step of the model is one poll that gets somewhere:
a catch-up event, the look at the flag, or a branch.
-/

namespace Dreamscroll

/-- A point of the monotonic clock. -/
abbrev Instant := ℕ

/-! ## Frames

`rfc3339` is how a timestamp is written. -/

/-- One frame of the HTTP SSE stream: a payload or a liveness tick. -/
inductive HttpStreamItem
  | heartbeat
  | taskStatus (update : TaskStatusUpdate)
  deriving DecidableEq, Repr

/-- `TaskRunStatusWire`. -/
def TaskRunStatus.toJson (status : TaskRunStatus) : Json :=
  .obj [("name", .str status.asStr), ("discriminant", .int status.asI32)]

section Wire

variable (rfc3339 : Timestamp → String)

/-- The derived `Serialize` of a payload: an absent option is left out. -/
def TaskStatusPayload.toJson (payload : TaskStatusPayload) : Json :=
  .obj <|
    [("task_type", .str payload.taskType), ("status", payload.status.toJson),
      ("logical_id", .str payload.logicalId), ("run_id", .str payload.runId),
      ("run_number", .int payload.runNumber), ("attempts", .int payload.attempts)] ++
    (payload.processingStartedAt.map fun started =>
      ("processing_started_at", Json.str (rfc3339 started))).toList ++
    (payload.estimatedDurationMsP50.map fun estimate =>
      ("estimated_duration_ms_p50", Json.int estimate)).toList

/-- The notification form, which keeps the routing field. -/
def TaskStatusUpdate.toJson (update : TaskStatusUpdate) : Json :=
  .obj <|
    [("schema_version", .int update.schemaVersion), ("event_type", .str "task_status"),
      ("timestamp", .str (rfc3339 update.timestamp)), ("entity_type", .str update.entityType),
      ("entity_id", .int update.entityId)] ++
    (update.entityOwnerId.map fun owner => ("entity_owner_id", Json.int owner)).toList ++
    [("payload", update.payload.toJson rfc3339)]

/-- `filtered_json`: the same envelope minus the routing field. -/
def filteredJson (update : TaskStatusUpdate) : Json :=
  { update with entityOwnerId := none }.toJson rfc3339

/-- A frame: the name it is dispatched under, and its data. -/
structure SseFrame where
  event : String
  data : Json

/-- The frame a browser is sent. -/
def HttpStreamItem.frame : HttpStreamItem → SseFrame
  | .taskStatus update => ⟨"task-status", filteredJson rfc3339 update⟩
  | .heartbeat => ⟨"heartbeat", .int 1⟩

end Wire

/-! ## The stream -/

/-- Where the unfold loop stands. -/
inductive LoopPhase
  /-- Before its look at the shutdown flag. -/
  | check
  /-- In the `select!`. -/
  | select
  | ended
  deriving DecidableEq, Repr

/-- A stream, as far as its generator is. -/
structure SseStream (χ : Type) where
  /-- The catch-up events not yet yielded. -/
  catchup : List TaskStatusUpdate
  phase : LoopPhase
  rx : χ
  userId : ℤ
  shutdown : Watch
  deadline : Instant
  nextHeartbeat : Instant
  heartbeatInterval : ℕ

/-- A branch of the `select!`. -/
inductive Wake
  | deadline
  | heartbeat
  | shutdown
  | received
  deriving DecidableEq, Repr

variable {χ : Type}

/-- `make_sse_stream`: the catch-up first, then the loop. -/
def makeSseStream (userId : ℤ) (catchup : Option (List TaskStatusUpdate)) (rx : χ)
    (shutdown : Watch) (deadline : Instant) (heartbeatInterval : ℕ) (now : Instant) :
    SseStream χ where
  catchup := catchup.getD []
  phase := .check
  rx := rx
  userId := userId
  shutdown := shutdown
  deadline := deadline
  nextHeartbeat := now + heartbeatInterval
  heartbeatInterval := heartbeatInterval

namespace SseStream

/-- The generator has returned. -/
def ended (st : SseStream χ) : SseStream χ := { st with phase := .ended }

/-- The catch-up events, one by one; then the look at the shutdown flag. -/
def next (st : SseStream χ) : Option (SseStream χ × Option HttpStreamItem) :=
  match st.phase, st.catchup with
  | .check, update :: rest => some ({ st with catchup := rest }, some (.taskStatus update))
  | .check, [] =>
    if st.shutdown.value then some (st.ended, none) else some ({ st with phase := .select }, none)
  | _, _ => none

/-- A branch of the `select!` is taken. -/
def wake (B : Broadcast TaskStatusUpdate χ) (now : Instant) (st : SseStream χ) :
    Wake → Option (SseStream χ × Option HttpStreamItem)
  | .deadline => if st.deadline ≤ now then some (st.ended, none) else none
  | .heartbeat =>
    if st.nextHeartbeat ≤ now then
      some ({ st with nextHeartbeat := now + st.heartbeatInterval, phase := .check },
        some .heartbeat)
    else none
  | .shutdown =>
    match st.shutdown.changed with
    | none => none
    | some (.error _, _) => some (st.ended, none)
    | some (.ok _, shutdown) =>
      if shutdown.value then some (st.ended, none)
      else some ({ st with shutdown := shutdown, phase := .check }, none)
  | .received =>
    match B.recv st.rx with
    | none => none
    | some (.ok event, rx) =>
      -- this connection only carries its own user
      if event.entityOwnerId = some st.userId then
        some ({ st with rx := rx, phase := .check }, some (.taskStatus event))
      else some ({ st with rx := rx, phase := .check }, none)
    | some (.lagged _, _) => some (st.ended, none)
    | some (.closed, _) => some (st.ended, none)

end SseStream

/-! ## The stream among its surroundings -/

/-- A stream and what happens around it. -/
structure StreamState (χ : Type) where
  now : Instant
  stream : SseStream χ
  /-- What was broadcast since the subscription. -/
  sent : List TaskStatusUpdate
  /-- What the stream has yielded. -/
  items : List HttpStreamItem

/-- What happens, in any order. -/
inductive StreamEv
  /-- An event is broadcast. -/
  | send (event : TaskStatusUpdate)
  /-- The last broadcast sender is dropped. -/
  | close
  | setShutdown (value : Bool)
  | dropShutdown
  | elapse (ticks : ℕ)
  | next
  | wake (branch : Wake)

namespace StreamState

/-- The state right after `make_sse_stream`, which may have been called
some time after the subscription. -/
def start (B : Broadcast TaskStatusUpdate χ) (now : Instant) (stream : SseStream χ) :
    StreamState χ :=
  ⟨now, stream, B.unread stream.rx, []⟩

/-- The generator went on, and may have yielded. -/
def yielded (s : StreamState χ) (next : SseStream χ × Option HttpStreamItem) : StreamState χ :=
  { s with stream := next.1, items := s.items ++ next.2.toList }

/-- An event is broadcast to the stream. -/
def broadcast (B : Broadcast TaskStatusUpdate χ) (s : StreamState χ) (event : TaskStatusUpdate) :
    StreamState χ :=
  { s with
    stream := { s.stream with rx := B.send s.stream.rx event }
    sent := s.sent ++ [event] }

/-- What an event does to the stream. -/
def step (B : Broadcast TaskStatusUpdate χ) (s : StreamState χ) : StreamEv → Option (StreamState χ)
  | .send event => some (s.broadcast B event)
  | .close => some { s with stream := { s.stream with rx := B.close s.stream.rx } }
  | .setShutdown value =>
    some { s with stream := { s.stream with shutdown := s.stream.shutdown.send value } }
  | .dropShutdown =>
    some { s with stream := { s.stream with shutdown := s.stream.shutdown.dropSender } }
  | .elapse ticks => some { s with now := s.now + ticks }
  | .next => s.stream.next.map s.yielded
  | .wake branch =>
    if s.stream.phase = .select then (s.stream.wake B s.now branch).map s.yielded else none

/-- The stream as a transition system. -/
def system (B : Broadcast TaskStatusUpdate χ) : System (StreamState χ) StreamEv := ⟨step B⟩

end StreamState

end Dreamscroll
