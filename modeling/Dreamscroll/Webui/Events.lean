import Dreamscroll.Common.ParseInt
import Dreamscroll.Sse.Http
import Dreamscroll.Task.StatusCatchup
import Dreamscroll.Task.Tracker
/-!
# The `/events` route

`r_events::get` for the connections of one user, over the `task_runs` table
and the notifications of its changes. A status write commits its row; the
row is published some time later, and what is published reaches the
receivers that are subscribed then. The handler subscribes, reads the
catch-up, and hands both to the stream.
-/

namespace Dreamscroll

/-! ## The catch-up parameter -/

/-- `MAX_CATCHUP_ENTITIES`: each id becomes a bind parameter. -/
def maxCatchupEntities : ℕ := 200

/-- Why a `capture_ids` value is a bad request. -/
inductive CatchupParamError
  | invalid (value : String) (error : ParseIntError)
  | notPositive
  | tooMany
  deriving DecidableEq, Repr

/-- The text of the error; `debug` is how a string is quoted. -/
def CatchupParamError.message (debug : String → String) : CatchupParamError → String
  | invalid value error => "invalid capture_ids value " ++ debug value ++ ": " ++ error.message
  | notPositive => "capture_ids must contain positive IDs"
  | tooMany => "capture_ids accepts at most " ++ toString maxCatchupEntities ++ " IDs"

/-- An id is added where it is new. -/
def addId (ids : List ℤ) (id : ℤ) : List ℤ := if id ∈ ids then ids else ids ++ [id]

@[simp] theorem mem_addId {ids : List ℤ} {id x : ℤ} : x ∈ addId ids id ↔ x ∈ ids ∨ x = id := by
  unfold addId
  split
  · rename_i hid
    constructor
    · exact Or.inl
    · rintro (h | rfl)
      · exact h
      · exact hid
  · rw [List.mem_append, List.mem_singleton]

/-- The loop over the values, with the ids so far. -/
def parseIds : List ℤ → List (List Char) → Except CatchupParamError (List ℤ)
  | ids, [] => .ok ids
  | ids, value :: rest =>
    match parseI32 value with
    | .error error => .error (.invalid (String.ofList value) error)
    | .ok id =>
      if id ≤ 0 then .error .notPositive
      else if maxCatchupEntities < (addId ids id).length then .error .tooMany
      else parseIds (addId ids id) rest

/-- `parse_capture_ids`. -/
def parseCaptureIds : Option String → Except CatchupParamError (List ℤ)
  | none => .ok []
  | some raw => if raw = "" then .ok [] else parseIds [] (raw.toList.splitOn ',')

/-! ## The connections of one user -/

/-- A committed row, as its statement returned it. -/
structure Commit where
  row : TaskRunModel
  /-- Whether a stream of the user was open. -/
  streamOpen : Bool

/-- The connection of a page, as far as its handler is. -/
inductive Conn (χ : Type)
  | closed
  /-- Subscribed, the catch-up not yet read. -/
  | subscribed (captureIds : List ℤ) (rx : χ)
  /-- The response streams; `catchup` is `none` where nothing was read. -/
  | streaming (captureIds : List ℤ) (catchup : Option (List TaskStatusUpdate)) (st : StreamState χ)

/-- The table, what is published of it, and the connection of one page. -/
structure EventsState (χ : Type) where
  /-- The table. -/
  rows : List TaskRunModel
  /-- Committed rows that have not reached the broadcast channel. -/
  outbox : List TaskRunModel
  /-- Every commit, oldest first. -/
  commits : List Commit
  conn : Conn χ

/-- An event of the server side; `T` is the type of the tasks run. -/
inductive EventsEv (T : Type)
  /-- `insert_run` commits. -/
  | insert (run : TaskRun T) (now : Timestamp)
  /-- The update of `write_status` commits. -/
  | write (w : StatusWrite)
  /-- A committed row is published, and the event reaches the channel. -/
  | publish (i : ℕ) (estimate : Option TaskTimingEstimate)
  /-- A request arrives; the handler subscribes. -/
  | get (captureIds : Option String)
  /-- The handler reads the catch-up and starts the stream; `none` where
  the query failed. -/
  | catchup (estimates : Option (String → Option TaskTimingEstimate)) (shutdown : Watch)
      (deadline : Instant) (heartbeatInterval : ℕ) (now : Instant)
  /-- Anything else that happens to the stream. -/
  | stream (e : StreamEv)
  /-- The connection is lost. -/
  | hangUp

variable {χ T : Type}

namespace Conn

/-- The response has not ended. -/
def isOpen : Conn χ → Bool
  | closed => false
  | subscribed .. => true
  | streaming _ _ st => st.stream.phase ≠ .ended

/-- An event reaches the receiver, if there is one. -/
def broadcast (B : Broadcast TaskStatusUpdate χ) (event : TaskStatusUpdate) : Conn χ → Conn χ
  | closed => closed
  | subscribed ids rx => subscribed ids (B.send rx event)
  | streaming ids catchup st => streaming ids catchup (st.broadcast B event)

end Conn

namespace EventsState

/-- Nothing has happened yet. -/
def start : EventsState χ := ⟨[], [], [], .closed⟩

/-- The table after a commit of `row`. -/
def commit (s : EventsState χ) (rows : List TaskRunModel) (row : TaskRunModel) : EventsState χ :=
  { s with
    rows := rows
    outbox := s.outbox ++ [row]
    commits := s.commits ++ [⟨row, s.conn.isOpen⟩] }

/-- `catchup_or_skip`, and no query where no ids were given. -/
def readCatchup (s : EventsState χ) (userId : ℤ) (captureIds : List ℤ)
    (estimates : Option (String → Option TaskTimingEstimate)) : Option (List TaskStatusUpdate) :=
  if captureIds = [] then none
  else estimates.map fun estimates =>
    StatusCatchup.events s.rows estimates userId "capture" captureIds

variable [Task T]

/-- What an event does. -/
def step (B : Broadcast TaskStatusUpdate χ) (userId : ℤ) (s : EventsState χ) :
    EventsEv T → Option (EventsState χ)
  | .insert run now =>
    if violatedKeys s.rows (queuedRow run now) = [] then
      some (s.commit (s.rows ++ [queuedRow run now]) (queuedRow run now))
    else none
  | .write w =>
    match w.returning s.rows with
    | some row => some (s.commit (w.apply s.rows) row)
    | none => some s
  | .publish i estimate => (s.outbox[i]?).map fun row =>
      let s := { s with outbox := s.outbox.eraseIdx i }
      match TaskStatusUpdate.fromRow row estimate with
      | some event => { s with conn := s.conn.broadcast B event }
      | none => s
  | .get captureIds =>
    if s.conn.isOpen then none
    else match parseCaptureIds captureIds with
      | .ok ids => some { s with conn := .subscribed ids B.subscribe }
      | .error _ => some { s with conn := .closed }
  | .catchup estimates shutdown deadline heartbeatInterval now =>
    match s.conn with
    | .subscribed ids rx =>
      let catchup := s.readCatchup userId ids estimates
      some { s with conn := .streaming ids catchup (.start B now
        (makeSseStream userId catchup rx shutdown deadline heartbeatInterval now)) }
    | _ => none
  | .stream e =>
    match e, s.conn with
    | .send _, _ => none
    | _, .streaming ids catchup st =>
      ((StreamState.system B).step st e).map fun st =>
        { s with conn := .streaming ids catchup st }
    | _, _ => none
  | .hangUp => some { s with conn := .closed }

/-- The route as a transition system. -/
def system (T : Type) [Task T] (B : Broadcast TaskStatusUpdate χ) (userId : ℤ) :
    System (EventsState χ) (EventsEv T) := ⟨step B userId⟩

end EventsState

end Dreamscroll
