import Dreamscroll.Common.JsNumber
import Dreamscroll.Common.System
import Mathlib.Logic.Function.Basic
/-!
# The progress of a capture's task in the page

`setupTaskProgress` of the web client. A map holds one state object for each
capture whose task is followed; an object may have an interval that moves its
progress bar and a timeout that hides its message. Both are closures over the
object, so a timer may outlive the place of its object in the map: objects
are references here, and timers name theirs.
-/

namespace Dreamscroll

namespace Progress

/-! ## Objects, timers and cards -/

/-- The state object of a capture. Its two numbers are `null` at first, which
computes as zero. -/
structure TaskState where
  percent : JsNumber
  status : Option String
  processingStartedAt : ℤ
  estimatedDurationMs : JsNumber
  progressTimer : Option ℕ
  hideTimer : Option ℕ
  deriving DecidableEq, Repr

/-- A new object, which knows the status of its run alone. -/
def TaskState.new (status : Option String) : TaskState :=
  ⟨.finite 0, status, 0, .finite 0, none, none⟩

/-- A timer with the capture and the object its closure holds. -/
structure Timer where
  id : ℕ
  captureId : String
  ref : ℕ
  deriving DecidableEq, Repr

/-- `bar.style.width`. -/
inductive Width
  | empty
  | percent (p : JsNumber)
  | undefined
  deriving DecidableEq, Repr

/-- The `[data-capture-task-progress]` element of a card. -/
structure Indicator where
  hidden : Bool
  isIndeterminate : Bool
  isMessageOnly : Bool
  width : Width
  text : String
  deriving DecidableEq, Repr

/-- The element as it is rendered by the server. -/
def Indicator.rendered : Indicator := ⟨true, false, false, .empty, "Preparing illumination..."⟩

/-- The closure of `setupTaskProgress`, the timers of the window and the
cards of the document. -/
structure Page where
  states : List (String × ℕ)
  objects : ℕ → TaskState
  nextRef : ℕ
  intervals : List Timer
  timeouts : List Timer
  nextTimer : ℕ
  cards : String → Option Indicator

/-- The page before any call, with its cards as the server rendered them. -/
def Page.start (rendered : String → Bool) : Page :=
  ⟨[], fun _ => TaskState.new none, 0, [], [], 1,
    fun captureId => if rendered captureId then some Indicator.rendered else none⟩

namespace Page

/-- `states.get(captureId)`. -/
def stateOf (s : Page) (captureId : String) : Option ℕ :=
  (s.states.find? fun entry => entry.1 = captureId).map Prod.snd

/-- Assigns to fields of a state object. -/
def modify (s : Page) (ref : ℕ) (f : TaskState → TaskState) : Page :=
  { s with objects := Function.update s.objects ref (f (s.objects ref)) }

/-- `states.set(captureId, state)` of a new object. -/
def addState (s : Page) (captureId : String) (status : Option String) : Page :=
  { s with
    states := s.states ++ [(captureId, s.nextRef)]
    objects := Function.update s.objects s.nextRef (TaskState.new status)
    nextRef := s.nextRef + 1 }

/-- `states.delete(captureId)`. -/
def deleteState (s : Page) (captureId : String) : Page :=
  { s with states := s.states.filter fun entry => entry.1 ≠ captureId }

/-- The card of the capture is changed, where there is one. -/
def updateCard (s : Page) (captureId : String) (f : Indicator → Indicator) : Page :=
  { s with cards := Function.update s.cards captureId ((s.cards captureId).map f) }

/-- The browser's `clearInterval`. -/
def clearInterval (s : Page) (id : ℕ) : Page :=
  { s with intervals := s.intervals.filter fun t => t.id ≠ id }

/-- And its `clearTimeout`. -/
def clearTimeout (s : Page) (id : ℕ) : Page :=
  { s with timeouts := s.timeouts.filter fun t => t.id ≠ id }

/-! ## The functions of the script -/

/-- `show`: the indicator is seen, with this label and bar. A bar that moves
by itself has no width. -/
def «show» (s : Page) (captureId : String) (label : String) (indeterminate showBar : Bool)
    (percent : Option JsNumber) : Page :=
  s.updateCard captureId fun _ =>
    { hidden := false
      isIndeterminate := indeterminate
      isMessageOnly := !showBar
      width := if indeterminate then .empty else (percent.map Width.percent).getD .undefined
      text := label }

/-- `stopTimer`: the interval the object knows is cleared. -/
def stopTimer (s : Page) (ref : ℕ) : Page :=
  match (s.objects ref).progressTimer with
  | some id => (s.clearInterval id).modify ref fun state => { state with progressTimer := none }
  | none => s

/-- `window.setTimeout` of `hideSoon`. -/
def setHideTimer (s : Page) (captureId : String) (ref : ℕ) : Page :=
  { s with
    timeouts := s.timeouts ++ [⟨s.nextTimer, captureId, ref⟩]
    nextTimer := s.nextTimer + 1
    objects := Function.update s.objects ref
      { s.objects ref with hideTimer := some s.nextTimer } }

/-- `hideSoon`: the indicator will be hidden, and a timeout that was to hide
it is cleared. -/
def hideSoon (s : Page) (captureId : String) (ref : ℕ) : Page :=
  let s := s.stopTimer ref
  let s := match (s.objects ref).hideTimer with
    | some id => s.clearTimeout id
    | none => s
  s.setHideTimer captureId ref

/-- The callback of the timeout of `hideSoon`. -/
def hide (s : Page) (captureId : String) : Page :=
  (s.updateCard captureId fun card => { card with hidden := true, isIndeterminate := false })
    |>.deleteState captureId

/-- `formatDuration`: whole seconds, and one at least. -/
def formatDuration (durationMs : JsNumber) : String :=
  (JsNumber.max (.finite 1) (JsNumber.ceil (durationMs.scale (1 / 1000)))).text ++ "s"

/-- `estimatedProgressLabel`: the time that is left, as long as it looks like
enough. -/
def estimatedProgressLabel (state : TaskState) (elapsed : ℚ) : String :=
  let ratio := JsNumber.div elapsed state.estimatedDurationMs
  if ratio.le (9 / 10) then
    "Illuminating (est. " ++ formatDuration (state.estimatedDurationMs.sub elapsed) ++ ")"
  else if ratio.le (12 / 10) then "Illuminating..."
  else "Illuminating (longer than est.)..."

/-- `Math.max(0, Date.now() - state.processingStartedAt)`. -/
def elapsed (state : TaskState) (now : ℤ) : ℚ := (max 0 (now - state.processingStartedAt) : ℤ)

/-- The callback `update` of `animateEstimatedProgress`. -/
def update (s : Page) (captureId : String) (ref : ℕ) (now : ℤ) : Page :=
  let s := s.modify ref fun state =>
    let ratio := JsNumber.div (elapsed state now) state.estimatedDurationMs
    { state with percent := JsNumber.max state.percent (JsNumber.min 90 (ratio.scale 100)) }
  s.show captureId (estimatedProgressLabel (s.objects ref) (elapsed (s.objects ref) now)) false true
    (some (s.objects ref).percent)

/-- `window.setInterval` of `animateEstimatedProgress`. -/
def setProgressTimer (s : Page) (captureId : String) (ref : ℕ) : Page :=
  { s with
    intervals := s.intervals ++ [⟨s.nextTimer, captureId, ref⟩]
    nextTimer := s.nextTimer + 1
    objects := Function.update s.objects ref
      { s.objects ref with progressTimer := some s.nextTimer } }

/-- `animateEstimatedProgress`: the bar is drawn, and an interval draws it
again. -/
def animateEstimatedProgress (s : Page) (captureId : String) (ref : ℕ) (now : ℤ) : Page :=
  if (s.objects ref).processingStartedAt = 0 ∨ (s.objects ref).estimatedDurationMs.falsy then s
  else ((s.stopTimer ref).update captureId ref now).setProgressTimer captureId ref

/-- `renderState`: the indicator shows what is known of the run. -/
def renderState (now : ℤ) (s : Page) (entry : String × ℕ) : Page :=
  let captureId := entry.1
  let ref := entry.2
  let state := s.objects ref
  if state.status = some "queued" then
    s.show captureId "Queued for illumination..." true false none
  else if state.status = some "in_progress" then
    if state.estimatedDurationMs.positive then
      if state.progressTimer = none then s.animateEstimatedProgress captureId ref now
      else s.show captureId (estimatedProgressLabel state (elapsed state now)) false true
        (some state.percent)
    else s.show captureId "Illuminating..." true true none
  else if state.status = some "error_will_retry" then
    s.show captureId "Retrying illumination..." true false none
  else if state.status = some "complete_failure" then
    s.show captureId "Illumination failed." false false none
  else s

/-- `dreamscrollTaskProgress.start`. -/
def startTask (s : Page) (captureId : String) (now : ℤ) : Page :=
  match s.stateOf captureId with
  | some ref => s.renderState now (captureId, ref)
  | none =>
    (s.addState captureId (some "queued")).show captureId "Queued for illumination..." true false
      none

end Page

/-- What `accept` reads of an update: the id as a string, `none` where it is
undefined, and `Date.parse` of the start, `none` where that is `NaN`. -/
structure Update where
  entityId : Option String
  name : Option String
  processingStartedAt : Option ℤ
  estimatedDurationMsP50 : Option ℤ
  deriving DecidableEq, Repr

/-- `Date.parse(..) || Date.now()`. -/
def Update.startedAt (u : Update) (now : ℤ) : ℤ :=
  match u.processingStartedAt with
  | some t => if t = 0 then now else t
  | none => now

/-- The two fields `accept` assigns for a run in progress. -/
def TaskState.began (u : Update) (now : ℤ) (state : TaskState) : TaskState :=
  { state with
    processingStartedAt := u.startedAt now
    estimatedDurationMs := JsNumber.ofField u.estimatedDurationMsP50 }

namespace Page

/-- The branches of `accept`, for the object it has found or made. -/
def acceptStatus (s : Page) (captureId : String) (ref : ℕ) (u : Update) (now : ℤ) : Page :=
  let s := s.modify ref fun state => { state with status := u.name }
  if u.name = some "queued" then s.show captureId "Queued for illumination..." true false none
  else if u.name = some "in_progress" then
    let s := s.modify ref (TaskState.began u now)
    if (s.objects ref).estimatedDurationMs.isFinite ∧ (s.objects ref).estimatedDurationMs.positive
    then s.animateEstimatedProgress captureId ref now
    else s.show captureId "Illuminating..." true true none
  else if u.name = some "error_will_retry" then
    (s.stopTimer ref).show captureId "Retrying illumination..." true false none
  else if u.name = some "complete_success" then
    ((s.stopTimer ref).updateCard captureId fun card =>
      { card with hidden := true, isIndeterminate := false, isMessageOnly := false })
      |>.deleteState captureId
  else if u.name = some "complete_failure" then
    ((s.stopTimer ref).show captureId "Illumination failed." false false none).hideSoon captureId
      ref
  else s

/-- `dreamscrollTaskProgress.accept`. -/
def accept (s : Page) (u : Update) (now : ℤ) : Page :=
  match u.entityId with
  | none => s
  | some captureId =>
    match s.stateOf captureId with
    | some ref => s.acceptStatus captureId ref u now
    | none =>
      if u.name = some "queued" ∨ u.name = some "in_progress" ∨ u.name = some "error_will_retry" then
        (s.addState captureId none).acceptStatus captureId s.nextRef u now
      else s

/-- `dreamscrollTaskProgress.refresh`. -/
def refresh (s : Page) (now : ℤ) : Page := s.states.foldl (renderState now) s

end Page

/-! ## Events -/

/-- What happens in the page, each with what `Date.now()` says then. -/
inductive Event
  | start (captureId : String) (now : ℤ)
  | accept (u : Update) (now : ℤ)
  | refresh (now : ℤ)
  | tick (t : Timer) (now : ℤ)
  | fire (t : Timer)
  /-- A swap puts a card into the document or takes it out. -/
  | swap (captureId : String) (rendered : Bool)
  deriving DecidableEq, Repr

/-- What an event does. A timer that was cleared never runs. -/
def step (s : Page) : Event → Option Page
  | .start captureId now => some (s.startTask captureId now)
  | .accept u now => some (s.accept u now)
  | .refresh now => some (s.refresh now)
  | .tick t now => if t ∈ s.intervals then some (s.update t.captureId t.ref now) else none
  | .fire t =>
    if t ∈ s.timeouts then some ((s.clearTimeout t.id).hide t.captureId) else none
  | .swap captureId rendered =>
    let card := if rendered then some Indicator.rendered else none
    some { s with cards := Function.update s.cards captureId card }

/-- The page as a system. -/
def system : System Page Event := ⟨step⟩

end Progress

end Dreamscroll
