import Dreamscroll.Common.System
import Dreamscroll.Common.Timeouts
import Dreamscroll.Webui.Page
/-!
# The connection of a page

`setupTaskStatusEvents` of `webui-v2.js`, one task of the browser's event
loop at a time. The page keeps an `EventSource` while its user is active: it
closes it after two minutes without input, or once no heartbeat has come for
fifty seconds, and creates another on the next input.

The browser announces that a source is open, that it lost its connection
and tries again, or that it gave up; it may do so at any time, and it may
run a timeout late. What is said of how long the page waits is said of runs
in which no timeout is late (`Prompt`).
-/

namespace Dreamscroll

namespace TaskStatusEvents

/-- The source is closed after two minutes without input. -/
def activeWindowMs : ℕ := 2 * 60 * 1000

/-- 2.5 heartbeat intervals of twenty seconds. -/
def heartbeatTimeoutMs : ℕ := 50 * 1000

/-- `EventSource.readyState`. -/
inductive ReadyState
  | connecting
  | «open»
  | closed
  deriving DecidableEq

/-- An `EventSource` of the page. -/
structure Source where
  url : EventSource
  readyState : ReadyState
  deriving DecidableEq

/-- The variables that hold timeouts. -/
inductive TimerVar
  | idleTimer
  | foregroundTimer
  | heartbeatTimer
  deriving DecidableEq

instance : Fintype TimerVar where
  elems := {.idleTimer, .foregroundTimer, .heartbeatTimer}
  complete v := by cases v <;> decide

/-- What a timeout runs. -/
inductive Callback
  | idle
  | foreground
  | heartbeat (currentSource : ℕ)
  deriving DecidableEq

/-- The variable that holds a timeout. -/
def Callback.timer : Callback → TimerVar
  | .idle => .idleTimer
  | .foreground => .foregroundTimer
  | .heartbeat _ => .heartbeatTimer

/-- The page, as far as the script keeps it: its timeouts and variables, and
what the browser holds. -/
structure State where
  timeouts : Timeouts TimerVar Callback
  /-- `document.visibilityState` is `hidden`. -/
  hidden : Bool
  cards : List Card
  /-- Every `EventSource` the page created, oldest first. -/
  sources : List Source
  source : Option ℕ
  lastHeartbeatAt : Option ℕ
  lastActivityAt : ℕ
  /-- Whether the indicator is hidden, on a page that has one. -/
  statusIndicator : Option Bool

namespace State

/-- `Date.now()`. -/
def now (s : State) : ℕ := s.timeouts.now

/-- The user was heard of within the window. -/
def isRecentlyActive (s : State) : Bool := s.now - s.lastActivityAt < activeWindowMs

/-- The status indicator, where the page has one, says that the page is
disconnected. -/
def setDisconnected (s : State) (disconnected : Bool) : State :=
  { s with statusIndicator := s.statusIndicator.map fun _ => !disconnected }

/-- `clearTimeout(heartbeatTimer)`. -/
def clearHeartbeatTimer (s : State) : State :=
  { s with timeouts := s.timeouts.clear .heartbeatTimer }

/-- The last heartbeat is too long ago. No heartbeat at all is not. -/
def heartbeatIsStale (s : State) : Bool :=
  match s.lastHeartbeatAt with
  | none => false
  | some heard => heartbeatTimeoutMs ≤ s.now - heard

/-- The browser moves a source on. -/
def setReadyState (s : State) (i : ℕ) (readyState : ReadyState) : State :=
  { s with sources := s.sources.modify i fun source => { source with readyState := readyState } }

/-- The script closes its source and forgets it, with the heartbeat it had. -/
def closeSource (s : State) : State :=
  match s.source with
  | none => s
  | some oldSource =>
    (({ ({ s with source := none }).clearHeartbeatTimer with
      lastHeartbeatAt := none }).setDisconnected true).setReadyState oldSource .closed

/-- `connectNow`, and the handlers it registers are those of `step`. -/
def connectNow (s : State) : State :=
  if s.source.isSome || !s.isRecentlyActive then s
  else { s with
    sources := s.sources ++ [⟨⟨captureIdsForCatchup s.cards⟩, .connecting⟩]
    source := some s.sources.length }

/-- The remaining time is at least 0, as subtraction of naturals is. -/
def armHeartbeatTimeout (s : State) (currentSource : ℕ) : State :=
  let s := s.clearHeartbeatTimer
  let remainingMs := heartbeatTimeoutMs - (s.now - s.lastHeartbeatAt.getD 0)
  { s with timeouts := s.timeouts.set .heartbeatTimer (.heartbeat currentSource) remainingMs }

/-- The user is back: one check is due at once, however often that is said. -/
def handleForeground (s : State) : State :=
  if (s.timeouts.held .foregroundTimer).isSome then s
  else { s with timeouts := s.timeouts.set .foregroundTimer .foreground 0 }

/-- `clearTimeout(idleTimer)`. -/
def clearIdleTimer (s : State) : State := { s with timeouts := s.timeouts.clear .idleTimer }

/-- The timeout that closes the source when the window of activity ends. -/
def armIdleClose (s : State) : State :=
  let s := s.clearIdleTimer
  let idleRemainingMs := activeWindowMs - (s.now - s.lastActivityAt)
  { s with timeouts := s.timeouts.set .idleTimer .idle idleRemainingMs }

/-- A source of the page is in this state. -/
def HasState (s : State) (readyState : ReadyState) (i : ℕ) : Prop :=
  (s.sources[i]?).map Source.readyState = some readyState

instance (s : State) (readyState : ReadyState) (i : ℕ) : Decidable (s.HasState readyState i) :=
  inferInstanceAs (Decidable (_ = _))

/-- A source the page created that is not closed. -/
def IsLive (s : State) (i : ℕ) : Prop := s.HasState .connecting i ∨ s.HasState .open i

instance (s : State) (i : ℕ) : Decidable (s.IsLive i) := inferInstanceAs (Decidable (_ ∨ _))

/-- The current source is open. -/
def isOpen (s : State) : Bool := s.source.any fun i => s.HasState .open i

/-- What `recordActivity` does with the source it finds. -/
def checkSource (s : State) : State :=
  if s.isOpen then if s.heartbeatIsStale then s.closeSource else s.setDisconnected false else s

/-- The user did something: the window starts anew, and the page is connected. -/
def recordActivity (s : State) : State :=
  ({ s with lastActivityAt := s.now }.armIdleClose.checkSource).connectNow

/-! ## What the browser runs -/

/-- The callback of a timeout, which first sets its variable to `null`. -/
def runCallback (s : State) : Callback → State
  | .idle => if s.isRecentlyActive then s.armIdleClose else s.closeSource
  | .foreground => if s.hidden then s else s.recordActivity
  | .heartbeat currentSource =>
    if s.source ≠ some currentSource ∨ ¬ s.HasState .open currentSource then s
    else if s.heartbeatIsStale then s.closeSource.connectNow
    else s.armHeartbeatTimeout currentSource

/-- The `open` event of a source. -/
def onOpen (s : State) (currentSource : ℕ) : State :=
  if s.source ≠ some currentSource then s
  else ({ s.setDisconnected false with
    lastHeartbeatAt := some s.now }.armHeartbeatTimeout currentSource).armIdleClose

/-- The `heartbeat` event of a source. -/
def onHeartbeat (s : State) (currentSource : ℕ) : State :=
  if s.source ≠ some currentSource then s
  else
    let s := { s with lastHeartbeatAt := some s.now }
    (if s.HasState .open currentSource then s.setDisconnected false
      else s).armHeartbeatTimeout currentSource

/-- The `error` event of a source. -/
def onError (s : State) (currentSource : ℕ) : State :=
  if s.source ≠ some currentSource then s
  else if s.HasState .closed currentSource then s.closeSource
  else s.setDisconnected true

end State

/-- What the browser, the server and the user do. -/
inductive Event
  | elapse (ms : ℕ)
  /-- A timeout that is due runs. -/
  | expire (id : ℕ)
  /-- A source is connected. -/
  | opened (i : ℕ)
  | heartbeat (i : ℕ)
  /-- The connection of a source is lost, or not made; the browser retries. -/
  | retried (i : ℕ)
  /-- The browser gives a source up. -/
  | failed (i : ℕ)
  /-- A pointer, key, touch or wheel event, or an upload. -/
  | input
  | visibilityChange (hidden : Bool)
  /-- The window gets the focus, or is shown from the page cache. -/
  | focus
  /-- An upload or a feed reload changes the cards. -/
  | show (cards : List Card)

/-- The user does something, or comes back. The script does not listen to
a page that is hidden. -/
def Event.isInput : Event → Bool
  | .input | .focus | .visibilityChange false => true
  | _ => false

/-- The server is heard. -/
def Event.isHeard : Event → Bool
  | .opened _ | .heartbeat _ => true
  | _ => false

namespace State

/-- **One task of the event loop.** A source that is closed has no more
events. -/
def step (s : State) : Event → Option State
  | .elapse ms => some { s with timeouts := s.timeouts.elapse ms }
  | .expire id => (s.timeouts.expire id).map fun due =>
    ({ s with timeouts := due.2.release due.1.timer }).runCallback due.1
  | .opened i => if s.IsLive i then some ((s.setReadyState i .open).onOpen i) else none
  | .heartbeat i => if s.IsLive i then some (s.onHeartbeat i) else none
  | .retried i => if s.IsLive i then some ((s.setReadyState i .connecting).onError i) else none
  | .failed i => if s.IsLive i then some ((s.setReadyState i .closed).onError i) else none
  | .input => some s.recordActivity
  | .visibilityChange hidden =>
    let s := { s with hidden := hidden }
    some (if hidden then s else s.handleForeground)
  | .focus => some s.handleForeground
  | .show cards => some { s with cards := cards }

/-- The page before `setupTaskStatusEvents` arms and connects. -/
def blank (now : ℕ) (hidden : Bool) (cards : List Card) (statusIndicator : Option Bool) : State where
  timeouts := .start now
  hidden := hidden
  cards := cards
  sources := []
  source := none
  lastHeartbeatAt := none
  lastActivityAt := now
  statusIndicator := statusIndicator

/-- The page once `setupTaskStatusEvents` returned, and whether it has the
indicator, which is hidden at first. -/
def start (now : ℕ) (hidden : Bool) (cards : List Card) (indicator : Bool) : State :=
  (blank now hidden cards (if indicator then some true else none)).armIdleClose.connectNow

end State

/-- The page as a transition system. -/
def system : System State Event := ⟨State.step⟩

/-- How much time an event takes. -/
def Event.ms : Event → ℕ
  | .elapse ms => ms
  | _ => 0

/-- Time does not pass over a timeout that is due. -/
def Prompt (s : State) (e : Event) (_ : State) : Prop :=
  0 < e.ms → ∀ t ∈ s.timeouts.pending, s.now + e.ms ≤ t.due

instance (s : State) (e : Event) (s' : State) : Decidable (Prompt s e s') :=
  inferInstanceAs (Decidable (_ → _))

variable {s s' : State} {readyState readyState' : ReadyState} {i j : ℕ} {e : Event}
variable {t : Timeout Callback} {ts : Timeouts TimerVar Callback}

/-! ## The sources -/

/-- A source is in one state at a time. -/
theorem hasState_unique (h : s.HasState readyState i) (h' : s.HasState readyState' i) :
    readyState = readyState' := Option.some.inj (h.symm.trans h')

/-- Setting the state of one source leaves the others. -/
theorem hasState_of_setReadyState (h : (s.setReadyState i readyState).HasState readyState' j) :
    i ≠ j ∧ s.HasState readyState' j ∨ i = j ∧ readyState' = readyState := by
  unfold State.HasState State.setReadyState at h
  by_cases hij : i = j
  · subst hij
    rw [List.getElem?_modify_eq, Option.map_eq_map, Option.map_map] at h
    obtain ⟨source, -, heq⟩ := Option.map_eq_some_iff.1 h
    exact Or.inr ⟨rfl, heq.symm⟩
  · rw [List.getElem?_modify_ne _ _ hij] at h
    exact Or.inl ⟨hij, h⟩

/-- A live source takes the state the browser gives it. -/
theorem hasState_setReadyState (h : s.IsLive i) :
    (s.setReadyState i readyState).HasState readyState i := by
  unfold State.HasState State.setReadyState
  have hsource : ∃ source, s.sources[i]? = some source := by
    rcases h with h | h <;>
    · obtain ⟨source, hsource, -⟩ := Option.map_eq_some_iff.1 h
      exact ⟨source, hsource⟩
  obtain ⟨source, hsource⟩ := hsource
  rw [List.getElem?_modify_eq, hsource]
  rfl

/-- A source that was just created is connecting. -/
theorem hasState_concat {source : Source} {s' : State} (h : s'.sources = s.sources ++ [source]) :
    s'.HasState readyState j ↔
      s.HasState readyState j ∨ j = s.sources.length ∧ source.readyState = readyState := by
  unfold State.HasState
  rw [h]
  rcases Nat.lt_trichotomy j s.sources.length with hlt | rfl | hgt
  · rw [List.getElem?_append_left hlt]
    refine ⟨Or.inl, ?_⟩
    rintro (hold | ⟨rfl, -⟩)
    · exact hold
    · exact absurd hlt (lt_irrefl _)
  · rw [List.getElem?_concat_length, List.getElem?_eq_none le_rfl]
    simp
  · rw [List.getElem?_eq_none (by rw [List.length_append, List.length_singleton]; omega),
      List.getElem?_eq_none (by omega)]
    simp only [Option.map_none, false_or, reduceCtorEq, false_iff, not_and]
    intro hj
    omega

/-! ## What the variables say -/

/-- The timeout that will close the source is pending. -/
def State.HasIdle (s : State) : Prop := ∃ t ∈ s.timeouts.pending, t.callback = .idle

/-- What holds between any two calls of a handler. -/
structure Base (s : State) : Prop where
  owned : s.timeouts.Owned Callback.timer
  activity_le : s.lastActivityAt ≤ s.now
  heard_le : ∀ heard, s.lastHeartbeatAt = some heard → heard ≤ s.now
  current : ∀ i, s.IsLive i → s.source = some i
  ofSource : ∀ t ∈ s.timeouts.pending, ∀ i, t.callback = .heartbeat i → s.source = some i
  foreground_due : ∀ t ∈ s.timeouts.pending, t.callback = .foreground → t.due ≤ s.now
  dark : s.source = none → s.statusIndicator ≠ some true

/-- And the indicator tells what the current source does. -/
structure Shown (s : State) : Prop extends Base s where
  live : ∀ i, s.source = some i → s.IsLive i
  lit : ∀ i, s.HasState .open i → s.statusIndicator ≠ some false
  unlit : ∀ i, s.source = some i → ¬ s.HasState .open i → i ≠ 0 → s.statusIndicator ≠ some true

/-- **What holds between any two tasks**: an open source is watched for its
heartbeats, and any source for the user's activity. -/
structure Inv (s : State) : Prop extends Shown s where
  beating : ∀ i, s.HasState .open i → ∃ heard, s.lastHeartbeatAt = some heard ∧
    ∃ t ∈ s.timeouts.pending, t.callback = .heartbeat i ∧ t.due = heard + heartbeatTimeoutMs
  idling : s.source.isSome → s.HasIdle

/-- Without a current source no source of the page is live. -/
theorem Base.not_isLive (h : Base s) (hnone : s.source = none) : ¬ s.IsLive i := by
  intro hi
  have hcurrent := h.current i hi
  rw [hnone] at hcurrent
  cases hcurrent

/-- Nothing more is asked of a page without a source. -/
theorem Base.inv_of_none (h : Base s) (hnone : s.source = none) : Inv s where
  toBase := h
  live i hi := by rw [hnone] at hi; cases hi
  lit i hi := absurd (Or.inr hi) (h.not_isLive hnone)
  unlit i hi := by rw [hnone] at hi; cases hi
  beating i hi := absurd (Or.inr hi) (h.not_isLive hnone)
  idling hi := by rw [hnone] at hi; cases hi

/-- The base facts survive a change of the timers, given where the new ones
come from. -/
theorem Base.withTimeouts (h : Base s) (howned : ts.Owned Callback.timer) (hnow : ts.now = s.now)
    (hpending : ∀ t ∈ ts.pending, t ∈ s.timeouts.pending ∨
      (∀ i, t.callback = .heartbeat i → s.source = some i) ∧
      (t.callback = .foreground → t.due ≤ s.now)) :
    Base { s with timeouts := ts } where
  owned := howned
  activity_le := h.activity_le.trans_eq hnow.symm
  heard_le heard hheard := (h.heard_le heard hheard).trans_eq hnow.symm
  current := h.current
  ofSource t ht i hi := by
    rcases hpending t ht with hold | ⟨hnew, -⟩
    · exact h.ofSource t hold i hi
    · exact hnew i hi
  foreground_due t ht hi := by
    rcases hpending t ht with hold | ⟨-, hnew⟩
    · exact (h.foreground_due t hold hi).trans_eq hnow.symm
    · exact (hnew hi).trans_eq hnow.symm
  dark := h.dark

/-- Clearing a timer keeps the base facts. -/
theorem Base.clear (h : Base s) (v : TimerVar) :
    Base { s with timeouts := s.timeouts.clear v } :=
  h.withTimeouts h.owned.clear Timeouts.now_clear fun _ ht => Or.inl (h.owned.mem_clear.1 ht).1

/-- Arming a timer keeps the base facts: a heartbeat timer watches the current
source, and the foreground timer is due at once. -/
theorem Base.arm (h : Base s) (callback : Callback) (delay : ℕ)
    (hsource : ∀ i, callback = .heartbeat i → s.source = some i)
    (hdelay : callback = .foreground → delay = 0) :
    Base { s with timeouts := s.timeouts.arm callback.timer callback delay } := by
  refine h.withTimeouts h.owned.arm Timeouts.now_clear fun t ht => ?_
  rcases h.owned.mem_arm.1 ht with ⟨hold, -⟩ | rfl
  · exact Or.inl hold
  · refine Or.inr ⟨hsource, fun hi => ?_⟩
    rw [hdelay hi]
    exact le_rfl

/-- A timeout of another variable stays. -/
theorem Base.hasIdle_arm (h : Base s) (callback : Callback) {delay : ℕ} (hidle : s.HasIdle)
    (hne : callback.timer ≠ .idleTimer) :
    ∃ t ∈ (s.timeouts.arm callback.timer callback delay).pending, t.callback = .idle := by
  obtain ⟨t, ht, hcallback⟩ := hidle
  refine ⟨t, h.owned.mem_arm.2 (Or.inl ⟨ht, fun heq => hne ?_⟩), hcallback⟩
  rw [← heq, hcallback]
  rfl

/-- A change of the current source's state keeps the base facts. -/
theorem Base.setReadyState (h : Base s) (hsource : s.source = some i) (readyState : ReadyState) :
    Base (s.setReadyState i readyState) where
  owned := h.owned
  activity_le := h.activity_le
  heard_le := h.heard_le
  current j hj := by
    have hcases : i = j ∨ s.IsLive j := by
      rcases hj with hj | hj <;> rcases hasState_of_setReadyState hj with ⟨-, hj⟩ | ⟨rfl, -⟩
      · exact Or.inr (Or.inl hj)
      · exact Or.inl rfl
      · exact Or.inr (Or.inr hj)
      · exact Or.inl rfl
    rcases hcases with rfl | hlive
    · exact hsource
    · exact h.current j hlive
  ofSource := h.ofSource
  foreground_due := h.foreground_due
  dark := h.dark

/-! ## Closing and connecting -/

/-- What closing does to a page with a source, read off the script. -/
theorem closeSource_eq (h : s.source = some i) : s.closeSource =
    { s with
      source := none
      timeouts := s.timeouts.clear .heartbeatTimer
      lastHeartbeatAt := none
      statusIndicator := s.statusIndicator.map fun _ => false
      sources := s.sources.modify i fun source => { source with readyState := .closed } } := by
  unfold State.closeSource
  rw [h]
  rfl

/-- After closing there is no current source. -/
theorem closeSource_source : s.closeSource.source = none := by
  cases h : s.source with
  | none => rw [State.closeSource, h]; exact h
  | some i => rw [closeSource_eq h]

/-- **A page without a source owes nothing**, so closing the source keeps
everything. The source may have been closed by the browser before. -/
theorem Base.closeSource (h : Base s) : Inv s.closeSource := by
  cases hsource : s.source with
  | none =>
    rw [State.closeSource, hsource]
    exact h.inv_of_none hsource
  | some i =>
    have hbase : Base s.closeSource := by
      rw [closeSource_eq hsource]
      refine { (h.clear .heartbeatTimer) with
        heard_le := (fun _ hi => by cases hi), current := fun j hj => ?_,
        ofSource := fun t ht j hj => ?_,
        dark := fun _ => by cases s.statusIndicator <;> simp }
      · -- the source that was current is closed, no other is live
        have hlive : i ≠ j ∧ s.IsLive j := by
          rcases hj with hj | hj <;>
          · rcases hasState_of_setReadyState hj
              with ⟨hne, hj⟩ | ⟨-, hj⟩
            · exact ⟨hne, by first | exact Or.inl hj | exact Or.inr hj⟩
            · cases hj
        have hcurrent := h.current j hlive.2
        rw [hsource] at hcurrent
        exact absurd (Option.some.inj hcurrent) hlive.1
      · have hne := (h.owned.mem_clear.1 ht).2
        rw [hj] at hne
        exact absurd rfl hne
    exact hbase.inv_of_none closeSource_source

/-- Closing the source does not disarm the idle timer. -/
theorem Base.hasIdle_closeSource (h : Base s) (hidle : s.HasIdle) : s.closeSource.HasIdle := by
  cases hsource : s.source with
  | none => rwa [State.closeSource, hsource]
  | some i =>
    rw [closeSource_eq hsource]
    obtain ⟨t, ht, hcallback⟩ := hidle
    refine ⟨t, h.owned.mem_clear.2 ⟨ht, ?_⟩, hcallback⟩
    rw [hcallback]
    decide

/-- What connecting does to a recently active page without a source: the ids
for the catch-up are taken from the cards shown then. -/
theorem connectNow_eq (hnone : s.source = none) (hactive : s.isRecentlyActive = true) :
    s.connectNow =
      { s with
        sources := s.sources ++ [⟨⟨captureIdsForCatchup s.cards⟩, .connecting⟩]
        source := some s.sources.length } := by
  unfold State.connectNow
  rw [hnone, hactive]
  rfl

/-- Connecting does nothing, or the page had no source and was recently
active. -/
theorem connectNow_cases : s.connectNow = s ∨ s.source = none ∧ s.isRecentlyActive = true := by
  unfold State.connectNow
  cases hsource : s.source <;> cases hactive : s.isRecentlyActive <;> simp

/-- A page that is watched for activity may connect. -/
theorem Inv.connectNow (h : Inv s) (hidle : s.HasIdle) : Inv s.connectNow := by
  rcases connectNow_cases (s := s) with heq | ⟨hnone, hactive⟩
  · rwa [heq]
  · rw [connectNow_eq hnone hactive]
    have hclosed : ∀ i, ¬ s.HasState .open i := fun i hi => h.not_isLive hnone (Or.inr hi)
    have hopen : ∀ i, ¬ State.HasState { s with
        sources := s.sources ++ [⟨⟨captureIdsForCatchup s.cards⟩, .connecting⟩]
        source := some s.sources.length } .open i := by
      intro i hi
      rcases (hasState_concat (s := s) rfl).1 hi with hi | ⟨-, hi⟩
      · exact hclosed i hi
      · cases hi
    exact {
      owned := h.owned
      activity_le := h.activity_le
      heard_le := h.heard_le
      current := fun i hi => by
        rcases hi with hi | hi
        · rcases (hasState_concat (s := s) rfl).1 hi with hi | ⟨rfl, -⟩
          · exact absurd (Or.inl hi) (h.not_isLive hnone)
          · rfl
        · exact absurd hi (hopen i)
      ofSource := fun t ht i hi => by
        have hcurrent := h.ofSource t ht i hi
        rw [hnone] at hcurrent
        cases hcurrent
      foreground_due := h.foreground_due
      dark := fun hn => by cases hn
      live := fun i hi => by
        cases hi
        exact Or.inl ((hasState_concat (s := s) rfl).2 (Or.inr ⟨rfl, rfl⟩))
      lit := fun i hi => absurd hi (hopen i)
      unlit := fun _ _ _ _ => h.dark hnone
      beating := fun i hi => absurd hi (hopen i)
      idling := fun _ => hidle }

/-- A recently active page that connects has a source. -/
theorem source_connectNow (hactive : s.isRecentlyActive = true) :
    s.connectNow.source.isSome = true := by
  unfold State.connectNow
  cases hsource : s.source <;> simp [hactive, hsource]

/-! ## Arming -/

/-- The idle timer is armed for what is left of the active window. -/
theorem armIdleClose_eq : s.armIdleClose =
    { s with
      timeouts := s.timeouts.arm .idleTimer .idle
        (activeWindowMs - (s.now - s.lastActivityAt)) } := by
  unfold State.armIdleClose State.clearIdleTimer State.now
  simp only [Timeouts.now_clear]
  rfl

/-- The heartbeat timer is armed for what is left since the last heartbeat. -/
theorem armHeartbeatTimeout_eq : s.armHeartbeatTimeout i =
    { s with
      timeouts := s.timeouts.arm .heartbeatTimer (.heartbeat i)
        (heartbeatTimeoutMs - (s.now - s.lastHeartbeatAt.getD 0)) } := by
  unfold State.armHeartbeatTimeout State.clearHeartbeatTimer State.now
  simp only [Timeouts.now_clear]
  rfl

/-- A page is recently active at the time of an input. -/
theorem isRecentlyActive_armIdleClose (h : s.lastActivityAt = s.now) :
    s.armIdleClose.isRecentlyActive = true := by
  have hnow : s.armIdleClose.now = s.now := by
    rw [armIdleClose_eq]
    exact Timeouts.now_clear
  have hactivity : s.armIdleClose.lastActivityAt = s.lastActivityAt := rfl
  rw [State.isRecentlyActive, hnow, hactivity, h, Nat.sub_self]
  rfl

/-- Arming the idle timer leaves it armed. -/
theorem Base.hasIdle_armIdleClose (h : Base s) : s.armIdleClose.HasIdle := by
  rw [armIdleClose_eq]
  exact ⟨_, h.owned.mem_arm.2 (Or.inr rfl), rfl⟩

/-- Rearming the idle timer keeps the invariant, and nothing else depends on
when it is due. -/
theorem Inv.armIdleClose (h : Inv s) : Inv s.armIdleClose := by
  have hidle := h.hasIdle_armIdleClose
  rw [armIdleClose_eq] at hidle ⊢
  refine { (h.arm .idle _ (fun _ hi => by cases hi) fun hi => by cases hi) with
    live := h.live, lit := h.lit, unlit := h.unlit, beating := fun i hi => ?_,
    idling := fun _ => hidle }
  obtain ⟨heard, hheard, t, ht, hcallback, hdue⟩ := h.beating i hi
  refine ⟨heard, hheard, t, h.owned.mem_arm.2 (Or.inl ⟨ht, ?_⟩), hcallback, hdue⟩
  intro hi
  rw [hcallback] at hi
  cases hi

/-- **Arming the heartbeat timeout watches the current source**, from when
it was last heard. -/
theorem Shown.armHeartbeatTimeout (h : Shown s) (hsource : s.source = some i) (hidle : s.HasIdle)
    {heard : ℕ} (hheard : s.lastHeartbeatAt = some heard)
    (hle : s.now ≤ heard + heartbeatTimeoutMs) : Inv (s.armHeartbeatTimeout i) := by
  have hgetD : s.lastHeartbeatAt.getD 0 = heard := by rw [hheard]; rfl
  rw [armHeartbeatTimeout_eq, hgetD]
  have hbase := h.arm (.heartbeat i) (heartbeatTimeoutMs - (s.now - heard))
    (fun j hj => by rw [hsource, Callback.heartbeat.inj hj]) fun hi => by cases hi
  refine { hbase with
    live := h.live, lit := h.lit, unlit := h.unlit, beating := fun j hj => ?_,
    idling := fun _ => h.hasIdle_arm (.heartbeat i) hidle fun hi => by cases hi }
  have hcurrent := h.current j (Or.inr hj)
  rw [hsource] at hcurrent
  refine ⟨heard, hheard, _, h.owned.mem_arm.2 (Or.inr rfl), ?_, ?_⟩
  · rw [Option.some.inj hcurrent]
  · have hpast := h.heard_le heard hheard
    change s.timeouts.now + (heartbeatTimeoutMs - (s.now - heard)) = _
    unfold State.now at hpast hle ⊢
    omega

/-! ## The handlers -/

/-- The script's check for an open source, unfolded. -/
theorem isOpen_eq_true : s.isOpen = true ↔ ∃ i, s.source = some i ∧ s.HasState .open i := by
  unfold State.isOpen
  cases s.source with
  | none => simp
  | some i => simp

/-- The indicator may say that an open source is connected. -/
theorem Inv.connected (h : Inv s) (hopen : s.HasState .open i) : Inv (s.setDisconnected false) where
  owned := h.owned
  activity_le := h.activity_le
  heard_le := h.heard_le
  current := h.current
  ofSource := h.ofSource
  foreground_due := h.foreground_due
  dark hnone := absurd (Or.inr hopen) (h.not_isLive hnone)
  live := h.live
  lit _ _ := by
    change (s.statusIndicator.map fun _ => true) ≠ _
    cases s.statusIndicator <;> simp
  unlit j hj hclosed := by
    have hcurrent := h.current i (Or.inr hopen)
    rw [show s.source = some j from hj] at hcurrent
    exact absurd (Option.some.inj hcurrent ▸ hopen) hclosed
  beating := h.beating
  idling := h.idling

/-- The check on coming to the foreground keeps the invariant and the idle
timer. -/
theorem Inv.checkSource (h : Inv s) (hidle : s.HasIdle) :
    Inv s.checkSource ∧ s.checkSource.HasIdle := by
  unfold State.checkSource
  split_ifs with hopen hstale
  · exact ⟨h.closeSource, h.hasIdle_closeSource hidle⟩
  · obtain ⟨i, -, hi⟩ := isOpen_eq_true.1 hopen
    exact ⟨h.connected hi, hidle⟩
  · exact ⟨h, hidle⟩

/-- **Activity** keeps what holds between tasks. -/
theorem Inv.recordActivity (h : Inv s) : Inv s.recordActivity := by
  have hnow : Inv { s with lastActivityAt := s.now } := { h with activity_le := le_rfl }
  obtain ⟨hinv, hidle⟩ := hnow.armIdleClose.checkSource hnow.hasIdle_armIdleClose
  exact hinv.connectNow hidle

/-- An input on a page without a source creates one, for the cards shown. -/
theorem recordActivity_of_none (hnone : s.source = none) :
    s.recordActivity.sources = s.sources ++ [⟨⟨captureIdsForCatchup s.cards⟩, .connecting⟩] ∧
      s.recordActivity.source = some s.sources.length := by
  have hcheck : { s with lastActivityAt := s.now }.armIdleClose.checkSource =
      { s with lastActivityAt := s.now }.armIdleClose := by
    rw [armIdleClose_eq, State.checkSource, State.isOpen, hnone]
    rfl
  have hnone' : { s with lastActivityAt := s.now }.armIdleClose.source = none := hnone
  rw [State.recordActivity, hcheck, connectNow_eq hnone' (isRecentlyActive_armIdleClose rfl)]
  exact ⟨rfl, rfl⟩

/-- The debounced foreground handler keeps the invariant. -/
theorem Inv.handleForeground (h : Inv s) : Inv s.handleForeground := by
  unfold State.handleForeground
  split_ifs with hheld
  · exact h
  · have hnone : s.timeouts.held .foregroundTimer = none := by simpa using hheld
    have heq : s.timeouts.set .foregroundTimer .foreground 0 =
        s.timeouts.arm Callback.foreground.timer .foreground 0 := by
      rw [Timeouts.arm, Callback.timer, Timeouts.clear_of_none hnone]
    rw [heq]
    refine { (h.arm .foreground 0 (fun _ hi => by cases hi) fun _ => rfl) with
      live := h.live, lit := h.lit, unlit := h.unlit, beating := fun i hi => ?_,
      idling := fun hi => h.hasIdle_arm .foreground (h.idling hi) fun hi => by cases hi }
    obtain ⟨heard, hheard, t, ht, hcallback, hdue⟩ := h.beating i hi
    refine ⟨heard, hheard, t, h.owned.mem_arm.2 (Or.inl ⟨ht, ?_⟩), hcallback, hdue⟩
    intro hi
    rw [hcallback] at hi
    cases hi

/-- The timer of a callback that runs is let go; nothing else is, so what
needs only the other timers is kept. -/
theorem Inv.release_foreground (h : Inv s) :
    Inv { s with timeouts := s.timeouts.clear .foregroundTimer } := by
  refine { (h.clear .foregroundTimer) with
    live := h.live, lit := h.lit, unlit := h.unlit, beating := fun i hi => ?_,
    idling := fun hi => ?_ }
  · obtain ⟨heard, hheard, t, ht, hcallback, hdue⟩ := h.beating i hi
    refine ⟨heard, hheard, t, h.owned.mem_clear.2 ⟨ht, ?_⟩, hcallback, hdue⟩
    intro hi
    rw [hcallback] at hi
    cases hi
  · obtain ⟨t, ht, hcallback⟩ := h.idling hi
    refine ⟨t, h.owned.mem_clear.2 ⟨ht, ?_⟩, hcallback⟩
    intro hi
    rw [hcallback] at hi
    cases hi

/-- A source that is not open is not watched for heartbeats. -/
theorem Inv.release_heartbeat (h : Inv s) (hclosed : ∀ i, ¬ s.HasState .open i) :
    Inv s.clearHeartbeatTimer := by
  refine { (h.clear .heartbeatTimer) with
    live := h.live, lit := h.lit, unlit := h.unlit,
    beating := fun i hi => absurd hi (hclosed i), idling := fun hi => ?_ }
  obtain ⟨t, ht, hcallback⟩ := h.idling hi
  refine ⟨t, h.owned.mem_clear.2 ⟨ht, ?_⟩, hcallback⟩
  intro hi
  rw [hcallback] at hi
  cases hi

/-- **A timeout that is due** keeps what holds between tasks: it finds the
source it was armed for. -/
theorem Inv.runCallback (h : Inv s) (ht : t ∈ s.timeouts.pending) :
    Inv (({ s with timeouts := s.timeouts.clear t.callback.timer } : State).runCallback
      t.callback) := by
  cases hcallback : t.callback with
  | idle =>
    change Inv (State.runCallback { s with timeouts := s.timeouts.clear .idleTimer } .idle)
    unfold State.runCallback
    dsimp only
    split_ifs with hactive
    · have heq : State.armIdleClose { s with timeouts := s.timeouts.clear .idleTimer } =
          s.armIdleClose := by
        simp only [armIdleClose_eq, State.now, Timeouts.now_clear, Timeouts.arm_clear]
      rw [heq]
      exact h.armIdleClose
    · exact (h.clear .idleTimer).closeSource
  | foreground =>
    change Inv (State.runCallback { s with timeouts := s.timeouts.clear .foregroundTimer }
      .foreground)
    unfold State.runCallback
    dsimp only
    split_ifs with hhidden
    · exact h.release_foreground
    · exact h.release_foreground.recordActivity
  | heartbeat i =>
    have hsource := h.ofSource t ht i hcallback
    have hidle : s.clearHeartbeatTimer.HasIdle := by
      obtain ⟨t, ht, hidle⟩ := h.idling (by rw [hsource]; rfl)
      refine ⟨t, h.owned.mem_clear.2 ⟨ht, ?_⟩, hidle⟩
      intro hi
      rw [hidle] at hi
      cases hi
    change Inv (s.clearHeartbeatTimer.runCallback (.heartbeat i))
    unfold State.runCallback
    dsimp only
    split_ifs with hother hstale
    · refine h.release_heartbeat fun j hj => ?_
      have hcurrent := h.current j (Or.inr hj)
      rcases hother with hne | hclosed
      · exact hne hsource
      · rw [hsource] at hcurrent
        exact hclosed (Option.some.inj hcurrent ▸ hj)
    · -- the server has been silent for too long: another source
      have hclosed := (h.clear .heartbeatTimer).closeSource
      exact hclosed.connectNow ((h.clear .heartbeatTimer).hasIdle_closeSource hidle)
    · have heq : s.clearHeartbeatTimer.armHeartbeatTimeout i = s.armHeartbeatTimeout i := by
        simp only [armHeartbeatTimeout_eq, State.clearHeartbeatTimer, State.now,
          Timeouts.now_clear, Timeouts.arm_clear]
      rw [heq]
      have hopen : s.HasState .open i := by
        by_contra hclosed
        exact hother (Or.inr hclosed)
      obtain ⟨heard, hheard, -⟩ := h.beating i hopen
      refine h.toShown.armHeartbeatTimeout hsource (h.idling (by rw [hsource]; rfl)) hheard ?_
      unfold State.heartbeatIsStale State.clearHeartbeatTimer State.now at hstale
      simp only [hheard, Timeouts.now_clear, decide_eq_true_eq] at hstale
      unfold State.now
      omega

/-! ## The events of a source -/

/-- A source the page has just heard from is open, and shown to be. -/
theorem Inv.opened (h : Inv s) (hlive : s.IsLive i) : Inv ((s.setReadyState i .open).onOpen i) := by
  have hsource := h.current i hlive
  have hguard : ¬ (s.setReadyState i .open).source ≠ some i := fun hne => hne hsource
  unfold State.onOpen
  rw [if_neg hguard]
  refine Inv.armIdleClose (Shown.armHeartbeatTimeout ?_ hsource
    (h.idling (by rw [hsource]; rfl)) rfl (Nat.le_add_right _ _))
  have hopen : (s.setReadyState i .open).HasState .open i := hasState_setReadyState hlive
  refine { (h.setReadyState hsource .open) with
    heard_le := fun heard hheard => ?_, dark := fun hnone => ?_, live := fun j hj => ?_,
    lit := fun _ _ => ?_, unlit := fun j hj hclosed => ?_ }
  · cases hheard
    exact le_rfl
  · rw [show s.source = none from hnone] at hsource
    cases hsource
  · rw [show s.source = some j from hj] at hsource
    cases hsource
    exact Or.inr hopen
  · change (s.statusIndicator.map fun _ => true) ≠ _
    cases s.statusIndicator <;> simp
  · rw [show s.source = some j from hj] at hsource
    cases hsource
    exact absurd hopen hclosed

/-- A heartbeat of a live source keeps the invariant: it is the current one,
so the time of the heartbeat and its timer are its own. -/
theorem Inv.heartbeat (h : Inv s) (hlive : s.IsLive i) : Inv (s.onHeartbeat i) := by
  have hsource := h.current i hlive
  have hidle := h.idling (by rw [hsource]; rfl)
  have hheard : Shown { s with lastHeartbeatAt := some s.now } :=
    { h.toShown with heard_le := fun heard hheard => by cases hheard; exact le_rfl }
  unfold State.onHeartbeat
  rw [if_neg (fun hne => hne hsource)]
  dsimp only
  split_ifs with hopen
  · -- as for a source that was open already, before it was heard again
    have hconnected := (h.connected hopen).toShown
    refine Shown.armHeartbeatTimeout ?_ hsource hidle rfl (Nat.le_add_right _ _)
    exact { hconnected with heard_le := hheard.heard_le }
  · exact hheard.armHeartbeatTimeout hsource hidle rfl (Nat.le_add_right _ _)

/-- A source whose connection is retried is shown as disconnected. -/
theorem onError_retried (hsource : s.source = some i) (hlive : s.IsLive i) :
    (s.setReadyState i .connecting).onError i =
      (s.setReadyState i .connecting).setDisconnected true := by
  have hguard : ¬ (s.setReadyState i .connecting).source ≠ some i := fun hne => hne hsource
  have hnotClosed : ¬ (s.setReadyState i .connecting).HasState .closed i := by
    intro hclosed
    cases hasState_unique (hasState_setReadyState hlive) hclosed
  unfold State.onError
  rw [if_neg hguard, if_neg hnotClosed]

/-- An error after which the browser reconnects by itself keeps the invariant. -/
theorem Inv.retried (h : Inv s) (hlive : s.IsLive i) :
    Inv ((s.setReadyState i .connecting).onError i) := by
  have hsource := h.current i hlive
  have hstate : (s.setReadyState i .connecting).HasState .connecting i :=
    hasState_setReadyState hlive
  rw [onError_retried hsource hlive]
  have hbase := h.setReadyState hsource .connecting
  have hopen : ∀ j, ¬ (s.setReadyState i .connecting).HasState .open j := by
    intro j hj
    have hcurrent := hbase.current j (Or.inr hj)
    rw [show s.source = some j from hcurrent] at hsource
    cases hsource
    cases hasState_unique hstate hj
  refine { hbase with
    dark := fun hnone => ?_, live := fun j hj => ?_, lit := fun j hj => absurd hj (hopen j),
    unlit := fun _ _ _ _ => ?_, beating := fun j hj => absurd hj (hopen j),
    idling := h.idling }
  · rw [show s.source = none from hnone] at hsource
    cases hsource
  · rw [show s.source = some j from hj] at hsource
    cases hsource
    exact Or.inl hstate
  · change (s.statusIndicator.map fun _ => false) ≠ _
    cases s.statusIndicator <;> simp

/-- An error that ends the source keeps the invariant: the script drops the
source. -/
theorem Inv.failed (h : Inv s) (hlive : s.IsLive i) :
    Inv ((s.setReadyState i .closed).onError i) := by
  have hsource := h.current i hlive
  have hguard : ¬ (s.setReadyState i .closed).source ≠ some i := fun hne => hne hsource
  unfold State.onError
  rw [if_neg hguard, if_pos (hasState_setReadyState hlive)]
  exact (h.setReadyState hsource .closed).closeSource

/-! ## Every run -/

/-- **What holds between tasks is kept by every task.** -/
theorem inv_step (h : Inv s) (hstep : system.step s e = some s') : Inv s' := by
  change s.step e = some s' at hstep
  cases e with
  | elapse ms =>
    cases hstep
    exact { h with
      owned := h.owned.elapse
      activity_le := h.activity_le.trans (Nat.le_add_right _ _)
      heard_le := fun heard hheard => (h.heard_le heard hheard).trans (Nat.le_add_right _ _)
      foreground_due := fun t ht hi => (h.foreground_due t ht hi).trans (Nat.le_add_right _ _) }
  | expire id =>
    obtain ⟨⟨callback, ts⟩, hexpire, rfl⟩ := Option.map_eq_some_iff.1 hstep
    have hrelease := h.owned.release_expire hexpire
    obtain ⟨t, ht, -, -, rfl, -⟩ := Timeouts.expire_eq_some hexpire
    dsimp only
    rw [hrelease]
    exact h.runCallback ht
  | opened i =>
    simp only [State.step] at hstep
    split_ifs at hstep with hlive
    cases hstep
    exact h.opened hlive
  | heartbeat i =>
    simp only [State.step] at hstep
    split_ifs at hstep with hlive
    cases hstep
    exact h.heartbeat hlive
  | retried i =>
    simp only [State.step] at hstep
    split_ifs at hstep with hlive
    cases hstep
    exact h.retried hlive
  | failed i =>
    simp only [State.step] at hstep
    split_ifs at hstep with hlive
    cases hstep
    exact h.failed hlive
  | input =>
    cases hstep
    exact h.recordActivity
  | visibilityChange hidden =>
    simp only [State.step, Option.some.injEq] at hstep
    have hhidden : Inv { s with hidden := hidden } := { h with }
    subst hstep
    split_ifs
    · exact hhidden
    · exact hhidden.handleForeground
  | focus =>
    cases hstep
    exact h.handleForeground
  | «show» cards =>
    cases hstep
    exact { h with }

variable {now : ℕ} {hidden indicator : Bool} {cards : List Card} {es : List Event}

/-- The page as the script leaves it once it has loaded: one source,
connecting, and the idle timer. -/
theorem start_eq {shown : Option Bool} :
    (State.blank now hidden cards shown).armIdleClose.connectNow =
      { State.blank now hidden cards shown with
        timeouts := (Timeouts.start now).arm .idleTimer .idle (activeWindowMs - (now - now))
        sources := [⟨⟨captureIdsForCatchup cards⟩, .connecting⟩]
        source := some 0 } := by
  rw [connectNow_eq rfl (isRecentlyActive_armIdleClose rfl), armIdleClose_eq]
  rfl

/-- The invariant holds when the page has loaded. -/
theorem inv_start : Inv (State.start now hidden cards indicator) := by
  have hbase : Base (State.blank now hidden cards none) := {
    owned := Timeouts.owned_start
    activity_le := le_rfl
    heard_le := fun _ hi => by cases hi
    current := fun i hi => by rcases hi with hi | hi <;> cases hi
    ofSource := fun t ht => absurd ht List.not_mem_nil
    foreground_due := fun t ht => absurd ht List.not_mem_nil
    dark := fun _ hi => by cases hi }
  have hinv : Inv (State.blank now hidden cards none).armIdleClose.connectNow :=
    (hbase.inv_of_none rfl).armIdleClose.connectNow hbase.hasIdle_armIdleClose
  rw [start_eq] at hinv
  unfold State.start
  rw [start_eq]
  -- only the indicator differs, and it may be hidden for the first source
  refine { hinv with
    dark := (fun hn => by cases hn), lit := fun i hi => ?_, unlit := fun i hi _ hne => ?_ }
  · have hcurrent : some 0 = some i := hinv.current i (Or.inr hi)
    cases hcurrent
    exact absurd (show some ReadyState.connecting = some ReadyState.open from hi) (by decide)
  · cases hi
    exact absurd rfl hne

/-- The invariant holds after every sequence of events. -/
theorem inv_run (h : system.run (State.start now hidden cards indicator) es = some s) : Inv s :=
  System.run_inv (fun _ _ _ => inv_step) inv_start h

/-- **A page's connection is in order**: the current source is the only one
that is not closed, every timeout that is pending is the one its variable
names, a source is always watched for the user's activity and an open one
for its heartbeats, and the indicator is hidden only for an open source, or
the page's first. -/
structure Sound (s : State) : Prop where
  isLive_iff : ∀ i, s.IsLive i ↔ s.source = some i
  timeouts_le : s.timeouts.pending.length ≤ 3
  held : ∀ t ∈ s.timeouts.pending, s.timeouts.held t.callback.timer = some t.id
  current : ∀ t ∈ s.timeouts.pending, ∀ i, t.callback = .heartbeat i → s.source = some i
  idle : ∀ i, s.IsLive i → ∃ t ∈ s.timeouts.pending, t.callback = .idle
  heartbeat : ∀ i, s.HasState .open i → ∃ heard ≤ s.now, s.lastHeartbeatAt = some heard ∧
    ∃ t ∈ s.timeouts.pending, t.callback = .heartbeat i ∧ t.due = heard + heartbeatTimeoutMs
  shown : ∀ i, s.HasState .open i → s.statusIndicator ≠ some false
  hidden : s.statusIndicator = some true → s.source ≠ none ∧ (s.source = some 0 ∨ s.isOpen = true)

/-- **Whatever the browser reports, and however late its timeouts run.** -/
theorem connection_sound (h : system.run (State.start now hidden cards indicator) es = some s) :
    Sound s := by
  have hinv := inv_run h
  refine ⟨fun i => ⟨hinv.current i, hinv.live i⟩, hinv.owned.length_le, hinv.owned.held_id,
    hinv.ofSource, fun i hi => ?_, fun i hi => ?_, hinv.lit, fun hhidden => ?_⟩
  · have hsource := hinv.current i hi
    exact hinv.idling (by rw [hsource]; rfl)
  · obtain ⟨heard, hheard, hpending⟩ := hinv.beating i hi
    exact ⟨heard, hinv.heard_le heard hheard, hheard, hpending⟩
  · refine ⟨fun hnone => hinv.dark hnone hhidden, ?_⟩
    cases hsource : s.source with
    | none => exact absurd hhidden (hinv.dark hsource)
    | some i =>
      by_cases hopen : s.HasState .open i
      · exact Or.inr (isOpen_eq_true.2 ⟨i, hsource, hopen⟩)
      · refine Or.inl (congrArg some ?_)
        by_contra hne
        exact hinv.unlit i hsource hopen hne hhidden

/-- A source opens and is heard, its connection is lost and made again, it
falls silent, and the timeout replaces it. -/
def replacedSchedule : List Event :=
  [.elapse 90, .opened 0, .elapse 20000, .heartbeat 0, .retried 0, .opened 0, .input,
    .elapse heartbeatTimeoutMs, .expire 4]

/-- The page after that. -/
def replaced : State :=
  (system.run (State.start 0 false [] true) replacedSchedule).get (by decide)

/-- A page that lost its source and made another. -/
theorem connection_sound_replaced : Sound replaced :=
  connection_sound (Option.some_get _).symm

end TaskStatusEvents

end Dreamscroll
