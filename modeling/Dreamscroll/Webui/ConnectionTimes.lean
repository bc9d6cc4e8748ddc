import Dreamscroll.Webui.Connection
/-!
# How long a page stays connected

When no timeout is late, a page whose user is idle has closed its source
within `activeWindowMs`, and one that no longer hears the server has given
its source up within `heartbeatTimeoutMs`. What each task does to the clock,
the two times it is compared with and the timeouts that are pending is said
once (`Moves`); the results follow from that.
-/

namespace Dreamscroll

namespace TaskStatusEvents

variable {s s' s'' : State} {readyState : ReadyState} {i : ℕ} {e : Event} {t : Timeout Callback}
variable {input heard : Prop}

/-! ## What a task does -/

/-- **A task that takes no time.** It takes in the user's activity only if
there was an input, and the server's only if that was heard. -/
structure Moves (input heard : Prop) (s s' : State) : Prop where
  now_eq : s'.now = s.now
  activity_le : s.lastActivityAt ≤ s'.lastActivityAt
  activity : s'.lastActivityAt = s.lastActivityAt ∨ input ∧ s'.lastActivityAt = s.now
  heartbeat : s'.lastHeartbeatAt = s.lastHeartbeatAt ∨ s'.lastHeartbeatAt = none ∨
    heard ∧ s'.lastHeartbeatAt = some s.now
  /-- Only a page that was active connects. -/
  connects : s'.source.isSome → s.source.isSome ∨ s.now ≤ s'.lastActivityAt + activeWindowMs
  pending : ∀ t ∈ s'.timeouts.pending, t ∈ s.timeouts.pending ∨ s.now ≤ t.due ∧
    (t.callback = .foreground → input) ∧
    (t.callback = .idle → t.due ≤ max s.now (s'.lastActivityAt + activeWindowMs) ∧
      (s.source.isSome ∨ s.now ≤ s'.lastActivityAt + activeWindowMs))

namespace Moves

/-- What neither the clock nor the timeouts are concerned with. -/
theorem of_eq (htimeouts : s'.timeouts = s.timeouts)
    (hactivity : s'.lastActivityAt = s.lastActivityAt)
    (hheartbeat : s'.lastHeartbeatAt = s.lastHeartbeatAt) (hsource : s'.source = s.source) :
    Moves input heard s s' where
  now_eq := congrArg Timeouts.now htimeouts
  activity_le := hactivity.ge
  activity := Or.inl hactivity
  heartbeat := Or.inl hheartbeat
  connects hsome := Or.inl (hsource ▸ hsome)
  pending _ ht := Or.inl (htimeouts ▸ ht)

/-- A handler that does nothing moves nothing. -/
theorem refl : Moves input heard s s := of_eq rfl rfl rfl rfl

/-- Moves of the two halves of a handler are a move of the handler. -/
theorem trans (h : Moves input heard s s') (h' : Moves input heard s' s'') :
    Moves input heard s s'' := by
  have hle := h'.activity_le
  have hnow := h.now_eq
  refine ⟨h'.now_eq.trans hnow, h.activity_le.trans hle, ?_, ?_, fun hsome => ?_, fun t ht => ?_⟩
  · rcases h'.activity with heq | ⟨hinput, heq⟩
    · rw [heq]
      exact h.activity
    · exact Or.inr ⟨hinput, heq.trans hnow⟩
  · rcases h'.heartbeat with heq | heq | ⟨hheard, heq⟩
    · rw [heq]
      exact h.heartbeat
    · exact Or.inr (Or.inl heq)
    · exact Or.inr (Or.inr ⟨hheard, by rw [heq, hnow]⟩)
  · rcases h'.connects hsome with hsome' | hawake
    · rcases h.connects hsome' with hold | hawake
      · exact Or.inl hold
      · exact Or.inr (by omega)
    · exact Or.inr (by omega)
  · rcases h'.pending t ht with hold | ⟨hdue, hforeground, hidle⟩
    · rcases h.pending t hold with hold | ⟨hdue, hforeground, hidle⟩
      · exact Or.inl hold
      · refine Or.inr ⟨hdue, hforeground, fun hi => ?_⟩
        obtain ⟨hmax, hawake⟩ := hidle hi
        refine ⟨by omega, ?_⟩
        rcases hawake with hsome | hawake
        · exact Or.inl hsome
        · exact Or.inr (by omega)
    · refine Or.inr ⟨by omega, hforeground, fun hi => ?_⟩
      obtain ⟨hmax, hawake⟩ := hidle hi
      refine ⟨by omega, ?_⟩
      rcases hawake with hsome | hawake
      · rcases h.connects hsome with hold | hawake
        · exact Or.inl hold
        · exact Or.inr (by omega)
      · exact Or.inr (by omega)

/-- Clearing a timer only takes a pending callback away. -/
theorem clear (v : TimerVar) :
    Moves input heard s { s with timeouts := s.timeouts.clear v } where
  now_eq := Timeouts.now_clear
  activity_le := le_rfl
  activity := Or.inl rfl
  heartbeat := Or.inl rfl
  connects := Or.inl
  pending _ ht := Or.inl (Timeouts.pending_clear_sublist.subset ht)

/-- Arming a timer is allowed when the callback is one the script may arm
then: `foreground` on input only, `idle` no later than the window counted from
the last activity. -/
theorem arm (v : TimerVar) (callback : Callback) (delay : ℕ)
    (hforeground : callback = .foreground → input)
    (hidle : callback = .idle →
      s.now + delay ≤ max s.now (s.lastActivityAt + activeWindowMs) ∧
      (s.source.isSome ∨ s.now ≤ s.lastActivityAt + activeWindowMs)) :
    Moves input heard s { s with timeouts := s.timeouts.arm v callback delay } where
  now_eq := Timeouts.now_clear
  activity_le := le_rfl
  activity := Or.inl rfl
  heartbeat := Or.inl rfl
  connects := Or.inl
  pending t ht := by
    rcases Timeouts.mem_set.1 ht with hold | rfl
    · exact Or.inl (Timeouts.pending_clear_sublist.subset hold)
    · have hnow : (s.timeouts.clear v).now = s.now := Timeouts.now_clear
      refine Or.inr ⟨?_, hforeground, fun hi => ⟨?_, (hidle hi).2⟩⟩
      · change s.now ≤ (s.timeouts.clear v).now + delay
        omega
      · change (s.timeouts.clear v).now + delay ≤ _
        rw [hnow]
        exact (hidle hi).1

/-- Closing the source leaves the times and the timers of the page. -/
theorem closeSource : Moves input heard s s.closeSource := by
  cases hsource : s.source with
  | none =>
    rw [State.closeSource, hsource]
    exact refl
  | some i =>
    rw [closeSource_eq hsource]
    exact {
      now_eq := Timeouts.now_clear
      activity_le := le_rfl
      activity := Or.inl rfl
      heartbeat := Or.inr (Or.inl rfl)
      connects := fun hi => by cases hi
      pending := fun _ ht => Or.inl (Timeouts.pending_clear_sublist.subset ht) }

/-- Connecting happens only while the page is recently active, and arms no
timer. -/
theorem connectNow : Moves input heard s s.connectNow := by
  rcases connectNow_cases (s := s) with heq | ⟨hnone, hactive⟩
  · rw [heq]
    exact refl
  · rw [connectNow_eq hnone hactive]
    unfold State.isRecentlyActive at hactive
    have hawake := of_decide_eq_true hactive
    exact {
      now_eq := rfl
      activity_le := le_rfl
      activity := Or.inl rfl
      heartbeat := Or.inl rfl
      connects := fun _ => Or.inr (by dsimp only; omega)
      pending := fun _ ht => Or.inl ht }

/-- The idle timer is armed for the end of the active window. -/
theorem armIdleClose (hawake : s.source.isSome ∨ s.now ≤ s.lastActivityAt + activeWindowMs) :
    Moves input heard s s.armIdleClose := by
  rw [armIdleClose_eq]
  exact arm _ _ _ (fun hi => by cases hi) fun _ => ⟨by omega, hawake⟩

/-- The heartbeat timer is never the idle timer. -/
theorem armHeartbeatTimeout : Moves input heard s (s.armHeartbeatTimeout i) := by
  rw [armHeartbeatTimeout_eq]
  exact arm _ _ _ (fun hi => by cases hi) fun hi => by cases hi

/-- The heartbeat check closes the source or leaves the page as it is. -/
theorem checkSource : Moves input heard s s.checkSource := by
  unfold State.checkSource
  split_ifs
  · exact closeSource
  · exact of_eq rfl rfl rfl rfl
  · exact refl

/-- Recording activity is what an input does, and only that renews the window. -/
theorem recordActivity (h : Inv s) (hinput : input) : Moves input heard s s.recordActivity := by
  have hactive : Moves input heard s { s with lastActivityAt := s.now } := {
    now_eq := rfl
    activity_le := h.activity_le
    activity := Or.inr ⟨hinput, rfl⟩
    heartbeat := Or.inl rfl
    connects := Or.inl
    pending := fun _ ht => Or.inl ht }
  have harmed : Moves input heard { s with lastActivityAt := s.now }
      { s with lastActivityAt := s.now }.armIdleClose :=
    armIdleClose (Or.inr (Nat.le_add_right _ _))
  exact ((hactive.trans harmed).trans checkSource).trans connectNow

/-- The debounced foreground handler only arms its timer. -/
theorem handleForeground (hinput : input) : Moves input heard s s.handleForeground := by
  unfold State.handleForeground
  split_ifs with hheld
  · exact refl
  · have hnone : s.timeouts.held .foregroundTimer = none := by simpa using hheld
    have heq : s.timeouts.set .foregroundTimer .foreground 0 =
        s.timeouts.arm .foregroundTimer .foreground 0 := by
      rw [Timeouts.arm, Timeouts.clear_of_none hnone]
    rw [heq]
    exact arm _ _ _ (fun _ => hinput) fun hi => by cases hi

/-- A timeout that runs takes in the user's activity only if it was set for
an input. -/
theorem runCallback (h : Inv s)
    (hinput : t.callback = .foreground → input) :
    Moves input heard s (({ s with timeouts := s.timeouts.clear t.callback.timer } :
      State).runCallback t.callback) := by
  refine (clear t.callback.timer).trans ?_
  cases hcallback : t.callback with
  | idle =>
    unfold State.runCallback
    dsimp only
    split_ifs with hactive
    · unfold State.isRecentlyActive at hactive
      have hawake := of_decide_eq_true hactive
      exact armIdleClose (Or.inr (by omega))
    · exact closeSource
  | foreground =>
    change Moves input heard _ (State.runCallback
      { s with timeouts := s.timeouts.clear .foregroundTimer } .foreground)
    unfold State.runCallback
    dsimp only
    split_ifs with hhidden
    · exact refl
    · exact recordActivity h.release_foreground (hinput hcallback)
  | heartbeat i =>
    unfold State.runCallback
    dsimp only
    split_ifs with hother hstale
    · exact refl
    · exact closeSource.trans connectNow
    · exact armHeartbeatTimeout

/-- A source that opens counts as heard from. -/
theorem opened (hsource : s.source = some i) (hheard : heard) :
    Moves input heard s ((s.setReadyState i readyState).onOpen i) := by
  have hguard : ¬ (s.setReadyState i readyState).source ≠ some i := fun hne => hne hsource
  unfold State.onOpen
  rw [if_neg hguard]
  have hmoves : Moves input heard s { (s.setReadyState i readyState).setDisconnected false with
      lastHeartbeatAt := some s.now } := {
    now_eq := rfl
    activity_le := le_rfl
    activity := Or.inl rfl
    heartbeat := Or.inr (Or.inr ⟨hheard, rfl⟩)
    connects := Or.inl
    pending := fun _ ht => Or.inl ht }
  refine hmoves.trans (trans armHeartbeatTimeout (armIdleClose (Or.inl ?_)))
  rw [armHeartbeatTimeout_eq]
  change s.source.isSome = true
  rw [hsource]
  rfl

/-- A heartbeat counts as heard from, of the current source only. -/
theorem onHeartbeat (hheard : heard) : Moves input heard s (s.onHeartbeat i) := by
  unfold State.onHeartbeat
  split_ifs with hother
  · exact refl
  · have hmoves : Moves input heard s { s with lastHeartbeatAt := some s.now } := {
      now_eq := rfl
      activity_le := le_rfl
      activity := Or.inl rfl
      heartbeat := Or.inr (Or.inr ⟨hheard, rfl⟩)
      connects := Or.inl
      pending := fun _ ht => Or.inl ht }
    dsimp only
    split_ifs
    · have hshown : Moves input heard { s with lastHeartbeatAt := some s.now }
          ({ s with lastHeartbeatAt := some s.now }.setDisconnected false) :=
        of_eq rfl rfl rfl rfl
      exact (hmoves.trans hshown).trans armHeartbeatTimeout
    · exact hmoves.trans armHeartbeatTimeout

/-- An error closes the source or leaves it to the browser. -/
theorem onError : Moves input heard s ((s.setReadyState i readyState).onError i) := by
  have hstate : Moves input heard s (s.setReadyState i readyState) := of_eq rfl rfl rfl rfl
  unfold State.onError
  split_ifs
  · exact hstate
  · exact hstate.trans closeSource
  · exact hstate.trans (of_eq rfl rfl rfl rfl)

end Moves

/-- What may have been an input: the event is one, or a timeout runs that
was set for one. -/
def TakesInput (s : State) (e : Event) : Prop :=
  e.isInput = true ∨ ∃ t ∈ s.timeouts.pending, t.callback = .foreground ∧ t.due ≤ s.now

/-- **Every task but the passing of time.** -/
theorem moves_of_step (h : Inv s) (hstep : system.step s e = some s') :
    (∃ ms, e = .elapse ms ∧ s' = { s with timeouts := s.timeouts.elapse ms }) ∨
      Moves (TakesInput s e) (e.isHeard = true) s s' := by
  change s.step e = some s' at hstep
  cases e with
  | elapse ms =>
    cases hstep
    exact Or.inl ⟨ms, rfl, rfl⟩
  | expire id =>
    obtain ⟨⟨callback, ts⟩, hexpire, rfl⟩ := Option.map_eq_some_iff.1 hstep
    have hrelease := h.owned.release_expire hexpire
    obtain ⟨t, ht, -, hdue, rfl, -⟩ := Timeouts.expire_eq_some hexpire
    dsimp only
    rw [hrelease]
    exact Or.inr (Moves.runCallback h fun hi => Or.inr ⟨t, ht, hi, hdue⟩)
  | opened i =>
    simp only [State.step] at hstep
    split_ifs at hstep with hlive
    cases hstep
    exact Or.inr (Moves.opened (h.current i hlive) rfl)
  | heartbeat i =>
    simp only [State.step] at hstep
    split_ifs at hstep with hlive
    cases hstep
    exact Or.inr (Moves.onHeartbeat rfl)
  | retried i | failed i =>
    simp only [State.step] at hstep
    split_ifs at hstep with hlive
    cases hstep
    exact Or.inr Moves.onError
  | input =>
    cases hstep
    exact Or.inr (Moves.recordActivity h (Or.inl rfl))
  | visibilityChange hidden =>
    simp only [State.step, Option.some.injEq] at hstep
    have hhidden : Moves (TakesInput s (.visibilityChange hidden)) (false = true) s
        { s with hidden := hidden } := .of_eq rfl rfl rfl rfl
    subst hstep
    refine Or.inr ?_
    cases hidden with
    | true => exact hhidden
    | false => exact hhidden.trans (Moves.handleForeground (Or.inl rfl))
  | focus =>
    cases hstep
    exact Or.inr (Moves.handleForeground (Or.inl rfl))
  | «show» cards =>
    cases hstep
    exact Or.inr (.of_eq rfl rfl rfl rfl)

/-! ## No timeout is late -/

/-- Every timeout is still to come, and the idle one comes in time. -/
structure Timely (s : State) : Prop where
  punctual : s.timeouts.Punctual
  idle_due : ∀ t ∈ s.timeouts.pending, t.callback = .idle →
    t.due ≤ s.lastActivityAt + activeWindowMs

/-- A page that has a source heard from its user within the window. -/
theorem Timely.now_le (ht : Timely s) (h : Inv s) (hsome : s.source.isSome) :
    s.now ≤ s.lastActivityAt + activeWindowMs := by
  obtain ⟨t, hpending, hidle⟩ := h.idling hsome
  exact (ht.punctual t hpending).trans (ht.idle_due t hpending hidle)

/-- What a handler does within `Moves` keeps the timers punctual and the idle
timer within its window. -/
theorem Timely.moves (ht : Timely s) (h : Inv s) (hm : Moves input heard s s') : Timely s' := by
  have hnow := hm.now_eq
  have hle := hm.activity_le
  unfold State.now at hnow
  refine ⟨fun t hpending => ?_, fun t hpending hidle => ?_⟩
  · rcases hm.pending t hpending with hold | ⟨hdue, -⟩
    · exact hnow.trans_le (ht.punctual t hold)
    · exact hnow.trans_le hdue
  · rcases hm.pending t hpending with hold | ⟨-, -, hnew⟩
    · have hdue := ht.idle_due t hold hidle
      omega
    · obtain ⟨hdue, hawake⟩ := hnew hidle
      have hin : s.now ≤ s'.lastActivityAt + activeWindowMs := by
        rcases hawake with hsome | hawake
        · have hactive := ht.now_le h hsome
          omega
        · exact hawake
      omega

/-- One event of the page keeps the timers punctual, given that the browser
runs each timer on time. -/
theorem timely_step (hs : Inv s ∧ Timely s) (hprompt : Prompt s e s')
    (hstep : system.step s e = some s') : Inv s' ∧ Timely s' := by
  refine ⟨inv_step hs.1 hstep, ?_⟩
  rcases moves_of_step hs.1 hstep with ⟨ms, rfl, rfl⟩ | hm
  · refine ⟨fun t ht => ?_, hs.2.idle_due⟩
    change s.timeouts.now + ms ≤ t.due
    rcases Nat.eq_zero_or_pos ms with rfl | hpos
    · exact hs.2.punctual t ht
    · exact hprompt hpos t ht
  · exact hs.2.moves hs.1 hm

variable {now : ℕ} {hidden indicator : Bool} {cards : List Card} {es es₁ es₂ : List Event}
variable {s₁ s₂ : State}

/-- A page starts with its timers punctual. -/
theorem timely_start : Timely (State.start now hidden cards indicator) := by
  unfold State.start
  rw [start_eq]
  refine ⟨fun t ht => ?_, fun t ht hi => ?_⟩
  · rcases Timeouts.mem_set.1 ht with hold | rfl
    · cases hold
    · exact Nat.le_add_right _ _
  · rcases Timeouts.mem_set.1 ht with hold | rfl
    · cases hold
    · change now + (activeWindowMs - (now - now)) ≤ now + activeWindowMs
      omega

/-- Along every run with punctual timers the page keeps its invariants. -/
theorem timely_run (h : system.run (State.start now hidden cards indicator) es = some s)
    (hprompt : system.Along Prompt (State.start now hidden cards indicator) es) :
    Inv s ∧ Timely s :=
  System.run_inv_along (I := fun s => Inv s ∧ Timely s)
    (fun _ _ _ hs hstep hp => timely_step hs hp hstep) ⟨inv_start, timely_start⟩ h hprompt

/-! ## An idle page -/

/-- Nothing is left to take in of what the user did after `since`. -/
structure IdleSince (since : ℕ) (s : State) : Prop where
  activity_le : s.lastActivityAt ≤ since
  foreground_due : ∀ t ∈ s.timeouts.pending, t.callback = .foreground → t.due ≤ since

variable {since : ℕ}

/-- Without input the last activity stays where it was. -/
theorem IdleSince.step (hi : IdleSince since s) (hs : Inv s ∧ Timely s)
    (hstep : system.step s e = some s') (hquiet : e.isInput = false) : IdleSince since s' := by
  rcases moves_of_step hs.1 hstep with ⟨ms, rfl, rfl⟩ | hm
  · exact ⟨hi.activity_le, hi.foreground_due⟩
  · -- a timeout that was set for an input is not late, so it ran by `since`
    have htakes : TakesInput s e → s.now ≤ since := by
      rintro (hinput | ⟨t, ht, hforeground, -⟩)
      · rw [hquiet] at hinput
        cases hinput
      · have hdue := hi.foreground_due t ht hforeground
        have hnow : s.now ≤ t.due := hs.2.punctual t ht
        omega
    refine ⟨?_, fun t ht hforeground => ?_⟩
    · rcases hm.activity with heq | ⟨hinput, heq⟩
      · exact heq.trans_le hi.activity_le
      · exact heq.trans_le (htakes hinput)
    · rcases hm.pending t ht with hold | ⟨-, hinput, -⟩
      · exact hi.foreground_due t hold hforeground
      · have hdue := (inv_step hs.1 hstep).foreground_due t ht hforeground
        have hnow := htakes (hinput hforeground)
        have heq := hm.now_eq
        omega

/-- At every moment the page has been idle since now at the latest. -/
theorem idleSince_of_inv (h : Inv s) : IdleSince s.now s := ⟨h.activity_le, h.foreground_due⟩

/-- **An idle page is disconnected, and its next input connects it again.**
If no timeout is late, two minutes without input leave no source open and
the indicator shown; the input that comes then creates a source, which asks
for the cards the page shows by that time. -/
theorem idle_page_disconnects
    (h₁ : system.run (State.start now hidden cards indicator) es₁ = some s₁)
    (h₂ : system.run s₁ es₂ = some s₂)
    (hprompt : system.Along Prompt (State.start now hidden cards indicator) (es₁ ++ es₂))
    (hquiet : ∀ e ∈ es₂, e.isInput = false) (hlong : s₁.now + activeWindowMs < s₂.now) :
    (∀ i, ¬ s₂.IsLive i) ∧ s₂.statusIndicator ≠ some true ∧
      ∀ s₃, system.step s₂ .input = some s₃ →
        s₃.sources = s₂.sources ++ [⟨⟨captureIdsForCatchup s₂.cards⟩, .connecting⟩] ∧
        s₃.source = some s₂.sources.length := by
  obtain ⟨hprompt₁, hprompt₂⟩ := (System.along_append h₁).1 hprompt
  have hs₁ := timely_run h₁ hprompt₁
  have hs₂ : (Inv s₂ ∧ Timely s₂) ∧ IdleSince s₁.now s₂ := by
    refine System.run_inv_along (I := fun s => (Inv s ∧ Timely s) ∧ IdleSince s₁.now s)
      (fun _ _ _ hs hstep hp => ⟨timely_step hs.1 hp.1 hstep, hs.2.step hs.1 hstep hp.2⟩)
      ⟨hs₁, idleSince_of_inv hs₁.1⟩ h₂ (System.along_and.2 ⟨hprompt₂, ?_⟩)
    exact System.along_of_forall_mem hquiet
  obtain ⟨⟨hinv, htimely⟩, hidle⟩ := hs₂
  have hnone : s₂.source = none := by
    cases hsource : s₂.source with
    | none => rfl
    | some i =>
      have hactive := htimely.now_le hinv (by rw [hsource]; rfl)
      have hactivity := hidle.activity_le
      omega
  refine ⟨fun i => hinv.not_isLive hnone, hinv.dark hnone, fun s₃ h₃ => ?_⟩
  cases h₃
  exact recordActivity_of_none hnone

/-- A page that is idle from the start, its source open and heard. -/
def idleSchedule : List Event :=
  [.elapse 100, .opened 0, .elapse 40000, .heartbeat 0, .elapse 40000, .heartbeat 0,
    .elapse 39900, .expire 2, .elapse 101]

/-- The page after that. -/
def idled : State := (system.run (State.start 0 false [] true) idleSchedule).get (by decide)

/-- A page nobody touches: connected at its start and idle for the whole
window, then touched again. -/
theorem idle_page_disconnects_unattended : (∀ i, ¬ idled.IsLive i) ∧
    idled.statusIndicator ≠ some true ∧
    ∀ s₃, system.step idled .input = some s₃ →
      s₃.sources = idled.sources ++ [⟨⟨captureIdsForCatchup idled.cards⟩, .connecting⟩] ∧
      s₃.source = some idled.sources.length :=
  idle_page_disconnects (rfl : system.run (State.start 0 false [] true) [] = _)
    (Option.some_get _).symm (by decide : system.Along Prompt (State.start 0 false [] true) idleSchedule) (by decide)
    (by decide)

/-! ## A silent server -/

/-- The server was last heard by `since`. -/
def SilentSince (since : ℕ) (s : State) : Prop :=
  ∀ heard, s.lastHeartbeatAt = some heard → heard ≤ since

/-- Without a sign of life from the server the last heartbeat stays where it
was. -/
theorem SilentSince.step (hi : SilentSince since s) (hs : Inv s)
    (hstep : system.step s e = some s') (hsilent : e.isHeard = false) : SilentSince since s' := by
  rcases moves_of_step hs hstep with ⟨ms, rfl, rfl⟩ | hm
  · exact hi
  · intro heard hheard
    rcases hm.heartbeat with heq | heq | ⟨hnoise, -⟩
    · exact hi heard (heq ▸ hheard)
    · rw [heq] at hheard
      cases hheard
    · rw [hsilent] at hnoise
      cases hnoise

/-- The browser gives a source up. -/
def Event.givesUp : Event → Bool
  | .failed _ => true
  | _ => false

/-- A page whose user was active has a source. -/
def Attended (s : State) : Prop := s.isRecentlyActive = true → s.source.isSome = true

/-- Whether a page is recently active depends on the clock and the last
activity alone. -/
theorem isRecentlyActive_congr (hnow : s'.now = s.now)
    (hactivity : s'.lastActivityAt = s.lastActivityAt) :
    s'.isRecentlyActive = s.isRecentlyActive := by
  rw [State.isRecentlyActive, State.isRecentlyActive, hnow, hactivity]

/-- Closing the source does not make a page inactive. -/
theorem isRecentlyActive_closeSource : s.closeSource.isRecentlyActive = s.isRecentlyActive := by
  have hmoves : Moves True True s s.closeSource := Moves.closeSource
  refine isRecentlyActive_congr hmoves.now_eq ?_
  cases hsource : s.source with
  | none => rw [State.closeSource, hsource]
  | some i => rw [closeSource_eq hsource]

/-- The heartbeat check does not make a page inactive. -/
theorem isRecentlyActive_checkSource :
    s.checkSource.isRecentlyActive = s.isRecentlyActive := by
  unfold State.checkSource
  split_ifs
  · exact isRecentlyActive_closeSource
  · rfl
  · rfl

/-- **Activity leaves a source**, new or old. -/
theorem source_recordActivity : s.recordActivity.source.isSome = true := by
  refine source_connectNow ?_
  rw [isRecentlyActive_checkSource]
  exact isRecentlyActive_armIdleClose rfl

/-- Opening keeps the current source. -/
theorem source_onOpen : ((s.setReadyState i readyState).onOpen i).source = s.source := by
  unfold State.onOpen
  split_ifs <;> rfl

/-- A heartbeat keeps the current source. -/
theorem source_onHeartbeat : (s.onHeartbeat i).source = s.source := by
  unfold State.onHeartbeat
  dsimp only
  split_ifs <;> rfl

/-- A live source is the one the page holds. -/
theorem source_isSome (h : Inv s) (hlive : s.IsLive i) : s.source.isSome = true := by
  rw [h.current i hlive]
  rfl

/-- Coming to the foreground keeps an attended page attended. -/
theorem Attended.handleForeground (h : Attended s) : Attended s.handleForeground := by
  unfold State.handleForeground
  split_ifs
  · exact h
  · exact h

/-- The heartbeat timeout of a page whose user was active replaces the source. -/
theorem Attended.runCallback (h : Attended s) (callback : Callback) :
    Attended (s.runCallback callback) := by
  intro hactive
  cases callback with
  | idle =>
    unfold State.runCallback at hactive ⊢
    dsimp only at hactive ⊢
    split_ifs at hactive ⊢ with hbefore
    · exact h hbefore
    · rw [isRecentlyActive_closeSource] at hactive
      exact absurd hactive hbefore
  | foreground =>
    unfold State.runCallback at hactive ⊢
    dsimp only at hactive ⊢
    split_ifs at hactive ⊢
    · exact h hactive
    · exact source_recordActivity
  | heartbeat i =>
    unfold State.runCallback at hactive ⊢
    dsimp only at hactive ⊢
    split_ifs at hactive ⊢
    · exact h hactive
    · refine source_connectNow ?_
      rcases connectNow_cases (s := s.closeSource) with heq | ⟨-, hclosed⟩
      · rwa [heq] at hactive
      · exact hclosed
    · refine h ?_
      have hmoves : Moves True True s (s.armHeartbeatTimeout i) := Moves.armHeartbeatTimeout
      rwa [isRecentlyActive_congr hmoves.now_eq rfl] at hactive

/-- A page in use keeps a source, or a timer that will make one, as long as it
does not give up. -/
theorem attended_step (hs : Inv s ∧ Attended s) (hstep : system.step s e = some s')
    (hkept : e.givesUp = false) : Inv s' ∧ Attended s' := by
  refine ⟨inv_step hs.1 hstep, fun hactive => ?_⟩
  obtain ⟨hinv, hattended⟩ := hs
  change s.step e = some s' at hstep
  cases e with
  | elapse ms =>
    cases hstep
    refine hattended ?_
    unfold State.isRecentlyActive State.now at hactive ⊢
    -- time only passes: who is recently active now was so before
    have hlater := of_decide_eq_true hactive
    change s.timeouts.now + ms - s.lastActivityAt < activeWindowMs at hlater
    exact decide_eq_true (by omega)
  | expire id =>
    obtain ⟨⟨callback, ts⟩, hexpire, rfl⟩ := Option.map_eq_some_iff.1 hstep
    have hrelease := hinv.owned.release_expire hexpire
    dsimp only at hactive ⊢
    rw [hrelease] at hactive ⊢
    -- the timer is taken off before its callback runs
    have hcleared : Attended { s with timeouts := s.timeouts.clear callback.timer } := by
      intro hcleared
      refine hattended ?_
      have hmoves : Moves True True s { s with timeouts := s.timeouts.clear callback.timer } :=
        Moves.clear callback.timer
      rwa [isRecentlyActive_congr hmoves.now_eq rfl] at hcleared
    exact hcleared.runCallback callback hactive
  | failed i => cases hkept
  | opened i =>
    simp only [State.step] at hstep
    split_ifs at hstep with hlive
    cases hstep
    rw [source_onOpen]
    exact source_isSome hinv hlive
  | heartbeat i =>
    simp only [State.step] at hstep
    split_ifs at hstep with hlive
    cases hstep
    rw [source_onHeartbeat]
    exact source_isSome hinv hlive
  | retried i =>
    simp only [State.step] at hstep
    split_ifs at hstep with hlive
    cases hstep
    rw [onError_retried (hinv.current i hlive) hlive]
    have hsome := source_isSome hinv hlive
    exact hsome
  | input =>
    cases hstep
    exact source_recordActivity
  | visibilityChange hidden =>
    simp only [State.step, Option.some.injEq] at hstep
    have hhidden : Attended { s with hidden := hidden } := hattended
    subst hstep
    split_ifs at hactive ⊢
    · exact hhidden hactive
    · exact hhidden.handleForeground hactive
  | focus =>
    cases hstep
    exact hattended.handleForeground hactive
  | «show» cards =>
    cases hstep
    exact hattended hactive

/-- A page that has just loaded is attended. -/
theorem attended_start : Attended (State.start now hidden cards indicator) := by
  intro _
  unfold State.start
  rw [start_eq]
  rfl

/-- **A silent connection is given up, and replaced for an active user.** If
no timeout is late, fifty seconds in which the server is not heard leave no
source open, and the indicator shown but for a first source that never
opened. Unless the browser gave a source up, a page whose user was active
has a source that is connecting. -/
theorem silent_connection_replaced
    (h₁ : system.run (State.start now hidden cards indicator) es₁ = some s₁)
    (h₂ : system.run s₁ es₂ = some s₂)
    (hprompt : system.Along Prompt (State.start now hidden cards indicator) (es₁ ++ es₂))
    (hsilent : ∀ e ∈ es₂, e.isHeard = false) (hlong : s₁.now + heartbeatTimeoutMs < s₂.now) :
    (∀ i, ¬ s₂.HasState .open i) ∧ (s₂.statusIndicator = some true → s₂.source = some 0) ∧
      ((∀ e ∈ es₁ ++ es₂, e.givesUp = false) → s₂.isRecentlyActive = true →
        ∃ i, s₂.source = some i ∧ s₂.HasState .connecting i) := by
  have hrun := System.run_append_eq_some.2 ⟨s₁, h₁, h₂⟩
  obtain ⟨hinv, htimely⟩ := timely_run hrun hprompt
  have hlast : Inv s₂ ∧ SilentSince s₁.now s₂ := by
    refine System.run_inv_along (I := fun s => Inv s ∧ SilentSince s₁.now s)
      (fun _ _ _ hs hstep hp => ⟨inv_step hs.1 hstep, hs.2.step hs.1 hstep hp⟩)
      ⟨inv_run h₁, (inv_run h₁).heard_le⟩ h₂ (System.along_of_forall_mem hsilent)
  have hclosed : ∀ i, ¬ s₂.HasState .open i := by
    intro i hopen
    -- its timeout was set when the server was last heard, so it is late
    obtain ⟨heard, hheard, t, ht, -, hdue⟩ := hinv.beating i hopen
    have hsince := hlast.2 heard hheard
    have hnow : s₂.now ≤ t.due := htimely.punctual t ht
    omega
  refine ⟨hclosed, fun hhidden => ?_, fun hkept hactive => ?_⟩
  · rcases ((connection_sound hrun).hidden hhidden).2 with hfirst | hopen
    · exact hfirst
    · obtain ⟨i, -, hi⟩ := isOpen_eq_true.1 hopen
      exact absurd hi (hclosed i)
  · have hattended : Inv s₂ ∧ Attended s₂ :=
      System.run_inv_along (I := fun s => Inv s ∧ Attended s)
        (fun _ _ _ hs hstep hp => attended_step hs hstep hp) ⟨inv_start, attended_start⟩ hrun
        (System.along_of_forall_mem hkept)
    obtain ⟨i, hi⟩ := Option.isSome_iff_exists.1 (hattended.2 hactive)
    refine ⟨i, hi, ?_⟩
    rcases hinv.live i hi with hconnecting | hopen
    · exact hconnecting
    · exact absurd hopen (hclosed i)

/-- A source opens. -/
def openSchedule : List Event := [.elapse 100, .opened 0]

/-- The server falls silent under a user who is active. -/
def silentSchedule : List Event :=
  [.input, .elapse 30000, .input, .elapse 20000, .expire 1, .elapse 1]

/-- The page when its source has just been opened. -/
def opened : State := (system.run (State.start 0 false [] true) openSchedule).get (by decide)

/-- And when the server was silent for long. -/
def silenced : State := (system.run opened silentSchedule).get (by decide)

/-- A server that stays silent while the user is there: the first source is
replaced by a second. -/
theorem silent_connection_replaced_active : (∀ i, ¬ silenced.HasState .open i) ∧
    (silenced.statusIndicator = some true → silenced.source = some 0) ∧
    ∃ i, silenced.source = some i ∧ silenced.HasState .connecting i := by
  have h₁ : system.run (State.start 0 false [] true) openSchedule = some opened :=
    (Option.some_get _).symm
  have h₂ : system.run opened silentSchedule = some silenced := (Option.some_get _).symm
  obtain ⟨hclosed, hshown, hreplaced⟩ :=
    silent_connection_replaced h₁ h₂ (by decide) (by decide) (by decide)
  exact ⟨hclosed, hshown, hreplaced (by decide) (by decide)⟩

end TaskStatusEvents

end Dreamscroll
