import Dreamscroll.Webui.ProgressLinks
/-!
# The timers match the tracked state

Nothing stops the timers of a capture when its status moves on to one that
has no use for them. A timeout that hides a failure message stays when the
task runs again, and takes the new run off the map (`rerun_dropped`); an
interval stays when a queued event follows one in progress. Along the runs
where no event comes in between, every timer belongs to a state that wants
it (`progress_timers`).
-/

namespace Dreamscroll

namespace Progress

/-- An interval may run for the state. -/
def TaskState.Running (state : TaskState) : Prop :=
  state.status = some "in_progress" ∧ state.estimatedDurationMs.isFinite = true ∧
    state.estimatedDurationMs.positive = true

/-- The numbers of the state are drawn as they are. -/
def TaskState.Sound (state : TaskState) : Prop :=
  state.percent ≠ .nan ∧
    (state.estimatedDurationMs.positive = true → state.estimatedDurationMs.isFinite = true)

namespace Page

/-- No `NaN` width is shown. -/
def Widths (s : Page) : Prop :=
  ∀ captureId card, s.cards captureId = some card → card.width ≠ .percent .nan

/-- **The timers match the tracked state.** -/
structure TimersMatch (s : Page) : Prop where
  /-- A running interval belongs to the state under its capture. -/
  stored : ∀ t ∈ s.intervals, s.stateOf t.captureId = some t.ref
  /-- At most one interval runs for each capture. -/
  unique : (s.intervals.map Timer.captureId).Nodup
  running : ∀ t ∈ s.intervals, (s.objects t.ref).Running
  widths : s.Widths
  failing : ∀ t ∈ s.timeouts, (s.objects t.ref).status = some "complete_failure"

/-- The invariant behind it. -/
structure Timed (s : Page) : Prop where
  linked : s.Linked
  attached : ∀ captureId, s.Attached captureId
  running : ∀ t ∈ s.intervals, (s.objects t.ref).Running
  failing : ∀ t ∈ s.timeouts, (t.captureId, t.ref) ∈ s.states ∧
    (s.objects t.ref).status = some "complete_failure" ∧
    (s.objects t.ref).hideTimer = some t.id
  sound : ∀ p ∈ s.states, (s.objects p.2).Sound
  widths : s.Widths

/-- An interval runs for the capture. -/
def Animates (s : Page) (captureId : String) : Prop := ∃ t ∈ s.intervals, t.captureId = captureId

/-- The message of the capture is about to be hidden. -/
def Hiding (s : Page) (captureId : String) : Prop := ∃ t ∈ s.timeouts, t.captureId = captureId

instance (s : Page) (captureId : String) : Decidable (s.Animates captureId) :=
  inferInstanceAs (Decidable (∃ t ∈ s.intervals, t.captureId = captureId))

instance (s : Page) (captureId : String) : Decidable (s.Hiding captureId) :=
  inferInstanceAs (Decidable (∃ t ∈ s.timeouts, t.captureId = captureId))

end Page

/-- The update moves the progress of a run, or ends it. -/
def Update.suitsInterval (u : Update) : Bool :=
  u.name = some "error_will_retry" || u.name = some "complete_success" ||
    u.name = some "complete_failure" ||
    (u.name = some "in_progress" && (JsNumber.ofField u.estimatedDurationMsP50).positive)

/-- **No event comes in between**: while a message is about to be hidden
only another failure is accepted for the capture, and while its interval
runs only an update that moves it on or ends it. -/
def Undisturbed (s : Page) : Event → Prop
  | .accept u _ => ∀ captureId ∈ u.entityId,
      (s.Hiding captureId → u.name = some "complete_failure") ∧
      (s.Animates captureId → u.suitsInterval = true)
  | _ => True

instance : ∀ s e, Decidable (Undisturbed s e)
  | s, .accept u _ => inferInstanceAs (Decidable (∀ captureId ∈ u.entityId,
      (s.Hiding captureId → u.name = some "complete_failure") ∧
      (s.Animates captureId → u.suitsInterval = true)))
  | _, .start _ _ | _, .refresh _ | _, .tick _ _ | _, .fire _ | _, .swap _ _ => isTrue trivial

namespace Page

variable {s s' : Page} {captureId label : String} {ref : ℕ} {now : ℤ} {t : Timer} {u : Update}
  {g : Indicator → Indicator} {percent : Option JsNumber} {indeterminate showBar : Bool}

/-- The invariant holds all that the claim says of the timers. -/
theorem Timed.timersMatch (h : s.Timed) : s.TimersMatch where
  stored t ht := h.linked.stateOf_of_mem (h.attached _ t ht rfl)
  unique := by
    rw [List.Nodup, List.pairwise_map]
    have hids := List.pairwise_map.1 h.linked.intervalIds
    refine hids.imp_of_mem fun {t t'} ht ht' hne hcapture => hne ?_
    obtain ⟨-, -, -, htimer⟩ := h.linked.interval t ht
    obtain ⟨-, -, -, htimer'⟩ := h.linked.interval t' ht'
    rw [h.linked.ref_eq (h.attached _ t ht hcapture) (h.attached _ t' ht' rfl), htimer'] at htimer
    exact (Option.some.inj htimer).symm
  running := h.running
  widths := h.widths
  failing t ht := (h.failing t ht).2.1

/-! ## Widths -/

/-- A change of a card that writes no `NaN` width keeps the widths sound. -/
theorem Widths.updateCard (h : s.Widths)
    (hg : ∀ card, s.cards captureId = some card → (g card).width ≠ .percent .nan) :
    (s.updateCard captureId g).Widths := by
  intro c card hcard
  by_cases hc : c = captureId
  · rw [hc, Page.updateCard] at hcard
    simp only [Function.update_self] at hcard
    obtain ⟨card', hcard', rfl⟩ := Option.map_eq_some_iff.1 hcard
    exact hg card' hcard'
  · rw [Page.updateCard] at hcard
    simp only [Function.update_of_ne hc] at hcard
    exact h c card hcard

/-- Drawing the bar keeps the widths sound when the percentage is a number, or
none is drawn. -/
theorem Widths.show (h : s.Widths) (hpercent : indeterminate = true ∨ percent ≠ some .nan) :
    (s.show captureId label indeterminate showBar percent).Widths := by
  refine h.updateCard fun card _ => ?_
  simp only
  split_ifs with hindeterminate
  · simp
  · cases percent with
    | none => simp
    | some p =>
      rcases hpercent with hpercent | hpercent
      · exact absurd hpercent hindeterminate
      · simpa using hpercent

/-- The progress of a run with an estimate is a number. -/
theorem update_sound (hw : s.Widths) (hp : (s.objects ref).percent ≠ .nan)
    (hfinite : (s.objects ref).estimatedDurationMs.isFinite = true)
    (hpositive : (s.objects ref).estimatedDurationMs.positive = true) :
    (s.update captureId ref now).Widths ∧
      ((s.update captureId ref now).objects ref).percent ≠ .nan := by
  have hobject : (s.update captureId ref now).objects ref =
      { s.objects ref with percent := JsNumber.max (s.objects ref).percent (JsNumber.min 90
        ((JsNumber.div (elapsed (s.objects ref) now) (s.objects ref).estimatedDurationMs).scale
          100)) } := Function.update_self ..
  have hpercent : ((s.update captureId ref now).objects ref).percent ≠ .nan := by
    rw [hobject]
    refine JsNumber.max_ne_nan hp ?_
    cases hestimate : (s.objects ref).estimatedDurationMs with
    | nan =>
      rw [hestimate] at hfinite
      cases hfinite
    | infinity negative =>
      rw [hestimate] at hfinite
      cases hfinite
    | finite q =>
      rw [hestimate] at hpositive
      exact JsNumber.min_scale_div_ne_nan (of_decide_eq_true hpositive)
  refine ⟨?_, hpercent⟩
  refine Widths.show (s := s.modify ref _) hw (Or.inr fun heq => ?_)
  exact hpercent (Option.some.inj heq)

/-- The animated percentage is a number: the estimate is positive and finite,
and the old percentage is a number. -/
theorem animate_sound (hw : s.Widths) (hp : (s.objects ref).percent ≠ .nan)
    (hfinite : (s.objects ref).estimatedDurationMs.isFinite = true)
    (hpositive : (s.objects ref).estimatedDurationMs.positive = true) :
    (s.animateEstimatedProgress captureId ref now).Widths ∧
      ((s.animateEstimatedProgress captureId ref now).objects ref).percent ≠ .nan := by
  unfold animateEstimatedProgress
  split_ifs
  · exact ⟨hw, hp⟩
  · have hwidths : (s.stopTimer ref).Widths := by
      unfold Widths
      rw [stopTimer_cards]
      exact hw
    have hobject : (s.stopTimer ref).objects ref = { s.objects ref with progressTimer := none } :=
      stopTimer_objects
    obtain ⟨hwidths', hpercent⟩ : ((s.stopTimer ref).update captureId ref now).Widths ∧
        (((s.stopTimer ref).update captureId ref now).objects ref).percent ≠ .nan := by
      refine update_sound hwidths ?_ ?_ ?_
      all_goals rw [hobject]; assumption
    refine ⟨hwidths', ?_⟩
    rw [setProgressTimer_objects]
    exact hpercent

/-- Redrawing a capture writes no `NaN`. -/
theorem renderState_sound (hw : s.Widths) (hs : (s.objects ref).Sound) :
    (s.renderState now (captureId, ref)).Widths ∧
      ((s.renderState now (captureId, ref)).objects ref).percent ≠ .nan := by
  obtain ⟨hp, hfinite⟩ := hs
  unfold renderState
  simp only
  split_ifs with _ _ hpositive
  · exact ⟨hw.show (Or.inl rfl), hp⟩
  · exact animate_sound hw hp (hfinite hpositive) hpositive
  · exact ⟨hw.show (Or.inr fun heq => hp (Option.some.inj heq)), hp⟩
  · exact ⟨hw.show (Or.inl rfl), hp⟩
  · exact ⟨hw.show (Or.inl rfl), hp⟩
  · exact ⟨hw.show (Or.inr (by simp)), hp⟩
  · exact ⟨hw, hp⟩

/-! ## One event -/

/-- **What is asked of the one object that differs.** -/
theorem Timed.of_frame (h : s.Timed) (hlinked : s'.Linked) (hframe : Frame ref s s')
    (hown : ∀ t ∈ s'.intervals, t.ref = ref → (t.captureId, ref) ∈ s'.states)
    (hwidths : s'.Widths) (hrunning : ∀ t ∈ s'.intervals, t.ref = ref → (s'.objects ref).Running)
    (hfailing : ∀ t ∈ s'.timeouts, t.ref = ref → (t.captureId, ref) ∈ s'.states ∧
      (s'.objects ref).status = some "complete_failure" ∧
      (s'.objects ref).hideTimer = some t.id)
    (hsound : ∀ p ∈ s'.states, p.2 = ref → (s'.objects ref).Sound) : s'.Timed := by
  refine ⟨hlinked, fun c => (h.attached c).of_frame hframe hown, fun t ht => ?_, fun t ht => ?_,
    fun p hp => ?_, hwidths⟩
  · by_cases href : t.ref = ref
    · rw [href]
      exact hrunning t ht href
    · rw [hframe.objects t.ref href]
      exact h.running t ((hframe.intervals t href).1 ht)
  · by_cases href : t.ref = ref
    · rw [href]
      exact hfailing t ht href
    · obtain ⟨hmem, hrest⟩ := h.failing t ((hframe.timeouts t href).1 ht)
      rw [hframe.objects t.ref href]
      exact ⟨(hframe.states _ href).2 hmem, hrest⟩
  · by_cases href : p.2 = ref
    · rw [href]
      exact hsound p hp href
    · rw [hframe.objects p.2 href]
      exact h.sound p ((hframe.states p href).1 hp)

/-- An object without timers asks for nothing but its numbers. -/
theorem Timed.of_quiet (h : s.Timed) (hlinked : s'.Linked) (hframe : Frame ref s s')
    (hwidths : s'.Widths) (hidle : s'.Idle ref) (hquiet : ∀ t ∈ s'.timeouts, t.ref ≠ ref)
    (hsound : ∀ p ∈ s'.states, p.2 = ref → (s'.objects ref).Sound) : s'.Timed :=
  h.of_frame hlinked hframe (fun t ht href => absurd href (hidle t ht)) hwidths
    (fun t ht href => absurd href (hidle t ht)) (fun t ht href => absurd href (hquiet t ht)) hsound

/-- A drawn object keeps its timeout. -/
theorem Timed.of_redrawn (h : s.Timed) (hr : Redrawn captureId ref s s')
    (hmem : (captureId, ref) ∈ s.states) (hwidths : s'.Widths)
    (hpercent : (s'.objects ref).percent ≠ .nan)
    (hfinite : (s.objects ref).estimatedDurationMs.positive = true →
      (s.objects ref).estimatedDurationMs.isFinite = true)
    (hrunning : ∀ t ∈ s'.intervals, t.ref = ref → (s.objects ref).Running) : s'.Timed := by
  have hmem' : (captureId, ref) ∈ s'.states := by
    rw [hr.states]
    exact hmem
  refine h.of_frame hr.linked hr.frame (hr.linked.interval_mem hmem') hwidths
    (fun t ht href => ?_) (fun t ht href => ?_) fun p _ _ => ?_
  · unfold TaskState.Running
    rw [hr.status, hr.estimate]
    exact hrunning t ht href
  · rw [hr.timeouts] at ht
    obtain ⟨hmem, hfailure, hid⟩ := h.failing t ht
    rw [href] at hmem hfailure hid
    rw [hr.states, hr.status, hr.hideTimer]
    exact ⟨hmem, hfailure, hid⟩
  · unfold TaskState.Sound
    rw [hr.estimate]
    exact ⟨hpercent, hfinite⟩

/-- Redrawing a capture that is tracked keeps the timers matched. -/
theorem Timed.renderState (h : s.Timed) (hmem : (captureId, ref) ∈ s.states) :
    (s.renderState now (captureId, ref)).Timed := by
  have hs := h.sound _ hmem
  obtain ⟨hwidths, hpercent⟩ : (s.renderState now (captureId, ref)).Widths ∧
      ((s.renderState now (captureId, ref)).objects ref).percent ≠ .nan :=
    renderState_sound h.widths hs
  refine h.of_redrawn (h.linked.redrawn_renderState hmem) hmem hwidths hpercent hs.2 ?_
  intro t ht href
  by_cases hrun : (s.objects ref).status = some "in_progress" ∧
      (s.objects ref).estimatedDurationMs.positive = true
  · exact ⟨hrun.1, hs.2 hrun.2, hrun.2⟩
  · rw [renderState_intervals hrun] at ht
    rw [← href]
    exact h.running t ht

/-- Every entry is drawn in turn, and the map stays as it is. -/
theorem Timed.foldl_renderState (h : s.Timed) {entries : List (String × ℕ)}
    (hsub : entries ⊆ s.states) : (entries.foldl (Page.renderState now) s).Timed := by
  induction entries generalizing s with
  | nil => exact h
  | cons entry entries ih =>
    have hmem : (entry.1, entry.2) ∈ s.states := hsub List.mem_cons_self
    refine ih (h.renderState hmem) fun p hp => ?_
    rw [(h.linked.redrawn_renderState hmem).states]
    exact hsub (List.mem_cons_of_mem _ hp)

/-- A new capture comes without timers. -/
theorem Timed.addState (h : s.Timed) (hnone : s.stateOf captureId = none) {status : Option String} :
    (s.addState captureId status).Timed := by
  refine h.of_quiet (h.linked.addState hnone) .addState h.widths h.linked.ref_ne_nextRef.1
    h.linked.ref_ne_nextRef.2 fun _ _ _ => ?_
  rw [addState_objects]
  exact ⟨by simp [TaskState.new], by simp [TaskState.new, JsNumber.positive]⟩

/-- Drawing the bar touches no timer. -/
theorem Timed.show (h : s.Timed) (hpercent : indeterminate = true ∨ percent ≠ some .nan) :
    (s.show captureId label indeterminate showBar percent).Timed :=
  ⟨h.linked.updateCard, h.attached, h.running, h.failing, h.sound, h.widths.show hpercent⟩

/-- A task that starts keeps the timers matched. -/
theorem Timed.startTask (h : s.Timed) : (s.startTask captureId now).Timed := by
  unfold Page.startTask
  split
  · rename_i ref hstate
    exact h.renderState (mem_of_stateOf hstate)
  · rename_i hnone
    exact (h.addState hnone).show (Or.inl rfl)

/-- A tick of a capture's interval redraws it and keeps the timers matched. -/
theorem Timed.update (h : s.Timed) (ht : t ∈ s.intervals) :
    (s.update t.captureId t.ref now).Timed := by
  obtain ⟨hstatus, hfinite, hpositive⟩ := h.running t ht
  have hmem : (t.captureId, t.ref) ∈ s.states := h.attached _ t ht rfl
  obtain ⟨hwidths, hpercent⟩ : (s.update t.captureId t.ref now).Widths ∧
      ((s.update t.captureId t.ref now).objects t.ref).percent ≠ .nan :=
    update_sound h.widths (h.sound _ hmem).1 hfinite hpositive
  exact h.of_redrawn h.linked.redrawn_update hmem hwidths hpercent (fun _ => hfinite)
    fun _ _ _ => ⟨hstatus, hfinite, hpositive⟩

/-- The entry a hide timer drops is one that failed. -/
theorem Timed.status_of_stateOf (h : s.Timed) (ht : t ∈ s.timeouts)
    (hstate : s.stateOf t.captureId = some ref) :
    ref = t.ref ∧ (s.objects ref).status = some "complete_failure" := by
  obtain ⟨hmem, hfailure, -⟩ := h.failing t ht
  have href := h.linked.ref_eq (mem_of_stateOf hstate) hmem
  rw [href]
  exact ⟨rfl, hfailure⟩

/-- No interval runs for a capture whose message is about to be hidden. -/
theorem Timed.not_animates (h : s.Timed) (ht : t ∈ s.timeouts) :
    ∀ t' ∈ s.intervals, t'.captureId ≠ t.captureId := by
  intro t' ht' hcapture
  have hmem := h.attached _ t' ht' hcapture
  have hfailure := (h.status_of_stateOf ht (h.linked.stateOf_of_mem hmem)).2
  rw [(h.running t' ht').1] at hfailure
  simp at hfailure

/-- The timeout that hides a failure takes itself off before it hides. -/
theorem Timed.fire (h : s.Timed) (ht : t ∈ s.timeouts) :
    ((s.clearTimeout t.id).hide t.captureId).Timed := by
  obtain ⟨hmem, hfailure, hid⟩ := h.failing t ht
  have hclear : (s.clearTimeout t.id).Linked := h.linked.clearTimeout
  have hcard : ((s.clearTimeout t.id).updateCard t.captureId fun card =>
      { card with hidden := true, isIndeterminate := false }).Linked := hclear.updateCard
  have hwidths : ((s.clearTimeout t.id).hide t.captureId).Widths :=
    Widths.updateCard (s := s.clearTimeout t.id) h.widths fun card hcard => h.widths _ card hcard
  have hframe : Frame t.ref s ((s.clearTimeout t.id).hide t.captureId) :=
    ((h.linked.frame_clearTimeout hid).trans .updateCard).trans (hcard.frame_deleteState hmem)
  refine h.of_quiet hcard.deleteState hframe hwidths ?_ ?_ ?_
  · intro t' ht' href
    exact h.not_animates ht t' ht' (h.linked.captureId_of_interval hmem ht' href)
  · intro t' ht' href
    obtain ⟨ht', hne⟩ := mem_clearTimeout.1 ht'
    have hid' := (h.failing t' ht').2.2
    rw [href, hid] at hid'
    exact hne (Option.some.inj hid').symm
  · rintro ⟨captureId, ref⟩ hp href
    obtain ⟨hp, hne⟩ := mem_deleteState.1 hp
    change ref = t.ref at href
    rw [href] at hp
    exact absurd (h.linked.captureId_eq hp hmem) hne

/-! ## One update -/

/-- Stopping an interval draws nothing. -/
theorem Widths.stopTimer (h : s.Widths) : (s.stopTimer ref).Widths := by
  unfold Widths
  rw [stopTimer_cards]
  exact h

/-- **An update of a run in progress** leaves the interval it needs. -/
theorem Timed.animate (h : s.Timed) (hmem : (captureId, ref) ∈ s.states)
    (hrunning : (s.objects ref).Running) :
    (s.animateEstimatedProgress captureId ref now).Timed := by
  obtain ⟨hstatus, hfinite, hpositive⟩ := hrunning
  obtain ⟨hwidths, hpercent⟩ : (s.animateEstimatedProgress captureId ref now).Widths ∧
      ((s.animateEstimatedProgress captureId ref now).objects ref).percent ≠ .nan :=
    animate_sound h.widths (h.sound _ hmem).1 hfinite hpositive
  exact h.of_redrawn (h.linked.redrawn_animate hmem) hmem hwidths hpercent (fun _ => hfinite)
    fun _ _ _ => ⟨hstatus, hfinite, hpositive⟩

/-- **A failure** leaves one timeout, which hides its message. -/
theorem Timed.fail (h : s.Timed) (hlinked : s'.Linked) (hframe : Frame ref s s')
    (hwidths : s'.Widths) (hmem : (captureId, ref) ∈ s'.states)
    (hstatus : (s'.objects ref).status = some "complete_failure") (hsound : (s'.objects ref).Sound)
    (hhide : ∀ t ∈ s'.timeouts, t.ref = ref → (s'.objects ref).hideTimer = some t.id) :
    (s'.hideSoon captureId ref).Timed := by
  obtain ⟨hlinked', hframe'⟩ := hlinked.redrawn_hideSoon hmem
  obtain ⟨id, hobject, hintervals, hstates, hcards, htimeouts⟩ := hideSoon_spec s' captureId ref
  have hidle : (s'.hideSoon captureId ref).Idle ref := by
    unfold Idle
    rw [hintervals]
    exact hlinked.idle_stopTimer
  refine h.of_frame hlinked' (hframe.trans hframe') (fun t ht href => absurd href (hidle t ht)) ?_
    (fun t ht href => absurd href (hidle t ht)) (fun t ht href => ?_) fun _ _ _ => ?_
  · unfold Widths
    rw [hcards]
    exact hwidths
  · rcases (htimeouts t).1 ht with ⟨ht, hne⟩ | rfl
    · exact absurd (hhide t ht href) hne
    · rw [hstates, hobject]
      exact ⟨hmem, hstatus, rfl⟩
  · rw [hobject]
    exact hsound

/-- The status of an update is assigned, and nothing is drawn yet. -/
structure Assigned (ref : ℕ) (u : Update) (s s' : Page) : Prop where
  linked : s'.Linked
  frame : Frame ref s s'
  object : s'.objects ref = { s.objects ref with status := u.name }
  widths : s'.Widths
  intervals : s'.intervals = s.intervals
  timeouts : s'.timeouts = s.timeouts
  states : s'.states = s.states

/-- Storing the status name is the first thing an accepted update does. -/
theorem Timed.assigned (h : s.Timed) :
    Assigned ref u s (s.modify ref fun state => { state with status := u.name }) :=
  ⟨h.linked.modify rfl rfl, .modify, modify_objects, h.widths, rfl, rfl, rfl⟩

namespace Assigned

variable (ha : Assigned ref u s s')

include ha

/-- An update that suits no interval finds none. -/
theorem idle (hanimates : (∃ t ∈ s.intervals, t.ref = ref) → u.suitsInterval = true)
    (hsuits : u.suitsInterval = false) : s'.Idle ref := by
  intro t ht href
  rw [ha.intervals] at ht
  rw [hanimates ⟨t, ht, href⟩] at hsuits
  cases hsuits

/-- One that is no failure finds no message. -/
theorem quiet (hhiding : (∃ t ∈ s.timeouts, t.ref = ref) → u.name = some "complete_failure")
    (hname : u.name ≠ some "complete_failure") : ∀ t ∈ s'.timeouts, t.ref ≠ ref := by
  intro t ht href
  rw [ha.timeouts] at ht
  exact hname (hhiding ⟨t, ht, href⟩)

/-- The capture is tracked still. -/
theorem mem (hmem : (captureId, ref) ∈ s.states) : (captureId, ref) ∈ s'.states := by
  rw [ha.states]
  exact hmem

/-- The numbers of the capture's object are as sound as before. -/
theorem sound (h : s.Timed) (hmem : (captureId, ref) ∈ s.states) : (s'.objects ref).Sound := by
  rw [ha.object]
  exact h.sound _ hmem

/-- **In progress, with an estimate**: the interval of the run, whatever ran
before. -/
theorem animate (h : s.Timed) (hmem : (captureId, ref) ∈ s.states)
    (hquiet : ∀ t ∈ s'.timeouts, t.ref ≠ ref) (hprogress : u.name = some "in_progress")
    (hestimate : ((s'.modify ref (TaskState.began u now)).objects ref).estimatedDurationMs.isFinite
        = true ∧
      ((s'.modify ref (TaskState.began u now)).objects ref).estimatedDurationMs.positive = true) :
    ((s'.modify ref (TaskState.began u now)).animateEstimatedProgress captureId ref now).Timed := by
  have hlinked : (s'.modify ref (TaskState.began u now)).Linked := ha.linked.modify rfl rfl
  have hmem' : (captureId, ref) ∈ (s'.modify ref (TaskState.began u now)).states := ha.mem hmem
  have hrunning : ((s'.modify ref (TaskState.began u now)).objects ref).Running := by
    refine ⟨?_, hestimate⟩
    rw [modify_objects, ha.object]
    exact hprogress
  refine Timed.animate (h.of_frame hlinked (ha.frame.trans .modify) (hlinked.interval_mem hmem')
    ha.widths (fun _ _ _ => hrunning) (fun t ht href => absurd href (hquiet t ht)) fun _ _ _ => ?_)
    hmem' hrunning
  rw [modify_objects] at hestimate ⊢
  exact ⟨(ha.sound h hmem).1, fun _ => hestimate.1⟩

/-- **In progress, with no estimate**: nothing that moves. -/
theorem noEstimate (h : s.Timed) (hmem : (captureId, ref) ∈ s.states)
    (hidle : u.suitsInterval = false → s'.Idle ref) (hquiet : ∀ t ∈ s'.timeouts, t.ref ≠ ref)
    (hprogress : u.name = some "in_progress")
    (hestimate : ¬ (((s'.modify ref (TaskState.began u now)).objects
        ref).estimatedDurationMs.isFinite = true ∧
      ((s'.modify ref (TaskState.began u now)).objects ref).estimatedDurationMs.positive = true)) :
    ((s'.modify ref (TaskState.began u now)).show captureId label true showBar percent).Timed := by
  have hpositive : (JsNumber.ofField u.estimatedDurationMsP50).positive = false := by
    rw [modify_objects] at hestimate
    cases hfield : u.estimatedDurationMsP50 with
    | none => rfl
    | some p50 =>
      have hfield' : (TaskState.began u now (s'.objects ref)).estimatedDurationMs = .finite p50 :=
        congrArg JsNumber.ofField hfield
      rw [hfield'] at hestimate
      exact Bool.eq_false_iff.2 fun hpositive => hestimate ⟨rfl, hpositive⟩
  have hlinked : (s'.modify ref (TaskState.began u now)).Linked := ha.linked.modify rfl rfl
  refine h.of_quiet hlinked.updateCard ((ha.frame.trans .modify).trans .updateCard)
    (Widths.show (s := s'.modify ref _) ha.widths (Or.inl rfl)) (hidle ?_) hquiet fun _ _ _ => ?_
  · simp [Update.suitsInterval, hprogress, hpositive]
  · rw [show_objects, modify_objects]
    exact ⟨(ha.sound h hmem).1, fun htrue => absurd (hpositive.symm.trans htrue) (by simp)⟩

/-- **A failure**: the message, and the timeout that hides it. -/
theorem fail (h : s.Timed) (hmem : (captureId, ref) ∈ s.states)
    (hfailure : u.name = some "complete_failure") :
    (((s'.stopTimer ref).show captureId label false showBar none).hideSoon captureId ref).Timed := by
  have hstop : Frame ref s' (s'.stopTimer ref) := ha.linked.frame_stopTimer
  refine h.fail ha.linked.stopTimer.updateCard ((ha.frame.trans hstop).trans .updateCard)
    (ha.widths.stopTimer.show (Or.inr (by simp))) ?_ ?_ ?_ ?_
  · change (captureId, ref) ∈ (s'.stopTimer ref).states
    rw [stopTimer_states]
    exact ha.mem hmem
  · rw [show_objects, stopTimer_objects, ha.object]
    exact hfailure
  · rw [show_objects, stopTimer_objects]
    exact ha.sound h hmem
  · change ∀ t ∈ (s'.stopTimer ref).timeouts, t.ref = ref →
      ((s'.stopTimer ref).objects ref).hideTimer = some t.id
    rw [stopTimer_timeouts, ha.timeouts, stopTimer_objects, ha.object]
    rintro t ht rfl
    exact (h.failing t ht).2.2

end Assigned

/-- **An accepted status** leaves timers that match, if the ones it finds
suit it. -/
theorem Timed.acceptStatus (h : s.Timed) (hmem : (captureId, ref) ∈ s.states)
    (hhiding : (∃ t ∈ s.timeouts, t.ref = ref) → u.name = some "complete_failure")
    (hanimates : (∃ t ∈ s.intervals, t.ref = ref) → u.suitsInterval = true) :
    (s.acceptStatus captureId ref u now).Timed := by
  obtain ⟨haccepted, hframe, -⟩ : Accepted captureId ref u s
    (s.acceptStatus captureId ref u now) := h.linked.acceptStatus hmem
  have ha : Assigned ref u s (s.modify ref fun state => { state with status := u.name }) :=
    h.assigned
  revert haccepted hframe
  unfold Page.acceptStatus
  simp only
  generalize (s.modify ref fun state => { state with status := u.name }) = s₁ at *
  have hidle := ha.idle hanimates
  have hquiet := ha.quiet hhiding
  have hstopped : ((s₁.stopTimer ref).objects ref).Sound := by
    rw [stopTimer_objects]
    exact ha.sound h hmem
  split_ifs with hqueued hprogress hestimate hretry hsuccess hfailure
  · intro haccepted hframe
    refine h.of_quiet haccepted hframe (ha.widths.show (Or.inl rfl)) (hidle ?_) (hquiet ?_)
      fun _ _ _ => ha.sound h hmem
    · simp [Update.suitsInterval, hqueued]
    · simp [hqueued]
  · exact fun _ _ => ha.animate h hmem (hquiet (by simp [hprogress])) hprogress hestimate
  · exact fun _ _ => ha.noEstimate h hmem hidle (hquiet (by simp [hprogress])) hprogress hestimate
  · intro haccepted hframe
    refine h.of_quiet haccepted hframe (ha.widths.stopTimer.show (Or.inl rfl))
      ha.linked.idle_stopTimer ?_ fun _ _ _ => hstopped
    change ∀ t ∈ (s₁.stopTimer ref).timeouts, t.ref ≠ ref
    rw [stopTimer_timeouts]
    exact hquiet (by simp [hretry])
  · intro haccepted hframe
    refine h.of_quiet haccepted hframe
      (Widths.updateCard ha.widths.stopTimer fun card hc => ha.widths.stopTimer _ card hc)
      ha.linked.idle_stopTimer ?_ fun _ _ _ => hstopped
    change ∀ t ∈ (s₁.stopTimer ref).timeouts, t.ref ≠ ref
    rw [stopTimer_timeouts]
    exact hquiet (by simp [hsuccess])
  · exact fun _ _ => ha.fail h hmem hfailure
  · intro haccepted hframe
    refine h.of_quiet haccepted hframe ha.widths (hidle ?_) (hquiet hfailure)
      fun _ _ _ => ha.sound h hmem
    simp [Update.suitsInterval, hprogress, hretry, hsuccess, hfailure]

/-- An update keeps the timers matched, given that it disturbs neither a hide
under way nor a running animation of its captures. -/
theorem Timed.accept (h : s.Timed)
    (hu : ∀ captureId ∈ u.entityId, (s.Hiding captureId → u.name = some "complete_failure") ∧
      (s.Animates captureId → u.suitsInterval = true)) : (s.accept u now).Timed := by
  unfold Page.accept
  split
  · exact h
  · rename_i captureId hid
    obtain ⟨hhiding, hanimates⟩ := hu captureId hid
    split
    · rename_i ref hstate
      have hmem := mem_of_stateOf hstate
      refine h.acceptStatus hmem ?_ ?_
      · rintro ⟨t, ht, href⟩
        refine hhiding ⟨t, ht, ?_⟩
        exact ((h.linked.timeout t ht).2.2 _ hmem href.symm).symm
      · rintro ⟨t, ht, href⟩
        refine hanimates ⟨t, ht, ?_⟩
        exact h.linked.captureId_of_interval hmem ht href
    · rename_i hnone
      split_ifs
      · refine (h.addState hnone).acceptStatus (mem_addState.2 (Or.inr rfl)) ?_ ?_
        · rintro ⟨t, ht, href⟩
          exact absurd href (h.linked.ref_ne_nextRef.2 t ht)
        · rintro ⟨t, ht, href⟩
          exact absurd href (h.linked.ref_ne_nextRef.1 t ht)
      · exact h

end Page

/-! ## Every run -/

variable {s s' : Page} {e : Event} {es : List Event} {rendered : String → Bool}

/-- A page starts without timers. -/
theorem timed_start (rendered : String → Bool) : (Page.start rendered).Timed := by
  refine ⟨⟨List.nodup_nil, List.nodup_nil, List.forall_mem_nil _, List.nodup_nil,
    List.forall_mem_nil _, fun ref id hid => ?_, List.nodup_nil, List.forall_mem_nil _,
    fun ref id hid => ?_⟩, fun _ => List.forall_mem_nil _, List.forall_mem_nil _,
    List.forall_mem_nil _, List.forall_mem_nil _, ?_⟩
  · cases hid
  · cases hid
  · intro captureId card hcard
    simp only [Page.start] at hcard
    split_ifs at hcard
    cases hcard
    simp [Indicator.rendered]

/-- One event keeps the timers matched. -/
theorem timed_of_step (h : s.Timed) (hstep : system.step s e = some s')
    (hu : Undisturbed s e) : s'.Timed := by
  cases e with
  | start captureId now =>
    cases hstep
    exact h.startTask
  | accept u now =>
    cases hstep
    exact h.accept hu
  | refresh now =>
    cases hstep
    exact h.foldl_renderState (List.Subset.refl _)
  | tick t now =>
    change (if t ∈ s.intervals then _ else _) = _ at hstep
    split_ifs at hstep with ht
    cases hstep
    exact h.update ht
  | fire t =>
    change (if t ∈ s.timeouts then _ else _) = _ at hstep
    split_ifs at hstep with ht
    cases hstep
    exact h.fire ht
  | swap captureId rendered =>
    cases hstep
    refine ⟨⟨h.linked.keys, h.linked.refs, h.linked.fresh, h.linked.intervalIds,
      h.linked.interval, h.linked.progressTimer, h.linked.timeoutIds, h.linked.timeout,
      h.linked.hideTimer⟩, h.attached, h.running, h.failing, h.sound, ?_⟩
    intro c card hcard
    by_cases hc : c = captureId
    · rw [hc] at hcard
      simp only [Function.update_self] at hcard
      split_ifs at hcard
      cases hcard
      simp [Indicator.rendered]
    · simp only [Function.update_of_ne hc] at hcard
      exact h.widths c card hcard

/-- A hide timer that fires takes nothing off the map but a failure. -/
def DropsFailure (s : Page) (e : Event) : Prop :=
  ∀ t, e = .fire t → ∀ ref, s.stateOf t.captureId = some ref →
    (s.objects ref).status = some "complete_failure"

/-- **The timers match the tracked state**, in every run in which no event
comes in between: each interval that runs belongs to the state in the map
under its capture, one for each capture at most, in progress and with an
estimate; a message about to be hidden is one of a failure; and no run in
progress is taken off the map. -/
theorem progress_timers (rendered : String → Bool) {es : List Event} {s : Page}
    (h : system.run (Page.start rendered) es = some s)
    (hu : system.Along (fun s e _ => Undisturbed s e) (Page.start rendered) es) :
    s.TimersMatch ∧ system.Along (fun s e _ => DropsFailure s e) (Page.start rendered) es := by
  have hstep : ∀ s₁ e t es, Page.Timed s₁ → system.step s₁ e = some t → system.run t es = some s →
      Undisturbed s₁ e → t.Timed ∧ DropsFailure s₁ e := by
    intro s₁ e t es hs₁ hstep _ hu
    refine ⟨timed_of_step hs₁ hstep hu, ?_⟩
    rintro timer rfl ref hstate
    change (if timer ∈ s₁.timeouts then _ else _) = _ at hstep
    split_ifs at hstep with htimer
    exact (hs₁.status_of_stateOf htimer hstate).2
  obtain ⟨hs, hdrops⟩ := System.run_inv_to hstep (timed_start rendered) h hu
  exact ⟨hs.timersMatch, hdrops⟩

/-! ### A run of a capture that failed before -/

/-- The run of the capture failed for good. -/
def failure : Update := ⟨some "42", some "complete_failure", none, none⟩

/-- The capture runs again, twenty seconds by the estimate. -/
def rerun : Update := ⟨some "42", some "in_progress", some 2000, some 20000⟩

/-- The capture fails, its message is hidden, and it runs again. -/
def rerunAfterHide : List Event :=
  [.start "42" 1000, .accept failure 1500, .fire ⟨1, "42", 0⟩, .accept rerun 2000]

/-- A failure whose hide has fired, and then the capture's task once more. -/
theorem progress_timers_rerun :
    ∃ s, system.run (Page.start fun _ => true) rerunAfterHide = some s ∧
      s.TimersMatch ∧ system.Along (fun s e _ => DropsFailure s e) (Page.start fun _ => true)
        rerunAfterHide := by
  have hrun : system.run (Page.start fun _ => true) rerunAfterHide = some _ := rfl
  exact ⟨_, hrun, progress_timers _ hrun (by decide)⟩

/-- The capture runs again while its message is still shown. -/
def rerunBeforeHide : List Event :=
  [.start "42" 1000, .accept failure 1500, .accept rerun 2000, .fire ⟨1, "42", 0⟩]

/-- **A rerun is hidden and dropped** when it starts while the failure before
it is about to be hidden, and its interval runs on. -/
theorem rerun_dropped :
    ∃ s, system.run (Page.start fun _ => true) rerunBeforeHide = some s ∧ ¬ s.TimersMatch ∧
      ¬ system.Along (fun s e _ => DropsFailure s e) (Page.start fun _ => true)
        rerunBeforeHide := by
  refine ⟨_, rfl, fun h => ?_, fun h => ?_⟩
  · have hstored := h.stored ⟨2, "42", 0⟩ (by decide)
    revert hstored
    decide
  · have hdrops := ((((h _ rfl).2 _ rfl).2 _ rfl).2 _ rfl).1 ⟨1, "42", 0⟩ rfl 0 (by decide)
    revert hdrops
    decide

end Progress

end Dreamscroll
