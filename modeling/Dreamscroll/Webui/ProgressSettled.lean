import Dreamscroll.Task.Status
import Dreamscroll.Webui.ProgressTimers
/-!
# A settled run leaves no indicator

The server settles a run in three ways and `accept` knows two of them: a
capture whose submission failed stays as it was drawn (`submission_stuck`).
What remains of the other two is a message with a timeout, and when that has
fired the capture is off the map and its indicator hidden, unless an interval
outlived its entry (`settled_leaves_nothing`).
-/

namespace Dreamscroll

namespace Progress

namespace Page

/-- **The indicator and the intervals of the capture** belong to its entry. -/
structure Tracked (s : Page) (captureId : String) : Prop where
  linked : s.Linked
  attached : s.Attached captureId
  shown : ∀ card, s.cards captureId = some card → card.hidden = false →
    ∃ ref, (captureId, ref) ∈ s.states

/-- **What a settled status leaves of a capture**: nothing that runs, and of
an entry its message alone. -/
structure Settling (s : Page) (captureId : String) : Prop where
  still : ¬ s.Animates captureId
  message : ∀ ref, (captureId, ref) ∈ s.states →
    (s.objects ref).status ≠ some "in_progress" ∧ s.Hiding captureId

/-- Nothing is left of the capture. -/
structure Cleared (s : Page) (captureId : String) : Prop where
  entry : s.stateOf captureId = none
  interval : ¬ s.Animates captureId
  hidden : ∀ card, s.cards captureId = some card → card.hidden = true

end Page

/-- No hide timer of the capture fires while an interval of it runs. -/
def FiresStill (c : String) (s : Page) : Event → Prop
  | .fire t => t.captureId = c → ¬ s.Animates c
  | _ => True

/-- The event is an update of the capture. -/
def Event.Accepts (captureId : String) : Event → Prop
  | .accept u _ => u.entityId = some captureId
  | _ => False

/-- `start` is not called for the capture, or finds an entry, or a message
about to be hidden. -/
def StartsTracked (c : String) (s : Page) : Event → Prop
  | .start captureId _ => captureId = c → s.stateOf c ≠ none ∨ s.Hiding c
  | _ => True

instance (c : String) : ∀ s e, Decidable (FiresStill c s e)
  | s, .fire t => inferInstanceAs (Decidable (t.captureId = c → ¬ s.Animates c))
  | _, .start _ _ | _, .accept _ _ | _, .refresh _ | _, .tick _ _ | _, .swap _ _ => isTrue trivial

instance (c : String) : ∀ e : Event, Decidable (e.Accepts c)
  | .accept u _ => inferInstanceAs (Decidable (u.entityId = some c))
  | .start _ _ | .refresh _ | .tick _ _ | .fire _ | .swap _ _ => isFalse id

instance (c : String) : ∀ s e, Decidable (StartsTracked c s e)
  | s, .start captureId _ =>
    inferInstanceAs (Decidable (captureId = c → s.stateOf c ≠ none ∨ s.Hiding c))
  | _, .accept _ _ | _, .refresh _ | _, .tick _ _ | _, .fire _ | _, .swap _ _ => isTrue trivial

namespace Page

variable {s s' : Page} {captureId label c : String} {ref : ℕ} {now : ℤ} {t : Timer} {u : Update}

/-! ## What is seen is tracked -/

/-- Redrawing some capture keeps this one tracked. -/
theorem Tracked.of_redrawn (h : s.Tracked c) (hr : Redrawn captureId ref s s')
    (hmem : (captureId, ref) ∈ s.states) : s'.Tracked c := by
  refine ⟨hr.linked, hr.attached hmem h.attached, fun card hcard hseen => ?_⟩
  rw [hr.states]
  by_cases hc : c = captureId
  · rw [hc]
    exact ⟨ref, hmem⟩
  · rw [hr.cards c hc] at hcard
    exact h.shown card hcard hseen

/-- Redrawing some of the captures, by induction on the list. -/
theorem Tracked.foldl_renderState (h : s.Tracked c) {entries : List (String × ℕ)}
    (hsub : entries ⊆ s.states) : (entries.foldl (Page.renderState now) s).Tracked c := by
  induction entries generalizing s with
  | nil => exact h
  | cons entry entries ih =>
    have hmem : (entry.1, entry.2) ∈ s.states := hsub List.mem_cons_self
    have hr : Redrawn entry.1 entry.2 s (Page.renderState now s entry) :=
      h.linked.redrawn_renderState hmem
    refine ih (h.of_redrawn hr hmem) fun p hp => ?_
    rw [hr.states]
    exact hsub (List.mem_cons_of_mem _ hp)

/-- A new capture is tracked from the start. -/
theorem Tracked.addState (h : s.Tracked c) (hnone : s.stateOf captureId = none)
    {status : Option String} : (s.addState captureId status).Tracked c := by
  refine ⟨h.linked.addState hnone, fun t ht hcapture => ?_, fun card hcard hseen => ?_⟩
  · exact mem_addState.2 (Or.inl (h.attached t ht hcapture))
  · obtain ⟨ref, hmem⟩ := h.shown card hcard hseen
    exact ⟨ref, mem_addState.2 (Or.inl hmem)⟩

/-- An accepted status of some capture keeps this one tracked. -/
theorem Tracked.of_accepted (h : s.Tracked c) (hmem : (captureId, ref) ∈ s.states)
    (ha : Accepted captureId ref u s s') : s'.Tracked c := by
  refine ⟨ha.linked, ha.attached h.attached, fun card hcard hseen => ?_⟩
  by_cases hc : c = captureId
  · subst hc
    by_cases hname : u.name = some "complete_success"
    · rw [(ha.gone hname).2.2 card hcard] at hseen
      cases hseen
    · exact ⟨ref, ha.kept hname⟩
  · rw [ha.cards c hc] at hcard
    obtain ⟨ref', hmem'⟩ := h.shown card hcard hseen
    refine ⟨ref', (ha.frame.states (c, ref') ?_).2 hmem'⟩
    rintro rfl
    exact hc (h.linked.captureId_eq hmem' hmem)

/-- An update keeps the capture tracked. -/
theorem Tracked.accept (h : s.Tracked c) : (s.accept u now).Tracked c := by
  unfold Page.accept
  split
  · exact h
  · rename_i captureId hid
    split
    · rename_i ref hstate
      have hmem := mem_of_stateOf hstate
      exact h.of_accepted hmem (h.linked.acceptStatus hmem)
    · rename_i hnone
      split_ifs
      · have hadded : (s.addState captureId none).Tracked c := h.addState hnone
        have hmem : (captureId, s.nextRef) ∈ (s.addState captureId none).states :=
          mem_addState.2 (Or.inr rfl)
        exact hadded.of_accepted hmem (hadded.linked.acceptStatus hmem)
      · exact h

/-- A task that starts keeps the capture tracked. -/
theorem Tracked.startTask (h : s.Tracked c) : (s.startTask captureId now).Tracked c := by
  unfold Page.startTask
  split
  · rename_i ref hstate
    have hmem := mem_of_stateOf hstate
    exact h.of_redrawn (h.linked.redrawn_renderState hmem) hmem
  · rename_i hnone
    have hadded : (s.addState captureId (some "queued")).Tracked c := h.addState hnone
    have hmem : (captureId, s.nextRef) ∈ (s.addState captureId (some "queued")).states :=
      mem_addState.2 (Or.inr rfl)
    exact hadded.of_redrawn hadded.linked.redrawn_show hmem

/-- An interval draws its capture, which the map may have lost. -/
theorem Tracked.update (h : s.Tracked c) (ht : t ∈ s.intervals) :
    (s.update t.captureId t.ref now).Tracked c := by
  have hr : Redrawn t.captureId t.ref s (s.update t.captureId t.ref now) := h.linked.redrawn_update
  refine ⟨hr.linked, h.attached, fun card hcard hseen => ?_⟩
  by_cases hc : c = t.captureId
  · exact ⟨t.ref, h.attached t ht hc.symm⟩
  · rw [hr.cards c hc] at hcard
    exact h.shown card hcard hseen

/-- A hide takes a capture off the page, and keeps this one tracked if that is
not this one in the middle of an animation. -/
theorem Tracked.fire (h : s.Tracked c) (hstill : t.captureId = c → ¬ s.Animates c) :
    ((s.clearTimeout t.id).hide t.captureId).Tracked c := by
  have hcard : ((s.clearTimeout t.id).updateCard t.captureId fun card =>
      { card with hidden := true, isIndeterminate := false }).Linked :=
    h.linked.clearTimeout.updateCard
  refine ⟨hcard.deleteState, fun t' ht' hcapture => ?_, fun card hc hseen => ?_⟩
  · exact mem_deleteState.2
      ⟨h.attached t' ht' hcapture, fun heq => hstill heq.symm ⟨t', ht', hcapture⟩⟩
  · rw [hide, deleteState_cards] at hc
    by_cases hcapture : c = t.captureId
    · rw [hcapture, updateCard_cards] at hc
      obtain ⟨card', -, rfl⟩ := Option.map_eq_some_iff.1 hc
      cases hseen
    · obtain ⟨ref, hmem⟩ := h.shown card ((Function.update_of_ne hcapture ..).symm.trans hc) hseen
      exact ⟨ref, mem_deleteState.2 ⟨hmem, hcapture⟩⟩

/-! ## A settled update -/

/-- The intervals of a capture whose entry is gone, or idle. -/
theorem Attached.not_animates (h : s.Attached captureId)
    (hidle : ∀ ref, (captureId, ref) ∈ s.states → s.Idle ref) : ¬ s.Animates captureId := by
  rintro ⟨t, ht, rfl⟩
  exact hidle t.ref (h t ht rfl) t ht rfl

/-- A capture the page does not know is settling: no timer is left of it. -/
theorem Attached.settling_of_none (h : s.Attached captureId) (hnone : ∀ p ∈ s.states, p.1 ≠ captureId) :
    s.Settling captureId :=
  ⟨h.not_animates fun _ hmem => absurd rfl (hnone _ hmem), fun _ hmem => absurd rfl (hnone _ hmem)⟩

/-- A failure begins to settle its capture: the interval stops and the hide is
armed. -/
theorem Tracked.settling_of_failure (h : s.Tracked captureId) (hmem : (captureId, ref) ∈ s.states)
    (hname : u.name = some "complete_failure") :
    (s.acceptStatus captureId ref u now).Settling captureId := by
  have ha : Accepted captureId ref u s (s.acceptStatus captureId ref u now) :=
    h.linked.acceptStatus hmem
  have hmem' := ha.kept (by simp [hname])
  have hmodify : (s.modify ref fun state => { state with status := u.name }).Linked :=
    h.linked.modify rfl rfl
  have hs' : s.acceptStatus captureId ref u now =
      (((s.modify ref fun state => { state with status := u.name }).stopTimer ref).show captureId
        "Illumination failed." false false none).hideSoon captureId ref := by
    simp [Page.acceptStatus, hname]
  obtain ⟨id, hobject, hintervals, -, -, htimeouts⟩ := hideSoon_spec
    (((s.modify ref fun state => { state with status := u.name }).stopTimer ref).show captureId
      "Illumination failed." false false none) captureId ref
  rw [← hs'] at hobject hintervals htimeouts
  have hidle : (s.acceptStatus captureId ref u now).Idle ref := by
    unfold Idle
    rw [hintervals]
    exact hmodify.stopTimer.updateCard.idle_stopTimer
  refine ⟨(ha.attached h.attached).not_animates fun ref' hentry => ?_, fun ref' hentry => ?_⟩
  · rw [ha.linked.ref_eq hentry hmem']
    exact hidle
  · rw [ha.linked.ref_eq hentry hmem']
    refine ⟨?_, _, (htimeouts _).2 (Or.inr rfl), rfl⟩
    rw [hobject, show_objects, stopTimer_objects, modify_objects]
    simp [hname]

/-- A submission that failed leaves a capture that is not followed, or one
whose message is about to be hidden. -/
def SubmissionFailsClear (s : Page) (captureId : String) (u : Update) : Prop :=
  u.name = some TaskRunStatus.submissionFailed.asStr →
    s.stateOf captureId = none ∨ s.Hiding captureId ∧ ¬ s.Animates captureId

/-- **A settled update settles its capture.** -/
theorem Tracked.settling_of_accept (h : s.Tracked captureId) (hid : u.entityId = some captureId)
    {status : TaskRunStatus} (hname : u.name = some status.asStr)
    (hsettled : status.isInFlight = false) (hclear : s.SubmissionFailsClear captureId u) :
    (s.accept u now).Settling captureId := by
  unfold Page.accept
  rw [hid]
  simp only
  split
  · rename_i ref hstate
    have hmem := mem_of_stateOf hstate
    cases status with
    | submissionFailed =>
      rcases hclear hname with hnone | ⟨hhiding, hstill⟩
      · rw [hnone] at hstate
        cases hstate
      · have hs' : s.acceptStatus captureId ref u now =
            s.modify ref fun state => { state with status := u.name } := by
          simp [Page.acceptStatus, hname, TaskRunStatus.asStr]
        rw [hs']
        refine ⟨hstill, fun ref' hmem' => ⟨?_, hhiding⟩⟩
        rw [h.linked.ref_eq hmem' hmem, modify_objects]
        simp [hname, TaskRunStatus.asStr]
    | completeSuccess =>
      have ha : Accepted captureId ref u s (s.acceptStatus captureId ref u now) :=
        h.linked.acceptStatus hmem
      exact (ha.attached h.attached).settling_of_none (ha.gone hname).1
    | completeFailure => exact h.settling_of_failure hmem hname
    | queued => cases hsettled
    | inProgress => cases hsettled
    | errorWillRetry => cases hsettled
  · rename_i hnone
    have hnew : ¬ (u.name = some "queued" ∨ u.name = some "in_progress" ∨
        u.name = some "error_will_retry") := by
      rw [hname]
      cases status <;> simp_all [TaskRunStatus.asStr, TaskRunStatus.isInFlight]
    rw [if_neg hnew]
    exact h.attached.settling_of_none (stateOf_eq_none.1 hnone)

/-! ## Afterwards -/

/-- **Events of other captures** leave a settled one alone. -/
theorem Settling.of_frame (h : s.Settling c) (ha : s'.Attached c) (hframe : Frame ref s s')
    (hentry : ∀ ref', (c, ref') ∈ s'.states → ref' ≠ ref)
    (htimeouts : ∀ t ∈ s.timeouts, t.captureId = c → t.ref ≠ ref) : s'.Settling c := by
  constructor
  · rintro ⟨t, ht, rfl⟩
    have hne := hentry t.ref (ha t ht rfl)
    exact h.still ⟨t, (hframe.intervals t hne).1 ht, rfl⟩
  · intro ref' hmem
    have hne := hentry ref' hmem
    obtain ⟨hstatus, t, ht, hcapture⟩ := h.message ref' ((hframe.states (c, ref') hne).1 hmem)
    rw [hframe.objects ref' hne]
    exact ⟨hstatus, t, (hframe.timeouts t (htimeouts t ht hcapture)).2 ht, hcapture⟩

/-- The object of another capture is none of this one's. -/
theorem Settling.of_other (h : s.Settling c) (hlinked : s.Linked) (ha : s'.Attached c)
    (hframe : Frame ref s s') (hmem : (captureId, ref) ∈ s.states) (hc : captureId ≠ c)
    (hsub : s'.states ⊆ s.states) : s'.Settling c := by
  refine h.of_frame ha hframe ?_ ?_
  · rintro ref' hmem' rfl
    exact hc (hlinked.captureId_eq hmem (hsub hmem'))
  · rintro t ht rfl href
    exact hc ((hlinked.timeout t ht).2.2 _ hmem href.symm)

/-- Redrawing some capture leaves this one settling, unless it gives it an
interval. -/
theorem Settling.of_redrawn (h : s.Settling c) (hs : s.Tracked c)
    (hr : Redrawn captureId ref s s') (hmem : (captureId, ref) ∈ s.states)
    (hown : captureId = c → s'.intervals = s.intervals) : s'.Settling c := by
  by_cases hc : captureId = c
  · subst hc
    constructor
    · unfold Animates
      rw [hown rfl]
      exact h.still
    · intro ref' hmem'
      rw [hr.states] at hmem'
      obtain ⟨hstatus, hhiding⟩ := h.message ref' hmem'
      rw [hs.linked.ref_eq hmem' hmem] at hstatus ⊢
      rw [hr.status]
      refine ⟨hstatus, ?_⟩
      unfold Hiding
      rw [hr.timeouts]
      exact hhiding
  · refine h.of_other hs.linked (hr.attached hmem hs.attached) hr.frame hmem hc ?_
    rw [hr.states]
    exact List.Subset.refl _

/-- Redrawing a settling capture starts no interval for it. -/
theorem Settling.renderState (h : s.Settling c) (hs : s.Tracked c)
    (hmem : (captureId, ref) ∈ s.states) : (s.renderState now (captureId, ref)).Settling c := by
  refine h.of_redrawn hs (hs.linked.redrawn_renderState hmem) hmem ?_
  rintro rfl
  exact renderState_intervals fun hrun => (h.message ref hmem).1 hrun.1

/-- Redrawing some of the captures leaves this one settling. -/
theorem Settling.foldl_renderState (h : s.Settling c) (hs : s.Tracked c)
    {entries : List (String × ℕ)} (hsub : entries ⊆ s.states) :
    (entries.foldl (Page.renderState now) s).Settling c := by
  induction entries generalizing s with
  | nil => exact h
  | cons entry entries ih =>
    have hmem : (entry.1, entry.2) ∈ s.states := hsub List.mem_cons_self
    have hr : Redrawn entry.1 entry.2 s (Page.renderState now s entry) :=
      hs.linked.redrawn_renderState hmem
    refine ih (h.renderState hs hmem) (hs.of_redrawn hr hmem) fun p hp => ?_
    rw [hr.states]
    exact hsub (List.mem_cons_of_mem _ hp)

/-- A new capture leaves the others settling. -/
theorem Settling.addState (h : s.Settling c) (hs : s.Tracked c)
    (hnone : s.stateOf captureId = none) (hc : captureId ≠ c) {status : Option String} :
    (s.addState captureId status).Settling c := by
  refine h.of_frame (hs.addState hnone).attached .addState ?_
    fun t ht _ => hs.linked.ref_ne_nextRef.2 t ht
  rintro ref' hmem' rfl
  rcases mem_addState.1 hmem' with hmem' | heq
  · exact lt_irrefl _ (hs.linked.fresh _ hmem')
  · exact hc (congrArg Prod.fst heq).symm

/-- An update that is not about this capture leaves it settling. -/
theorem Settling.accept (h : s.Settling c) (hs : s.Tracked c) (hc : u.entityId ≠ some c) :
    (s.accept u now).Settling c := by
  unfold Page.accept
  split
  · exact h
  · rename_i captureId hid
    have hne : captureId ≠ c := by
      rintro rfl
      exact hc hid
    split
    · rename_i ref hstate
      have hmem := mem_of_stateOf hstate
      have ha : Accepted captureId ref u s (s.acceptStatus captureId ref u now) :=
        hs.linked.acceptStatus hmem
      exact h.of_other hs.linked (ha.attached hs.attached) ha.frame hmem hne ha.sub
    · rename_i hnone
      split_ifs
      · have hadded : (s.addState captureId none).Tracked c := hs.addState hnone
        have hmem : (captureId, s.nextRef) ∈ (s.addState captureId none).states :=
          mem_addState.2 (Or.inr rfl)
        have ha : Accepted captureId s.nextRef u (s.addState captureId none)
          ((s.addState captureId none).acceptStatus captureId s.nextRef u now) :=
            hadded.linked.acceptStatus hmem
        exact (h.addState hs hnone hne).of_other hadded.linked (ha.attached hadded.attached) ha.frame
          hmem hne ha.sub
      · exact h

/-- A message about to be hidden takes a new entry along. -/
theorem Settling.addState_of_hiding (h : s.Settling c) (hlinked : s.Linked)
    (hnone : s.stateOf c = none) (hhiding : s.Hiding c) :
    ((s.addState c (some "queued")).show c label true false none).Settling c := by
  refine ⟨h.still, fun ref hmem => ⟨?_, hhiding⟩⟩
  have hown : (c, s.nextRef) ∈ (s.addState c (some "queued")).states := mem_addState.2 (Or.inr rfl)
  rw [(hlinked.addState hnone).ref_eq hmem hown, show_objects, addState_objects]
  simp [TaskState.new]

/-- A start leaves a capture settling when the page knows it already. -/
theorem Settling.startTask (h : s.Settling c) (hs : s.Tracked c)
    (hstart : captureId = c → s.stateOf c ≠ none ∨ s.Hiding c) :
    (s.startTask captureId now).Settling c := by
  unfold Page.startTask
  split
  · rename_i ref hstate
    exact h.renderState hs (mem_of_stateOf hstate)
  · rename_i hnone
    by_cases hc : captureId = c
    · subst hc
      rcases hstart rfl with hsome | hhiding
      · exact absurd hnone hsome
      · exact h.addState_of_hiding hs.linked hnone hhiding
    · have hadded : (s.addState captureId (some "queued")).Tracked c := hs.addState hnone
      have hmem : (captureId, s.nextRef) ∈ (s.addState captureId (some "queued")).states :=
        mem_addState.2 (Or.inr rfl)
      exact (h.addState hs hnone hc).of_redrawn hadded hadded.linked.redrawn_show hmem fun _ => rfl

/-- No interval of a settled capture is left to draw it. -/
theorem Settling.update (h : s.Settling c) (hlinked : s.Linked) (ht : t ∈ s.intervals) :
    (s.update t.captureId t.ref now).Settling c := by
  refine ⟨h.still, fun ref hmem => ?_⟩
  have hne : ref ≠ t.ref := by
    intro heq
    exact h.still ⟨t, ht, hlinked.captureId_of_interval hmem ht heq.symm⟩
  have hr : Redrawn t.captureId t.ref s (s.update t.captureId t.ref now) := hlinked.redrawn_update
  rw [hr.frame.objects ref hne]
  exact h.message ref hmem

/-- A hide timer takes off the map what it was to hide. -/
theorem Settling.fire (h : s.Settling c) (hlinked : s.Linked) (ht : t ∈ s.timeouts) :
    ((s.clearTimeout t.id).hide t.captureId).Settling c := by
  refine ⟨h.still, fun ref hmem => ?_⟩
  obtain ⟨hmem, hne⟩ := mem_deleteState.1 hmem
  obtain ⟨hstatus, t', ht', hcapture⟩ := h.message ref hmem
  refine ⟨hstatus, t', mem_clearTimeout.2 ⟨ht', fun heq => hne ?_⟩, hcapture⟩
  rw [← List.inj_on_of_nodup_map hlinked.timeoutIds ht' ht heq]
  exact hcapture.symm

end Page

/-! ## Every run -/

variable {s s₁ s' : Page} {e : Event} {es es₁ es₂ : List Event} {c : String} {u : Update} {now : ℤ}
  {status : TaskRunStatus}

/-- A page that has just been rendered shows no indicator and runs no timer. -/
theorem tracked_start (rendered : String → Bool) (c : String) : (Page.start rendered).Tracked c := by
  have htimed := timed_start rendered
  refine ⟨htimed.linked, htimed.attached c, fun card hcard hseen => ?_⟩
  simp only [Page.start] at hcard
  split_ifs at hcard
  cases hcard
  cases hseen

/-- One event keeps the capture tracked, if it does not hide it while it is
animated. -/
theorem tracked_of_step (h : s.Tracked c) (hstep : system.step s e = some s')
    (hstill : FiresStill c s e) : s'.Tracked c := by
  cases e with
  | start captureId now =>
    cases hstep
    exact h.startTask
  | accept u now =>
    cases hstep
    exact h.accept
  | refresh now =>
    cases hstep
    exact h.foldl_renderState (List.Subset.refl _)
  | tick t now =>
    change (if t ∈ s.intervals then _ else _) = _ at hstep
    split_ifs at hstep with ht
    cases hstep
    exact h.update ht
  | fire t =>
    change (if t ∈ s.timeouts then _ else _) = _ at hstep
    split_ifs at hstep with ht
    cases hstep
    exact h.fire hstill
  | swap captureId rendered =>
    cases hstep
    refine ⟨⟨h.linked.keys, h.linked.refs, h.linked.fresh, h.linked.intervalIds,
      h.linked.interval, h.linked.progressTimer, h.linked.timeoutIds, h.linked.timeout,
      h.linked.hideTimer⟩, h.attached, fun card hcard hseen => ?_⟩
    by_cases hc : c = captureId
    · rw [hc] at hcard
      simp only [Function.update_self] at hcard
      split_ifs at hcard
      cases hcard
      cases hseen
    · simp only [Function.update_of_ne hc] at hcard
      exact h.shown card hcard hseen

/-- One event behind the last update of a capture leaves it settling. -/
theorem settling_of_step (h : s.Settling c) (hs : s.Tracked c)
    (hstep : system.step s e = some s') (hlast : ¬ e.Accepts c) (hstart : StartsTracked c s e) :
    s'.Settling c := by
  cases e with
  | start captureId now =>
    cases hstep
    exact h.startTask hs hstart
  | accept u now =>
    cases hstep
    exact h.accept hs hlast
  | refresh now =>
    cases hstep
    exact h.foldl_renderState hs (List.Subset.refl _)
  | tick t now =>
    change (if t ∈ s.intervals then _ else _) = _ at hstep
    split_ifs at hstep with ht
    cases hstep
    exact h.update hs.linked ht
  | fire t =>
    change (if t ∈ s.timeouts then _ else _) = _ at hstep
    split_ifs at hstep with ht
    cases hstep
    exact h.fire hs.linked ht
  | swap captureId rendered =>
    cases hstep
    exact ⟨h.still, h.message⟩

/-- What is settled stays settled until the next update. -/
theorem settling_of_run (h : s.Tracked c) (hs : s.Settling c) (hrun : system.run s es = some s')
    (hlast : ∀ e ∈ es, ¬ e.Accepts c)
    (hstill : system.Along (fun s e _ => FiresStill c s e) s es)
    (hstarts : system.Along (fun s e _ => StartsTracked c s e) s es) :
    s'.Tracked c ∧ s'.Settling c := by
  induction es generalizing s with
  | nil =>
    cases hrun
    exact ⟨h, hs⟩
  | cons e es ih =>
    obtain ⟨t, ht, hrun⟩ := System.run_cons_eq_some.1 hrun
    exact ih (tracked_of_step h ht (hstill t ht).1)
      (settling_of_step hs h ht (hlast e List.mem_cons_self) (hstarts t ht).1) hrun
      (fun e' he' => hlast e' (List.mem_cons_of_mem _ he')) (hstill t ht).2 (hstarts t ht).2

/-- Once its message is hidden, nothing is left of a settled capture. -/
theorem Page.Tracked.cleared (h : s.Tracked c) (hs : s.Settling c) (hfired : ¬ s.Hiding c) :
    s.Cleared c := by
  have hnone : ∀ p ∈ s.states, p.1 ≠ c := by
    rintro ⟨captureId, ref⟩ hp rfl
    exact hfired (hs.message ref hp).2
  refine ⟨Page.stateOf_eq_none.2 hnone, hs.still, fun card hcard => ?_⟩
  cases hseen : card.hidden with
  | true => rfl
  | false =>
    obtain ⟨ref, hmem⟩ := h.shown card hcard hseen
    exact absurd rfl (hnone _ hmem)

/-- **A settled run leaves no indicator.** After the last update of a
capture, one with a settled status, and once its hide timers have fired, the
capture has no entry and no interval, and its indicator is hidden: where no
hide timer of the capture fires under an interval of it, the submission that
failed was not followed or is about to be hidden, and `start` is not called
anew. -/
theorem settled_leaves_nothing (rendered : String → Bool)
    (h₁ : system.run (Page.start rendered) es₁ = some s₁)
    (h : system.run s₁ (.accept u now :: es₂) = some s) (hid : u.entityId = some c)
    (hname : u.name = some status.asStr) (hsettled : status.isInFlight = false)
    (hlast : ∀ e ∈ es₂, ¬ e.Accepts c) (hfired : ¬ s.Hiding c)
    (hstill : system.Along (fun s e _ => FiresStill c s e) (Page.start rendered)
      (es₁ ++ .accept u now :: es₂))
    (hclear : s₁.SubmissionFailsClear c u)
    (hstarts : system.Along (fun s e _ => StartsTracked c s e) (s₁.accept u now) es₂) :
    s.Cleared c := by
  obtain ⟨hstill₁, hstill⟩ := (System.along_append h₁).1 hstill
  have hs₁ : s₁.Tracked c :=
    System.run_inv_along (I := fun s => s.Tracked c)
      (fun s e s' hs hstep hf => tracked_of_step hs hstep hf) (tracked_start rendered c) h₁ hstill₁
  have hsettling : (s₁.accept u now).Settling c :=
    hs₁.settling_of_accept hid hname hsettled hclear
  obtain ⟨hs, hend⟩ := settling_of_run hs₁.accept hsettling h hlast (hstill _ rfl).2 hstarts
  exact hs.cleared hend hfired

/-! ### Two runs of one capture -/

/-- The submission of the run failed. -/
def notSubmitted : Update := ⟨some "42", some "submission_failed", none, none⟩

/-- The page is drawn again, and the message hidden. -/
def failureRun : List Event := [.refresh 1600, .fire ⟨1, "42", 0⟩]

/-- A capture that fails, is drawn again and has its message hidden. -/
theorem settled_leaves_nothing_failure :
    ∃ s, system.run (Page.start fun _ => true)
      (.start "42" 1000 :: .accept failure 1500 :: failureRun) = some s ∧ s.Cleared "42" := by
  have h₁ : system.run (Page.start fun _ => true) [.start "42" 1000] = some _ := rfl
  have h : system.run ((Page.start fun _ => true).startTask "42" 1000)
    (.accept failure 1500 :: failureRun) = some _ := rfl
  have hname : failure.name = some TaskRunStatus.completeFailure.asStr := rfl
  exact ⟨_, h, settled_leaves_nothing (fun _ => true) h₁ h rfl hname rfl (by decide) (by decide)
    (by decide) (fun hsubmission => absurd hsubmission (by decide)) (by decide)⟩

/-- **A submission that failed leaves its capture queued** for good: no timer
is pending, and the indicator is seen. -/
theorem submission_stuck :
    ∃ s, system.run (Page.start fun _ => true)
      [.start "42" 1000, .accept notSubmitted 1500] = some s ∧
      s.timeouts = [] ∧ s.intervals = [] ∧ ¬ s.Cleared "42" ∧
      (s.cards "42").map Indicator.hidden = some false := by
  refine ⟨_, rfl, rfl, rfl, fun h => ?_, rfl⟩
  have hentry := h.entry
  revert hentry
  decide

end Progress

end Dreamscroll
