import Dreamscroll.Webui.Progress
import Mathlib.Data.List.Nodup
/-!
# How the timers of the page hang together

`Linked` says which timer belongs to which object: an interval to one that
knows it, and both kinds to an object of their own capture. Every function of
the script keeps it, and touches the timers and the object of one capture
only (`Frame`). That the object of an interval is still in the map is another
matter: a hide timer takes an entry off it and stops no interval, so this is
asked of one capture (`Attached`).
-/

namespace Dreamscroll

namespace Progress

namespace Page

/-- **Timers and objects refer to each other.** -/
structure Linked (s : Page) : Prop where
  keys : (s.states.map Prod.fst).Nodup
  refs : (s.states.map Prod.snd).Nodup
  fresh : ∀ p ∈ s.states, p.2 < s.nextRef
  intervalIds : (s.intervals.map Timer.id).Nodup
  interval : ∀ t ∈ s.intervals, t.id < s.nextTimer ∧ t.ref < s.nextRef ∧
    (∀ p ∈ s.states, p.2 = t.ref → p.1 = t.captureId) ∧
    (s.objects t.ref).progressTimer = some t.id
  progressTimer : ∀ ref id, (s.objects ref).progressTimer = some id → id < s.nextTimer ∧
    ∀ t ∈ s.intervals, t.id = id → t.ref = ref
  timeoutIds : (s.timeouts.map Timer.id).Nodup
  timeout : ∀ t ∈ s.timeouts, t.id < s.nextTimer ∧ t.ref < s.nextRef ∧
    ∀ p ∈ s.states, p.2 = t.ref → p.1 = t.captureId
  hideTimer : ∀ ref id, (s.objects ref).hideTimer = some id → id < s.nextTimer ∧
    ∀ t ∈ s.timeouts, t.id = id → t.ref = ref

/-- **The intervals of the capture are those of its entry.** -/
def Attached (s : Page) (captureId : String) : Prop :=
  ∀ t ∈ s.intervals, t.captureId = captureId → (captureId, t.ref) ∈ s.states

/-- No interval runs for the object. -/
def Idle (s : Page) (ref : ℕ) : Prop := ∀ t ∈ s.intervals, t.ref ≠ ref

/-- **Only one object and its timers differ.** -/
structure Frame (ref : ℕ) (s s' : Page) : Prop where
  states : ∀ p : String × ℕ, p.2 ≠ ref → (p ∈ s'.states ↔ p ∈ s.states)
  objects : ∀ r, r ≠ ref → s'.objects r = s.objects r
  intervals : ∀ t : Timer, t.ref ≠ ref → (t ∈ s'.intervals ↔ t ∈ s.intervals)
  timeouts : ∀ t : Timer, t.ref ≠ ref → (t ∈ s'.timeouts ↔ t ∈ s.timeouts)

variable {s s' s'' : Page} {captureId label c : String} {ref id : ℕ} {now : ℤ} {t : Timer}
  {f : TaskState → TaskState} {g : Indicator → Indicator} {percent : Option JsNumber}
  {indeterminate showBar : Bool} {status : Option String} {u : Update}

/-- Nothing differs. -/
theorem Frame.refl : Frame ref s s :=
  ⟨fun _ _ => Iff.rfl, fun _ _ => rfl, fun _ _ => Iff.rfl, fun _ _ => Iff.rfl⟩

/-- Two changes of one object are a change of that object. -/
theorem Frame.trans (h : Frame ref s s') (h' : Frame ref s' s'') : Frame ref s s'' where
  states p hp := (h'.states p hp).trans (h.states p hp)
  objects r hr := (h'.objects r hr).trans (h.objects r hr)
  intervals t ht := (h'.intervals t ht).trans (h.intervals t ht)
  timeouts t ht := (h'.timeouts t ht).trans (h.timeouts t ht)

/-! ## The map -/

/-- What the map answers is an entry of it. -/
theorem mem_of_stateOf (h : s.stateOf captureId = some ref) : (captureId, ref) ∈ s.states := by
  obtain ⟨entry, hfind, hsnd⟩ := Option.map_eq_some_iff.1 h
  have hkey : entry.1 = captureId := by simpa using List.find?_some hfind
  rw [← hkey, ← hsnd]
  exact List.mem_of_find?_eq_some hfind

/-- It answers nothing where no entry has the key. -/
theorem stateOf_eq_none : s.stateOf captureId = none ↔ ∀ p ∈ s.states, p.1 ≠ captureId := by
  unfold stateOf
  rw [Option.map_eq_none_iff, List.find?_eq_none]
  simp

/-- An entry of the map is the one under its key. -/
theorem Linked.ref_eq (h : s.Linked) {ref' : ℕ} (hmem : (captureId, ref) ∈ s.states)
    (hmem' : (captureId, ref') ∈ s.states) : ref = ref' :=
  congrArg Prod.snd (List.inj_on_of_nodup_map h.keys hmem hmem' rfl)

/-- And every entry is what it answers: no key is there twice. -/
theorem Linked.stateOf_of_mem (h : s.Linked) (hmem : (captureId, ref) ∈ s.states) :
    s.stateOf captureId = some ref := by
  cases hstate : s.stateOf captureId with
  | none => exact absurd rfl (stateOf_eq_none.1 hstate _ hmem)
  | some ref' => rw [h.ref_eq hmem (mem_of_stateOf hstate)]

/-- An object is in the map once. -/
theorem Linked.captureId_eq (h : s.Linked) {captureId' : String} (hmem : (captureId, ref) ∈ s.states)
    (hmem' : (captureId', ref) ∈ s.states) : captureId = captureId' :=
  congrArg Prod.fst (List.inj_on_of_nodup_map h.refs hmem hmem' rfl)

/-- Only one key has the object. -/
theorem Linked.owner (h : s.Linked) (hmem : (captureId, ref) ∈ s.states) :
    ∀ p ∈ s.states, p.2 = ref → p.1 = captureId := by
  rintro ⟨captureId', ref'⟩ hp rfl
  exact h.captureId_eq hp hmem

/-- The intervals of an object that has an entry are of its capture. -/
theorem Linked.captureId_of_interval (h : s.Linked) (hmem : (captureId, ref) ∈ s.states)
    (ht : t ∈ s.intervals) (href : t.ref = ref) : t.captureId = captureId :=
  ((h.interval t ht).2.2.1 _ hmem href.symm).symm

/-- So they are those of an entry. -/
theorem Linked.interval_mem (h : s.Linked) (hmem : (captureId, ref) ∈ s.states) :
    ∀ t ∈ s.intervals, t.ref = ref → (t.captureId, ref) ∈ s.states := by
  intro t ht href
  rw [h.captureId_of_interval hmem ht href]
  exact hmem

/-- **What becomes of one object detaches no interval** of another, nor its
own if that has an entry. -/
theorem Attached.of_frame (h : s.Attached c) (hframe : Frame ref s s')
    (hown : ∀ t ∈ s'.intervals, t.ref = ref → (t.captureId, ref) ∈ s'.states) :
    s'.Attached c := by
  rintro t ht rfl
  by_cases href : t.ref = ref
  · rw [href]
    exact hown t ht href
  · exact (hframe.states (t.captureId, t.ref) href).2 (h t ((hframe.intervals t href).1 ht) rfl)

/-! ## Assignments and cards -/

/-- The object of an assignment. -/
theorem modify_objects : (s.modify ref f).objects ref = f (s.objects ref) :=
  Function.update_self ..

/-- The card of a change. -/
theorem updateCard_cards :
    (s.updateCard captureId g).cards captureId = (s.cards captureId).map g :=
  Function.update_self ..

/-- Deleting an entry touches no card. -/
theorem deleteState_cards : (s.deleteState captureId).cards = s.cards := rfl

/-- Showing an indicator touches no object. -/
theorem show_objects :
    (s.show captureId label indeterminate showBar percent).objects = s.objects := rfl

/-- An assignment changes its object alone. -/
theorem Frame.modify : Frame ref s (s.modify ref f) :=
  ⟨fun _ _ => Iff.rfl, fun _ hr => Function.update_of_ne hr .., fun _ _ => Iff.rfl,
    fun _ _ => Iff.rfl⟩

/-- A change of a card changes no object at all. -/
theorem Frame.updateCard : Frame ref s (s.updateCard captureId g) :=
  ⟨fun _ _ => Iff.rfl, fun _ _ => rfl, fun _ _ => Iff.rfl, fun _ _ => Iff.rfl⟩

/-- An assignment that leaves the two timers alone keeps the links. -/
theorem Linked.modify (h : s.Linked)
    (hprogress : (f (s.objects ref)).progressTimer = (s.objects ref).progressTimer)
    (hhide : (f (s.objects ref)).hideTimer = (s.objects ref).hideTimer) :
    (s.modify ref f).Linked := by
  have hobject : ∀ r, ((s.modify ref f).objects r).progressTimer = (s.objects r).progressTimer ∧
      ((s.modify ref f).objects r).hideTimer = (s.objects r).hideTimer := by
    intro r
    by_cases href : r = ref
    · rw [href, modify_objects]
      exact ⟨hprogress, hhide⟩
    · rw [Frame.modify.objects _ href]
      exact ⟨rfl, rfl⟩
  refine ⟨h.keys, h.refs, h.fresh, h.intervalIds, fun t ht => ?_, fun r id hid => ?_, h.timeoutIds,
    h.timeout, fun r id hid => ?_⟩
  · rw [(hobject t.ref).1]
    exact h.interval t ht
  · rw [(hobject r).1] at hid
    exact h.progressTimer r id hid
  · rw [(hobject r).2] at hid
    exact h.hideTimer r id hid

/-- So it keeps the links. -/
theorem Linked.updateCard (h : s.Linked) : (s.updateCard captureId g).Linked :=
  ⟨h.keys, h.refs, h.fresh, h.intervalIds, h.interval, h.progressTimer, h.timeoutIds, h.timeout,
    h.hideTimer⟩

/-! ## The progress timer -/

/-- `stopTimer` leaves the map alone, -/
theorem stopTimer_states : (s.stopTimer ref).states = s.states := by
  unfold stopTimer
  split <;> rfl

/-- the timeouts, -/
theorem stopTimer_timeouts : (s.stopTimer ref).timeouts = s.timeouts := by
  unfold stopTimer
  split <;> rfl

/-- and the cards. -/
theorem stopTimer_cards : (s.stopTimer ref).cards = s.cards := by
  unfold stopTimer
  split <;> rfl

/-- Afterwards the object knows no interval. -/
theorem stopTimer_objects :
    (s.stopTimer ref).objects ref = { s.objects ref with progressTimer := none } := by
  unfold stopTimer
  split
  · exact modify_objects
  · rename_i hnone
    rw [← hnone]

/-- What is left of the intervals is not the object's own. -/
theorem Linked.mem_stopTimer (h : s.Linked) :
    t ∈ (s.stopTimer ref).intervals ↔ t ∈ s.intervals ∧ t.ref ≠ ref := by
  have hown : ∀ t ∈ s.intervals, t.ref = ref → (s.objects ref).progressTimer = some t.id := by
    rintro t ht rfl
    exact (h.interval t ht).2.2.2
  unfold stopTimer
  split
  · rename_i id hid
    change t ∈ s.intervals.filter (fun t => t.id ≠ id) ↔ _
    rw [List.mem_filter, decide_eq_true_eq]
    refine and_congr_right fun ht => not_congr ⟨fun heq => ?_, fun href => ?_⟩
    · exact (h.progressTimer ref id hid).2 t ht heq
    · have htimer := hown t ht href
      rw [hid] at htimer
      exact (Option.some.inj htimer).symm
  · rename_i hnone
    refine ⟨fun ht => ⟨ht, fun href => ?_⟩, fun ht => ht.1⟩
    have htimer := hown t ht href
    rw [hnone] at htimer
    cases htimer

/-- **After `stopTimer` the object has no interval.** -/
theorem Linked.idle_stopTimer (h : s.Linked) : (s.stopTimer ref).Idle ref :=
  fun _ ht => (h.mem_stopTimer.1 ht).2

/-- Nothing but the object and its interval differs. -/
theorem Linked.frame_stopTimer (h : s.Linked) : Frame ref s (s.stopTimer ref) where
  states p _ := by rw [stopTimer_states]
  objects r hr := by
    unfold stopTimer
    split
    · exact Function.update_of_ne hr ..
    · rfl
  intervals t ht := by
    rw [h.mem_stopTimer]
    exact and_iff_left ht
  timeouts t _ := by rw [stopTimer_timeouts]

/-- And the links are kept. -/
theorem Linked.stopTimer (h : s.Linked) : (s.stopTimer ref).Linked := by
  have hnext : (s.stopTimer ref).nextTimer = s.nextTimer ∧
      (s.stopTimer ref).nextRef = s.nextRef := by
    unfold Page.stopTimer
    split <;> exact ⟨rfl, rfl⟩
  have hsub : (s.stopTimer ref).intervals.Sublist s.intervals := by
    unfold Page.stopTimer
    split
    · exact List.filter_sublist
    · exact List.Sublist.refl _
  have hhide : ∀ r, ((s.stopTimer ref).objects r).hideTimer = (s.objects r).hideTimer := by
    intro r
    by_cases href : r = ref
    · rw [href, stopTimer_objects]
    · rw [h.frame_stopTimer.objects r href]
  refine ⟨?_, ?_, ?_, h.intervalIds.sublist (hsub.map _), fun t ht => ?_, fun r id hid => ?_, ?_,
    ?_, fun r id hid => ?_⟩
  · rw [stopTimer_states]
    exact h.keys
  · rw [stopTimer_states]
    exact h.refs
  · rw [stopTimer_states, hnext.2]
    exact h.fresh
  · obtain ⟨hmem, href⟩ := h.mem_stopTimer.1 ht
    rw [stopTimer_states, hnext.1, hnext.2, h.frame_stopTimer.objects t.ref href]
    exact h.interval t hmem
  · by_cases href : r = ref
    · rw [href, stopTimer_objects] at hid
      cases hid
    · rw [h.frame_stopTimer.objects r href] at hid
      obtain ⟨hlt, hown⟩ := h.progressTimer r id hid
      rw [hnext.1]
      exact ⟨hlt, fun t ht => hown t (hsub.subset ht)⟩
  · rw [stopTimer_timeouts]
    exact h.timeoutIds
  · rw [stopTimer_timeouts, stopTimer_states, hnext.1, hnext.2]
    exact h.timeout
  · rw [hhide r] at hid
    rw [stopTimer_timeouts, hnext.1]
    exact h.hideTimer r id hid

/-- The object knows the new interval, -/
theorem setProgressTimer_objects : (s.setProgressTimer captureId ref).objects ref =
    { s.objects ref with progressTimer := some s.nextTimer } := Function.update_self ..

/-- which is the one that is added. -/
theorem mem_setProgressTimer : t ∈ (s.setProgressTimer captureId ref).intervals ↔
    t ∈ s.intervals ∨ t = ⟨s.nextTimer, captureId, ref⟩ := by
  rw [setProgressTimer, List.mem_append, List.mem_singleton]

/-- Nothing but the object and its interval differs. -/
theorem Frame.setProgressTimer : Frame ref s (s.setProgressTimer captureId ref) where
  states _ _ := Iff.rfl
  objects _ hr := Function.update_of_ne hr ..
  intervals t ht := by
    rw [mem_setProgressTimer]
    refine or_iff_left fun heq => ht ?_
    rw [heq]
  timeouts _ _ := Iff.rfl

/-- **An object that has no interval may get one**, as long as it is in the
map. -/
theorem Linked.setProgressTimer (h : s.Linked) (hmem : (captureId, ref) ∈ s.states)
    (hidle : s.Idle ref) : (s.setProgressTimer captureId ref).Linked := by
  have hframe : Frame ref s (s.setProgressTimer captureId ref) := .setProgressTimer
  have hhide : ∀ r, ((s.setProgressTimer captureId ref).objects r).hideTimer =
      (s.objects r).hideTimer := by
    intro r
    by_cases href : r = ref
    · rw [href, setProgressTimer_objects]
    · rw [hframe.objects r href]
  have hids : ((s.setProgressTimer captureId ref).intervals.map Timer.id).Nodup := by
    rw [Page.setProgressTimer, List.map_append, List.nodup_append]
    refine ⟨h.intervalIds, List.nodup_singleton _, ?_⟩
    rintro id hid id' hid' rfl
    obtain ⟨t, ht, rfl⟩ := List.mem_map.1 hid
    have hlt := (h.interval t ht).1
    rw [List.mem_singleton.1 hid'] at hlt
    exact lt_irrefl _ hlt
  refine ⟨h.keys, h.refs, h.fresh, hids, fun t ht => ?_, fun r id hid => ?_, h.timeoutIds,
    fun t ht => ?_, fun r id hid => ?_⟩
  · change t.id < s.nextTimer + 1 ∧ t.ref < s.nextRef ∧
      (∀ p ∈ s.states, p.2 = t.ref → p.1 = t.captureId) ∧ _
    rcases mem_setProgressTimer.1 ht with ht | rfl
    · obtain ⟨hlt, hfresh, hown, htimer⟩ := h.interval t ht
      rw [hframe.objects t.ref (hidle t ht)]
      exact ⟨by omega, hfresh, hown, htimer⟩
    · rw [setProgressTimer_objects]
      exact ⟨Nat.lt_succ_self _, h.fresh _ hmem, h.owner hmem, rfl⟩
  · change id < s.nextTimer + 1 ∧ _
    by_cases href : r = ref
    · rw [href, setProgressTimer_objects] at hid
      cases hid
      refine ⟨Nat.lt_succ_self _, fun t ht heq => ?_⟩
      rcases mem_setProgressTimer.1 ht with ht | rfl
      · have hlt := (h.interval t ht).1
        omega
      · exact href.symm
    · rw [hframe.objects r href] at hid
      obtain ⟨hlt, hown⟩ := h.progressTimer r id hid
      refine ⟨by omega, fun t ht heq => ?_⟩
      rcases mem_setProgressTimer.1 ht with ht | rfl
      · exact hown t ht heq
      · change s.nextTimer = id at heq
        omega
  · obtain ⟨hlt, hrest⟩ := h.timeout t ht
    exact ⟨Nat.lt_succ_of_lt hlt, hrest⟩
  · rw [hhide r] at hid
    obtain ⟨hlt, hrest⟩ := h.hideTimer r id hid
    exact ⟨Nat.lt_succ_of_lt hlt, hrest⟩

/-! ## The hide timer -/

/-- The timeouts that are left have other ids. -/
theorem mem_clearTimeout : t ∈ (s.clearTimeout id).timeouts ↔ t ∈ s.timeouts ∧ t.id ≠ id := by
  rw [clearTimeout, List.mem_filter, decide_eq_true_eq]

/-- A timeout less keeps the links. -/
theorem Linked.clearTimeout (h : s.Linked) : (s.clearTimeout id).Linked where
  keys := h.keys
  refs := h.refs
  fresh := h.fresh
  intervalIds := h.intervalIds
  interval := h.interval
  progressTimer := h.progressTimer
  timeoutIds := h.timeoutIds.sublist (List.filter_sublist.map _)
  timeout t ht := h.timeout t (mem_clearTimeout.1 ht).1
  hideTimer r id hid :=
    ⟨(h.hideTimer r id hid).1, fun t ht => (h.hideTimer r id hid).2 t (mem_clearTimeout.1 ht).1⟩

/-- A timer of the object is cleared. -/
theorem Linked.frame_clearTimeout (h : s.Linked) (hid : (s.objects ref).hideTimer = some id) :
    Frame ref s (s.clearTimeout id) where
  states _ _ := Iff.rfl
  objects _ _ := rfl
  intervals _ _ := Iff.rfl
  timeouts t ht := by
    rw [mem_clearTimeout]
    exact and_iff_left_of_imp fun hmem heq => ht ((h.hideTimer ref id hid).2 t hmem heq)

/-- The object knows the new timeout, -/
theorem setHideTimer_objects : (s.setHideTimer captureId ref).objects ref =
    { s.objects ref with hideTimer := some s.nextTimer } := Function.update_self ..

/-- which is the one that is added. -/
theorem mem_setHideTimer : t ∈ (s.setHideTimer captureId ref).timeouts ↔
    t ∈ s.timeouts ∨ t = ⟨s.nextTimer, captureId, ref⟩ := by
  rw [setHideTimer, List.mem_append, List.mem_singleton]

/-- Nothing but the object and its timeout differs. -/
theorem Frame.setHideTimer : Frame ref s (s.setHideTimer captureId ref) where
  states _ _ := Iff.rfl
  objects _ hr := Function.update_of_ne hr ..
  intervals _ _ := Iff.rfl
  timeouts t ht := by
    rw [mem_setHideTimer]
    refine or_iff_left fun heq => ht ?_
    rw [heq]

/-- **An object of the map may get a timeout**, whatever it had. -/
theorem Linked.setHideTimer (h : s.Linked) (hmem : (captureId, ref) ∈ s.states) :
    (s.setHideTimer captureId ref).Linked := by
  have hframe : Frame ref s (s.setHideTimer captureId ref) := .setHideTimer
  have hprogress : ∀ r, ((s.setHideTimer captureId ref).objects r).progressTimer =
      (s.objects r).progressTimer := by
    intro r
    by_cases href : r = ref
    · rw [href, setHideTimer_objects]
    · rw [hframe.objects r href]
  have hids : ((s.setHideTimer captureId ref).timeouts.map Timer.id).Nodup := by
    rw [Page.setHideTimer, List.map_append, List.nodup_append]
    refine ⟨h.timeoutIds, List.nodup_singleton _, ?_⟩
    rintro id hid id' hid' rfl
    obtain ⟨t, ht, rfl⟩ := List.mem_map.1 hid
    have hlt := (h.timeout t ht).1
    rw [List.mem_singleton.1 hid'] at hlt
    exact lt_irrefl _ hlt
  refine ⟨h.keys, h.refs, h.fresh, h.intervalIds, fun t ht => ?_, fun r id hid => ?_, hids,
    fun t ht => ?_, fun r id hid => ?_⟩
  · obtain ⟨hlt, hrest⟩ := h.interval t ht
    rw [hprogress]
    exact ⟨Nat.lt_succ_of_lt hlt, hrest⟩
  · rw [hprogress] at hid
    obtain ⟨hlt, hown⟩ := h.progressTimer r id hid
    exact ⟨Nat.lt_succ_of_lt hlt, hown⟩
  · change t.id < s.nextTimer + 1 ∧ t.ref < s.nextRef ∧ ∀ p ∈ s.states, p.2 = t.ref →
      p.1 = t.captureId
    rcases mem_setHideTimer.1 ht with ht | rfl
    · obtain ⟨hlt, hrest⟩ := h.timeout t ht
      exact ⟨by omega, hrest⟩
    · exact ⟨Nat.lt_succ_self _, h.fresh _ hmem, h.owner hmem⟩
  · change id < s.nextTimer + 1 ∧ _
    by_cases href : r = ref
    · rw [href, setHideTimer_objects] at hid
      cases hid
      refine ⟨Nat.lt_succ_self _, fun t ht heq => ?_⟩
      rcases mem_setHideTimer.1 ht with ht | rfl
      · have hlt := (h.timeout t ht).1
        omega
      · exact href.symm
    · rw [hframe.objects r href] at hid
      obtain ⟨hlt, hown⟩ := h.hideTimer r id hid
      refine ⟨by omega, fun t ht heq => ?_⟩
      rcases mem_setHideTimer.1 ht with ht | rfl
      · exact hown t ht heq
      · change s.nextTimer = id at heq
        omega

/-! ## New and deleted entries -/

/-- The new object. -/
theorem addState_objects :
    (s.addState captureId status).objects s.nextRef = TaskState.new status :=
  Function.update_self ..

/-- The map has one entry more. -/
theorem mem_addState {p : String × ℕ} : p ∈ (s.addState captureId status).states ↔
    p ∈ s.states ∨ p = (captureId, s.nextRef) := by
  rw [addState, List.mem_append, List.mem_singleton]

/-- Nothing but the new object differs. -/
theorem Frame.addState : Frame s.nextRef s (s.addState captureId status) where
  states p hp := by
    rw [mem_addState]
    refine or_iff_left fun heq => hp ?_
    rw [heq]
  objects _ hr := Function.update_of_ne hr ..
  intervals _ _ := Iff.rfl
  timeouts _ _ := Iff.rfl

/-- A new object has no timers. -/
theorem Linked.ref_ne_nextRef (h : s.Linked) :
    (∀ t ∈ s.intervals, t.ref ≠ s.nextRef) ∧ ∀ t ∈ s.timeouts, t.ref ≠ s.nextRef := by
  constructor
  · intro t ht heq
    have hlt := (h.interval t ht).2.1
    omega
  · intro t ht heq
    have hlt := (h.timeout t ht).2.1
    omega

/-- **A capture without an entry may get one**, as a new object has no timers. -/
theorem Linked.addState (h : s.Linked) (hnone : s.stateOf captureId = none) :
    (s.addState captureId status).Linked := by
  obtain ⟨hintervals, htimeouts⟩ := h.ref_ne_nextRef
  have hframe : Frame s.nextRef s (s.addState captureId status) := .addState
  have hkeys : ((s.addState captureId status).states.map Prod.fst).Nodup := by
    rw [Page.addState, List.map_append, List.nodup_append]
    refine ⟨h.keys, List.nodup_singleton _, ?_⟩
    rintro key hkey key' hkey' rfl
    obtain ⟨p, hp, rfl⟩ := List.mem_map.1 hkey
    exact stateOf_eq_none.1 hnone p hp (List.mem_singleton.1 hkey')
  have hrefs : ((s.addState captureId status).states.map Prod.snd).Nodup := by
    rw [Page.addState, List.map_append, List.nodup_append]
    refine ⟨h.refs, List.nodup_singleton _, ?_⟩
    rintro r hr r' hr' rfl
    obtain ⟨p, hp, rfl⟩ := List.mem_map.1 hr
    have hlt := h.fresh p hp
    rw [List.mem_singleton.1 hr'] at hlt
    exact lt_irrefl _ hlt
  refine ⟨hkeys, hrefs, fun p hp => ?_, h.intervalIds, fun t ht => ?_, fun r id hid => ?_,
    h.timeoutIds, fun t ht => ?_, fun r id hid => ?_⟩
  · change p.2 < s.nextRef + 1
    rcases mem_addState.1 hp with hp | rfl
    · exact Nat.lt_succ_of_lt (h.fresh p hp)
    · exact Nat.lt_succ_self _
  · obtain ⟨hlt, hfresh, hown, htimer⟩ := h.interval t ht
    rw [hframe.objects t.ref (hintervals t ht)]
    refine ⟨hlt, Nat.lt_succ_of_lt hfresh, fun p hp heq => ?_, htimer⟩
    rcases mem_addState.1 hp with hp | rfl
    · exact hown p hp heq
    · exact absurd heq.symm (hintervals t ht)
  · by_cases href : r = s.nextRef
    · rw [href, addState_objects] at hid
      cases hid
    · rw [hframe.objects r href] at hid
      exact h.progressTimer r id hid
  · obtain ⟨hlt, hfresh, hown⟩ := h.timeout t ht
    refine ⟨hlt, Nat.lt_succ_of_lt hfresh, fun p hp heq => ?_⟩
    rcases mem_addState.1 hp with hp | rfl
    · exact hown p hp heq
    · exact absurd heq.symm (htimeouts t ht)
  · by_cases href : r = s.nextRef
    · rw [href, addState_objects] at hid
      cases hid
    · rw [hframe.objects r href] at hid
      exact h.hideTimer r id hid

/-- The entries that are left have other keys. -/
theorem mem_deleteState {p : String × ℕ} :
    p ∈ (s.deleteState captureId).states ↔ p ∈ s.states ∧ p.1 ≠ captureId := by
  rw [deleteState, List.mem_filter, decide_eq_true_eq]

/-- Nothing but the entry differs. -/
theorem Linked.frame_deleteState (h : s.Linked) (hmem : (captureId, ref) ∈ s.states) :
    Frame ref s (s.deleteState captureId) where
  states p hp := by
    rw [mem_deleteState]
    refine and_iff_left_of_imp fun hp' heq => hp ?_
    rw [show p = (captureId, p.2) from Prod.ext heq rfl] at hp'
    exact h.ref_eq hp' hmem
  objects _ _ := rfl
  intervals _ _ := Iff.rfl
  timeouts _ _ := Iff.rfl

/-- **An entry may go**, whatever runs for its object. -/
theorem Linked.deleteState (h : s.Linked) : (s.deleteState captureId).Linked where
  keys := h.keys.sublist (List.filter_sublist.map _)
  refs := h.refs.sublist (List.filter_sublist.map _)
  fresh p hp := h.fresh p (mem_deleteState.1 hp).1
  intervalIds := h.intervalIds
  interval t ht := by
    obtain ⟨hlt, hfresh, hown, htimer⟩ := h.interval t ht
    exact ⟨hlt, hfresh, fun p hp => hown p (mem_deleteState.1 hp).1, htimer⟩
  progressTimer := h.progressTimer
  timeoutIds := h.timeoutIds
  timeout t ht := by
    obtain ⟨hlt, hfresh, hown⟩ := h.timeout t ht
    exact ⟨hlt, hfresh, fun p hp => hown p (mem_deleteState.1 hp).1⟩
  hideTimer := h.hideTimer

/-! ## Drawing -/

/-- **Drawing the state of a capture** touches its card, and of its object
the progress and its timer. -/
structure Redrawn (captureId : String) (ref : ℕ) (s s' : Page) : Prop where
  linked : s'.Linked
  frame : Frame ref s s'
  states : s'.states = s.states
  timeouts : s'.timeouts = s.timeouts
  cards : ∀ c, c ≠ captureId → s'.cards c = s.cards c
  status : (s'.objects ref).status = (s.objects ref).status
  estimate : (s'.objects ref).estimatedDurationMs = (s.objects ref).estimatedDurationMs
  hideTimer : (s'.objects ref).hideTimer = (s.objects ref).hideTimer

/-- What is drawn stays attached. -/
theorem Redrawn.attached (h : Redrawn captureId ref s s') (hmem : (captureId, ref) ∈ s.states)
    (ha : s.Attached c) : s'.Attached c := by
  have hmem' : (captureId, ref) ∈ s'.states := by
    rw [h.states]
    exact hmem
  exact ha.of_frame h.frame (h.linked.interval_mem hmem')

/-- Nothing is drawn. -/
theorem Redrawn.refl (h : s.Linked) : Redrawn captureId ref s s :=
  ⟨h, .refl, rfl, rfl, fun _ _ => rfl, rfl, rfl, rfl⟩

/-- Drawing twice is drawing. -/
theorem Redrawn.trans (h : Redrawn captureId ref s s') (h' : Redrawn captureId ref s' s'') :
    Redrawn captureId ref s s'' where
  linked := h'.linked
  frame := h.frame.trans h'.frame
  states := h'.states.trans h.states
  timeouts := h'.timeouts.trans h.timeouts
  cards c hc := (h'.cards c hc).trans (h.cards c hc)
  status := h'.status.trans h.status
  estimate := h'.estimate.trans h.estimate
  hideTimer := h'.hideTimer.trans h.hideTimer

/-- A change of the card is drawing, -/
theorem Linked.redrawn_updateCard (h : s.Linked) :
    Redrawn captureId ref s (s.updateCard captureId g) :=
  ⟨h.updateCard, .updateCard, rfl, rfl, fun _ hc => Function.update_of_ne hc .., rfl, rfl, rfl⟩

/-- so is showing the indicator, -/
theorem Linked.redrawn_show (h : s.Linked) :
    Redrawn captureId ref s (s.show captureId label indeterminate showBar percent) :=
  h.redrawn_updateCard

/-- stopping the interval, -/
theorem Linked.redrawn_stopTimer (h : s.Linked) : Redrawn captureId ref s (s.stopTimer ref) := by
  refine ⟨h.stopTimer, h.frame_stopTimer, stopTimer_states, stopTimer_timeouts, fun c _ => ?_, ?_,
    ?_, ?_⟩
  · rw [stopTimer_cards]
  all_goals rw [stopTimer_objects]

/-- moving the bar, -/
theorem Linked.redrawn_update (h : s.Linked) :
    Redrawn captureId ref s (s.update captureId ref now) := by
  have hmodify : ∀ f : TaskState → TaskState,
      (∀ o, f o = { o with percent := (f o).percent }) → Redrawn captureId ref s (s.modify ref f) := by
    intro f hf
    have hobject := hf (s.objects ref)
    refine ⟨h.modify ?_ ?_, .modify, rfl, rfl, fun _ _ => rfl, ?_, ?_, ?_⟩
    · rw [hobject]
    · rw [hobject]
    all_goals rw [modify_objects, hobject]
  exact (hmodify _ fun _ => rfl).trans (hmodify _ fun _ => rfl).linked.redrawn_show

/-- and setting an interval that moves it. -/
theorem Linked.redrawn_setProgressTimer (h : s.Linked) (hmem : (captureId, ref) ∈ s.states)
    (hidle : s.Idle ref) : Redrawn captureId ref s (s.setProgressTimer captureId ref) := by
  refine ⟨h.setProgressTimer hmem hidle, .setProgressTimer, rfl, rfl, fun _ _ => rfl, ?_, ?_, ?_⟩
  all_goals rw [setProgressTimer_objects]

/-- **`animateEstimatedProgress`** stops the interval there is before it sets
one. -/
theorem Linked.redrawn_animate (h : s.Linked) (hmem : (captureId, ref) ∈ s.states) :
    Redrawn captureId ref s (s.animateEstimatedProgress captureId ref now) := by
  unfold animateEstimatedProgress
  split_ifs
  · exact .refl h
  · have hstop : Redrawn captureId ref s (s.stopTimer ref) := h.redrawn_stopTimer
    have hupdate : Redrawn captureId ref s ((s.stopTimer ref).update captureId ref now) :=
      hstop.trans hstop.linked.redrawn_update
    refine hupdate.trans (hupdate.linked.redrawn_setProgressTimer ?_ ?_)
    · rw [hupdate.states]
      exact hmem
    · exact h.idle_stopTimer

/-- **`renderState`** draws, whatever the status is. -/
theorem Linked.redrawn_renderState (h : s.Linked) (hmem : (captureId, ref) ∈ s.states) :
    Redrawn captureId ref s (s.renderState now (captureId, ref)) := by
  unfold renderState
  simp only
  split_ifs
  · exact h.redrawn_show
  · exact h.redrawn_animate hmem
  all_goals first | exact h.redrawn_show | exact .refl h

/-- Only a capture in progress with an estimate gets an interval when it is
drawn. -/
theorem renderState_intervals (h : ¬ ((s.objects ref).status = some "in_progress" ∧
    (s.objects ref).estimatedDurationMs.positive = true)) :
    (s.renderState now (captureId, ref)).intervals = s.intervals := by
  unfold renderState
  simp only
  split_ifs with _ hstatus hpositive
  · rfl
  · exact absurd ⟨hstatus, hpositive⟩ h
  all_goals rfl

/-- **`hideSoon`** clears the timeout the object knows before it sets one. -/
theorem Linked.redrawn_hideSoon (h : s.Linked) (hmem : (captureId, ref) ∈ s.states) :
    (s.hideSoon captureId ref).Linked ∧ Frame ref s (s.hideSoon captureId ref) := by
  have hstop : Redrawn captureId ref s (s.stopTimer ref) := h.redrawn_stopTimer
  have hclear : ∀ s₁ : Page, s₁.Linked → (captureId, ref) ∈ s₁.states →
      (s₁.setHideTimer captureId ref).Linked ∧ Frame ref s₁ (s₁.setHideTimer captureId ref) :=
    fun s₁ h₁ hmem₁ => ⟨h₁.setHideTimer hmem₁, .setHideTimer⟩
  have hmem' : (captureId, ref) ∈ (s.stopTimer ref).states := by
    rw [hstop.states]
    exact hmem
  unfold hideSoon
  simp only
  split
  · rename_i id hid
    obtain ⟨hlinked, hframe⟩ := hclear ((s.stopTimer ref).clearTimeout id)
      hstop.linked.clearTimeout hmem'
    exact ⟨hlinked, (hstop.frame.trans (hstop.linked.frame_clearTimeout hid)).trans hframe⟩
  · obtain ⟨hlinked, hframe⟩ := hclear (s.stopTimer ref) hstop.linked hmem'
    exact ⟨hlinked, hstop.frame.trans hframe⟩

/-- **What `hideSoon` leaves**: its own timeout, no interval, and of the
timeouts it knew nothing. -/
theorem hideSoon_spec (s : Page) (captureId : String) (ref : ℕ) : ∃ id,
    (s.hideSoon captureId ref).objects ref =
      { s.objects ref with progressTimer := none, hideTimer := some id } ∧
    (s.hideSoon captureId ref).intervals = (s.stopTimer ref).intervals ∧
    (s.hideSoon captureId ref).states = s.states ∧
    (s.hideSoon captureId ref).cards = s.cards ∧
    ∀ t, t ∈ (s.hideSoon captureId ref).timeouts ↔
      (t ∈ s.timeouts ∧ (s.objects ref).hideTimer ≠ some t.id) ∨ t = ⟨id, captureId, ref⟩ := by
  have hhide : ((s.stopTimer ref).objects ref).hideTimer = (s.objects ref).hideTimer := by
    rw [stopTimer_objects]
  have hset : ∀ s₁ : Page, s₁.objects ref = (s.stopTimer ref).objects ref →
      (s₁.setHideTimer captureId ref).objects ref =
        { s.objects ref with progressTimer := none, hideTimer := some s₁.nextTimer } := by
    intro s₁ hobject
    rw [setHideTimer_objects, hobject, stopTimer_objects]
  refine ⟨(s.stopTimer ref).nextTimer, ?_⟩
  unfold hideSoon
  simp only [hhide]
  split
  · rename_i old hold
    refine ⟨hset _ rfl, rfl, stopTimer_states, stopTimer_cards, fun t => ?_⟩
    rw [mem_setHideTimer, mem_clearTimeout, stopTimer_timeouts, hold, Ne, Ne, Option.some.injEq,
      eq_comm (a := t.id)]
    rfl
  · rename_i hnone
    refine ⟨hset _ rfl, rfl, stopTimer_states, stopTimer_cards, fun t => ?_⟩
    rw [mem_setHideTimer, stopTimer_timeouts, hnone]
    simp

/-! ## One update -/

/-- **What an update leaves of the links.** The entry stays, but for a
success, which takes it off the map and hides its card. -/
structure Accepted (captureId : String) (ref : ℕ) (u : Update) (s s' : Page) : Prop where
  linked : s'.Linked
  frame : Frame ref s s'
  sub : s'.states ⊆ s.states
  cards : ∀ c, c ≠ captureId → s'.cards c = s.cards c
  kept : u.name ≠ some "complete_success" → (captureId, ref) ∈ s'.states
  gone : u.name = some "complete_success" → (∀ p ∈ s'.states, p.1 ≠ captureId) ∧ s'.Idle ref ∧
    ∀ card, s'.cards captureId = some card → card.hidden = true

/-- An update that only draws. -/
theorem Redrawn.accepted (h : Redrawn captureId ref s s') (hmem : (captureId, ref) ∈ s.states)
    (hname : u.name ≠ some "complete_success") : Accepted captureId ref u s s' := by
  refine ⟨h.linked, h.frame, ?_, h.cards, fun _ => ?_, fun hsuccess => absurd hsuccess hname⟩
  · rw [h.states]
    exact List.Subset.refl _
  · rw [h.states]
    exact hmem

/-- An entry that goes leaves no interval behind. -/
theorem Accepted.attached (h : Accepted captureId ref u s s') (ha : s.Attached c) :
    s'.Attached c := by
  refine ha.of_frame h.frame ?_
  by_cases hname : u.name = some "complete_success"
  · exact fun t ht href => absurd href ((h.gone hname).2.1 t ht)
  · exact h.linked.interval_mem (h.kept hname)

/-- What was assigned before counts as part of the update. -/
theorem Accepted.of_modify (h : Accepted captureId ref u (s.modify ref f) s') :
    Accepted captureId ref u s s' :=
  ⟨h.linked, Frame.modify.trans h.frame, h.sub, h.cards, h.kept, h.gone⟩

/-- **Every status is accepted so**: a success takes the entry off the map,
the others keep it. -/
theorem Linked.acceptStatus (h : s.Linked) (hmem : (captureId, ref) ∈ s.states) :
    Accepted captureId ref u s (s.acceptStatus captureId ref u now) := by
  have hlinked : (s.modify ref fun state => { state with status := u.name }).Linked :=
    h.modify rfl rfl
  refine Accepted.of_modify (f := fun state => { state with status := u.name }) ?_
  unfold Page.acceptStatus
  simp only
  have hmem₁ : (captureId, ref) ∈ (s.modify ref fun state =>
    { state with status := u.name }).states := hmem
  generalize (s.modify ref fun state => { state with status := u.name }) = s₁ at *
  have hstop : Redrawn captureId ref s₁ (s₁.stopTimer ref) := hlinked.redrawn_stopTimer
  have hmem₂ : (captureId, ref) ∈ (s₁.stopTimer ref).states := by
    rw [hstop.states]
    exact hmem₁
  split_ifs with hqueued hprogress hestimate hretry hsuccess hfailure
  · exact hlinked.redrawn_show.accepted hmem₁ (by simp [hqueued])
  · have hbegan : (s₁.modify ref (TaskState.began u now)).Linked := hlinked.modify rfl rfl
    exact ((hbegan.redrawn_animate hmem₁).accepted hmem₁ (by simp [hprogress])).of_modify
  · have hbegan : (s₁.modify ref (TaskState.began u now)).Linked := hlinked.modify rfl rfl
    exact (hbegan.redrawn_show.accepted hmem₁ (by simp [hprogress])).of_modify
  · exact (hstop.trans hstop.linked.redrawn_show).accepted hmem₁ (by simp [hretry])
  · -- a success takes the capture off the page's states
    have hcard : ((s₁.stopTimer ref).updateCard captureId fun card =>
        { card with hidden := true, isIndeterminate := false, isMessageOnly := false }).Linked :=
      hstop.linked.updateCard
    refine ⟨hcard.deleteState, (hstop.frame.trans .updateCard).trans (hcard.frame_deleteState hmem₂),
      fun p hp => ?_, fun c hc => ?_, fun hname => absurd hsuccess hname,
      fun _ => ⟨fun p hp => (mem_deleteState.1 hp).2, hlinked.idle_stopTimer, ?_⟩⟩
    · rw [← hstop.states]
      exact (mem_deleteState.1 hp).1
    · exact (Function.update_of_ne hc ..).trans (hstop.cards c hc)
    · intro card hc
      rw [deleteState_cards, updateCard_cards] at hc
      obtain ⟨card', -, rfl⟩ := Option.map_eq_some_iff.1 hc
      rfl
  · -- a failure keeps it, for the timeout that hides it
    have hshow : Redrawn captureId ref s₁ ((s₁.stopTimer ref).show captureId
        "Illumination failed." false false none) := hstop.trans hstop.linked.redrawn_show
    obtain ⟨hlinked', hframe'⟩ := hshow.linked.redrawn_hideSoon hmem₂
    obtain ⟨-, -, -, hstates, hcards, -⟩ := hideSoon_spec ((s₁.stopTimer ref).show captureId
      "Illumination failed." false false none) captureId ref
    refine ⟨hlinked', hshow.frame.trans hframe', ?_, fun c hc => ?_, fun _ => ?_,
      fun hname => absurd hname hsuccess⟩
    · rw [hstates, hshow.states]
      exact List.Subset.refl _
    · rw [hcards]
      exact hshow.cards c hc
    · rw [hstates]
      exact hmem₂
  · exact (Redrawn.refl hlinked).accepted hmem₁ hsuccess

end Page

end Progress

end Dreamscroll
