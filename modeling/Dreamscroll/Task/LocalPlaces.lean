import Dreamscroll.Task.InFlight
import Dreamscroll.Task.LocalBackend
/-!
# Where a run is with the local backend

A run that is accepted passes through one place after the other: its
submission, the channel, the dispatcher's hand, a handler, a webhook. Every
run has exactly one place (`places`), and its row has the status that goes
with it, so what is in flight has a delivery to come, a POST that failed,
or a retry nobody schedules (`pending_of_inFlight`).
-/

namespace Dreamscroll

namespace LocalBackend

/-! ## What is pending -/

/-- All queues. -/
def queues : List QueueName := [.illuminate, .searchIndex, .spark]

/-- The run whose row a call inserted, while the call is not done. -/
def submitting : SubmitPc AnyTask → Option String
  | .publishQueued run _ | .enqueue run | .failWrite run _ => some run.runId
  | .publishFailed row _ => some row.runId
  | .dedup | .latest | .recheckInFlight | .insert _ | .recheckConflict | .returned _ => none

/-- The runs of a queue: in the channel, in the dispatcher's hand, with a
worker. -/
def Lane.runs (lane : Lane) : List (TaskRun AnyTask) :=
  lane.queue.channel ++ lane.queue.dispatcher.inHand ++ lane.queue.workers

/-- **The runs with a delivery to come**: their submission has not returned,
or a queue has them. -/
def State.pendingRunIds (s : State) : List String :=
  s.tasks.calls.filterMap (fun call => submitting call.pc) ++
    queues.flatMap fun k => (s.lanes k).runs.map TaskRun.runId

/-! ## Where a run is -/

/-- The runs that are still to reach their webhook, or whose POST failed
before it did. -/
def undelivered (s : State) : List (TaskRun AnyTask) :=
  s.tasks.calls.filterMap (fun call => call.pc.handing) ++
    (queues.flatMap (fun k => (s.lanes k).waiting) ++ s.unanswered.filterMap Handler.waits)

/-- **The place of every run**, as the statement its webhook stands at. -/
def places (s : State) : List (TaskRun AnyTask × DeliveryPc) :=
  (undelivered s).map (fun run => (run, .beginRead)) ++
    s.tasks.deliveries.map fun delivery => (delivery.run, delivery.pc)

/-- What a step does to the places: it leaves them, adds the one of a run it
inserts, or moves one on. -/
inductive Shift (m : TaskMaster) (s s' : State) : Prop
  | kept (rows : s'.tasks.rows = s.tasks.rows) (perm : (places s').Perm (places s))
  | inserted {run : TaskRun AnyTask} {now : Timestamp}
      (inserts : TaskMaster.Inserts s.tasks run now)
      (taken : WebhookTask.reject run.task = none)
      (rows : s'.tasks.rows = s.tasks.rows ++ [queuedRow run now])
      (perm : (places s').Perm ((run, .beginRead) :: places s))
  | stepped {run : TaskRun AnyTask} {pc pc' : DeliveryPc} {choice : Choice}
      {fx : List (Effect AnyTask)} {rest : List (TaskRun AnyTask × DeliveryPc)}
      (before : (places s).Perm ((run, pc) :: rest))
      (after : (places s').Perm ((run, pc') :: rest))
      (move : TaskMaster.DeliveryMove m s.tasks.rows ⟨run, pc⟩ choice pc' fx)
      (rows : s'.tasks.rows = fx.foldl Effect.apply s.tasks.rows)

variable {m : TaskMaster} {s s' : State} {e : Event} {n : ℕ} {k : QueueName} {lane : Lane}
variable {rows₀ : List TaskRunModel} {tasks : TaskState AnyTask}

/-- The lanes, less the one that changed. -/
theorem flatMap_setLane_perm {α : Type} (f : Lane → List α) (s : State) (k : QueueName)
    (lane : Lane) :
    (f (s.lanes k) ++ queues.flatMap fun j => f ((s.setLane k lane).lanes j)).Perm
      (f lane ++ queues.flatMap fun j => f (s.lanes j)) := by
  classical
  refine List.perm_iff_count.2 fun a => ?_
  cases k <;>
    simp only [queues, State.setLane, Function.update, List.flatMap_cons, List.flatMap_nil,
      List.count_append, reduceCtorEq, dite_false, dite_true] <;>
    omega

/-- With the same runs undelivered and the same deliveries the places are the
same. -/
theorem places_perm (hundelivered : (undelivered s').Perm (undelivered s))
    (hdeliveries : s'.tasks.deliveries = s.tasks.deliveries) : (places s').Perm (places s) := by
  unfold places
  rw [hdeliveries]
  exact (hundelivered.map _).append_right _

/-- A change of one lane. -/
theorem undelivered_setLane_perm (hwaiting : lane.waiting.Perm (s.lanes k).waiting) :
    (undelivered (s.setLane k lane)).Perm (undelivered s) := by
  have hlanes := flatMap_setLane_perm Lane.waiting s k lane
  refine List.Perm.append_left _ (List.Perm.append_right _ ?_)
  exact (List.perm_append_left_iff _).1 (hlanes.trans (hwaiting.append_right _))

/-- A step of a call. -/
theorem undelivered_call_perm {c : ℕ} {call : Call AnyTask}
    (hc : s.tasks.calls[c]? = some call) (pc : SubmitPc AnyTask) (fx : List (Effect AnyTask)) :
    (call.pc.handing.toList ++ undelivered
        (s.withTasks ((s.tasks.setCall c { call with pc := pc }).perform fx))).Perm
      (pc.handing.toList ++ undelivered s) := by
  have hset := filterMap_set_toList_perm (f := fun call : Call AnyTask => call.pc.handing)
    (y := { call with pc := pc }) hc
  have happend := hset.append_right
    (queues.flatMap (fun k => (s.lanes k).waiting) ++ s.unanswered.filterMap Handler.waits)
  rwa [List.append_assoc, List.append_assoc] at happend

/-- A statement of a submission, other than its enqueue, keeps the places or
adds the one of the run it inserts. -/
theorem shift_of_submitMove (hi : Inv m n rows₀ s) {c : ℕ} {call : Call AnyTask} {choice : Choice}
    {pc : SubmitPc AnyTask} {fx : List (Effect AnyTask)} (hother : ofEnqueue choice = false)
    (htable : TableInv s.tasks)
    (hc : s.tasks.calls[c]? = some call)
    (hm : TaskMaster.SubmitMove m s.tasks.rows c call choice pc fx) :
    Shift m s (s.withTasks ((s.tasks.setCall c { call with pc := pc }).perform fx)) := by
  have hperm := undelivered_call_perm hc pc fx
  have hkept : call.pc.handing = pc.handing → fx.foldl Effect.apply s.tasks.rows = s.tasks.rows →
      Shift m s (s.withTasks ((s.tasks.setCall c { call with pc := pc }).perform fx)) := by
    intro hhanding hrows
    rw [hhanding] at hperm
    exact .kept hrows (places_perm ((List.perm_append_left_iff _).1 hperm) rfl)
  cases hm with
  | found hpc => rcases hpc with hpc | hpc | hpc <;> exact hkept (by rw [hpc]; rfl) rfl
  | refused hpc => rcases hpc with hpc | hpc <;> exact hkept (by rw [hpc]; rfl) rfl
  | fresh hpc | decided hpc | sawInFlight hpc | conflict hpc | insertFailed hpc =>
    exact hkept (by rw [hpc]; rfl) rfl
  | published hpc =>
    exact hkept (by rw [hpc]; rfl) TaskMaster.foldl_publishEffects_append
  | failPublished hpc =>
    exact hkept (by rw [hpc]; rfl) TaskMaster.foldl_publishEffects_append
  | enqueued | enqueueFailed => cases hother
  | failWrote hpc | failMissed hpc => exact absurd hpc (hi.sent c call hc _ _)
  | @inserted run now _ hpc hv =>
    have htask : run.task = call.task := by
      rw [(htable.pending c call run hc hpc).1]
      rfl
    refine .inserted ⟨c, call, hc, hpc, hv⟩ (htask ▸ hi.tasks.calls c call hc) rfl ?_
    rw [hpc] at hperm
    exact (hperm.map _).append_right _

/-- What one list gives away, another takes. -/
theorem moved_perm {α : Type} {x : α} {a a' l l' w w' : List α} (hgive : (x :: a').Perm a)
    (hlanes : (w ++ l').Perm (w' ++ l)) (htake : w'.Perm (x :: w)) :
    (a' ++ l').Perm (a ++ l) := by
  classical
  refine List.perm_iff_count.2 fun y => ?_
  have hgive := hgive.count_eq y
  have hlanes := hlanes.count_eq y
  have htake := htake.count_eq y
  simp only [List.count_append, List.count_cons] at hgive hlanes htake ⊢
  omega

/-- What a lane gives away is gone from the lanes. -/
theorem taken_perm {α : Type} {x l l' w w' : List α} (hset : (x ++ w').Perm w)
    (hlanes : (w ++ l').Perm (w' ++ l)) : (x ++ l').Perm l := by
  classical
  refine List.perm_iff_count.2 fun y => ?_
  have hset := hset.count_eq y
  have hlanes := hlanes.count_eq y
  simp only [List.count_append] at hset hlanes ⊢
  omega

/-- A run that is sent leaves its call for the channel. -/
theorem shift_of_enqueued (hi : Inv m n rows₀ s) {c : ℕ} {call : Call AnyTask}
    {run : TaskRun AnyTask} {queue : LocalTaskQueue.State (TaskRun AnyTask)}
    (hc : s.tasks.calls[c]? = some call) (hpc : call.pc = .enqueue run)
    (hsent : (LocalTaskQueue.system _).step (s.lanes k).queue (.enqueue 0 run) = some queue)
    (hs : (TaskMaster.system AnyTask m).step s.tasks (.call c .enqueued) = some tasks) :
    Shift m s ((s.setLane k { s.lanes k with queue := queue }).withTasks
      { tasks with accepted := tasks.accepted ++ [run] }) := by
  cases TaskMaster.move_of_system hs with
  | @call _ _ call' pc fx hc' hm =>
    cases hc.symm.trans hc'
    cases hm with
    | @enqueued run' hpc' =>
      cases hpc.symm.trans hpc'
      refine .kept rfl (places_perm ?_ rfl)
      have hset := filterMap_set_toList_perm (f := fun call : Call AnyTask => call.pc.handing)
        (y := { call with pc := .returned (.ok (.enqueued run.runId run.runNumber)) }) hc
      rw [hpc] at hset
      have hcalls := moved_perm hset (flatMap_setLane_perm Lane.waiting s k
        { s.lanes k with queue := queue }) (Lane.waiting_enqueue (hi.lanes k) hsent)
      have happend := hcalls.append_right (s.unanswered.filterMap Handler.waits)
      rwa [List.append_assoc, List.append_assoc] at happend

/-- A POST keeps the places: a run that waited is delivered, and stands at the
first statement of its webhook. -/
theorem shift_of_post {worker : ℕ} {run : TaskRun AnyTask}
    (hworks : (s.lanes k).handlers[worker]? = some ⟨run, none⟩) :
    Shift m s (post s k worker run) := by
  have hset := Lane.waiting_set hworks ⟨run, some s.tasks.deliveries.length⟩
  have hlanes := flatMap_setLane_perm Lane.waiting s k { s.lanes k with
    handlers := (s.lanes k).handlers.set worker ⟨run, some s.tasks.deliveries.length⟩ }
  have hundelivered : (run :: undelivered (post s k worker run)).Perm (undelivered s) := by
    have htaken := taken_perm hset hlanes
    have happend := (htaken.append_right (s.unanswered.filterMap Handler.waits)).append_left
      (s.tasks.calls.filterMap fun call => call.pc.handing)
    exact List.perm_middle.symm.trans happend
  refine .kept rfl ?_
  unfold places
  have hmap := (hundelivered.map fun run => (run, DeliveryPc.beginRead)).append_right
    (s.tasks.deliveries.map fun delivery => (delivery.run, delivery.pc))
  refine List.Perm.trans ?_ hmap
  rw [List.map_cons]
  have hdeliveries : (post s k worker run).tasks.deliveries.map
      (fun delivery => (delivery.run, delivery.pc)) =
      s.tasks.deliveries.map (fun delivery => (delivery.run, delivery.pc)) ++
        [(run, .beginRead)] := List.map_append
  rw [hdeliveries, ← List.append_assoc]
  exact List.perm_append_singleton _ _

/-- A statement of a delivery moves the place of its run on. -/
theorem shift_of_deliveryMove {d : ℕ} {delivery : Delivery AnyTask} {choice : Choice}
    {pc : DeliveryPc} {fx : List (Effect AnyTask)} (hd : s.tasks.deliveries[d]? = some delivery)
    (hm : TaskMaster.DeliveryMove m s.tasks.rows delivery choice pc fx) :
    Shift m s (s.withTasks ((s.tasks.setDelivery d { delivery with pc := pc }).perform fx)) := by
  have hlt := (List.getElem?_eq_some_iff.1 hd).1
  have hbefore := (cons_eraseIdx_perm hd).symm.map fun x : Delivery AnyTask => (x.run, x.pc)
  have hafter := (List.set_perm_cons_eraseIdx hlt { delivery with pc := pc }).map
    fun x : Delivery AnyTask => (x.run, x.pc)
  have hplace : ∀ (x : TaskRun AnyTask × DeliveryPc) (l l' : List (TaskRun AnyTask × DeliveryPc)),
      l.Perm (x :: l') → ((undelivered s).map (fun run => (run, DeliveryPc.beginRead)) ++ l).Perm
        (x :: ((undelivered s).map (fun run => (run, DeliveryPc.beginRead)) ++ l')) := by
    intro x l l' hl
    exact (hl.append_left _).trans List.perm_middle
  exact .stepped (hplace _ _ _ hbefore) (hplace _ _ _ hafter) hm rfl

/-- A handler whose POST failed keeps its run. -/
theorem shift_of_fail {worker : ℕ} {handler : Handler}
    (hworks : (s.lanes k).handlers[worker]? = some handler)
    (hfinished : (s.lanes k).finish worker .failed = some lane) :
    Shift m s { s.setLane k lane with unanswered := s.unanswered ++ [handler] } := by
  have htaken := taken_perm (Lane.waiting_finish hworks hfinished)
    (flatMap_setLane_perm Lane.waiting s k lane)
  refine .kept rfl (places_perm (List.Perm.append_left _ ?_) rfl)
  have hunanswered : (s.unanswered ++ [handler]).filterMap Handler.waits =
      s.unanswered.filterMap Handler.waits ++ handler.waits.toList := by
    rw [List.filterMap_append, filterMap_cons_toList, List.filterMap_nil, List.append_nil]
  change (_ ++ (s.unanswered ++ [handler]).filterMap Handler.waits).Perm _
  rw [hunanswered, ← List.append_assoc]
  refine List.perm_append_comm.trans ?_
  rw [← List.append_assoc]
  exact htaken.append_right _

/-- Every event of the backend is such a shift. -/
theorem shift_of_move (hi : Inv m n rows₀ s) (htable : TableInv s.tasks)
    (h : Move m s e s') : Shift m s s' := by
  cases h with
  | submit _ hmoves =>
    cases TaskMaster.move_of_system hmoves with
    | submit =>
      refine .kept rfl (places_perm ?_ rfl)
      simp [undelivered, State.withTasks, SubmitPc.handing]
  | call hother hmoves =>
    cases TaskMaster.move_of_system hmoves with
    | call hc hm => exact shift_of_submitMove hi hother htable hc hm
  | refused hended => exact absurd hended (hi.lanes _).runs
  | enqueued hc hpc hsent hmoves => exact shift_of_enqueued hi hc hpc hsent hmoves
  | @receive k lane hreceived =>
    exact .kept rfl (places_perm
      (undelivered_setLane_perm (Lane.waiting_receive (hi.lanes k) hreceived)) rfl)
  | @dispatch k lane hdispatched =>
    exact .kept rfl (places_perm
      (undelivered_setLane_perm (Lane.waiting_dispatch (hi.lanes k) hdispatched)) rfl)
  | post hworks => exact shift_of_post hworks
  | delivery hmoves =>
    cases TaskMaster.move_of_system hmoves with
    | delivery hd hm => exact shift_of_deliveryMove hd hm
  | @answer k worker status handler lane outcome hworks hresponded hfinished =>
    have hwaits : handler.waits = none := by
      obtain ⟨d, hd, -⟩ := Option.bind_eq_some_iff.1 hresponded
      unfold Handler.waits
      rw [hd]
    have hwaiting := Lane.waiting_finish hworks hfinished
    rw [hwaits] at hwaiting
    exact .kept rfl (places_perm (undelivered_setLane_perm hwaiting) rfl)
  | fail hworks hfinished => exact shift_of_fail hworks hfinished

/-! ## The status that goes with a place -/

/-- **The row of a run whose webhook stands at a statement.** A run is
delivered once, so that its attempt is the first. -/
def Fits (m : TaskMaster) (row : TaskRunModel) : DeliveryPc → Prop
  | .beginRead => row.HasStatus .queued ∧ row.attempts = 0
  | .beginWrite attempt => row.HasStatus .queued ∧ attempt = 1
  | .publishBegin attempt _ | .running attempt => row.HasStatus .inProgress ∧ attempt = 1
  | .publishFinish .. | .responded .. => ∃ result, row.HasStatus (m.outcomeStatus 1 result)

variable {rows : List TaskRunModel} {row : TaskRunModel} {run : TaskRun AnyTask}
variable {pc pc' : DeliveryPc} {choice : Choice} {fx : List (Effect AnyTask)}

/-- A run that waits is begun. -/
theorem decideNextAttempt_of_queued (hqueued : row.HasStatus .queued) (hattempts : row.attempts = 0) :
    decideNextAttempt (some row) = some 1 := by
  have hne : ∀ st : TaskRunStatus, st ≠ .queued → row.statusCode ≠ st.asI32 := by
    intro st hst hhas
    exact hst (TaskRunStatus.asI32_injective (hhas.symm.trans hqueued))
  simp only [decideNextAttempt]
  rw [if_neg (hne .completeSuccess (by decide)), if_neg (hne .submissionFailed (by decide)),
    hattempts]

/-- **The row follows its run.** -/
theorem fits_of_deliveryMove (hu : UniqueKeys rows) (hr : row ∈ rows)
    (hid : row.runId = run.runId) (htaken : WebhookTask.reject run.task = none)
    (hfits : Fits m row pc) (hm : TaskMaster.DeliveryMove m rows ⟨run, pc⟩ choice pc' fx) :
    ∃ row' ∈ fx.foldl Effect.apply rows, row'.runId = run.runId ∧ Fits m row' pc' := by
  have hquery : queryRunById rows run.runId none = some row := by
    rw [← hid]
    exact TaskMaster.queryRunById_eq hu hr
  have hwrote : ∀ w : StatusWrite, w.runId = run.runId → Fits m (w.update row) pc' →
      ∃ row' ∈ w.apply rows, row'.runId = run.runId ∧ Fits m row' pc' := by
    intro w hw hf
    refine ⟨w.update row, StatusWrite.update_mem_apply hr (hid.trans hw.symm), ?_, hf⟩
    rw [StatusWrite.update_runId]
    exact hid
  cases hm with
  | rejected _ hreject => cases htaken.symm.trans hreject
  | attempt hpc hdecided =>
    cases hpc
    rw [hquery, decideNextAttempt_of_queued hfits.1 hfits.2] at hdecided
    cases hdecided
    exact ⟨row, hr, hid, hfits.1, rfl⟩
  | ignored hpc hdecided =>
    cases hpc
    rw [hquery, decideNextAttempt_of_queued hfits.1 hfits.2] at hdecided
    cases hdecided
  | began hpc | beganMissing hpc =>
    cases hpc
    exact hwrote _ rfl ⟨StatusWrite.update_statusCode, hfits.2⟩
  | publishedBegin hpc =>
    cases hpc
    rw [TaskMaster.foldl_publishEffects]
    exact ⟨row, hr, hid, hfits⟩
  | @finished attempt result now _ hpc | @finishedMissing attempt result now hpc =>
    cases hpc
    obtain ⟨-, rfl⟩ := hfits
    exact hwrote _ rfl ⟨result, StatusWrite.update_statusCode⟩
  | publishedFinish hpc =>
    cases hpc
    rw [TaskMaster.foldl_publishEffects]
    exact ⟨row, hr, hid, hfits⟩

/-- A delivery writes to the row of its run and no other. -/
theorem mem_of_deliveryMove (hr : row ∈ rows) (hid : row.runId ≠ run.runId)
    (hm : TaskMaster.DeliveryMove m rows ⟨run, pc⟩ choice pc' fx) :
    row ∈ fx.foldl Effect.apply rows := by
  cases hm with
  | rejected | attempt | ignored => exact hr
  | began | beganMissing | finished | finishedMissing => exact StatusWrite.mem_apply_of_ne hr hid
  | publishedBegin | publishedFinish =>
    rw [TaskMaster.foldl_publishEffects]
    exact hr

/-- A delivery adds no row and changes no run id. -/
theorem map_runId_of_deliveryMove (hm : TaskMaster.DeliveryMove m rows ⟨run, pc⟩ choice pc' fx) :
    (fx.foldl Effect.apply rows).map TaskRunModel.runId = rows.map TaskRunModel.runId := by
  cases hm with
  | rejected | attempt | ignored => rfl
  | began | beganMissing | finished | finishedMissing => exact StatusWrite.map_runId_apply
  | publishedBegin | publishedFinish => rw [TaskMaster.foldl_publishEffects]

/-- **Every run of this lifetime has one place**, and the status that goes
with it. -/
structure PlacesInv (m : TaskMaster) (rows₀ : List TaskRunModel) (s : State) : Prop where
  once : ((places s).map fun place => place.1.runId).Nodup
  taken : ∀ place ∈ places s, WebhookTask.reject place.1.task = none
  fits : ∀ place ∈ places s, ∃ row ∈ s.tasks.rows, row.runId = place.1.runId ∧ Fits m row place.2
  placed : ∀ row ∈ s.tasks.rows, row.runId ∉ rows₀.map TaskRunModel.runId →
    ∃ place ∈ places s, place.1.runId = row.runId

/-- A shift keeps each run in one place at most. -/
theorem PlacesInv.shift (hi : PlacesInv m rows₀ s) (hu : UniqueKeys s.tasks.rows)
    (h : Shift m s s') : PlacesInv m rows₀ s' := by
  cases h with
  | kept hrows hperm =>
    refine ⟨(hperm.map _).nodup_iff.2 hi.once, fun place hplace => ?_, fun place hplace => ?_,
      fun row hr hnew => ?_⟩
    · exact hi.taken place (hperm.mem_iff.1 hplace)
    · rw [hrows]
      exact hi.fits place (hperm.mem_iff.1 hplace)
    · rw [hrows] at hr
      obtain ⟨place, hplace, hid⟩ := hi.placed row hr hnew
      exact ⟨place, hperm.mem_iff.2 hplace, hid⟩
  | @inserted run now hinserts htaken hrows hperm =>
    refine ⟨(hperm.map _).nodup_iff.2 ?_, fun place hplace => ?_, fun place hplace => ?_,
      fun row hr hnew => ?_⟩
    · rw [List.map_cons, List.nodup_cons]
      refine ⟨fun hmem => ?_, hi.once⟩
      obtain ⟨place, hplace, hid⟩ := List.mem_map.1 hmem
      obtain ⟨row, hr, hrow, -⟩ := hi.fits place hplace
      -- the run that is inserted has an id no row has, and so no place has
      exact hinserts.runId_ne hr (hrow.trans hid)
    · rcases List.mem_cons.1 (hperm.mem_iff.1 hplace) with rfl | hplace
      · exact htaken
      · exact hi.taken place hplace
    · rw [hrows]
      rcases List.mem_cons.1 (hperm.mem_iff.1 hplace) with rfl | hplace
      · exact ⟨queuedRow run now, List.mem_append_right _ (List.mem_singleton_self _), rfl, rfl, rfl⟩
      · obtain ⟨row, hr, hrow⟩ := hi.fits place hplace
        exact ⟨row, List.mem_append_left _ hr, hrow⟩
    · rw [hrows] at hr
      rcases List.mem_append.1 hr with hr | hr
      · obtain ⟨place, hplace, hid⟩ := hi.placed row hr hnew
        exact ⟨place, hperm.mem_iff.2 (List.mem_cons_of_mem _ hplace), hid⟩
      · cases List.mem_singleton.1 hr
        exact ⟨_, hperm.mem_iff.2 List.mem_cons_self, rfl⟩
  | @stepped run pc pc' choice fx rest hbefore hafter hm hrows =>
    have honce := (hbefore.map fun place => place.1.runId).nodup_iff.1 hi.once
    have hfirst := hbefore.mem_iff.2 List.mem_cons_self
    have htaken := hi.taken _ hfirst
    have hrest : ∀ place ∈ rest, place ∈ places s :=
      fun place hplace => hbefore.mem_iff.2 (List.mem_cons_of_mem _ hplace)
    refine ⟨(hafter.map _).nodup_iff.2 honce, fun place hplace => ?_, fun place hplace => ?_,
      fun row hr hnew => ?_⟩
    · rcases List.mem_cons.1 (hafter.mem_iff.1 hplace) with rfl | hplace
      · exact htaken
      · exact hi.taken place (hrest place hplace)
    · rw [hrows]
      rcases List.mem_cons.1 (hafter.mem_iff.1 hplace) with rfl | hplace
      · obtain ⟨row, hr, hid, hfits⟩ := hi.fits _ hfirst
        exact fits_of_deliveryMove hu hr hid htaken hfits hm
      · obtain ⟨row, hr, hid, hfits⟩ := hi.fits place (hrest place hplace)
        -- the delivery wrote its own row, and the run of another place has another
        refine ⟨row, mem_of_deliveryMove hr (fun heq => ?_) hm, hid, hfits⟩
        rw [List.map_cons, List.nodup_cons] at honce
        exact honce.1 (List.mem_map.2 ⟨place, hplace, hid.symm.trans heq⟩)
    · have hmem : row.runId ∈ s'.tasks.rows.map TaskRunModel.runId := List.mem_map.2 ⟨row, hr, rfl⟩
      rw [hrows, map_runId_of_deliveryMove hm] at hmem
      obtain ⟨row₁, hr₁, hid₁⟩ := List.mem_map.1 hmem
      obtain ⟨place, hplace, hid⟩ := hi.placed row₁ hr₁ (hid₁ ▸ hnew)
      rcases List.mem_cons.1 (hbefore.mem_iff.1 hplace) with rfl | hplace
      · exact ⟨_, hafter.mem_iff.2 List.mem_cons_self, hid.trans hid₁⟩
      · exact ⟨place, hafter.mem_iff.2 (List.mem_cons_of_mem _ hplace), hid.trans hid₁⟩

/-! ## Who waits for a webhook -/

/-- The deliveries a handler waits for. -/
def posted (s : State) : List ℕ :=
  queues.flatMap fun k => (s.lanes k).handlers.filterMap Handler.delivery

/-- **A webhook has its handler**, unless it has responded or the POST
failed. -/
def Attended (s : State) : Prop :=
  ∀ (d : ℕ) (delivery : Delivery AnyTask), s.tasks.deliveries[d]? = some delivery →
    d ∈ posted s ∨
    (∃ handler ∈ s.unanswered, handler.delivery = some d ∧ handler.run = delivery.run) ∨
    ∃ attempt status, delivery.pc = .responded attempt status

variable {d worker : ℕ} {handler : Handler} {delivery : Delivery AnyTask} {te : Ev AnyTask}

/-- There are no other queues. -/
theorem mem_queues (k : QueueName) : k ∈ queues := by
  cases k <;> decide

/-- The deliveries under way are those of the handlers. -/
theorem mem_posted :
    d ∈ posted s ↔ ∃ k, ∃ handler ∈ (s.lanes k).handlers, handler.delivery = some d := by
  unfold posted
  rw [List.mem_flatMap]
  constructor
  · rintro ⟨k, -, hmem⟩
    exact ⟨k, List.mem_filterMap.1 hmem⟩
  · rintro ⟨k, hmem⟩
    exact ⟨k, mem_queues k, List.mem_filterMap.2 hmem⟩

/-- The lane that was set. -/
theorem setLane_self : (s.setLane k lane).lanes k = lane := Function.update_self ..

/-- The other lanes. -/
theorem setLane_of_ne {k' : QueueName} (hk : k' ≠ k) :
    (s.setLane k lane).lanes k' = s.lanes k' := Function.update_of_ne hk ..

/-- A change of a lane that keeps the handler. -/
theorem mem_posted_setLane (hd : d ∈ posted s)
    (hkeeps : ∀ handler ∈ (s.lanes k).handlers, handler.delivery = some d →
      handler ∈ lane.handlers) : d ∈ posted (s.setLane k lane) := by
  obtain ⟨k', handler, hmem, hdelivery⟩ := mem_posted.1 hd
  refine mem_posted.2 ⟨k', handler, ?_, hdelivery⟩
  by_cases hk : k' = k
  · subst hk
    rw [setLane_self]
    exact hkeeps handler hmem hdelivery
  · rw [setLane_of_ne hk]
    exact hmem

/-- A webhook is attended to where its handler still waits for it. -/
theorem Attended.of_posted (ha : Attended s)
    (hdeliveries : s'.tasks.deliveries = s.tasks.deliveries)
    (hunanswered : ∀ handler ∈ s.unanswered, handler ∈ s'.unanswered)
    (hposted : ∀ (d : ℕ) (delivery : Delivery AnyTask), s.tasks.deliveries[d]? = some delivery →
      d ∈ posted s → d ∈ posted s' ∨
        (∃ handler ∈ s'.unanswered, handler.delivery = some d ∧ handler.run = delivery.run) ∨
        ∃ attempt status, delivery.pc = .responded attempt status) : Attended s' := by
  intro d delivery hd
  rw [hdeliveries] at hd
  rcases ha d delivery hd with hmem | ⟨handler, hmem, hhandler⟩ | hresponded
  · exact hposted d delivery hd hmem
  · exact Or.inr (Or.inl ⟨handler, hunanswered handler hmem, hhandler⟩)
  · exact Or.inr (Or.inr hresponded)

/-- With the same handlers, the same deliveries are under way. -/
theorem posted_setLane (hhandlers : lane.handlers = (s.lanes k).handlers) :
    posted (s.setLane k lane) = posted s := by
  refine List.flatMap_congr fun k' _ => ?_
  by_cases hk : k' = k
  · subst hk
    rw [setLane_self, hhandlers]
  · rw [setLane_of_ne hk]

/-- A webhook that has responded is done. -/
theorem not_deliveryMove_of_responded {attempt : Option ℕ} {status : ℕ}
    (hpc : delivery.pc = .responded attempt status) :
    ¬ TaskMaster.DeliveryMove m rows delivery choice pc fx := by
  intro hm
  cases hm with
  | _ hpc₀ => cases hpc.symm.trans hpc₀

/-- What a webhook does keeps its handler waiting. -/
theorem Attended.of_move (ha : Attended s) (hm : TaskMaster.Move m s.tasks te tasks)
    (hother : ∀ i, te ≠ .deliver i) (hdeliveries : s'.tasks.deliveries = tasks.deliveries)
    (hunanswered : s'.unanswered = s.unanswered) (hposted : posted s' = posted s) :
    Attended s' := by
  intro d delivery hd
  rw [hdeliveries] at hd
  rw [hunanswered, hposted]
  rcases TaskMaster.delivery_of_move hm hd with ⟨hd, -⟩ | ⟨-, i, run, heq, -⟩ |
    ⟨choice, delivery₀, fx, -, hd₀, hm, heq, -⟩
  · exact ha d delivery hd
  · exact absurd heq (hother i)
  · have hrun : delivery₀.run = delivery.run := by rw [heq]
    rcases ha d delivery₀ hd₀ with hmem | ⟨handler, hmem, hdelivery, hhandler⟩ |
      ⟨attempt, status, hpc⟩
    · exact Or.inl hmem
    · exact Or.inr (Or.inl ⟨handler, hmem, hdelivery, hhandler.trans hrun⟩)
    · exact absurd hm (not_deliveryMove_of_responded hpc)

/-- A handler that returns leaves the other handlers. -/
theorem mem_handlers_of_finish {lane' : Lane} {outcome : LocalTaskQueue.Outcome}
    (hworks : lane.handlers[worker]? = some handler) (hfinished : lane.finish worker outcome = some lane')
    {other : Handler} (hmem : other ∈ lane.handlers) (hne : other ≠ handler) :
    other ∈ lane'.handlers := by
  obtain ⟨-, rfl⟩ := Lane.finish_eq_some hfinished
  rcases List.mem_cons.1 ((cons_eraseIdx_perm hworks).mem_iff.2 hmem) with heq | hmem
  · exact absurd heq hne
  · exact hmem

/-- A POST gives its delivery a handler to wait for it. -/
theorem Attended.post (ha : Attended s)
    (hworks : (s.lanes k).handlers[worker]? = some ⟨run, none⟩) :
    Attended (post s k worker run) := by
  intro d delivery hd
  rcases getElem?_concat_eq_some hd with ⟨rfl, rfl⟩ | hd
  · refine Or.inl (mem_posted.2 ⟨k, ⟨run, some s.tasks.deliveries.length⟩, ?_, rfl⟩)
    change _ ∈ ((s.setLane k _).lanes k).handlers
    rw [setLane_self]
    exact List.mem_of_getElem? (getElem?_set_of_some hworks)
  · refine (ha d delivery hd).imp_left fun hmem => mem_posted_setLane hmem fun handler hh hdel => ?_
    -- the handler that posts was not waiting for a webhook
    rcases List.mem_cons.1 ((cons_set_perm hworks).mem_iff.2 (List.mem_cons_of_mem _ hh)) with
      rfl | hmem
    · cases hdel
    · exact hmem

/-- After every event each delivery has its handler, was left by it, or has
been answered. -/
theorem Attended.step (ha : Attended s) (hi : Inv m n rows₀ s) (h : Move m s e s') :
    Attended s' := by
  cases h with
  | submit _ hmoves =>
    exact ha.of_move (TaskMaster.move_of_system hmoves) nofun rfl rfl rfl
  | call _ hmoves => exact ha.of_move (TaskMaster.move_of_system hmoves) nofun rfl rfl rfl
  | refused _ hmoves => exact ha.of_move (TaskMaster.move_of_system hmoves) nofun rfl rfl rfl
  | delivery hmoves => exact ha.of_move (TaskMaster.move_of_system hmoves) nofun rfl rfl rfl
  | enqueued _ _ _ hmoves =>
    exact ha.of_move (TaskMaster.move_of_system hmoves) nofun rfl rfl (posted_setLane rfl)
  | @receive k lane hreceived =>
    obtain ⟨_, _, -, -, heq⟩ := Lane.receive_eq_some (hi.lanes k) hreceived
    refine ha.of_posted rfl (fun _ hmem => hmem) fun d _ _ hd => Or.inl ?_
    refine mem_posted_setLane hd fun handler hmem _ => ?_
    rw [heq]
    exact hmem
  | @dispatch k lane hdispatched =>
    obtain ⟨_, _, -, -, heq⟩ := Lane.dispatch_eq_some (hi.lanes k) hdispatched
    refine ha.of_posted rfl (fun _ hmem => hmem) fun d _ _ hd => Or.inl ?_
    refine mem_posted_setLane hd fun handler hmem _ => ?_
    rw [heq]
    exact List.mem_append_left _ hmem
  | post hworks => exact ha.post hworks
  | @answer k worker status handler lane _ hworks hresponded hfinished =>
    refine ha.of_posted rfl (fun _ hmem => hmem) fun d delivery hdelivery hd => ?_
    by_cases hhandler : handler.delivery = some d
    · refine Or.inr (Or.inr ?_)
      unfold State.response at hresponded
      rw [hhandler, Option.bind_some, hdelivery, Option.bind_some] at hresponded
      split at hresponded
      · exact ⟨_, _, ‹_›⟩
      · cases hresponded
    · refine Or.inl (mem_posted_setLane hd fun other hmem hother => ?_)
      exact mem_handlers_of_finish hworks hfinished hmem fun heq => hhandler (heq ▸ hother)
  | @fail k worker handler lane hworks hfinished =>
    refine ha.of_posted rfl (fun _ hmem => List.mem_append_left _ hmem) fun d delivery hdelivery hd => ?_
    by_cases hhandler : handler.delivery = some d
    · refine Or.inr (Or.inl ⟨handler, List.mem_append_right _ (List.mem_singleton_self _), hhandler, ?_⟩)
      obtain ⟨delivery', hget, hrun⟩ :=
        hi.posted k handler (List.mem_of_getElem? hworks) d hhandler
      cases hdelivery.symm.trans hget
      exact hrun.symm
    · refine Or.inl (mem_posted_setLane hd fun other hmem hother => ?_)
      exact mem_handlers_of_finish hworks hfinished hmem fun heq => hhandler (heq ▸ hother)

/-! ## What is in flight -/

/-- **What holds in every state of the backend.** -/
structure BackendInv (m : TaskMaster) (n : ℕ) (rows₀ : List TaskRunModel) (s : State) : Prop where
  inv : Inv m n rows₀ s
  table : TableInv s.tasks
  places : PlacesInv m rows₀ s
  attended : Attended s

/-- One event keeps all the invariants of the backend together. -/
theorem BackendInv.step (hi : BackendInv m n rows₀ s) (hkeys : UniqueKeys rows₀)
    (hs : (system m).step s e = some s') : BackendInv m n rows₀ s' := by
  have hmove := move_of_step hs
  have hinv := hi.inv.step hs
  obtain ⟨es, hrun⟩ := hinv.reaches
  exact ⟨hinv, TaskMaster.tableInv_of_run (TaskMaster.tableInv_start hkeys) hrun,
    hi.places.shift hi.table.unique (shift_of_move hi.inv hi.table hmove),
    hi.attended.step hi.inv hmove⟩

/-- A handler that has not posted waits with its own run. -/
theorem Handler.waits_eq_some : handler.waits = some run ↔ handler.delivery = none ∧ handler.run = run := by
  unfold Handler.waits
  cases handler.delivery with
  | none => simp
  | some d => simp

/-- The run of a handler is a run of the lane. -/
theorem Lane.Ok.mem_runs (hok : lane.Ok n) (hmem : handler ∈ lane.handlers) :
    handler.run ∈ lane.runs := by
  refine List.mem_append_right _ ?_
  rw [← hok.workers]
  exact List.mem_map_of_mem hmem

/-- A run that waits on a lane is a run of the lane. -/
theorem Lane.Ok.runs_of_waiting (hok : lane.Ok n) (hrun : run ∈ lane.waiting) :
    run ∈ lane.runs := by
  rcases List.mem_append.1 hrun with hrun | hrun
  · exact List.mem_append_left _ hrun
  · obtain ⟨handler, hmem, hwaits⟩ := List.mem_filterMap.1 hrun
    rw [← (Handler.waits_eq_some.1 hwaits).2]
    exact hok.mem_runs hmem

/-- A run of a lane is pending in the backend. -/
theorem pending_of_runs (hrun : run ∈ (s.lanes k).runs) : run.runId ∈ s.pendingRunIds :=
  List.mem_append_right _ (List.mem_flatMap.2 ⟨k, mem_queues k, List.mem_map_of_mem hrun⟩)

/-- A run that no webhook has is pending, or its POST failed. -/
theorem pending_of_undelivered (hi : Inv m n rows₀ s) (hrun : run ∈ undelivered s) :
    run.runId ∈ s.pendingRunIds ∨ ∃ handler ∈ s.unanswered, handler.run = run := by
  rcases List.mem_append.1 hrun with hcall | hrun
  · obtain ⟨call, hcall, hhanding⟩ := List.mem_filterMap.1 hcall
    refine Or.inl (List.mem_append_left _ (List.mem_filterMap.2 ⟨call, hcall, ?_⟩))
    cases hpc : call.pc with
    | publishQueued | enqueue | failWrite =>
      rw [hpc] at hhanding
      cases hhanding
      rfl
    | _ =>
      rw [hpc] at hhanding
      cases hhanding
  · rcases List.mem_append.1 hrun with hlane | hfailed
    · obtain ⟨k, -, hlane⟩ := List.mem_flatMap.1 hlane
      exact Or.inl (pending_of_runs ((hi.lanes k).runs_of_waiting hlane))
    · obtain ⟨handler, hhandler, hwaits⟩ := List.mem_filterMap.1 hfailed
      exact Or.inr ⟨handler, hhandler, (Handler.waits_eq_some.1 hwaits).2⟩

/-- **A run in flight is pending**, unless its POST failed or its attempt
left it to be retried. -/
theorem pending_of_inFlight (hi : BackendInv m n rows₀ s) (hr : row ∈ s.tasks.rows)
    (hnew : row.runId ∉ rows₀.map TaskRunModel.runId) (hfl : row.inFlight = true) :
    row.runId ∈ s.pendingRunIds ∨ (∃ handler ∈ s.unanswered, handler.run.runId = row.runId) ∨
      row.HasStatus .errorWillRetry := by
  obtain ⟨place, hplace, hid⟩ := hi.places.placed row hr hnew
  rw [← hid]
  rcases List.mem_append.1 hplace with hmem | hmem
  · obtain ⟨run, hrun, rfl⟩ := List.mem_map.1 hmem
    rcases pending_of_undelivered hi.inv hrun with hpending | ⟨handler, hhandler, heq⟩
    · exact Or.inl hpending
    · exact Or.inr (Or.inl ⟨handler, hhandler, congrArg TaskRun.runId heq⟩)
  · obtain ⟨delivery, hdelivery, rfl⟩ := List.mem_map.1 hmem
    obtain ⟨d, hd⟩ := List.mem_iff_getElem?.1 hdelivery
    rcases hi.attended d delivery hd with hposted | ⟨handler, hhandler, -, heq⟩ |
      ⟨attempt, status, hpc⟩
    · obtain ⟨k, handler, hhandler, hwaits⟩ := mem_posted.1 hposted
      obtain ⟨delivery', hd', hrun⟩ := hi.inv.posted k handler hhandler d hwaits
      cases hd.symm.trans hd'
      refine Or.inl ?_
      dsimp only
      rw [hrun]
      exact pending_of_runs ((hi.inv.lanes k).mem_runs hhandler)
    · exact Or.inr (Or.inl ⟨handler, hhandler, congrArg TaskRun.runId heq⟩)
    · obtain ⟨row', hr', hid', hfits⟩ := hi.places.fits _ hplace
      rw [hi.table.unique.eq_of_runId hr' hr (hid'.trans hid)] at hfits
      dsimp only at hfits
      rw [hpc] at hfits
      obtain ⟨result, hstatus⟩ := hfits
      rw [TaskRunModel.inFlight_eq_of_hasStatus hstatus] at hfl
      rw [TaskMaster.outcomeStatus_inFlight hfl] at hstatus
      exact Or.inr (Or.inr hstatus)

end LocalBackend

end Dreamscroll
