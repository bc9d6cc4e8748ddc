import Dreamscroll.Task.LocalPlaces
/-!
# Runs stranded by the local backend

`finish_attempt` decides whether an attempt is retried by the budget and the
error, but `LocalTaskQueue` delivers a run once. A run left `ErrorWillRetry`
is therefore in flight for good, and its task is refused from then on; so
the budget of a local deployment is one attempt. Every other run in flight
has a delivery to come, and the backend by itself brings them all to an end
(`none_stranded`).
-/

namespace Dreamscroll

namespace LocalBackend

/-! ## The work that is left -/

/-- The steps a call has before it at most, those of its run included. -/
def callWork : SubmitPc AnyTask → ℕ
  | .dedup => 14
  | .latest => 13
  | .insert _ => 12
  | .publishQueued .. => 11
  | .enqueue _ => 10
  | .failWrite .. => 2
  | .recheckInFlight | .recheckConflict | .publishFailed .. => 1
  | .returned _ => 0

/-- The steps a worker has left at most. -/
def handlerWork (handler : Handler) : ℕ :=
  match handler.delivery with
  | none => 7
  | some _ => 1

/-- Those of a queue: of the runs in its channel, of the one in hand, and of
the workers. -/
def laneWork (lane : Lane) : ℕ :=
  9 * lane.queue.channel.length + 8 * lane.queue.dispatcher.inHand.length +
    (lane.handlers.map handlerWork).sum

/-- Those of a delivery. -/
def deliveryWork (pc : DeliveryPc) : ℕ := 5 - pc.rank

/-- **The steps that are left** if nothing is submitted. -/
def State.work (s : State) : ℕ :=
  (s.tasks.calls.map fun call => callWork call.pc).sum +
    (queues.map fun k => laneWork (s.lanes k)).sum +
    (s.tasks.deliveries.map fun delivery => deliveryWork delivery.pc).sum

/-- Nothing can happen but a submission. -/
def Drained (m : TaskMaster) (s : State) : Prop :=
  ∀ e, e.submits = false → step m s e = none

variable {m : TaskMaster} {s s' s₀ : State} {e : Event} {es : List Event} {n : ℕ}
variable {rows₀ rows : List TaskRunModel} {lane : Lane} {k : QueueName} {tasks : TaskState AnyTask}
variable {row : TaskRunModel} {choice : Choice}

/-! ## The retry nobody schedules -/

/-- **With a budget of one attempt nothing is left to be retried.** -/
theorem not_errorWillRetry (hi : BackendInv m n rows₀ s) (hbudget : m.maxAttemptsPerRun ≤ 1)
    (hr : row ∈ s.tasks.rows) (hnew : row.runId ∉ rows₀.map TaskRunModel.runId) :
    ¬ row.HasStatus .errorWillRetry := by
  intro hstatus
  obtain ⟨place, hplace, hid⟩ := hi.places.placed row hr hnew
  obtain ⟨row', hr', hid', hfits⟩ := hi.places.fits place hplace
  rw [hi.table.unique.eq_of_runId hr' hr (hid'.trans hid)] at hfits
  have hother : ∀ st : TaskRunStatus, row.HasStatus st → st = .errorWillRetry :=
    fun st hst => TaskRunStatus.asI32_injective (hst.symm.trans hstatus)
  have houtcome : ∀ result, ¬ row.HasStatus (m.outcomeStatus 1 result) := by
    intro result hresult
    have heq := hother _ hresult
    cases result with
    | ok => cases heq
    | error err =>
      have hretry : decideWillRetry err 1 m.maxAttemptsPerRun = false := by
        unfold decideWillRetry
        rw [decide_eq_false (by omega), Bool.false_and]
      simp only [TaskMaster.outcomeStatus, hretry, if_neg Bool.false_ne_true] at heq
      cases heq
  cases hpc : place.2 with
  | beginRead | beginWrite =>
    rw [hpc] at hfits
    cases hother _ hfits.1
  | publishBegin | running =>
    rw [hpc] at hfits
    cases hother _ hfits.1
  | publishFinish | responded =>
    rw [hpc] at hfits
    obtain ⟨result, hresult⟩ := hfits
    exact houtcome result hresult

/-! ## Every step is work done -/

variable {c : ℕ} {call : Call AnyTask} {pc : SubmitPc AnyTask} {fx : List (Effect AnyTask)}

/-- Every statement of a submission leaves it with less to do. -/
theorem callWork_lt (hm : TaskMaster.SubmitMove m rows c call choice pc fx) :
    callWork pc < callWork call.pc := by
  cases hm with
  | found hpc =>
    rcases hpc with hpc | hpc | hpc <;>
      · rw [hpc]
        simp only [callWork]
        omega
  | refused hpc =>
    rcases hpc with hpc | hpc <;>
      · rw [hpc]
        simp only [callWork]
        omega
  | fresh hpc | decided hpc | sawInFlight hpc | inserted hpc | conflict hpc | insertFailed hpc
  | published hpc | enqueued hpc | enqueueFailed hpc | failWrote hpc | failMissed hpc
  | failPublished hpc =>
    rw [hpc]
    simp only [callWork]
    omega

/-- Every statement of a delivery leaves it with less to do. -/
theorem deliveryWork_lt {delivery : Delivery AnyTask} {dpc : DeliveryPc}
    (hm : TaskMaster.DeliveryMove m rows delivery choice dpc fx) :
    deliveryWork dpc < deliveryWork delivery.pc := by
  have hlt := TaskMaster.rank_lt_of_deliveryMove hm
  have hle : dpc.rank ≤ 5 := by
    cases dpc <;> simp only [DeliveryPc.rank] <;> omega
  unfold deliveryWork
  omega

/-- What is left to do on the lanes, when one of them is exchanged. -/
theorem sum_laneWork_setLane (s : State) (k : QueueName) (lane : Lane) :
    laneWork (s.lanes k) + (queues.map fun j => laneWork ((s.setLane k lane).lanes j)).sum =
      laneWork lane + (queues.map fun j => laneWork (s.lanes j)).sum := by
  cases k <;>
    simp only [queues, State.setLane, Function.update, List.map_cons, List.map_nil, List.sum_cons,
      List.sum_nil, reduceCtorEq, dite_false, dite_true] <;>
    omega

/-- The work of a state with other tasks, written out. -/
theorem work_withTasks (s : State) (tasks : TaskState AnyTask) : (s.withTasks tasks).work =
    (tasks.calls.map fun call => callWork call.pc).sum +
      (queues.map fun k => laneWork (s.lanes k)).sum +
      (tasks.deliveries.map fun delivery => deliveryWork delivery.pc).sum := rfl

/-- A lane with less to do is a backend with less to do. -/
theorem work_setLane (hlt : laneWork lane < laneWork (s.lanes k)) :
    (s.setLane k lane).work < s.work := by
  have hsum := sum_laneWork_setLane s k lane
  unfold State.work
  change (s.tasks.calls.map _).sum + _ + (s.tasks.deliveries.map _).sum < _
  omega

/-- A handler that runs has something left to do. -/
theorem handlerWork_pos (handler : Handler) : 0 < handlerWork handler := by
  unfold handlerWork
  split <;> omega

/-- A handler that ends leaves its lane with less to do. -/
theorem laneWork_finish {lane' : Lane} {worker : ℕ} {handler : Handler}
    {outcome : LocalTaskQueue.Outcome} (hworks : lane.handlers[worker]? = some handler)
    (hfinished : lane.finish worker outcome = some lane') : laneWork lane' < laneWork lane := by
  obtain ⟨-, rfl⟩ := Lane.finish_eq_some hfinished
  have hsum := sum_map_eraseIdx handlerWork hworks
  have hpos := handlerWork_pos handler
  unfold laneWork
  dsimp only
  omega

/-- The work of all calls, when one call moves. -/
theorem sum_callWork_set (hc : s.tasks.calls[c]? = some call) (pc : SubmitPc AnyTask) :
    callWork call.pc +
        ((s.tasks.calls.set c { call with pc := pc }).map fun call => callWork call.pc).sum =
      callWork pc + (s.tasks.calls.map fun call => callWork call.pc).sum :=
  sum_map_set (fun call : Call AnyTask => callWork call.pc) hc

/-- The work of all deliveries, when one delivery moves. -/
theorem sum_deliveryWork_set {d : ℕ} {delivery : Delivery AnyTask}
    (hd : s.tasks.deliveries[d]? = some delivery) (dpc : DeliveryPc) :
    deliveryWork delivery.pc + ((s.tasks.deliveries.set d { delivery with pc := dpc }).map
        fun delivery => deliveryWork delivery.pc).sum =
      deliveryWork dpc + (s.tasks.deliveries.map fun delivery => deliveryWork delivery.pc).sum :=
  sum_map_set (fun delivery : Delivery AnyTask => deliveryWork delivery.pc) hd

/-- A statement of a call lowers the work of the whole backend: its writes add
none. -/
theorem work_call (hc : s.tasks.calls[c]? = some call) (hlt : callWork pc < callWork call.pc) :
    (s.withTasks ((s.tasks.setCall c { call with pc := pc }).perform fx)).work < s.work := by
  have hsum := sum_callWork_set hc pc
  rw [work_withTasks]
  simp only [TaskState.perform_calls, TaskState.setCall_calls, TaskState.perform_deliveries,
    TaskState.setCall_deliveries]
  unfold State.work
  omega

/-- A statement of a delivery lowers the work of the whole backend. -/
theorem work_delivery {d : ℕ} {delivery : Delivery AnyTask} {dpc : DeliveryPc}
    (hd : s.tasks.deliveries[d]? = some delivery)
    (hlt : deliveryWork dpc < deliveryWork delivery.pc) :
    (s.withTasks ((s.tasks.setDelivery d { delivery with pc := dpc }).perform fx)).work <
      s.work := by
  have hsum := sum_deliveryWork_set hd dpc
  rw [work_withTasks]
  simp only [TaskState.perform_calls, TaskState.setDelivery_calls, TaskState.perform_deliveries,
    TaskState.setDelivery_deliveries]
  unfold State.work
  omega

/-- A run that is sent has nine steps before it, and its call had ten. -/
theorem work_enqueued {run : TaskRun AnyTask} {queue : LocalTaskQueue.State (TaskRun AnyTask)}
    (hi : Inv m n rows₀ s) (hc : s.tasks.calls[c]? = some call) (hpc : call.pc = .enqueue run)
    (hsent : (LocalTaskQueue.system _).step (s.lanes k).queue (.enqueue 0 run) = some queue)
    (hs : (TaskMaster.system AnyTask m).step s.tasks (.call c .enqueued) = some tasks) :
    ((s.setLane k { s.lanes k with queue := queue }).withTasks
      { tasks with accepted := tasks.accepted ++ [run] }).work < s.work := by
  cases TaskMaster.move_of_system hs with
  | @call _ _ call' pc fx hc' hm =>
    cases hc.symm.trans hc'
    cases hm with
    | @enqueued run' hpc' =>
      have hcalls := sum_callWork_set hc (.returned (.ok (.enqueued run'.runId run'.runNumber)))
      have hlanes := sum_laneWork_setLane s k ⟨queue, (s.lanes k).handlers⟩
      have hlane : laneWork ⟨queue, (s.lanes k).handlers⟩ = laneWork (s.lanes k) + 9 := by
        rw [Lane.enqueue_eq (hi.lanes k) hsent]
        unfold laneWork
        dsimp only
        rw [List.length_append, List.length_singleton]
        omega
      have hstands : callWork call.pc = 10 := by rw [hpc]; rfl
      have hdone : callWork (.returned (.ok (.enqueued run'.runId run'.runNumber))) = 0 := rfl
      rw [work_withTasks]
      simp only [TaskState.perform_calls, TaskState.setCall_calls, TaskState.perform_deliveries,
        TaskState.setCall_deliveries]
      unfold State.work
      omega

/-- A POST turns the work of the handler into a little less work of a
delivery. -/
theorem work_post {worker : ℕ} {run : TaskRun AnyTask}
    (hworks : (s.lanes k).handlers[worker]? = some ⟨run, none⟩) :
    (post s k worker run).work < s.work := by
  have hhandlers := sum_map_set (y := ⟨run, some s.tasks.deliveries.length⟩) handlerWork hworks
  have hlanes := sum_laneWork_setLane s k ⟨(s.lanes k).queue,
    (s.lanes k).handlers.set worker ⟨run, some s.tasks.deliveries.length⟩⟩
  have hlane : laneWork ⟨(s.lanes k).queue,
      (s.lanes k).handlers.set worker ⟨run, some s.tasks.deliveries.length⟩⟩ + 6 =
      laneWork (s.lanes k) := by
    have hwaits : handlerWork ⟨run, none⟩ = 7 := rfl
    have hposted : handlerWork ⟨run, some s.tasks.deliveries.length⟩ = 1 := rfl
    unfold laneWork
    dsimp only
    omega
  have hdelivery : deliveryWork .beginRead = 5 := rfl
  unfold post
  rw [work_withTasks, List.map_append, List.sum_append, List.map_singleton, List.sum_singleton,
    hdelivery]
  unfold State.work
  dsimp only
  omega

/-- **Every step but a submission is work done.** -/
theorem work_lt (hi : Inv m n rows₀ s) (hother : e.submits = false) (h : Move m s e s') :
    s'.work < s.work := by
  cases h with
  | submit => cases hother
  | call _ hmoves =>
    cases TaskMaster.move_of_system hmoves with
    | call hc hm => exact work_call hc (callWork_lt hm)
  | refused hended => exact absurd hended (hi.lanes _).runs
  | enqueued hc hpc hsent hmoves => exact work_enqueued hi hc hpc hsent hmoves
  | @receive k lane hreceived =>
    obtain ⟨run, channel, hreceiving, hwaits, rfl⟩ := Lane.receive_eq_some (hi.lanes k) hreceived
    refine work_setLane ?_
    unfold laneWork
    rw [hreceiving, hwaits]
    simp only [LocalTaskQueue.Dispatcher.inHand, List.length_cons, List.length_nil]
    omega
  | @dispatch k lane hdispatched =>
    obtain ⟨run, permits, hacquiring, -, rfl⟩ := Lane.dispatch_eq_some (hi.lanes k) hdispatched
    refine work_setLane ?_
    unfold laneWork
    rw [hacquiring, List.map_append, List.sum_append]
    simp only [LocalTaskQueue.Dispatcher.inHand, List.length_cons, List.length_nil, handlerWork,
      List.map_cons, List.map_nil, List.sum_cons, List.sum_nil]
    omega
  | post hworks => exact work_post hworks
  | delivery hmoves =>
    cases TaskMaster.move_of_system hmoves with
    | delivery hd hm => exact work_delivery hd (deliveryWork_lt hm)
  | @answer k worker status handler lane outcome hworks _ hfinished =>
    have hlt := laneWork_finish hworks hfinished
    exact work_setLane hlt
  | @fail k worker handler lane hworks hfinished =>
    have hlt := laneWork_finish hworks hfinished
    change (s.setLane k lane).work < s.work
    exact work_setLane hlt

/-- **Without submissions the backend comes to an end.** -/
theorem length_le_work (hi : Inv m n rows₀ s) (hother : ∀ e ∈ es, e.submits = false)
    (hrun : (system m).run s es = some s') : es.length + s'.work ≤ s.work := by
  induction es generalizing s with
  | nil =>
    cases hrun
    rw [List.length_nil, Nat.zero_add]
  | cons e es ih =>
    obtain ⟨t, hs, hrun⟩ := System.run_cons_eq_some.1 hrun
    have hlt := work_lt hi (hother e List.mem_cons_self) (move_of_step hs)
    have hle := ih (hi.step hs) (fun e he => hother e (List.mem_cons_of_mem _ he)) hrun
    rw [List.length_cons]
    omega

/-! ## Where nothing is left to do -/

/-- A call that is not at its enqueue can go on. -/
theorem exists_submitStep (m : TaskMaster) (rows : List TaskRunModel) (c : ℕ)
    (call : Call AnyTask) : (∃ outcome, call.pc = .returned outcome) ∨
      (∃ run, call.pc = .enqueue run) ∨
      ∃ choice, ofEnqueue choice = false ∧ (m.submitStep rows c call choice).isSome := by
  obtain ⟨task, backfillId, pc⟩ := call
  cases pc with
  | returned outcome => exact Or.inl ⟨outcome, rfl⟩
  | enqueue run => exact Or.inr (Or.inl ⟨run, rfl⟩)
  | dedup | recheckInFlight | recheckConflict =>
    refine Or.inr (Or.inr ⟨.read, rfl, ?_⟩)
    simp only [TaskMaster.submitStep]
    split <;> rfl
  | latest =>
    refine Or.inr (Or.inr ⟨.latest "", rfl, ?_⟩)
    simp only [TaskMaster.submitStep]
    split <;> rfl
  | insert run =>
    refine Or.inr (Or.inr ⟨.insert 0 ((violatedKeys rows (queuedRow run 0)).headD ""), rfl, ?_⟩)
    simp only [TaskMaster.submitStep]
    cases hkeys : violatedKeys rows (queuedRow run 0) with
    | nil =>
      simp only [insertRun, hkeys, if_pos]
      rfl
    | cons key keys =>
      have hmem : (key :: keys).headD "" ∈ key :: keys := List.mem_cons_self
      simp only [insertRun, hkeys, if_neg (List.cons_ne_nil key keys), if_pos hmem]
      cases isSubmissionConflict (.uniqueViolation ((key :: keys).headD "")) <;> rfl
  | publishQueued run row => exact Or.inr (Or.inr ⟨.publish none, rfl, rfl⟩)
  | failWrite run err =>
    refine Or.inr (Or.inr ⟨.write 0, rfl, ?_⟩)
    simp only [TaskMaster.submitStep]
    split <;> rfl
  | publishFailed row err => exact Or.inr (Or.inr ⟨.publish none, rfl, rfl⟩)

/-- A webhook that has not responded can go on. -/
theorem exists_deliveryStep (m : TaskMaster) (rows : List TaskRunModel)
    (delivery : Delivery AnyTask) : (∃ attempt status, delivery.pc = .responded attempt status) ∨
      ∃ choice, (m.deliveryStep rows delivery choice).isSome := by
  obtain ⟨run, pc⟩ := delivery
  cases pc with
  | responded attempt status => exact Or.inl ⟨attempt, status, rfl⟩
  | beginRead =>
    refine Or.inr ⟨.read, ?_⟩
    simp only [TaskMaster.deliveryStep]
    split
    · rfl
    · split <;> rfl
  | beginWrite attempt =>
    refine Or.inr ⟨.write 0, ?_⟩
    simp only [TaskMaster.deliveryStep]
    split <;> rfl
  | running attempt =>
    refine Or.inr ⟨.finish (.ok ()) 0, ?_⟩
    simp only [TaskMaster.deliveryStep]
    split <;> rfl
  | publishBegin attempt row => exact Or.inr ⟨.publish none, rfl⟩
  | publishFinish attempt status row => exact Or.inr ⟨.publish none, rfl⟩

/-- A statement of a call, other than its enqueue, is a step of the backend. -/
theorem step_call (hc : s.tasks.calls[c]? = some call) (hother : ofEnqueue choice = false)
    (hstep : m.submitStep s.tasks.rows c call choice = some (pc, fx)) :
    step m s (.call c choice) =
      some (s.withTasks ((s.tasks.setCall c { call with pc := pc }).perform fx)) := by
  simp only [step, hother, if_neg Bool.false_ne_true, TaskMaster.step, hc, Option.bind_some, hstep,
    Option.map_some]

/-- A statement of a delivery is a step of the backend. -/
theorem step_delivery {d : ℕ} {delivery : Delivery AnyTask} {dpc : DeliveryPc}
    (hd : s.tasks.deliveries[d]? = some delivery)
    (hstep : m.deliveryStep s.tasks.rows delivery choice = some (dpc, fx)) :
    step m s (.delivery d choice) =
      some (s.withTasks ((s.tasks.setDelivery d { delivery with pc := dpc }).perform fx)) := by
  simp only [step, TaskMaster.step, hd, Option.bind_some, hstep, Option.map_some]

/-- A queue takes what is enqueued, and the call returns. -/
theorem step_enqueue {run : TaskRun AnyTask} (hok : (s.lanes (queueOf run.task)).Ok n)
    (hc : s.tasks.calls[c]? = some call) (hpc : call.pc = .enqueue run) :
    ∃ s', step m s (.enqueue c) = some s' ∧ s'.tasks.calls[c]? =
      some { call with pc := .returned (.ok (.enqueued run.runId run.runNumber)) } := by
  have hheld : (s.lanes (queueOf run.task)).queue.handles[0]? = some .held := by
    rw [hok.handles]
    rfl
  have hmoves : m.step s.tasks (.call c .enqueued) = some ((s.tasks.setCall c
      { call with pc := .returned (.ok (.enqueued run.runId run.runNumber)) }).perform
        [.respond c call.logicalId (.ok (.enqueued run.runId run.runNumber))]) := by
    simp only [TaskMaster.step, hc, Option.bind_some, TaskMaster.submitStep, hpc, Option.map_some]
  obtain ⟨queue, hsent⟩ : ∃ queue, (LocalTaskQueue.system _).step
      (s.lanes (queueOf run.task)).queue (.enqueue 0 run) = some queue := by
    simp only [LocalTaskQueue.system, LocalTaskQueue.step, hheld, if_true]
    split
    · exact ⟨_, rfl⟩
    · exact ⟨_, rfl⟩
  simp only [step, hc, Option.bind_some, hpc, enqueue, hsent]
  cases hdispatcher : (s.lanes (queueOf run.task)).queue.dispatcher with
  | ended => exact absurd hdispatcher hok.runs
  | _ =>
    simp only [hmoves, Option.map_some]
    exact ⟨_, rfl, getElem?_set_of_some hc⟩

/-- In a drained backend every submission has returned, for a call that has
not returned can still move. -/
theorem returned_of_drained (hi : Inv m n rows₀ s) (hd : Drained m s)
    (hc : s.tasks.calls[c]? = some call) : ∃ outcome, call.pc = .returned outcome := by
  rcases exists_submitStep m s.tasks.rows c call with hreturned | ⟨run, hpc⟩ |
    ⟨choice, hother, hsome⟩
  · exact hreturned
  · obtain ⟨s', hstep, -⟩ := step_enqueue (m := m) (hi.lanes _) hc hpc
    cases (hd (.enqueue c) rfl).symm.trans hstep
  · obtain ⟨next, hnext⟩ := Option.isSome_iff_exists.1 hsome
    cases (hd (.call c choice) rfl).symm.trans (step_call hc hother hnext)

/-- In a drained backend every delivery has been answered. -/
theorem responded_of_drained {d : ℕ} {delivery : Delivery AnyTask} (hd : Drained m s)
    (hdelivery : s.tasks.deliveries[d]? = some delivery) :
    ∃ attempt status, delivery.pc = .responded attempt status := by
  rcases exists_deliveryStep m s.tasks.rows delivery with hresponded | ⟨choice, hsome⟩
  · exact hresponded
  · obtain ⟨next, hnext⟩ := Option.isSome_iff_exists.1 hsome
    cases (hd (.delivery d choice) rfl).symm.trans (step_delivery hdelivery hnext)

/-- In a drained backend no handler runs. -/
theorem handlers_of_drained (hi : Inv m n rows₀ s) (hd : Drained m s) (k : QueueName) :
    (s.lanes k).handlers = [] := by
  cases hhandlers : (s.lanes k).handlers with
  | nil => rfl
  | cons handler handlers =>
    have hworks : (s.lanes k).handlers[0]? = some handler := by
      rw [hhandlers]
      rfl
    cases hdelivery : handler.delivery with
    | none =>
      have hpost := hd (.post k 0) rfl
      simp only [step, hworks, Option.bind_some, hdelivery, if_pos] at hpost
      cases hpost
    | some d =>
      obtain ⟨delivery, hget, -⟩ :=
        hi.posted k handler (List.mem_of_getElem? hworks) d hdelivery
      obtain ⟨attempt, status, hpc⟩ := responded_of_drained hd hget
      have hresponse : s.response handler = some status := by
        unfold State.response
        rw [hdelivery, Option.bind_some, hget, Option.bind_some, hpc]
      have hlength : 0 < (s.lanes k).queue.workers.length := by
        rw [← (hi.lanes k).workers, hhandlers]
        exact Nat.succ_pos _
      have hanswer := hd (.answer k 0) rfl
      simp only [step, hworks, Option.bind_some, hresponse, Lane.finish, LocalTaskQueue.system,
        LocalTaskQueue.step, if_pos hlength, Option.map_some] at hanswer
      cases hanswer

/-- In a drained backend no dispatcher holds a task: it has the permits to
start it. -/
theorem inHand_of_drained (hi : Inv m n rows₀ s) (hd : Drained m s) (k : QueueName) :
    (s.lanes k).queue.dispatcher.inHand = [] := by
  cases hdispatcher : (s.lanes k).queue.dispatcher with
  | receiving | ended => rfl
  | acquiring run =>
    have hworkers : (s.lanes k).queue.workers = [] := by
      rw [← (hi.lanes k).workers, handlers_of_drained hi hd k]
      rfl
    have hpermits := (hi.lanes k).inv.permits
    rw [hworkers, List.length_nil, Nat.add_zero] at hpermits
    obtain ⟨permits, hfree⟩ := Nat.exists_eq_add_one.2 (show 0 < (s.lanes k).queue.permits by omega)
    have hdispatch := hd (.dispatch k) rfl
    simp only [step, Lane.dispatch, hdispatcher, System.run, LocalTaskQueue.system,
      LocalTaskQueue.step, (hi.lanes k).idle, LocalTaskQueue.State.ready, hfree, Bool.not_false,
      Bool.true_and, Nat.zero_lt_succ, decide_true, if_true, Option.bind_some,
      Option.map_some] at hdispatch
    cases hdispatch

/-- In a drained backend no task waits in a channel. -/
theorem channel_of_drained (hi : Inv m n rows₀ s) (hd : Drained m s) (k : QueueName) :
    (s.lanes k).queue.channel = [] := by
  cases hchannel : (s.lanes k).queue.channel with
  | nil => rfl
  | cons run channel =>
    cases hdispatcher : (s.lanes k).queue.dispatcher with
    | ended => exact absurd hdispatcher (hi.lanes k).runs
    | acquiring held =>
      have hhand := inHand_of_drained hi hd k
      rw [hdispatcher] at hhand
      cases hhand
    | receiving =>
      have hreceive := hd (.receive k) rfl
      simp only [step, Lane.receive, System.run, LocalTaskQueue.system, LocalTaskQueue.step,
        (hi.lanes k).idle, LocalTaskQueue.State.ready, hdispatcher, hchannel, List.isEmpty_cons,
        Bool.not_false, Bool.true_or, Bool.true_and, if_true, Option.bind_some,
        Option.map_some] at hreceive
      cases hreceive

/-- **Where nothing is left to do, no delivery is to come.** -/
theorem pendingRunIds_of_drained (hi : Inv m n rows₀ s) (hd : Drained m s) :
    s.pendingRunIds = [] := by
  have hcalls : s.tasks.calls.filterMap (fun call => submitting call.pc) = [] := by
    refine List.filterMap_eq_nil_iff.2 fun call hcall => ?_
    obtain ⟨c, hc⟩ := List.mem_iff_getElem?.1 hcall
    obtain ⟨outcome, hpc⟩ := returned_of_drained hi hd hc
    rw [hpc]
    rfl
  have hruns : ∀ k, (s.lanes k).runs = [] := by
    intro k
    unfold Lane.runs
    rw [channel_of_drained hi hd k, inHand_of_drained hi hd k, ← (hi.lanes k).workers,
      handlers_of_drained hi hd k]
    rfl
  unfold State.pendingRunIds
  rw [hcalls]
  simp only [hruns, queues, List.flatMap_cons, List.flatMap_nil, List.map_nil, List.append_nil]

/-! ## A task with no run in flight -/

/-- The steps of a submission that nothing comes between. -/
def submission (c : ℕ) (task : AnyTask) (runId : String) (now : Timestamp) : List Event :=
  [.submit task none, .call c .read, .call c (.latest runId), .call c (.insert now taskRunKey),
    .call c (.publish none), .enqueue c]

/-- What a step of a call leaves as it was. -/
theorem exists_step_call (hc : s.tasks.calls[c]? = some call) (hother : ofEnqueue choice = false)
    (hstep : m.submitStep s.tasks.rows c call choice = some (pc, fx)) :
    ∃ s', (system m).step s (.call c choice) = some s' ∧
      s'.tasks.calls[c]? = some { call with pc := pc } ∧
      s'.tasks.rows = fx.foldl Effect.apply s.tasks.rows ∧ s'.lanes = s.lanes :=
  ⟨_, step_call hc hother hstep, getElem?_set_of_some hc, rfl, rfl⟩

/-- A task without a run in flight can be given a next run. -/
theorem exists_decideNextRun {L : String}
    (hidle : ∀ row ∈ rows, row.logicalId = L → row.inFlight = false) :
    ∃ number, decideNextRun (queryRunStatus rows L none none) = some number := by
  refine Option.ne_none_iff_exists'.1 fun hnone => ?_
  obtain ⟨latest, hlatest, hfl⟩ := decideNextRun_eq_none hnone
  obtain ⟨hmem, hL, -⟩ := queryRunStatus_eq_some hlatest
  rw [hidle latest hmem hL] at hfl
  cases hfl

/-- The number above the highest is free, and so is a new run id. -/
theorem violatedKeys_of_decided {run : TaskRun AnyTask} {now : Timestamp}
    (hdecided : decideNextRun (queryRunStatus rows run.logicalId none none) = some run.runNumber)
    (hbackfill : run.backfillId = none) (hfresh : ∀ row ∈ rows, row.runId ≠ run.runId) :
    violatedKeys rows (queuedRow run now) = [] := by
  refine violatedKeys_eq_nil.2 fun row hr => ⟨?_, ?_, hfresh row hr⟩
  · rintro ⟨hL, hn⟩
    have htop := decideNextRun_eq_some hdecided
    have hle := runNumber_le_topRun hr hL
    change row.runNumber = run.runNumber at hn
    change row.runNumber ≤ topRun rows run.logicalId at hle
    omega
  · rintro ⟨-, -, hsome⟩
    change run.backfillId.isSome = true at hsome
    rw [hbackfill] at hsome
    cases hsome

/-- **A task with no run in flight is submitted.** -/
theorem submission_enqueues (hlanes : ∀ k, (s.lanes k).Ok n) {task : AnyTask} {runId : String}
    {now : Timestamp} (htask : task.Submittable)
    (hidle : ∀ row ∈ s.tasks.rows, row.logicalId = TaskRun.makeLogicalId task →
      row.inFlight = false)
    (hfresh : ∀ row ∈ s.tasks.rows, row.runId ≠ runId) :
    ∃ s' call number,
      (system m).run s (submission s.tasks.calls.length task runId now) = some s' ∧
      s'.tasks.calls[s.tasks.calls.length]? = some call ∧
      call.pc = .returned (.ok (.enqueued runId number)) := by
  obtain ⟨number, hnumber⟩ := exists_decideNextRun hidle
  let c := s.tasks.calls.length
  let call : Call AnyTask := ⟨task, none, .dedup⟩
  let run : TaskRun AnyTask := call.newRun number runId
  have hkeys : violatedKeys s.tasks.rows (queuedRow run now) = [] :=
    violatedKeys_of_decided hnumber rfl hfresh
  -- the call starts
  obtain ⟨s₁, hs₁, hc₁, hrows₁, hlanes₁⟩ : ∃ s₁,
      (system m).step s (.submit task none) = some s₁ ∧
      s₁.tasks.calls[s.tasks.calls.length]? = some call ∧ s₁.tasks.rows = s.tasks.rows ∧
      s₁.lanes = s.lanes := by
    refine ⟨s.withTasks ({ s.tasks with calls := s.tasks.calls ++ [call] }.perform
      [.invoke s.tasks.calls.length call.logicalId none]), ?_, ?_, rfl, rfl⟩
    · change step m s (.submit task none) = _
      simp only [step, if_pos htask, TaskMaster.step, Option.map_some]
      rfl
    · exact List.getElem?_concat_length
  -- and runs its statements up to the enqueue
  have hread : m.submitStep s₁.tasks.rows c call .read = some (.latest, []) := rfl
  obtain ⟨s₂, hs₂, hc₂, hrows₂, hlanes₂⟩ := exists_step_call hc₁ rfl hread
  have hlatest : m.submitStep s₂.tasks.rows c { call with pc := .latest } (.latest runId) =
      some (.insert run, []) := by
    have hdecided : decideNextRun (queryRunStatus s₂.tasks.rows
        (Call.logicalId { call with pc := .latest }) none none) = some number := by
      rw [hrows₂, List.foldl_nil, hrows₁]
      exact hnumber
    simp only [TaskMaster.submitStep, hdecided]
    rfl
  obtain ⟨s₃, hs₃, hc₃, hrows₃, hlanes₃⟩ := exists_step_call hc₂ rfl hlatest
  have hinsert : m.submitStep s₃.tasks.rows c { call with pc := .insert run }
      (.insert now taskRunKey) =
        some (.publishQueued run (queuedRow run now), [.insert c (queuedRow run now)]) := by
    rw [hrows₃, List.foldl_nil, hrows₂, List.foldl_nil, hrows₁]
    simp only [TaskMaster.submitStep, insertRun, hkeys, if_true]
  obtain ⟨s₄, hs₄, hc₄, -, hlanes₄⟩ := exists_step_call hc₃ rfl hinsert
  have hpublish : m.submitStep s₄.tasks.rows c
      { call with pc := .publishQueued run (queuedRow run now) } (.publish none) =
        some (.enqueue run, TaskMaster.publishEffects m (queuedRow run now) none ++ [.hand c run]) :=
    rfl
  obtain ⟨s₅, hs₅, hc₅, -, hlanes₅⟩ := exists_step_call hc₄ rfl hpublish
  have hok : (s₅.lanes (queueOf run.task)).Ok n := by
    rw [hlanes₅, hlanes₄, hlanes₃, hlanes₂, hlanes₁]
    exact hlanes _
  obtain ⟨s', hs', hc'⟩ := step_enqueue (m := m) hok hc₅ rfl
  refine ⟨s', _, number, ?_, hc', rfl⟩
  unfold submission
  have hs₆ : (system m).step s₅ (.enqueue s.tasks.calls.length) = some s' := hs'
  simp only [System.run_cons, hs₁, hs₂, hs₃, hs₄, hs₅, hs₆, Option.bind_some]
  rfl

/-! ## An attempt that ended -/

/-- The outcome of a run has been written. -/
def Ended (row : TaskRunModel) (s : State) : Prop :=
  row ∈ s.tasks.rows ∧ ∃ place ∈ places s, place.1.runId = row.runId ∧ 4 ≤ place.2.rank

/-- A row with an outcome has ended: its webhook is past the statement that
writes it. -/
theorem ended_of_isOutcome (hi : BackendInv m n rows₀ s) (hr : row ∈ s.tasks.rows)
    (hnew : row.runId ∉ rows₀.map TaskRunModel.runId) {st : TaskRunStatus}
    (hstatus : row.HasStatus st) (hout : st.isOutcome = true) : Ended row s := by
  obtain ⟨place, hplace, hid⟩ := hi.places.placed row hr hnew
  obtain ⟨row', hr', hid', hfits⟩ := hi.places.fits place hplace
  rw [hi.table.unique.eq_of_runId hr' hr (hid'.trans hid)] at hfits
  refine ⟨hr, place, hplace, hid, ?_⟩
  have hother : ∀ st' : TaskRunStatus, row.HasStatus st' → st'.isOutcome = true := by
    intro st' hst'
    rw [TaskRunStatus.asI32_injective (hst'.symm.trans hstatus)]
    exact hout
  cases hpc : place.2 with
  | beginRead | beginWrite | publishBegin | running =>
    rw [hpc] at hfits
    cases hother _ hfits.1
  | publishFinish | responded =>
    simp only [DeliveryPc.rank]
    omega

/-- What is left of a delivery then writes nothing. -/
theorem rows_of_ended {delivery : Delivery AnyTask} {dpc : DeliveryPc}
    (hm : TaskMaster.DeliveryMove m rows delivery choice dpc fx)
    (hrank : 4 ≤ delivery.pc.rank) : fx.foldl Effect.apply rows = rows := by
  cases hm with
  | rejected | attempt | ignored => rfl
  | began hpc | beganMissing hpc | finished hpc | finishedMissing hpc =>
    rw [hpc] at hrank
    simp only [DeliveryPc.rank] at hrank
    omega
  | publishedBegin | publishedFinish => exact TaskMaster.foldl_publishEffects

/-- An ended row stays ended over one step of the backend. -/
theorem Ended.shift (hi : BackendInv m n rows₀ s) (h : Ended row s) (hshift : Shift m s s') :
    Ended row s' := by
  obtain ⟨hr, place, hplace, hid, hrank⟩ := h
  cases hshift with
  | kept hrows hperm => exact ⟨hrows ▸ hr, place, hperm.mem_iff.2 hplace, hid, hrank⟩
  | inserted _ _ hrows hperm =>
    refine ⟨?_, place, hperm.mem_iff.2 (List.mem_cons_of_mem _ hplace), hid, hrank⟩
    rw [hrows]
    exact List.mem_append_left _ hr
  | @stepped run dpc dpc' choice fx rest hbefore hafter hm hrows =>
    rcases List.mem_cons.1 (hbefore.mem_iff.1 hplace) with rfl | hplace
    · have hlt := TaskMaster.rank_lt_of_deliveryMove hm
      refine ⟨?_, _, hafter.mem_iff.2 List.mem_cons_self, hid, hrank.trans hlt.le⟩
      rw [hrows, rows_of_ended hm hrank]
      exact hr
    · have honce := (hbefore.map fun place => place.1.runId).nodup_iff.1 hi.places.once
      rw [List.map_cons, List.nodup_cons] at honce
      refine ⟨?_, place, hafter.mem_iff.2 (List.mem_cons_of_mem _ hplace), hid, hrank⟩
      rw [hrows]
      refine mem_of_deliveryMove hr (fun heq => honce.1 ?_) hm
      exact List.mem_map.2 ⟨place, hplace, hid.trans heq⟩

/-- **Outcomes last.** An ended row is the same at the end of every run. -/
theorem Ended.run (hi : BackendInv m n rows₀ s) (hkeys : UniqueKeys rows₀) (h : Ended row s)
    (hrun : (system m).run s es = some s') : Ended row s' := by
  refine (System.run_inv (I := fun t => BackendInv m n rows₀ t ∧ Ended row t) ?_ ⟨hi, h⟩ hrun).2
  rintro t e t' ⟨hi, h⟩ hs
  exact ⟨hi.step hkeys hs, h.shift hi (shift_of_move hi.inv hi.table (move_of_step hs))⟩

/-- The invariant holds in every state of the backend. -/
theorem backendInv_of_run (hkeys : UniqueKeys rows₀) (hstart : makeTaskMaster n rows₀ = some s₀)
    (hrun : (system m).run s₀ es = some s) : BackendInv m n rows₀ s := by
  refine System.run_inv (fun _ _ _ hi => hi.step hkeys) ?_ hrun
  have hinv : Inv m n rows₀ s₀ := inv_start hstart
  rw [start_eq hstart] at hinv ⊢
  refine ⟨hinv, TaskMaster.tableInv_start hkeys, ⟨List.nodup_nil, ?_, ?_, ?_⟩, ?_⟩
  · exact fun place hplace => by cases hplace
  · exact fun place hplace => by cases hplace
  · exact fun row hr hnew => absurd (List.mem_map.2 ⟨row, hr, rfl⟩) hnew
  · exact fun d delivery hd => by cases hd

/-- **What becomes of the runs of a process**, those it found in the table
apart. -/
structure NoneStranded (m : TaskMaster) (rows₀ : List TaskRunModel) (s : State) : Prop where
  /-- A run in flight has a delivery to come, unless its POST failed or its
  attempt left it to be retried. -/
  pending : ∀ row ∈ s.tasks.rows, row.runId ∉ rows₀.map TaskRunModel.runId →
    row.inFlight = true → row.runId ∈ s.pendingRunIds ∨
      (∃ handler ∈ s.unanswered, handler.run.runId = row.runId) ∨ row.HasStatus .errorWillRetry
  /-- With a budget of one attempt none is left to be retried. -/
  one_attempt : m.maxAttemptsPerRun ≤ 1 → ∀ row ∈ s.tasks.rows,
    row.runId ∉ rows₀.map TaskRunModel.runId → ¬ row.HasStatus .errorWillRetry
  /-- The outcome of an attempt stays, `ErrorWillRetry` as well. -/
  final : ∀ row ∈ s.tasks.rows, row.runId ∉ rows₀.map TaskRunModel.runId →
    ∀ st : TaskRunStatus, st.isOutcome = true → row.HasStatus st →
      ∀ es s', (system m).run s es = some s' → row ∈ s'.tasks.rows
  /-- With no submission the backend comes to an end, -/
  ends : ∀ es s', (system m).run s es = some s' → (∀ e ∈ es, e.submits = false) →
    es.length ≤ s.work
  /-- and there no delivery is left to come. -/
  drained : Drained m s → s.pendingRunIds = []
  /-- A task with no run in flight can be submitted again. -/
  resubmits : ∀ (task : AnyTask) (runId : String) (now : Timestamp), task.Submittable →
    (∀ row ∈ s.tasks.rows, row.logicalId = TaskRun.makeLogicalId task → row.inFlight = false) →
    (∀ row ∈ s.tasks.rows, row.runId ≠ runId) →
    ∃ s' call number, (system m).run s (submission s.tasks.calls.length task runId now) = some s' ∧
      s'.tasks.calls[s.tasks.calls.length]? = some call ∧
      call.pc = .returned (.ok (.enqueued runId number))

/-- **The runs of the local backend**, over every interleaving of
submissions, dispatchers, handlers and webhooks. -/
theorem none_stranded (m : TaskMaster) (maxConcurrentTasks : ℕ) (rows₀ : List TaskRunModel)
    (s₀ s : State) (es : List Event) (hkeys : UniqueKeys rows₀)
    (hstart : makeTaskMaster maxConcurrentTasks rows₀ = some s₀)
    (hrun : (system m).run s₀ es = some s) : NoneStranded m rows₀ s := by
  have hi := backendInv_of_run hkeys hstart hrun
  exact {
    pending := fun row hr hnew hfl => pending_of_inFlight hi hr hnew hfl
    one_attempt := fun hbudget row hr hnew => not_errorWillRetry hi hbudget hr hnew
    final := fun row hr hnew st hout hstatus es s' hrun' =>
      ((ended_of_isOutcome hi hr hnew hstatus hout).run hi hkeys hrun').1
    ends := fun es s' hrun' hother =>
      (Nat.le_add_right _ _).trans (length_le_work hi.inv hother hrun')
    drained := pendingRunIds_of_drained hi.inv
    resubmits := fun task runId now htask hidle hfresh =>
      submission_enqueues hi.inv.lanes htask hidle hfresh }

/-- A run that fails with a retryable error, with the budget a builder has
by default. -/
def retrySchedule : List Event :=
  submission 0 (.searchIndex ⟨7, 1⟩) "run-1" 0 ++
    [.receive .searchIndex, .dispatch .searchIndex, .post .searchIndex 0,
      .delivery 0 .read, .delivery 0 (.write 10), .delivery 0 (.publish none),
      .delivery 0 (.finish (.error (ApiError.internal "timeout")) 20), .delivery 0 (.publish none),
      .answer .searchIndex 0]

/-- The state a task master starts in, on an empty table. -/
def started : State := (makeTaskMaster 4 []).get (by decide)

/-- The state that schedule ends in. -/
def stranded : State := ((system (TaskMaster.build none true)).run started retrySchedule).get (by decide)

/-- **A retry nobody schedules**: nothing is left to do, and the run is in
flight. -/
theorem none_stranded_retry :
    stranded.pendingRunIds = [] ∧ stranded.unanswered = [] ∧
    (∃ row ∈ stranded.tasks.rows, row.inFlight = true ∧ row.HasStatus .errorWillRetry) ∧
    NoneStranded (TaskMaster.build none true) [] stranded :=
  ⟨by decide, by decide, by decide, none_stranded _ 4 [] started stranded retrySchedule
    uniqueKeys_nil (Option.some_get _).symm (Option.some_get _).symm⟩

/-- The machine's own run to the row of that schedule. -/
theorem backend_refines_retry : (TaskMaster.system AnyTask (TaskMaster.build none true)).Reachable
    (TaskState.start [] []) stranded.tasks :=
  backend_refines (Option.some_get _).symm (Option.some_get (α := State) _).symm

end LocalBackend

end Dreamscroll
