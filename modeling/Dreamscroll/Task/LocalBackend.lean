import Dreamscroll.Task.LocalQueue
import Dreamscroll.Webhook.Retry
import Mathlib.Data.List.InsertIdx
/-!
# The local task backend

`make_task_master` with the local backend: a `TaskMaster` over three
`LocalTaskQueue`s, whose handler posts the run it is given to the run's
webhook and returns what comes back. The calls and the webhooks are the
processes of the task machine; here its hand-overs go through the three
channels, and every delivery is the POST of one handler, so that a run of
the backend is a run of the task machine (`backend_refines`).
-/

namespace Dreamscroll

namespace LocalBackend

/-- The queues of a `TaskMaster`, one for each type of task. -/
inductive QueueName
  | illuminate
  | searchIndex
  | spark
  deriving DecidableEq, Repr

/-- Each type of task has its queue. -/
def queueOf : AnyTask → QueueName
  | .illuminate _ => .illuminate
  | .searchIndex _ => .searchIndex
  | .spark _ => .spark

/-- A handler in `LocalWebhookClient::post_task`. -/
structure Handler where
  run : TaskRun AnyTask
  /-- The delivery its POST became, once the webhook has it. -/
  delivery : Option ℕ

/-- A queue, and the handlers of its workers in their order. -/
structure Lane where
  queue : LocalTaskQueue.State (TaskRun AnyTask)
  handlers : List Handler

/-- The run of a handler whose POST has not reached the webhook. -/
def Handler.waits (handler : Handler) : Option (TaskRun AnyTask) :=
  match handler.delivery with
  | none => some handler.run
  | some _ => none

/-- The runs of a queue that are still to reach their webhook: in the
channel, in the dispatcher's hand, or with a handler. -/
def Lane.waiting (lane : Lane) : List (TaskRun AnyTask) :=
  lane.queue.channel ++ lane.queue.dispatcher.inHand ++ lane.handlers.filterMap Handler.waits

/-- The tasks, their queues, and the workers whose request failed. -/
structure State where
  tasks : TaskState AnyTask
  lanes : QueueName → Lane
  /-- The handlers whose POST failed: no response came. -/
  unanswered : List Handler

/-- **`make_task_master`** over the table as it is, with so many workers to
a queue. -/
def makeTaskMaster (maxConcurrentTasks : ℕ) (rows : List TaskRunModel) : Option State :=
  (LocalTaskQueue.connect maxConcurrentTasks).map fun queue =>
    ⟨TaskState.start rows [], fun _ => ⟨queue, []⟩, []⟩

/-- What happens in the process, in any order. -/
inductive Event
  /-- A `submit_inner` call starts. -/
  | submit (task : AnyTask) (backfillId : Option String)
  /-- A call runs its next statement. -/
  | call (c : ℕ) (choice : Choice)
  /-- `LocalTaskQueue::enqueue`, for the call that stands there. -/
  | enqueue (c : ℕ)
  | receive (k : QueueName)
  | dispatch (k : QueueName)
  /-- The POST of a handler reaches its webhook. -/
  | post (k : QueueName) (worker : ℕ)
  /-- A webhook runs its next statement. -/
  | delivery (d : ℕ) (choice : Choice)
  /-- The response reaches its handler, which returns. -/
  | answer (k : QueueName) (worker : ℕ)
  /-- The POST fails, and its handler returns. -/
  | fail (k : QueueName) (worker : ℕ)

/-- The event starts a submission. -/
def Event.submits : Event → Bool
  | .submit .. => true
  | _ => false

/-- The choice is the answer of a queue. -/
def ofEnqueue : Choice → Bool
  | .enqueued | .enqueueFailed _ => true
  | _ => false

/-! ## The steps -/

namespace Lane

/- A poll of the dispatcher is one step of it: where it ends matters to an
abort only, and nobody drops the queue of a task master at work. -/

/-- The dispatcher takes the next run off the channel. -/
def receive (lane : Lane) : Option Lane :=
  ((LocalTaskQueue.system _).run lane.queue [.poll, .receive, .park]).map fun queue =>
    { lane with queue := queue }

/-- It has a permit, and spawns a worker for the run. -/
def dispatch (lane : Lane) : Option Lane :=
  match lane.queue.dispatcher with
  | .acquiring run =>
    ((LocalTaskQueue.system _).run lane.queue [.poll, .dispatch, .park]).map fun queue =>
      ⟨queue, lane.handlers ++ [⟨run, none⟩]⟩
  | _ => none

/-- A worker ends. -/
def finish (lane : Lane) (worker : ℕ) (outcome : LocalTaskQueue.Outcome) : Option Lane :=
  ((LocalTaskQueue.system _).step lane.queue (.finish worker outcome)).map fun queue =>
    ⟨queue, lane.handlers.eraseIdx worker⟩

end Lane

namespace State

/-- The task machine went on. -/
def withTasks (s : State) (tasks : TaskState AnyTask) : State := { s with tasks := tasks }

/-- And a queue. -/
def setLane (s : State) (k : QueueName) (lane : Lane) : State :=
  { s with lanes := Function.update s.lanes k lane }

/-- The response a handler has, if the webhook has made one. -/
def response (s : State) (handler : Handler) : Option ℕ :=
  handler.delivery.bind fun d => (s.tasks.deliveries[d]?).bind fun delivery =>
    match delivery.pc with
    | .responded _ status => some status
    | _ => none

end State

/-- **`LocalTaskQueue::enqueue`**, and what `submit_inner` makes of it. -/
def enqueue (m : TaskMaster) (s : State) (c : ℕ) (run : TaskRun AnyTask) : Option State :=
  let k := queueOf run.task
  let lane := s.lanes k
  ((LocalTaskQueue.system _).step lane.queue (.enqueue 0 run)).bind fun queue =>
    match lane.queue.dispatcher with
    | .ended =>
      let error := "Cannot enqueue into LocalTaskQueue after shutdown"
      (m.step s.tasks (.call c (.enqueueFailed error))).map s.withTasks
    | _ =>
      (m.step s.tasks (.call c .enqueued)).map fun tasks =>
        (s.setLane k { lane with queue := queue }).withTasks
          { tasks with accepted := tasks.accepted ++ [run] }

/-- `post_task` sends its run: the webhook starts on it. -/
def post (s : State) (k : QueueName) (worker : ℕ) (run : TaskRun AnyTask) : State :=
  let handlers := (s.lanes k).handlers.set worker ⟨run, some s.tasks.deliveries.length⟩
  (s.setLane k { s.lanes k with handlers := handlers }).withTasks
    { s.tasks with deliveries := s.tasks.deliveries ++ [⟨run, .beginRead⟩] }

/-- **The backend**: any call, dispatcher, handler or webhook may take its
next step. -/
def step (m : TaskMaster) (s : State) : Event → Option State
  | .submit task backfillId =>
    if task.Submittable then (m.step s.tasks (.submit task backfillId)).map s.withTasks else none
  | .call c choice =>
    if ofEnqueue choice then none else (m.step s.tasks (.call c choice)).map s.withTasks
  | .enqueue c =>
    (s.tasks.calls[c]?).bind fun call =>
      match call.pc with
      | .enqueue run => enqueue m s c run
      | _ => none
  | .receive k => (s.lanes k).receive.map (s.setLane k)
  | .dispatch k => (s.lanes k).dispatch.map (s.setLane k)
  | .post k worker =>
    ((s.lanes k).handlers[worker]?).bind fun handler =>
      if handler.delivery = none then some (post s k worker handler.run) else none
  | .delivery d choice => (m.step s.tasks (.delivery d choice)).map s.withTasks
  | .answer k worker =>
    ((s.lanes k).handlers[worker]?).bind fun handler => (s.response handler).bind fun status =>
      let outcome := if isSuccess status then .ok else .failed
      ((s.lanes k).finish worker outcome).map (s.setLane k)
  | .fail k worker =>
    ((s.lanes k).handlers[worker]?).bind fun handler =>
      ((s.lanes k).finish worker .failed).map fun lane =>
        { s.setLane k lane with unanswered := s.unanswered ++ [handler] }

/-- The backend as a transition system. -/
def system (m : TaskMaster) : System State Event := ⟨step m⟩

/-! ## What a step does -/

variable {m : TaskMaster} {s s' : State} {e : Event} {n : ℕ} {lane lane' : Lane}

/-- **The steps of the backend**, each with what enables it. -/
inductive Move (m : TaskMaster) (s : State) : Event → State → Prop
  | submit {task : AnyTask} {backfillId : Option String} {tasks : TaskState AnyTask}
      (submittable : task.Submittable)
      (moves : (TaskMaster.system AnyTask m).step s.tasks (.submit task backfillId) = some tasks) :
      Move m s (.submit task backfillId) (s.withTasks tasks)
  | call {c : ℕ} {choice : Choice} {tasks : TaskState AnyTask} (other : ofEnqueue choice = false)
      (moves : (TaskMaster.system AnyTask m).step s.tasks (.call c choice) = some tasks) :
      Move m s (.call c choice) (s.withTasks tasks)
  | refused {c : ℕ} {run : TaskRun AnyTask} {error : String} {tasks : TaskState AnyTask}
      (ended : (s.lanes (queueOf run.task)).queue.dispatcher = .ended)
      (moves : (TaskMaster.system AnyTask m).step s.tasks (.call c (.enqueueFailed error)) =
        some tasks) :
      Move m s (.enqueue c) (s.withTasks tasks)
  | enqueued {c : ℕ} {call : Call AnyTask} {run : TaskRun AnyTask} {tasks : TaskState AnyTask}
      {queue : LocalTaskQueue.State (TaskRun AnyTask)}
      (stands : s.tasks.calls[c]? = some call) (at_enqueue : call.pc = .enqueue run)
      (sent : (LocalTaskQueue.system _).step (s.lanes (queueOf run.task)).queue (.enqueue 0 run) =
        some queue)
      (moves : (TaskMaster.system AnyTask m).step s.tasks (.call c .enqueued) = some tasks) :
      Move m s (.enqueue c) ((s.setLane (queueOf run.task)
        { s.lanes (queueOf run.task) with queue := queue }).withTasks
          { tasks with accepted := tasks.accepted ++ [run] })
  | receive {k : QueueName} {lane : Lane} (received : (s.lanes k).receive = some lane) :
      Move m s (.receive k) (s.setLane k lane)
  | dispatch {k : QueueName} {lane : Lane} (dispatched : (s.lanes k).dispatch = some lane) :
      Move m s (.dispatch k) (s.setLane k lane)
  | post {k : QueueName} {worker : ℕ} {run : TaskRun AnyTask}
      (works : (s.lanes k).handlers[worker]? = some ⟨run, none⟩) :
      Move m s (.post k worker) (post s k worker run)
  | delivery {d : ℕ} {choice : Choice} {tasks : TaskState AnyTask}
      (moves : (TaskMaster.system AnyTask m).step s.tasks (.delivery d choice) = some tasks) :
      Move m s (.delivery d choice) (s.withTasks tasks)
  | answer {k : QueueName} {worker status : ℕ} {handler : Handler} {lane : Lane}
      {outcome : LocalTaskQueue.Outcome} (works : (s.lanes k).handlers[worker]? = some handler)
      (responded : s.response handler = some status)
      (finished : (s.lanes k).finish worker outcome = some lane) :
      Move m s (.answer k worker) (s.setLane k lane)
  | fail {k : QueueName} {worker : ℕ} {handler : Handler} {lane : Lane}
      (works : (s.lanes k).handlers[worker]? = some handler)
      (finished : (s.lanes k).finish worker .failed = some lane) :
      Move m s (.fail k worker) { s.setLane k lane with unanswered := s.unanswered ++ [handler] }

/-- **The inversion of the backend.** -/
theorem move_of_step (h : (system m).step s e = some s') : Move m s e s' := by
  change step m s e = some s' at h
  unfold step at h
  cases e with
  | submit task backfillId =>
    obtain ⟨hsubmittable, h⟩ := Option.ite_none_right_eq_some.1 h
    obtain ⟨tasks, hstep, rfl⟩ := Option.map_eq_some_iff.1 h
    exact .submit hsubmittable hstep
  | call c choice =>
    obtain ⟨hother, h⟩ := Option.ite_none_left_eq_some.1 h
    obtain ⟨tasks, hstep, rfl⟩ := Option.map_eq_some_iff.1 h
    exact .call (Bool.eq_false_iff.2 hother) hstep
  | enqueue c =>
    obtain ⟨call, hc, h⟩ := Option.bind_eq_some_iff.1 h
    split at h
    · rename_i run hpc
      obtain ⟨queue, hqueue, h⟩ := Option.bind_eq_some_iff.1 h
      split at h
      · rename_i hended
        obtain ⟨tasks, hstep, rfl⟩ := Option.map_eq_some_iff.1 h
        exact .refused hended hstep
      · obtain ⟨tasks, hstep, rfl⟩ := Option.map_eq_some_iff.1 h
        exact .enqueued hc hpc hqueue hstep
    · cases h
  | receive k =>
    obtain ⟨lane, hlane, rfl⟩ := Option.map_eq_some_iff.1 h
    exact .receive hlane
  | dispatch k =>
    obtain ⟨lane, hlane, rfl⟩ := Option.map_eq_some_iff.1 h
    exact .dispatch hlane
  | post k worker =>
    obtain ⟨⟨run, delivery⟩, hworks, h⟩ := Option.bind_eq_some_iff.1 h
    obtain ⟨hnone, h⟩ := Option.ite_none_right_eq_some.1 h
    cases h
    change delivery = none at hnone
    subst hnone
    exact .post hworks
  | delivery d choice =>
    obtain ⟨tasks, hstep, rfl⟩ := Option.map_eq_some_iff.1 h
    exact .delivery hstep
  | answer k worker =>
    obtain ⟨handler, hworks, h⟩ := Option.bind_eq_some_iff.1 h
    obtain ⟨status, hstatus, h⟩ := Option.bind_eq_some_iff.1 h
    obtain ⟨lane, hlane, rfl⟩ := Option.map_eq_some_iff.1 h
    exact .answer hworks hstatus hlane
  | fail k worker =>
    obtain ⟨handler, hworks, h⟩ := Option.bind_eq_some_iff.1 h
    obtain ⟨lane, hlane, rfl⟩ := Option.map_eq_some_iff.1 h
    exact .fail hworks hlane

/-! ## The lanes -/

/-- **What holds of a queue whose task master is at work**: its one handle
is held, so that nobody aborts the dispatcher. -/
structure Lane.Ok (n : ℕ) (lane : Lane) : Prop where
  inv : LocalTaskQueue.Inv n lane.queue
  handles : lane.queue.handles = [.held]
  idle : lane.queue.polled = false
  workers : lane.handlers.map Handler.run = lane.queue.workers

namespace Lane

variable {run : TaskRun AnyTask} {worker : ℕ} {handler : Handler}
variable {outcome : LocalTaskQueue.Outcome} {queue queue' : LocalTaskQueue.State (TaskRun AnyTask)}

/-- The task master holds a handle of the queue for as long as the process
lives. -/
theorem Ok.held (hok : lane.Ok n) : LocalTaskQueue.Handle.held ∈ lane.queue.handles := by
  rw [hok.handles]
  exact List.mem_singleton_self _

/-- While a handle is held the dispatcher does not end. -/
theorem Ok.runs (hok : lane.Ok n) : lane.queue.dispatcher ≠ .ended :=
  fun hended => hok.inv.quiet (Or.inr (Or.inl hended)) hok.held

/-- While a handle is held the dispatcher is attached. -/
theorem Ok.attached (hok : lane.Ok n) : lane.queue.dispatcherHandle = true := by
  by_contra hdown
  exact hok.inv.quiet (Or.inl (Bool.eq_false_iff.2 hdown)) hok.held

/-- An await does not end a dispatcher nobody aborted. -/
theorem park_eq (h : (LocalTaskQueue.system _).step queue .park = some queue')
    (hattached : queue.dispatcherHandle = true) : queue' = { queue with polled := false } := by
  cases LocalTaskQueue.step_cases h with
  | park =>
    unfold LocalTaskQueue.State.aborted
    rw [if_neg fun hdown => Bool.false_ne_true (hdown.1.symm.trans hattached)]

/-- **`recv`** takes the next run of the channel in hand. -/
theorem receive_eq_some (hok : lane.Ok n) (h : lane.receive = some lane') :
    ∃ run channel, lane.queue.dispatcher = .receiving ∧ lane.queue.channel = run :: channel ∧
      lane' = { lane with queue := { lane.queue with
        dispatcher := .acquiring run, channel := channel } } := by
  obtain ⟨queue, hrun, rfl⟩ := Option.map_eq_some_iff.1 h
  obtain ⟨polled, hpoll, hrun⟩ := System.run_cons_eq_some.1 hrun
  obtain ⟨received, hreceive, hrun⟩ := System.run_cons_eq_some.1 hrun
  rw [System.run_singleton] at hrun
  cases LocalTaskQueue.step_cases hpoll with
  | poll hidle =>
    cases LocalTaskQueue.step_cases hreceive with
    | @receive run channel _ hreceiving hwaits =>
      refine ⟨run, channel, hreceiving, hwaits, ?_⟩
      rw [park_eq hrun hok.attached, ← hok.idle]

/-- **A permit** starts a worker on the run in hand. -/
theorem dispatch_eq_some (hok : lane.Ok n) (h : lane.dispatch = some lane') :
    ∃ run permits, lane.queue.dispatcher = .acquiring run ∧ lane.queue.permits = permits + 1 ∧
      lane' = ⟨{ lane.queue with dispatcher := .receiving, permits := permits,
                                 workers := lane.queue.workers ++ [run],
                                 dispatched := lane.queue.dispatched ++ [run] },
        lane.handlers ++ [⟨run, none⟩]⟩ := by
  unfold dispatch at h
  split at h
  · rename_i run hacquiring
    obtain ⟨queue, hrun, rfl⟩ := Option.map_eq_some_iff.1 h
    obtain ⟨polled, hpoll, hrun⟩ := System.run_cons_eq_some.1 hrun
    obtain ⟨dispatched, hdispatch, hrun⟩ := System.run_cons_eq_some.1 hrun
    rw [System.run_singleton] at hrun
    cases LocalTaskQueue.step_cases hpoll with
    | poll hidle =>
      cases LocalTaskQueue.step_cases hdispatch with
      | @dispatch run' permits _ hacquiring' hfree =>
        cases hacquiring.symm.trans hacquiring'
        refine ⟨run, permits, hacquiring, hfree, ?_⟩
        rw [park_eq hrun hok.attached, ← hok.idle]
  · cases h

/-- **A handler that returns** leaves its permit. -/
theorem finish_eq_some (h : lane.finish worker outcome = some lane') :
    worker < lane.queue.workers.length ∧
      lane' = ⟨{ lane.queue with workers := lane.queue.workers.eraseIdx worker,
                                 permits := lane.queue.permits + 1,
                                 finished := lane.queue.finished ++
                                   lane.queue.workers[worker]?.toList },
        lane.handlers.eraseIdx worker⟩ := by
  obtain ⟨queue, hstep, rfl⟩ := Option.map_eq_some_iff.1 h
  cases LocalTaskQueue.step_cases hstep with
  | finish hworks => exact ⟨hworks, rfl⟩

/-- **What is enqueued** waits at the end of the channel. -/
theorem enqueue_eq (hok : lane.Ok n)
    (hsent : (LocalTaskQueue.system _).step lane.queue (.enqueue 0 run) = some queue) :
    queue = { lane.queue with channel := lane.queue.channel ++ [run],
                              enqueued := lane.queue.enqueued ++ [run] } := by
  cases LocalTaskQueue.step_cases hsent with
  | refuse _ hended => exact absurd hended hok.runs
  | enqueue => rfl

/-! What these keep of `Ok`. -/

/-- Receiving a task keeps a lane in order. -/
theorem Ok.receive (hok : lane.Ok n) (h : lane.receive = some lane') : lane'.Ok n := by
  obtain ⟨run, channel, -, -, heq⟩ := receive_eq_some hok h
  obtain ⟨queue, hrun, hlane⟩ := Option.map_eq_some_iff.1 h
  have hqueue : queue = lane'.queue := by rw [← hlane]
  refine ⟨hqueue ▸ System.run_inv (fun _ _ _ => LocalTaskQueue.Inv.step) hok.inv hrun, ?_, ?_, ?_⟩
  · rw [heq]
    exact hok.handles
  · rw [heq]
    exact hok.idle
  · rw [heq]
    exact hok.workers

/-- Dispatching a task keeps a lane in order: it has a handler of its own. -/
theorem Ok.dispatch (hok : lane.Ok n) (h : lane.dispatch = some lane') : lane'.Ok n := by
  obtain ⟨run, permits, hacquiring, -, heq⟩ := dispatch_eq_some hok h
  unfold Lane.dispatch at h
  rw [hacquiring] at h
  obtain ⟨queue, hrun, hlane⟩ := Option.map_eq_some_iff.1 h
  have hqueue : queue = lane'.queue := by rw [← hlane]
  refine ⟨hqueue ▸ System.run_inv (fun _ _ _ => LocalTaskQueue.Inv.step) hok.inv hrun, ?_, ?_, ?_⟩
  · rw [heq]
    exact hok.handles
  · rw [heq]
    exact hok.idle
  · rw [heq, ← hok.workers]
    exact List.map_append

/-- The end of a handler keeps a lane in order. -/
theorem Ok.finish (hok : lane.Ok n) (h : lane.finish worker outcome = some lane') : lane'.Ok n := by
  obtain ⟨-, heq⟩ := finish_eq_some h
  obtain ⟨queue, hstep, hlane⟩ := Option.map_eq_some_iff.1 h
  have hqueue : queue = lane'.queue := by rw [← hlane]
  refine ⟨hqueue ▸ hok.inv.step hstep, ?_, ?_, ?_⟩
  · rw [heq]
    exact hok.handles
  · rw [heq]
    exact hok.idle
  · rw [heq]
    dsimp only
    rw [← List.eraseIdx_map, hok.workers]

/-- An enqueue keeps a lane in order. -/
theorem Ok.enqueue (hok : lane.Ok n)
    (hsent : (LocalTaskQueue.system _).step lane.queue (.enqueue 0 run) = some queue) :
    Ok n { lane with queue := queue } := by
  have heq := enqueue_eq hok hsent
  refine ⟨hok.inv.step hsent, ?_, ?_, ?_⟩
  · rw [heq]
    exact hok.handles
  · rw [heq]
    exact hok.idle
  · rw [heq]
    exact hok.workers

/-- A POST that is sent changes no run. -/
theorem Ok.post (hok : lane.Ok n) (hworks : lane.handlers[worker]? = some handler)
    (d : Option ℕ) : Ok n { lane with handlers := lane.handlers.set worker ⟨handler.run, d⟩ } := by
  refine ⟨hok.inv, hok.handles, hok.idle, ?_⟩
  rw [← hok.workers, List.map_set]
  exact set_of_getElem? (by rw [List.getElem?_map, hworks, Option.map_some])

/-! Where the runs that wait are after a step. -/

/-- Receiving moves a task from the channel to the hand of the dispatcher: the
same tasks wait. -/
theorem waiting_receive (hok : lane.Ok n) (h : lane.receive = some lane') :
    lane'.waiting.Perm lane.waiting := by
  obtain ⟨run, channel, hreceiving, hwaits, rfl⟩ := receive_eq_some hok h
  unfold waiting
  rw [hreceiving, hwaits]
  refine List.Perm.append_right _ ?_
  simp only [LocalTaskQueue.Dispatcher.inHand, List.append_nil]
  exact List.perm_append_singleton run channel

/-- Dispatching moves a task from the hand of the dispatcher to a handler: the
same tasks wait. -/
theorem waiting_dispatch (hok : lane.Ok n) (h : lane.dispatch = some lane') :
    lane'.waiting.Perm lane.waiting := by
  obtain ⟨run, permits, hacquiring, -, rfl⟩ := dispatch_eq_some hok h
  unfold waiting
  rw [hacquiring, List.filterMap_append]
  simp only [LocalTaskQueue.Dispatcher.inHand, List.append_nil, List.append_assoc]
  exact List.Perm.append_left _ (List.perm_append_singleton run _)

/-- An enqueue adds one task to those that wait. -/
theorem waiting_enqueue (hok : lane.Ok n)
    (hsent : (LocalTaskQueue.system _).step lane.queue (.enqueue 0 run) = some queue) :
    (waiting { lane with queue := queue }).Perm (run :: lane.waiting) := by
  rw [enqueue_eq hok hsent]
  unfold waiting
  dsimp only
  rw [← List.cons_append, ← List.cons_append]
  exact ((List.perm_append_singleton run _).append_right _).append_right _

/-- A handler that moves changes what waits only by its own task. -/
theorem waiting_set (hworks : lane.handlers[worker]? = some handler) (handler' : Handler) :
    (handler.waits.toList ++
        waiting { lane with handlers := lane.handlers.set worker handler' }).Perm
      (handler'.waits.toList ++ lane.waiting) := by
  have hset := filterMap_set_toList_perm (f := Handler.waits) (y := handler') hworks
  have happend := hset.append_left (lane.queue.channel ++ lane.queue.dispatcher.inHand)
  exact (List.perm_append_comm_assoc ..).trans (happend.trans (List.perm_append_comm_assoc ..))

/-- The end of a handler takes its own task off those that wait, if it still
waited. -/
theorem waiting_finish (hworks : lane.handlers[worker]? = some handler)
    (h : lane.finish worker outcome = some lane') :
    (handler.waits.toList ++ lane'.waiting).Perm lane.waiting := by
  obtain ⟨-, rfl⟩ := finish_eq_some h
  have herase := filterMap_eraseIdx_toList_perm (f := Handler.waits) hworks
  have happend := herase.append_left (lane.queue.channel ++ lane.queue.dispatcher.inHand)
  exact (List.perm_append_comm_assoc ..).trans happend

end Lane

/-! ## A run of the backend is a run of the task machine -/

/-- **What links the queues to the task machine.** -/
structure Inv (m : TaskMaster) (n : ℕ) (rows₀ : List TaskRunModel) (s : State) : Prop where
  lanes : ∀ k, (s.lanes k).Ok n
  /-- What is submitted, the webhooks accept. -/
  tasks : TasksInv (fun task => WebhookTask.reject task = none) s.tasks
  enqueuing : ∀ (c : ℕ) (call : Call AnyTask) (run : TaskRun AnyTask),
    s.tasks.calls[c]? = some call → call.pc = .enqueue run → (c, run) ∈ s.tasks.handed
  /-- The queues refuse nothing. -/
  sent : ∀ (c : ℕ) (call : Call AnyTask), s.tasks.calls[c]? = some call →
    ∀ run err, call.pc ≠ .failWrite run err
  accepted : ∀ k, ∀ run ∈ (s.lanes k).waiting, run ∈ s.tasks.accepted
  posted : ∀ k, ∀ handler ∈ (s.lanes k).handlers, ∀ d, handler.delivery = some d →
    ∃ delivery, s.tasks.deliveries[d]? = some delivery ∧ delivery.run = handler.run
  reaches : (TaskMaster.system AnyTask m).Reachable (TaskState.start rows₀ []) s.tasks

variable {rows₀ : List TaskRunModel} {tasks : TaskState AnyTask} {te : Ev AnyTask}
variable {k : QueueName} {es : List Event}

/-- A call that stands at its enqueue has handed its run over. -/
theorem enqueuing_of_move (h : TaskMaster.Move m s.tasks te tasks)
    (hi : ∀ (c : ℕ) (call : Call AnyTask) (run : TaskRun AnyTask),
      s.tasks.calls[c]? = some call → call.pc = .enqueue run → (c, run) ∈ s.tasks.handed)
    {c : ℕ} {call : Call AnyTask} {run : TaskRun AnyTask} (hc : tasks.calls[c]? = some call)
    (hpc : call.pc = .enqueue run) : (c, run) ∈ tasks.handed := by
  rcases TaskMaster.call_of_move h hc with ⟨hc, -⟩ | ⟨-, task, b, -, rfl⟩ |
    ⟨choice, call₀, fx, rfl, hc₀, hm, -, htasks⟩
  · exact TaskMaster.mem_handed_of_move h (hi c call run hc hpc)
  · cases hpc
  · rw [hpc] at hm
    cases hm with
    | published hpc₀ =>
      rw [htasks, TaskState.handed_eq, TaskState.perform_log, handsOf_append, handsOf_append]
      simp [handsOf]

/-- Only a queue that refuses makes a submission fail. -/
theorem sent_of_move (h : TaskMaster.Move m s.tasks te tasks)
    (hother : ∀ c error, te ≠ .call c (.enqueueFailed error))
    (hi : ∀ (c : ℕ) (call : Call AnyTask), s.tasks.calls[c]? = some call →
      ∀ run err, call.pc ≠ .failWrite run err)
    {c : ℕ} {call : Call AnyTask} (hc : tasks.calls[c]? = some call) (run : TaskRun AnyTask)
    (err : ApiError) : call.pc ≠ .failWrite run err := by
  intro hpc
  rcases TaskMaster.call_of_move h hc with ⟨hc, -⟩ | ⟨-, task, b, -, rfl⟩ |
    ⟨choice, call₀, fx, rfl, hc₀, hm, -, -⟩
  · exact hi c call hc run err hpc
  · cases hpc
  · rw [hpc] at hm
    cases hm with
    | enqueueFailed => exact hother c _ rfl

/-- A run stays accepted. -/
theorem mem_accepted_of_move (h : TaskMaster.Move m s.tasks te tasks) {run : TaskRun AnyTask}
    (hrun : run ∈ s.tasks.accepted) : run ∈ tasks.accepted := by
  cases h with
  | submit | call | deliver | delivery => exact hrun
  | accept => exact List.mem_append_left _ hrun

/-- A statement of the task machine keeps the invariant of the backend. -/
theorem Inv.withTasks (hi : Inv m n rows₀ s)
    (hs : (TaskMaster.system AnyTask m).step s.tasks te = some tasks)
    (hother : ∀ c error, te ≠ .call c (.enqueueFailed error))
    (hP : SubmitsOnly (fun task => WebhookTask.reject task = none) s.tasks te tasks) :
    Inv m n rows₀ (s.withTasks tasks) where
  lanes := hi.lanes
  tasks := TaskMaster.tasksInv_of_step hi.tasks hs hP
  enqueuing _ _ _ := enqueuing_of_move (TaskMaster.move_of_system hs) hi.enqueuing
  sent _ _ hc := sent_of_move (TaskMaster.move_of_system hs) hother hi.sent hc
  accepted k run hrun :=
    mem_accepted_of_move (TaskMaster.move_of_system hs) (hi.accepted k run hrun)
  posted k handler hhandler d hd := by
    obtain ⟨delivery, hdelivery, hrun⟩ := hi.posted k handler hhandler d hd
    obtain ⟨pc, hdelivery', -⟩ :=
      TaskMaster.delivery_step (TaskMaster.move_of_system hs) hdelivery
    exact ⟨_, hdelivery', hrun⟩
  reaches := hi.reaches.step hs

/-- An event of a lane keeps the invariant, given that what waits on it was
accepted and what it posted is under way. -/
theorem Inv.setLane (hi : Inv m n rows₀ s) (hok : lane.Ok n)
    (haccepted : ∀ run ∈ lane.waiting, run ∈ s.tasks.accepted)
    (hposted : ∀ handler ∈ lane.handlers, ∀ d, handler.delivery = some d →
      ∃ delivery, s.tasks.deliveries[d]? = some delivery ∧ delivery.run = handler.run) :
    Inv m n rows₀ (s.setLane k lane) where
  lanes k' := by
    change (Function.update s.lanes k lane k').Ok n
    by_cases hk : k' = k
    · rw [hk, Function.update_self]
      exact hok
    · rw [Function.update_of_ne hk]
      exact hi.lanes k'
  tasks := hi.tasks
  enqueuing := hi.enqueuing
  sent := hi.sent
  accepted k' := by
    change ∀ run ∈ (Function.update s.lanes k lane k').waiting, _
    by_cases hk : k' = k
    · rw [hk, Function.update_self]
      exact haccepted
    · rw [Function.update_of_ne hk]
      exact hi.accepted k'
  posted k' := by
    change ∀ handler ∈ (Function.update s.lanes k lane k').handlers, _
    by_cases hk : k' = k
    · rw [hk, Function.update_self]
      exact hposted
    · rw [Function.update_of_ne hk]
      exact hi.posted k'
  reaches := hi.reaches

/-- The enqueue of a call puts the run it has just accepted on its lane. -/
theorem Inv.enqueue (hi : Inv m n rows₀ s) {c : ℕ} {call : Call AnyTask} {run : TaskRun AnyTask}
    {queue : LocalTaskQueue.State (TaskRun AnyTask)} (hc : s.tasks.calls[c]? = some call)
    (hpc : call.pc = .enqueue run)
    (hsent : (LocalTaskQueue.system _).step (s.lanes k).queue (.enqueue 0 run) = some queue)
    (hs : (TaskMaster.system AnyTask m).step s.tasks (.call c .enqueued) = some tasks) :
    Inv m n rows₀ ((s.setLane k { s.lanes k with queue := queue }).withTasks
      { tasks with accepted := tasks.accepted ++ [run] }) := by
  have hmove := TaskMaster.move_of_system hs
  have hhanded := TaskMaster.mem_handed_of_move hmove (hi.enqueuing c call run hc hpc)
  obtain ⟨i, hget⟩ := List.mem_iff_getElem?.1 hhanded
  have haccept : (TaskMaster.system AnyTask m).step tasks (.accept i) =
      some { tasks with accepted := tasks.accepted ++ [run] } := by
    change TaskMaster.step m tasks (.accept i) = _
    simp only [TaskMaster.step, hget, Option.map_some]
  have hi₁ := hi.withTasks hs (fun _ _ he => by cases he) (fun _ he => by cases he)
  have hi' := hi₁.withTasks haccept (fun _ _ he => by cases he) (fun _ he => by cases he)
  refine hi'.setLane ((hi.lanes k).enqueue hsent) (fun run' hrun' => ?_) (hi'.posted k)
  rcases List.mem_cons.1 ((Lane.waiting_enqueue (hi.lanes k) hsent).mem_iff.1 hrun') with rfl | hrun'
  · exact List.mem_append_right _ (List.mem_singleton_self _)
  · exact hi'.accepted k run' hrun'

/-- The end of a handler keeps the invariant. -/
theorem Inv.finish (hi : Inv m n rows₀ s) {worker : ℕ} {handler : Handler}
    {outcome : LocalTaskQueue.Outcome} (hworks : (s.lanes k).handlers[worker]? = some handler)
    (hfinished : (s.lanes k).finish worker outcome = some lane) :
    Inv m n rows₀ (s.setLane k lane) := by
  have hwaiting := Lane.waiting_finish hworks hfinished
  obtain ⟨-, heq⟩ := Lane.finish_eq_some hfinished
  refine hi.setLane ((hi.lanes k).finish hfinished) (fun run hrun => ?_) fun handler' hhandler => ?_
  · exact hi.accepted k run (hwaiting.mem_iff.1 (List.mem_append_right _ hrun))
  · rw [heq] at hhandler
    exact hi.posted k handler' (List.mem_of_mem_eraseIdx hhandler)

/-- A POST makes a delivery of the handler's own run. -/
theorem Inv.post (hi : Inv m n rows₀ s) {worker : ℕ} {run : TaskRun AnyTask}
    (hworks : (s.lanes k).handlers[worker]? = some ⟨run, none⟩) :
    Inv m n rows₀ (post s k worker run) := by
  have hwaits : run ∈ (s.lanes k).waiting :=
    List.mem_append_right _ (List.mem_filterMap.2 ⟨_, List.mem_of_getElem? hworks, rfl⟩)
  obtain ⟨i, hget⟩ := List.mem_iff_getElem?.1 (hi.accepted k run hwaits)
  have hdeliver : (TaskMaster.system AnyTask m).step s.tasks (.deliver i) =
      some { s.tasks with deliveries := s.tasks.deliveries ++ [⟨run, .beginRead⟩] } := by
    change TaskMaster.step m s.tasks (.deliver i) = _
    simp only [TaskMaster.step, hget, Option.map_some]
  have hi' := hi.withTasks hdeliver (fun _ _ he => by cases he) (fun _ he => by cases he)
  have hset := Lane.waiting_set hworks ⟨run, some s.tasks.deliveries.length⟩
  refine hi'.setLane ((hi.lanes k).post hworks _) (fun run' hrun' => ?_) ?_
  · exact hi'.accepted k run' (hset.mem_iff.1 (List.mem_append_right _ hrun'))
  · intro handler hhandler d hd
    rcases List.mem_or_eq_of_mem_set hhandler with hhandler | rfl
    · exact hi'.posted k handler hhandler d hd
    · cases hd
      exact ⟨_, List.getElem?_concat_length, rfl⟩

/-- One event of the backend keeps the invariant. -/
theorem Inv.step (hi : Inv m n rows₀ s) (hs : (system m).step s e = some s') :
    Inv m n rows₀ s' := by
  cases move_of_step hs with
  | submit hsubmittable hmoves =>
    refine hi.withTasks hmoves nofun fun task htask => ?_
    cases htask
    exact AnyTask.submittable_iff.1 hsubmittable
  | call hother hmoves =>
    refine hi.withTasks hmoves (fun c error heq => ?_) nofun
    cases heq
    cases hother
  | refused hended => exact absurd hended (hi.lanes _).runs
  | enqueued hc hpc hsent hmoves => exact hi.enqueue hc hpc hsent hmoves
  | @receive k lane hreceived =>
    have hwaiting := Lane.waiting_receive (hi.lanes k) hreceived
    obtain ⟨_, _, -, -, heq⟩ := Lane.receive_eq_some (hi.lanes k) hreceived
    refine hi.setLane ((hi.lanes k).receive hreceived)
      (fun run hrun => hi.accepted k run (hwaiting.mem_iff.1 hrun)) ?_
    rw [heq]
    exact hi.posted k
  | @dispatch k lane hdispatched =>
    have hwaiting := Lane.waiting_dispatch (hi.lanes k) hdispatched
    obtain ⟨_, _, -, -, heq⟩ := Lane.dispatch_eq_some (hi.lanes k) hdispatched
    refine hi.setLane ((hi.lanes k).dispatch hdispatched)
      (fun run hrun => hi.accepted k run (hwaiting.mem_iff.1 hrun)) ?_
    rw [heq]
    intro handler hhandler d hd
    rcases List.mem_append.1 hhandler with hhandler | hhandler
    · exact hi.posted k handler hhandler d hd
    · cases List.mem_singleton.1 hhandler
      cases hd
  | post hworks => exact hi.post hworks
  | delivery hmoves => exact hi.withTasks hmoves nofun nofun
  | @answer k worker _ handler lane _ hworks _ hfinished => exact hi.finish hworks hfinished
  | @fail k worker handler lane hworks hfinished =>
    have hi' := hi.finish hworks hfinished
    exact ⟨hi'.lanes, hi'.tasks, hi'.enqueuing, hi'.sent, hi'.accepted, hi'.posted, hi'.reaches⟩

/-- The state the backend starts in. -/
theorem start_eq {s₀ : State} (hstart : makeTaskMaster n rows₀ = some s₀) :
    s₀ = ⟨TaskState.start rows₀ [],
      fun _ => ⟨⟨[.held], true, [], .receiving, false, max n 1, [], [], [], []⟩, []⟩, []⟩ := by
  obtain ⟨queue, hconnect, rfl⟩ := Option.map_eq_some_iff.1 hstart
  have hqueue : queue = ⟨[.held], true, [], .receiving, false, max n 1, [], [], [], []⟩ :=
    (Option.some.inj (Option.ite_none_right_eq_some.1 hconnect).2).symm
  rw [hqueue]

/-- The invariant holds when the backend starts. -/
theorem inv_start {s₀ : State} (hstart : makeTaskMaster n rows₀ = some s₀) : Inv m n rows₀ s₀ := by
  have hlane : ∀ k, LocalTaskQueue.Inv n (s₀.lanes k).queue := by
    obtain ⟨queue, hconnect, rfl⟩ := Option.map_eq_some_iff.1 hstart
    exact fun _ => LocalTaskQueue.inv_connect hconnect
  rw [start_eq hstart] at hlane ⊢
  exact {
    lanes := fun k => ⟨hlane k, rfl, rfl, rfl⟩
    tasks := TaskMaster.tasksInv_start
    enqueuing := fun _ _ _ hc => by cases hc
    sent := fun _ _ hc => by cases hc
    accepted := fun _ _ hrun => by cases hrun
    posted := fun _ _ hhandler => by cases hhandler
    reaches := .refl }

/-- The invariant holds in every state of the backend. -/
theorem inv_of_run {s₀ : State} (hstart : makeTaskMaster n rows₀ = some s₀)
    (hrun : (system m).run s₀ es = some s) : Inv m n rows₀ s :=
  System.run_inv (fun _ _ _ => Inv.step) (inv_start hstart) hrun

/-- **The backend refines the task machine**: what is proved of the machine
over any queue that delivers at least once holds with the local queues. -/
theorem backend_refines {s₀ : State} (hstart : makeTaskMaster n rows₀ = some s₀)
    (hrun : (system m).run s₀ es = some s) :
    (TaskMaster.system AnyTask m).Reachable (TaskState.start rows₀ []) s.tasks :=
  (inv_of_run hstart hrun).reaches

end LocalBackend

end Dreamscroll
