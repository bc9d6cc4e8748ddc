import Dreamscroll.Common.ProcessTable
import Dreamscroll.Common.System
/-!
# The local task queue

`LocalTaskQueue`: an unbounded channel, one dispatcher that takes its tasks
in order, and a semaphore that bounds the workers it spawns. The handles on
the queue share one reference count, and a drop that reads it as one aborts
the dispatcher.

While a handle is held the queue dispatches in order, within its bound and
never stuck (`local_dispatch`).
-/

namespace Dreamscroll

namespace LocalTaskQueue

variable {τ : Type}

/-- A handle, and how far its drop is. -/
inductive Handle
  | held
  /-- `drop` has read the strong count. -/
  | counted (strongCount : ℕ)
  /-- `drop` has returned, and the reference is still to be released. -/
  | dropped
  | released
  deriving DecidableEq, Repr

/-- Where `run_dispatcher` is. -/
inductive Dispatcher (τ : Type)
  /-- At `recv`. -/
  | receiving
  /-- At `acquire_owned`, with the task it received. -/
  | acquiring (task : τ)
  /-- Left, or aborted. -/
  | ended
  deriving DecidableEq, Repr

/-- The queue, with the tasks it took, those it dispatched and those whose
worker has ended so far. -/
structure State (τ : Type) where
  handles : List Handle
  /-- `None` once a drop took it, to abort the dispatcher. -/
  dispatcherHandle : Bool
  channel : List τ
  dispatcher : Dispatcher τ
  /-- The runtime is polling the dispatcher. -/
  polled : Bool
  permits : ℕ
  workers : List τ
  enqueued : List τ
  dispatched : List τ
  finished : List τ
  deriving DecidableEq, Repr

/-- How a worker ends. It holds its permit until then. -/
inductive Outcome
  | ok
  | failed
  | panicked
  deriving DecidableEq, Repr

/-- What the handles, the runtime and the workers do, in any order. -/
inductive Event (τ : Type)
  | clone (h : ℕ)
  | enqueue (h : ℕ) (task : τ)
  /-- `drop` reads the strong count. -/
  | count (h : ℕ)
  /-- `drop` takes the dispatcher handle and aborts. -/
  | abort (h : ℕ)
  | release (h : ℕ)
  | poll
  | receive
  /-- `recv` finds every sender gone. -/
  | hangUp
  | dispatch
  /-- The poll ends at an await. -/
  | park
  | finish (worker : ℕ) (outcome : Outcome)
  deriving DecidableEq, Repr

/-- A step of the dispatcher. -/
def Event.ofDispatcher : Event τ → Bool
  | .poll | .receive | .hangUp | .dispatch | .park => true
  | _ => false

namespace State

/-- The references that are not released. -/
def strongCount (s : State τ) : ℕ := s.handles.countP fun h => h ≠ .released

/-- A handle goes on. -/
def setHandle (s : State τ) (h : ℕ) (handle : Handle) : State τ :=
  { s with handles := s.handles.set h handle }

/-- The await the dispatcher is at is over: the runtime will poll it. -/
def ready (s : State τ) : Bool :=
  match s.dispatcher with
  | .receiving => !s.channel.isEmpty || s.strongCount = 0
  | .acquiring _ => 0 < s.permits
  | .ended => false

/-- An aborted dispatcher ends at the next await it is at, which is at once
if it is not being polled. -/
def aborted (s : State τ) : State τ :=
  if s.dispatcherHandle = false ∧ s.polled = false then { s with dispatcher := .ended } else s

end State

/-- `Semaphore::MAX_PERMITS`. -/
def maxPermits : ℕ := 2305843009213693951

/-- **`connect`**, `none` where `Semaphore::new` panics. -/
def connect (maxConcurrentTasks : ℕ) : Option (State τ) :=
  if max maxConcurrentTasks 1 ≤ maxPermits then
    some ⟨[.held], true, [], .receiving, false, max maxConcurrentTasks 1, [], [], [], []⟩
  else none

/-- What an event does, where it can happen. -/
def step (s : State τ) : Event τ → Option (State τ)
  | .clone h =>
    if s.handles[h]? = some .held then some { s with handles := s.handles ++ [.held] } else none
  | .enqueue h task =>
    if s.handles[h]? = some .held then
      match s.dispatcher with
      | .ended => some s
      | _ => some { s with channel := s.channel ++ [task], enqueued := s.enqueued ++ [task] }
    else none
  | .count h =>
    if s.handles[h]? = some .held then some (s.setHandle h (.counted s.strongCount)) else none
  | .abort h =>
    if s.handles[h]? = some (.counted 1) then
      some ({ s.setHandle h .dropped with dispatcherHandle := false }).aborted
    else none
  | .release h =>
    match s.handles[h]? with
    | some (.counted count) => if count = 1 then none else some (s.setHandle h .released)
    | some .dropped => some (s.setHandle h .released)
    | _ => none
  | .poll => if !s.polled && s.ready then some { s with polled := true } else none
  | .receive =>
    match s.polled, s.dispatcher, s.channel with
    | true, .receiving, task :: channel =>
      some { s with dispatcher := .acquiring task, channel := channel }
    | _, _, _ => none
  | .hangUp =>
    match s.polled, s.dispatcher, s.channel with
    | true, .receiving, [] =>
      if s.strongCount = 0 then some { s with dispatcher := .ended, polled := false } else none
    | _, _, _ => none
  | .dispatch =>
    match s.polled, s.dispatcher, s.permits with
    | true, .acquiring task, permits + 1 =>
      some { s with dispatcher := .receiving, permits := permits,
                    workers := s.workers ++ [task], dispatched := s.dispatched ++ [task] }
    | _, _, _ => none
  | .park => if s.polled then some ({ s with polled := false }).aborted else none
  | .finish worker _ =>
    if worker < s.workers.length then
      some { s with workers := s.workers.eraseIdx worker, permits := s.permits + 1,
                    finished := s.finished ++ s.workers[worker]?.toList }
    else none

/-- The queue as a system. -/
def system (τ : Type) : System (State τ) (Event τ) := ⟨step⟩

/-- **The queue dispatches**: in order, within its bound, and on. -/
structure Dispatches (maxConcurrentTasks : ℕ) (s : State τ) : Prop where
  in_order : s.dispatched <+: s.enqueued
  /-- The workers are at what was dispatched and has not finished. -/
  working : (s.finished ++ s.workers).Perm s.dispatched
  bounded : s.workers.length ≤ max 1 maxConcurrentTasks
  /-- However a worker ends, its slot is free and the rest is untouched. -/
  frees : ∀ worker outcome, worker < s.workers.length →
    (system τ).step s (.finish worker outcome) =
      some { s with workers := s.workers.eraseIdx worker, permits := s.permits + 1,
                    finished := s.finished ++ s.workers[worker]?.toList }
  /-- With a slot free, the dispatcher by itself dispatches the next task. -/
  proceeds : s.workers.length < max 1 maxConcurrentTasks →
    ∀ task, s.enqueued[s.dispatched.length]? = some task →
      ∃ e es s', (∀ x ∈ e :: es, x.ofDispatcher = true) ∧ (system τ).run s (e :: es) = some s' ∧
        s'.dispatched = s.dispatched ++ [task]

/-! ## What a step does -/

/-- **The steps of the queue**, each with what enables it. -/
inductive Step : State τ → Event τ → State τ → Prop
  | clone {s : State τ} {h : ℕ} (held : s.handles[h]? = some .held) :
      Step s (.clone h) { s with handles := s.handles ++ [.held] }
  | refuse {s : State τ} {h : ℕ} {task : τ} (held : s.handles[h]? = some .held)
      (ended : s.dispatcher = .ended) : Step s (.enqueue h task) s
  | enqueue {s : State τ} {h : ℕ} {task : τ} (held : s.handles[h]? = some .held)
      (runs : s.dispatcher ≠ .ended) : Step s (.enqueue h task)
        { s with channel := s.channel ++ [task], enqueued := s.enqueued ++ [task] }
  | count {s : State τ} {h : ℕ} (held : s.handles[h]? = some .held) :
      Step s (.count h) (s.setHandle h (.counted s.strongCount))
  | abort {s : State τ} {h : ℕ} (last : s.handles[h]? = some (.counted 1)) :
      Step s (.abort h) ({ s.setHandle h .dropped with dispatcherHandle := false }).aborted
  | release {s : State τ} {h : ℕ} {handle : Handle} (dropped : s.handles[h]? = some handle)
      (not_last : handle = .dropped ∨ ∃ count ≠ 1, handle = .counted count) :
      Step s (.release h) (s.setHandle h .released)
  | poll {s : State τ} (idle : s.polled = false) (ready : s.ready = true) :
      Step s .poll { s with polled := true }
  | receive {s : State τ} {task : τ} {channel : List τ} (polled : s.polled = true)
      (receiving : s.dispatcher = .receiving) (waits : s.channel = task :: channel) :
      Step s .receive { s with dispatcher := .acquiring task, channel := channel }
  | hangUp {s : State τ} (polled : s.polled = true) (receiving : s.dispatcher = .receiving)
      (drained : s.channel = []) (gone : s.strongCount = 0) :
      Step s .hangUp { s with dispatcher := .ended, polled := false }
  | dispatch {s : State τ} {task : τ} {permits : ℕ} (polled : s.polled = true)
      (acquiring : s.dispatcher = .acquiring task) (free : s.permits = permits + 1) :
      Step s .dispatch { s with dispatcher := .receiving, permits := permits,
                                workers := s.workers ++ [task], dispatched := s.dispatched ++ [task] }
  | park {s : State τ} (polled : s.polled = true) :
      Step s .park ({ s with polled := false }).aborted
  | finish {s : State τ} {worker : ℕ} {outcome : Outcome} (works : worker < s.workers.length) :
      Step s (.finish worker outcome)
        { s with workers := s.workers.eraseIdx worker, permits := s.permits + 1,
                 finished := s.finished ++ s.workers[worker]?.toList }

variable {s s' s₀ : State τ} {e : Event τ} {es : List (Event τ)} {h n : ℕ} {handle : Handle}

theorem step_cases (hstep : (system τ).step s e = some s') : Step s e s' := by
  change step s e = some s' at hstep
  unfold step at hstep
  cases e with
  | clone h =>
    obtain ⟨hheld, heq⟩ := Option.ite_none_right_eq_some.1 hstep
    cases heq
    exact .clone hheld
  | enqueue h task =>
    obtain ⟨hheld, heq⟩ := Option.ite_none_right_eq_some.1 hstep
    split at heq
    · rename_i hended
      cases heq
      exact .refuse hheld hended
    · rename_i hruns
      cases heq
      exact .enqueue hheld hruns
  | count h =>
    obtain ⟨hheld, heq⟩ := Option.ite_none_right_eq_some.1 hstep
    cases heq
    exact .count hheld
  | abort h =>
    obtain ⟨hlast, heq⟩ := Option.ite_none_right_eq_some.1 hstep
    cases heq
    exact .abort hlast
  | release h =>
    dsimp only at hstep
    split at hstep
    · rename_i count hcount
      obtain ⟨hne, heq⟩ := Option.ite_none_left_eq_some.1 hstep
      cases heq
      exact .release hcount (Or.inr ⟨count, hne, rfl⟩)
    · rename_i hdropped
      cases hstep
      exact .release hdropped (Or.inl rfl)
    · cases hstep
  | poll =>
    obtain ⟨hready, heq⟩ := Option.ite_none_right_eq_some.1 hstep
    cases heq
    rw [Bool.and_eq_true, Bool.not_eq_true'] at hready
    exact .poll hready.1 hready.2
  | receive =>
    dsimp only at hstep
    split at hstep
    · rename_i hpolled hreceiving hchannel
      cases hstep
      exact .receive hpolled hreceiving hchannel
    · cases hstep
  | hangUp =>
    dsimp only at hstep
    split at hstep
    · rename_i hpolled hreceiving hchannel
      obtain ⟨hgone, heq⟩ := Option.ite_none_right_eq_some.1 hstep
      cases heq
      exact .hangUp hpolled hreceiving hchannel hgone
    · cases hstep
  | dispatch =>
    dsimp only at hstep
    split at hstep
    · rename_i hpolled hacquiring hpermits
      cases hstep
      exact .dispatch hpolled hacquiring hpermits
    · cases hstep
  | park =>
    obtain ⟨hpolled, heq⟩ := Option.ite_none_right_eq_some.1 hstep
    cases heq
    exact .park hpolled
  | finish worker outcome =>
    obtain ⟨hworks, heq⟩ := Option.ite_none_right_eq_some.1 hstep
    cases heq
    exact .finish hworks

/-- Only where the dispatcher is changes. -/
theorem State.aborted_eq (s : State τ) : s.aborted = { s with
    dispatcher := if s.dispatcherHandle = false ∧ s.polled = false then .ended
      else s.dispatcher } := by
  unfold State.aborted
  split_ifs <;> rfl

/-! ## What a run keeps -/

/-- The task the dispatcher has received and not spawned. -/
def Dispatcher.inHand : Dispatcher τ → List τ
  | .acquiring task => [task]
  | _ => []

/-- The tasks taken are those dispatched, the one in hand, what an end of
the dispatcher lost, and those that wait. -/
def Ordered (s : State τ) : Prop :=
  ∃ lost, s.dispatched ++ (s.dispatcher.inHand ++ lost) ++ s.channel = s.enqueued ∧
    (s.dispatcher ≠ .ended → lost = [])

/-- **What holds in every state of a queue.** -/
structure Inv (n : ℕ) (s : State τ) : Prop where
  permits : s.permits + s.workers.length = max n 1
  working : (s.finished ++ s.workers).Perm s.dispatched
  ordered : Ordered s
  /-- Nobody holds a handle on a queue that was shut down. -/
  quiet : s.dispatcherHandle = false ∨ s.dispatcher = .ended ∨ Handle.counted 1 ∈ s.handles →
    Handle.held ∉ s.handles
  polled : s.polled = true → s.dispatcher ≠ .ended
  aborted : s.dispatcherHandle = false → s.polled = false → s.dispatcher = .ended

theorem mem_setHandle {x : Handle} (hmem : x ∈ (s.setHandle h handle).handles) :
    x = handle ∨ x ∈ s.handles := by
  rcases List.mem_or_eq_of_mem_set hmem with hx | hx
  · exact Or.inr hx
  · exact Or.inl hx

/-- **The last handle that counts is the only one held.** -/
theorem held_not_mem_of_count_one (hh : s.handles[h]? = some .held) (hone : s.strongCount = 1) :
    Handle.held ∉ (s.setHandle h (.counted 1)).handles := by
  unfold State.strongCount State.setHandle at *
  generalize s.handles = handles at *
  induction handles generalizing h with
  | nil => cases hh
  | cons x handles ih =>
    rw [List.countP_cons] at hone
    cases h with
    | zero =>
      cases hh
      have hzero : handles.countP (fun h => h ≠ .released) = 0 := by simpa using hone
      rw [List.set_cons_zero, List.mem_cons]
      rintro (heq | hmem)
      · cases heq
      · exact List.countP_eq_zero.1 hzero _ hmem rfl
    | succ h =>
      rw [List.getElem?_cons_succ] at hh
      have hpos : 0 < handles.countP fun h => h ≠ .released :=
        List.countP_pos_iff.2 ⟨.held, List.mem_of_getElem? hh, rfl⟩
      have hx : ¬ (decide (x ≠ .released) = true) := by
        intro hx
        rw [if_pos hx] at hone
        omega
      rw [if_neg hx, Nat.add_zero] at hone
      rw [List.set_cons_succ, List.mem_cons]
      rintro (heq | hmem)
      · exact hx (by rw [← heq]; rfl)
      · exact ih hh hone hmem

/-- Nobody holds a handle once every reference is released. -/
theorem held_not_mem_of_strongCount (hgone : s.strongCount = 0) : Handle.held ∉ s.handles :=
  fun hmem => List.countP_eq_zero.1 hgone _ hmem rfl

/-- An end of the dispatcher may lose the task in hand. -/
theorem Ordered.aborted (ho : Ordered s) : Ordered s.aborted := by
  unfold State.aborted
  split_ifs
  · obtain ⟨lost, horder, -⟩ := ho
    exact ⟨s.dispatcher.inHand ++ lost, horder, fun hne => absurd rfl hne⟩
  · exact ho

/-- **What was taken stays in order.** -/
theorem Ordered.step (ho : Ordered s) (hstep : Step s e s') : Ordered s' := by
  obtain ⟨lost, horder, hlost⟩ := ho
  cases hstep with
  | clone | refuse | count | release | poll | finish => exact ⟨lost, horder, hlost⟩
  | enqueue =>
    refine ⟨lost, ?_, hlost⟩
    rw [← horder, List.append_assoc _ s.channel]
  | abort => exact Ordered.aborted ⟨lost, horder, hlost⟩
  | park => exact Ordered.aborted ⟨lost, horder, hlost⟩
  | receive _ hreceiving hwaits =>
    rw [hreceiving] at horder hlost
    rw [hlost nofun, hwaits] at horder
    refine ⟨[], ?_, fun _ => rfl⟩
    rw [← horder]
    simp [Dispatcher.inHand]
  | hangUp _ hreceiving =>
    rw [hreceiving] at horder hlost
    exact ⟨lost, horder, fun hne => absurd rfl hne⟩
  | dispatch _ hacquiring =>
    rw [hacquiring] at horder hlost
    rw [hlost nofun] at horder
    refine ⟨[], ?_, fun _ => rfl⟩
    rw [← horder]
    simp [Dispatcher.inHand]

/-- **A permit is free or held by a worker.** -/
theorem permits_step (hp : s.permits + s.workers.length = max n 1) (hstep : Step s e s') :
    s'.permits + s'.workers.length = max n 1 := by
  cases hstep with
  | clone | refuse | enqueue | count | release | poll | receive | hangUp => exact hp
  | abort | park =>
    rw [State.aborted_eq]
    exact hp
  | dispatch _ _ hfree =>
    rw [hfree] at hp
    dsimp only
    rw [List.length_append, List.length_singleton]
    omega
  | finish hworks =>
    have hlength := List.length_eraseIdx_of_lt hworks
    dsimp only
    omega

/-- **A task that was dispatched is with its worker, or finished.** -/
theorem working_step (hw : (s.finished ++ s.workers).Perm s.dispatched) (hstep : Step s e s') :
    (s'.finished ++ s'.workers).Perm s'.dispatched := by
  cases hstep with
  | clone | refuse | enqueue | count | release | poll | receive | hangUp => exact hw
  | abort | park =>
    rw [State.aborted_eq]
    exact hw
  | dispatch =>
    dsimp only
    rw [← List.append_assoc]
    exact hw.append_right _
  | @finish worker _ hworks =>
    have htask : (s.workers[worker]?.toList ++ s.workers.eraseIdx worker).Perm s.workers := by
      rw [List.getElem?_eq_getElem hworks]
      exact List.getElem_cons_eraseIdx_perm hworks
    dsimp only
    rw [List.append_assoc]
    exact (htask.append_left _).trans hw

/-- **A queue that is shut down stays without handles.** -/
theorem quiet_step (hq : s.dispatcherHandle = false ∨ s.dispatcher = .ended ∨
      Handle.counted 1 ∈ s.handles → Handle.held ∉ s.handles) (hstep : Step s e s') :
    s'.dispatcherHandle = false ∨ s'.dispatcher = .ended ∨ Handle.counted 1 ∈ s'.handles →
      Handle.held ∉ s'.handles := by
  cases hstep with
  | refuse | enqueue | poll | finish => exact hq
  | clone hheld =>
    have hmem := List.mem_of_getElem? hheld
    rintro (hdown | hended | hone)
    · exact absurd hmem (hq (Or.inl hdown))
    · exact absurd hmem (hq (Or.inr (Or.inl hended)))
    · have hold : Handle.counted 1 ∈ s.handles := by
        rcases List.mem_append.1 hone with hone | hone
        · exact hone
        · cases List.mem_singleton.1 hone
      exact absurd hmem (hq (Or.inr (Or.inr hold)))
  | count hheld =>
    have hmem := List.mem_of_getElem? hheld
    rintro (hdown | hended | hone)
    · exact absurd hmem (hq (Or.inl hdown))
    · exact absurd hmem (hq (Or.inr (Or.inl hended)))
    · rcases mem_setHandle hone with heq | hone
      · injection heq with heq
        -- the handle that counted one is the last that is held
        rw [← heq]
        exact held_not_mem_of_count_one hheld heq.symm
      · exact absurd hmem (hq (Or.inr (Or.inr hone)))
  | abort hlast =>
    rw [State.aborted_eq]
    intro _ hmem
    rcases mem_setHandle hmem with heq | hmem
    · cases heq
    · exact hq (Or.inr (Or.inr (List.mem_of_getElem? hlast))) hmem
  | release hdropped hnot =>
    intro hshut hmem
    have hold : Handle.held ∈ s.handles := by
      rcases mem_setHandle hmem with heq | hmem
      · cases heq
      · exact hmem
    rcases hshut with hdown | hended | hone
    · exact hq (Or.inl hdown) hold
    · exact hq (Or.inr (Or.inl hended)) hold
    · rcases mem_setHandle hone with heq | hone
      · cases heq
      · exact hq (Or.inr (Or.inr hone)) hold
  | receive _ hreceiving =>
    rintro (hdown | hended | hone)
    · exact hq (Or.inl hdown)
    · cases hended
    · exact hq (Or.inr (Or.inr hone))
  | hangUp _ _ _ hgone => exact fun _ => held_not_mem_of_strongCount hgone
  | dispatch =>
    rintro (hdown | hended | hone)
    · exact hq (Or.inl hdown)
    · cases hended
    · exact hq (Or.inr (Or.inr hone))
  | park =>
    rw [State.aborted_eq]
    dsimp only
    rintro (hdown | hended | hone)
    · exact hq (Or.inl hdown)
    · split_ifs at hended with hshut
      · exact hq (Or.inl hshut.1)
      · exact hq (Or.inr (Or.inl hended))
    · exact hq (Or.inr (Or.inr hone))

theorem aborted_settles (hp : s.polled = true → s.dispatcher ≠ .ended) :
    (s.aborted.polled = true → s.aborted.dispatcher ≠ .ended) ∧
      (s.aborted.dispatcherHandle = false → s.aborted.polled = false →
        s.aborted.dispatcher = .ended) := by
  unfold State.aborted
  split_ifs with hshut
  · exact ⟨fun hpolled => absurd (hshut.2.symm.trans hpolled) Bool.false_ne_true, fun _ _ => rfl⟩
  · exact ⟨hp, fun hdown hidle => absurd ⟨hdown, hidle⟩ hshut⟩

/-- A dispatcher that is polled has not ended, and one that was aborted
ends where it is not polled. -/
theorem polled_step (hp : s.polled = true → s.dispatcher ≠ .ended)
    (ha : s.dispatcherHandle = false → s.polled = false → s.dispatcher = .ended)
    (hstep : Step s e s') : (s'.polled = true → s'.dispatcher ≠ .ended) ∧
      (s'.dispatcherHandle = false → s'.polled = false → s'.dispatcher = .ended) := by
  cases hstep with
  | clone | refuse | enqueue | count | release | finish => exact ⟨hp, ha⟩
  | abort => exact aborted_settles hp
  | poll _ hready =>
    refine ⟨fun _ hended => ?_, fun _ hidle => by cases hidle⟩
    change s.dispatcher = .ended at hended
    unfold State.ready at hready
    rw [hended] at hready
    cases hready
  | receive hpolled =>
    refine ⟨fun _ => nofun, fun _ hidle => ?_⟩
    cases hpolled.symm.trans hidle
  | hangUp => exact ⟨nofun, fun _ _ => rfl⟩
  | dispatch hpolled =>
    refine ⟨fun _ => nofun, fun _ hidle => ?_⟩
    cases hpolled.symm.trans hidle
  | park => exact aborted_settles nofun

theorem Inv.step (hi : Inv n s) (hstep : (system τ).step s e = some s') : Inv n s' := by
  have hcases := step_cases hstep
  obtain ⟨hpolled, haborted⟩ := polled_step hi.polled hi.aborted hcases
  exact ⟨permits_step hi.permits hcases, working_step hi.working hcases, hi.ordered.step hcases,
    quiet_step hi.quiet hcases, hpolled, haborted⟩

theorem inv_connect (hconnect : connect n = some s₀) : Inv n (s₀ : State τ) := by
  unfold connect at hconnect
  split_ifs at hconnect
  cases hconnect
  refine ⟨rfl, .refl [], ⟨[], rfl, fun _ => rfl⟩, ?_, nofun, nofun⟩
  rintro (hdown | hended | hone)
  · cases hdown
  · cases hended
  · cases List.mem_singleton.1 hone

/-- **Every state of a queue.** -/
theorem inv_of_run (hconnect : connect n = some s₀) (hrun : (system τ).run s₀ es = some s) :
    Inv n s :=
  System.run_inv (fun _ _ _ => Inv.step) (inv_connect hconnect) hrun

/-! ## Dispatch -/

/-- The dispatcher dispatches the task in its hand. -/
theorem run_dispatch {task : τ} (hpolled : s.polled = true)
    (hacquiring : s.dispatcher = .acquiring task) (hfree : 0 < s.permits) :
    ∃ s', (system τ).run s [.dispatch] = some s' ∧ s'.dispatched = s.dispatched ++ [task] ∧
      s'.polled = true ∧ s'.dispatcher = .receiving ∧ s'.channel = s.channel := by
  obtain ⟨permits, hpermits⟩ := Nat.exists_eq_add_one.2 hfree
  have hstep : (system τ).step s .dispatch = some { s with
      dispatcher := .receiving, permits := permits, workers := s.workers ++ [task],
      dispatched := s.dispatched ++ [task] } := by
    change step s .dispatch = _
    unfold LocalTaskQueue.step
    rw [hpolled, hacquiring, hpermits]
  exact ⟨_, System.run_singleton.trans hstep, rfl, hpolled, rfl, rfl⟩

/-- And one that waits in the channel. -/
theorem run_receive_dispatch {task : τ} {channel : List τ} (hpolled : s.polled = true)
    (hreceiving : s.dispatcher = .receiving) (hchannel : s.channel = task :: channel)
    (hfree : 0 < s.permits) :
    ∃ s', (system τ).run s [.receive, .dispatch] = some s' ∧
      s'.dispatched = s.dispatched ++ [task] := by
  have hstep : (system τ).step s .receive =
      some { s with dispatcher := .acquiring task, channel := channel } := by
    change step s .receive = _
    unfold LocalTaskQueue.step
    rw [hpolled, hreceiving, hchannel]
  obtain ⟨s', hrun, hdispatched, -⟩ := run_dispatch
    (s := { s with dispatcher := .acquiring task, channel := channel }) hpolled rfl hfree
  exact ⟨s', System.run_cons_eq_some.2 ⟨_, hstep, hrun⟩, hdispatched⟩

/-- **A dispatcher that is polled dispatches the next task**, where a
permit is free. -/
theorem run_next {task : τ} {rest : List τ} (hpolled : s.polled = true)
    (hruns : s.dispatcher ≠ .ended) (hnext : s.dispatcher.inHand ++ s.channel = task :: rest)
    (hfree : 0 < s.permits) :
    ∃ e es s', (∀ x ∈ e :: es, x.ofDispatcher = true) ∧ (system τ).run s (e :: es) = some s' ∧
      s'.dispatched = s.dispatched ++ [task] := by
  cases hplace : s.dispatcher with
  | ended => exact absurd hplace hruns
  | acquiring held =>
    rw [hplace] at hnext
    cases (List.cons.inj hnext).1
    obtain ⟨s', hrun, hdispatched, -⟩ := run_dispatch hpolled hplace hfree
    exact ⟨.dispatch, [], s', by simp [Event.ofDispatcher], hrun, hdispatched⟩
  | receiving =>
    rw [hplace] at hnext
    obtain ⟨s', hrun, hdispatched⟩ := run_receive_dispatch hpolled hplace hnext hfree
    exact ⟨.receive, [.dispatch], s', by simp [Event.ofDispatcher], hrun, hdispatched⟩

/-- The runtime polls a dispatcher that has something to do. -/
theorem ready_of_next {task : τ} {rest : List τ} (hruns : s.dispatcher ≠ .ended)
    (hnext : s.dispatcher.inHand ++ s.channel = task :: rest) (hfree : 0 < s.permits) :
    s.ready = true := by
  unfold State.ready
  cases hplace : s.dispatcher with
  | ended => exact absurd hplace hruns
  | acquiring => exact decide_eq_true hfree
  | receiving =>
    rw [hplace] at hnext
    have hchannel : s.channel = task :: rest := hnext
    simp only [hchannel, List.isEmpty_cons, Bool.not_false, Bool.true_or]

/-- **While a handle is held, the queue dispatches**, whatever the schedule. -/
theorem local_dispatch (maxConcurrentTasks : ℕ) (s₀ s : State τ) (es : List (Event τ))
    (hconnect : connect maxConcurrentTasks = some s₀) (hrun : (system τ).run s₀ es = some s)
    (hheld : Handle.held ∈ s.handles) : Dispatches maxConcurrentTasks s := by
  have hi := inv_of_run hconnect hrun
  have hruns : s.dispatcher ≠ .ended := fun hended => hi.quiet (Or.inr (Or.inl hended)) hheld
  obtain ⟨lost, horder, hlost⟩ := hi.ordered
  rw [hlost hruns, List.append_nil, List.append_assoc] at horder
  have hpermits := hi.permits
  refine ⟨⟨_, horder⟩, hi.working, by omega, fun worker outcome hworker => if_pos hworker, ?_⟩
  intro hslot task htask
  have hfree : 0 < s.permits := by omega
  rw [← horder, List.getElem?_append_right (Nat.le_refl _), Nat.sub_self] at htask
  obtain ⟨rest, hnext⟩ : ∃ rest, s.dispatcher.inHand ++ s.channel = task :: rest := by
    cases hwaiting : s.dispatcher.inHand ++ s.channel with
    | nil =>
      rw [hwaiting] at htask
      cases htask
    | cons first rest =>
      rw [hwaiting] at htask
      cases htask
      exact ⟨rest, rfl⟩
  cases hpolled : s.polled with
  | true => exact run_next hpolled hruns hnext hfree
  | false =>
    have hpoll : (system τ).step s .poll = some { s with polled := true } := by
      change step s .poll = _
      unfold LocalTaskQueue.step
      rw [hpolled, ready_of_next hruns hnext hfree]
      rfl
    obtain ⟨e, es', s', hdispatcher, hrun', hdispatched⟩ :=
      run_next (s := { s with polled := true }) rfl hruns hnext hfree
    refine ⟨.poll, e :: es', s', fun x hx => ?_, System.run_cons_eq_some.2 ⟨_, hpoll, hrun'⟩,
      hdispatched⟩
    rcases List.mem_cons.1 hx with rfl | hx
    · rfl
    · exact hdispatcher x hx

/-- With one worker at most, a task that failed has freed its slot for the
task in hand. -/
theorem local_dispatch_failed :
    Dispatches 0 (⟨[.held], true, [], .acquiring 2, true, 1, [], [1, 2], [1], [1]⟩ : State ℕ) :=
  local_dispatch 0 ⟨[.held], true, [], .receiving, false, 1, [], [], [], []⟩ _
    [.enqueue 0 1, .enqueue 0 2, .poll, .receive, .dispatch, .receive, .finish 0 .failed]
    rfl rfl (by decide)

end LocalTaskQueue

end Dreamscroll
