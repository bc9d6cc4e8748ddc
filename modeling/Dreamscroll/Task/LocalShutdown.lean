import Dreamscroll.Task.LocalQueue
/-!
# The last drop of a local task queue

`Drop for LocalTaskQueue` reads the strong count before the count goes down,
so whether the dispatcher is aborted depends on how the drops overlap: it is
exactly if one of them read the count when its handle was the only one left.
A dispatcher that nobody aborted goes on to dispatch what waits
(`local_shutdown_iff`).
-/

namespace Dreamscroll

namespace LocalTaskQueue

variable {τ : Type} {s s' s₀ : State τ} {e : Event τ} {es : List (Event τ)} {h n : ℕ}

/-- **The dispatcher was aborted**, and none of the tasks that wait in the
channel is ever dispatched. -/
def ShutDown (s : State τ) : Prop :=
  s.dispatcherHandle = false ∧ ∀ es s', (system τ).run s es = some s' →
    s'.dispatched.length + s.channel.length ≤ s.enqueued.length

/-- A drop reads the count when its handle is the only one left. -/
def CountsLast (s : State τ) (e : Event τ) (_ : State τ) : Prop :=
  (∃ h, e = .count h) ∧ s.strongCount = 1

/-! ## Who aborts -/

/-- The dispatcher was aborted, or a drop is about to. -/
def Aborting (s : State τ) : Prop :=
  s.dispatcherHandle = false ∨ Handle.counted 1 ∈ s.handles

theorem mem_setHandle_of_ne {x old handle : Handle} (hold : s.handles[h]? = some old)
    (hne : x ≠ old) : x ∈ (s.setHandle h handle).handles ↔ x = handle ∨ x ∈ s.handles := by
  constructor
  · exact mem_setHandle
  · rintro (rfl | hx)
    · exact List.mem_set (List.getElem?_eq_some_iff.1 hold).1 x
    · obtain ⟨j, hj⟩ := List.mem_iff_getElem?.1 hx
      have hjh : j ≠ h := by
        rintro rfl
        rw [hold] at hj
        exact hne (Option.some.inj hj).symm
      exact List.mem_of_getElem? ((getElem?_set_of_ne hjh).trans hj)

/-- **Only a drop that reads the count as one aborts.** -/
theorem aborting_step (hstep : Step s e s') : Aborting s' ↔ Aborting s ∨ CountsLast s e s' := by
  have hnot : (∀ h, e ≠ .count h) → (Aborting s ∨ CountsLast s e s' ↔ Aborting s) :=
    fun hne => or_iff_left fun hlast => hlast.1.elim fun h heq => hne h heq
  cases hstep with
  | refuse | enqueue | poll | receive | hangUp | dispatch | finish => exact (hnot nofun).symm
  | clone =>
    rw [hnot nofun]
    refine or_congr_right ⟨fun hmem => ?_, List.mem_append_left _⟩
    rcases List.mem_append.1 hmem with hmem | hmem
    · exact hmem
    · cases List.mem_singleton.1 hmem
  | count hheld =>
    have hlast : ∀ i t, CountsLast s (.count i) t ↔ Handle.counted 1 = .counted s.strongCount := by
      intro i t
      rw [Handle.counted.injEq]
      exact ⟨fun hlast => hlast.2.symm, fun heq => ⟨⟨i, rfl⟩, heq.symm⟩⟩
    rw [hlast]
    unfold Aborting
    rw [mem_setHandle_of_ne (x := .counted 1) hheld Handle.noConfusion, or_assoc,
      or_comm (a := Handle.counted 1 ∈ s.handles)]
    rfl
  | abort hlast =>
    rw [hnot nofun, State.aborted_eq]
    exact iff_of_true (Or.inl rfl) (Or.inr (List.mem_of_getElem? hlast))
  | release hdropped hother =>
    rw [hnot nofun]
    refine or_congr_right ((mem_setHandle_of_ne hdropped ?_).trans (or_iff_right nofun))
    rintro rfl
    rcases hother with heq | ⟨count, hcount, heq⟩
    · cases heq
    · injection heq with heq
      exact hcount heq.symm
  | park =>
    rw [hnot nofun, State.aborted_eq]
    rfl

/-! ## After the last drop -/

theorem handle_ne_of_gone {handle : Handle} (hgone : s.strongCount = 0)
    (hh : s.handles[h]? = some handle) : handle = .released := by
  by_contra hne
  exact List.countP_eq_zero.1 hgone handle (List.mem_of_getElem? hh) (decide_eq_true hne)

/-- **Nothing is enqueued any more.** -/
theorem gone_step (hgone : s.strongCount = 0) (hstep : Step s e s') :
    s'.strongCount = 0 ∧ s'.enqueued = s.enqueued := by
  cases hstep with
  | clone hheld | count hheld | enqueue hheld | refuse hheld =>
    cases handle_ne_of_gone hgone hheld
  | abort hlast => cases handle_ne_of_gone hgone hlast
  | release hdropped hother =>
    rw [handle_ne_of_gone hgone hdropped] at hother
    rcases hother with heq | ⟨_, _, heq⟩ <;> cases heq
  | poll | receive | hangUp | dispatch | finish => exact ⟨hgone, rfl⟩
  | park =>
    rw [State.aborted_eq]
    exact ⟨hgone, rfl⟩

/-- **A dispatcher that ended dispatches nothing.** -/
theorem ended_step (hended : s.dispatcher = .ended) (hstep : Step s e s') :
    s'.dispatcher = .ended ∧ s'.dispatched = s.dispatched := by
  cases hstep with
  | clone | refuse | count | release | poll | finish => exact ⟨hended, rfl⟩
  | enqueue _ hruns => exact absurd hended hruns
  | receive _ hreceiving | hangUp _ hreceiving => cases hended.symm.trans hreceiving
  | dispatch _ hacquiring => cases hended.symm.trans hacquiring
  | abort | park =>
    rw [State.aborted_eq]
    refine ⟨?_, rfl⟩
    dsimp only
    split_ifs
    · rfl
    · exact hended

/-- **With every handle gone, a dispatcher that was aborted and is not
polled has ended**, and the tasks in the channel stay there. -/
theorem shutDown_of_aborted (hi : Inv n s) (hgone : s.strongCount = 0)
    (hdown : s.dispatcherHandle = false) (hrest : ¬ (s.polled = true ∧ s.channel ≠ [])) :
    ShutDown s := by
  refine ⟨hdown, fun es s' hrun => ?_⟩
  have hlength : ∀ {t : State τ}, Ordered t →
      t.dispatched.length + t.channel.length ≤ t.enqueued.length := by
    rintro t ⟨lost, horder, -⟩
    rw [← horder]
    simp only [List.length_append]
    omega
  by_cases hchannel : s.channel = []
  · -- nothing waits, and nothing is enqueued any more
    have hkept : Ordered s' ∧ s'.strongCount = 0 ∧ s'.enqueued = s.enqueued := by
      refine System.run_inv (I := fun t => Ordered t ∧ t.strongCount = 0 ∧ t.enqueued = s.enqueued)
        ?_ ⟨hi.ordered, hgone, rfl⟩ hrun
      rintro t e t' ⟨ho, hg, hsame⟩ hstep
      obtain ⟨hg', hsame'⟩ := gone_step hg (step_cases hstep)
      exact ⟨ho.step (step_cases hstep), hg', hsame'.trans hsame⟩
    have hle := hlength hkept.1
    rw [hkept.2.2] at hle
    rw [hchannel, List.length_nil]
    omega
  · have hidle : s.polled = false :=
      Bool.eq_false_iff.2 fun hpolled => hrest ⟨hpolled, hchannel⟩
    have hkept : s'.dispatcher = .ended ∧ s'.dispatched = s.dispatched := by
      refine System.run_inv (I := fun t => t.dispatcher = .ended ∧ t.dispatched = s.dispatched)
        ?_ ⟨hi.aborted hdown hidle, rfl⟩ hrun
      rintro t e t' ⟨hended, hsame⟩ hstep
      obtain ⟨hended', hsame'⟩ := ended_step hended (step_cases hstep)
      exact ⟨hended', hsame'.trans hsame⟩
    rw [hkept.2]
    exact hlength hi.ordered

/-! ## A poll that is under way -/

/-- A permit comes free, at the latest when a worker is done. -/
theorem run_permit (hi : Inv n s) : ∃ es permits workers finished, 0 < permits ∧
    (system τ).run s es =
      some { s with permits := permits, workers := workers, finished := finished } := by
  by_cases hfree : 0 < s.permits
  · exact ⟨[], s.permits, s.workers, s.finished, hfree, rfl⟩
  · have hpermits := hi.permits
    have hworks : 0 < s.workers.length := by omega
    have hstep : (system τ).step s (.finish 0 .ok) =
        some { s with workers := s.workers.eraseIdx 0, permits := s.permits + 1,
                      finished := s.finished ++ s.workers[0]?.toList } := if_pos hworks
    exact ⟨[.finish 0 .ok], s.permits + 1, s.workers.eraseIdx 0, _, Nat.succ_pos _,
      System.run_singleton.trans hstep⟩

theorem run_hand (hi : Inv n s) {task : τ} (hpolled : s.polled = true)
    (hacquiring : s.dispatcher = .acquiring task) :
    ∃ es s', (system τ).run s es = some s' ∧ s'.dispatched = s.dispatched ++ [task] ∧
      s'.polled = true ∧ s'.dispatcher = .receiving ∧ s'.channel = s.channel := by
  obtain ⟨es, permits, workers, finished, hfree, hrun⟩ := run_permit hi
  obtain ⟨s', hrun', hdispatched⟩ := run_dispatch
    (s := { s with permits := permits, workers := workers, finished := finished })
    hpolled hacquiring hfree
  exact ⟨es ++ [.dispatch], s', System.run_append_eq_some.2 ⟨_, hrun, hrun'⟩, hdispatched⟩

theorem run_channel (hi : Inv n s) {task : τ} {channel : List τ} (hpolled : s.polled = true)
    (hreceiving : s.dispatcher = .receiving) (hchannel : s.channel = task :: channel) :
    ∃ es s', (system τ).run s es = some s' ∧ s'.dispatched = s.dispatched ++ [task] := by
  obtain ⟨es, permits, workers, finished, hfree, hrun⟩ := run_permit hi
  obtain ⟨s', hrun', hdispatched⟩ := run_receive_dispatch
    (s := { s with permits := permits, workers := workers, finished := finished })
    hpolled hreceiving hchannel hfree
  exact ⟨es ++ [.receive, .dispatch], s', System.run_append_eq_some.2 ⟨_, hrun, hrun'⟩, hdispatched⟩

/-- **A dispatcher that is polled goes on to a task that waits**, aborted
or not. -/
theorem not_shutDown_of_polled (hi : Inv n s) (hpolled : s.polled = true)
    (hchannel : s.channel ≠ []) : ¬ ShutDown s := by
  rintro ⟨-, hnever⟩
  obtain ⟨task, channel, hwaits⟩ := List.exists_cons_of_ne_nil hchannel
  obtain ⟨lost, horder, hlost⟩ := hi.ordered
  rw [hlost (hi.polled hpolled), List.append_nil] at horder
  cases hplace : s.dispatcher with
  | ended => exact hi.polled hpolled hplace
  | receiving =>
    obtain ⟨es, s', hrun, hdispatched⟩ := run_channel hi hpolled hplace hwaits
    have hle := hnever es s' hrun
    rw [hdispatched, ← horder, hplace] at hle
    simp only [Dispatcher.inHand, List.length_append, List.length_singleton, List.length_nil] at hle
    omega
  | acquiring hand =>
    obtain ⟨es, s₁, hrun, hdispatched, hpolled', hreceiving, hchannel'⟩ :=
      run_hand hi hpolled hplace
    have hi₁ : Inv n s₁ := System.run_inv (fun _ _ _ => Inv.step) hi hrun
    obtain ⟨es', s', hrun', hdispatched'⟩ :=
      run_channel hi₁ hpolled' hreceiving (hchannel'.trans hwaits)
    have hle := hnever (es ++ es') s' (System.run_append_eq_some.2 ⟨s₁, hrun, hrun'⟩)
    rw [hdispatched', hdispatched, ← horder, hplace] at hle
    simp only [Dispatcher.inHand, List.length_append, List.length_singleton] at hle
    omega

/-- **Once the last handle is dropped, the queue is shut down exactly if one
of the drops read the count when it was the last**, and the runtime is not
just polling the dispatcher with tasks still in the channel. -/
theorem local_shutdown_iff (maxConcurrentTasks : ℕ) (s₀ s : State τ) (es : List (Event τ))
    (hconnect : connect maxConcurrentTasks = some s₀) (hrun : (system τ).run s₀ es = some s)
    (hgone : s.strongCount = 0) :
    ShutDown s ↔ (system τ).Occurs CountsLast s₀ es ∧ ¬ (s.polled = true ∧ s.channel ≠ []) := by
  have hi := inv_of_run hconnect hrun
  have haborting : s.dispatcherHandle = false ↔ (system τ).Occurs CountsLast s₀ es := by
    have hiff : Aborting s ↔ Aborting s₀ ∨ _ :=
      System.iff_occurs_of_run (fun _ _ _ hstep => aborting_step (step_cases hstep)) hrun
    have hstart : ¬ Aborting s₀ := by
      unfold connect at hconnect
      split_ifs at hconnect
      cases hconnect
      rintro (hdown | hone)
      · cases hdown
      · cases List.mem_singleton.1 hone
    have hend : Handle.counted 1 ∉ s.handles := by
      intro hmem
      obtain ⟨h, hh⟩ := List.mem_iff_getElem?.1 hmem
      cases handle_ne_of_gone hgone hh
    exact (or_iff_left hend).symm.trans (hiff.trans (or_iff_right hstart))
  constructor
  · intro hshut
    exact ⟨haborting.1 hshut.1, fun hrest => not_shutDown_of_polled hi hrest.1 hrest.2 hshut⟩
  · rintro ⟨hlast, hrest⟩
    exact shutDown_of_aborted hi hgone (haborting.2 hlast) hrest

/-- Two drops, one after the other: the second aborts. -/
theorem local_shutdown_in_turn :
    ShutDown (⟨[.released, .released], false, [7], .ended, false, 1, [], [7], [], []⟩ : State ℕ) := by
  refine (local_shutdown_iff 1 ⟨[.held], true, [], .receiving, false, 1, [], [], [], []⟩ _
    [.clone 0, .enqueue 0 7, .count 0, .release 0, .count 1, .abort 1, .release 1] rfl rfl rfl).2
    ⟨?_, by decide⟩
  exact ⟨_, rfl, Or.inr ⟨_, rfl, Or.inr ⟨_, rfl, Or.inr ⟨_, rfl, Or.inr ⟨_, rfl,
    Or.inl ⟨⟨1, rfl⟩, rfl⟩⟩⟩⟩⟩⟩

/-- The two drops overlap: both read a count of two, nobody aborts, and the
task that waits is dispatched after the last of them. -/
theorem local_shutdown_drains :
    (system ℕ).run ⟨[.held], true, [], .receiving, false, 1, [], [], [], []⟩
        [.clone 0, .enqueue 0 7, .count 0, .count 1, .release 0, .release 1] =
      some ⟨[.released, .released], true, [7], .receiving, false, 1, [], [7], [], []⟩ ∧
    (system ℕ).run ⟨[.released, .released], true, [7], .receiving, false, 1, [], [7], [], []⟩
        [.poll, .receive, .dispatch] =
      some ⟨[.released, .released], true, [], .receiving, true, 0, [7], [7], [7], []⟩ ∧
    ¬ ShutDown (⟨[.released, .released], true, [7], .receiving, false, 1, [], [7], [], []⟩ : State ℕ) :=
  ⟨rfl, rfl, fun hshut => Bool.false_ne_true hshut.1.symm⟩

end LocalTaskQueue

end Dreamscroll
