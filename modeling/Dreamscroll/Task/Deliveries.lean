import Dreamscroll.Task.History
/-!
# Deliveries

What is known of a delivery in every state reachable from the empty table:
its run was handed over, so it has a row, the same one for every delivery
of the run; and a delivery only goes forward, so one that stands where it
stood has taken no step since.
-/

namespace Dreamscroll

variable {T : Type}

/-! ## How far a delivery is -/

namespace DeliveryPc

/-- The statements run so far. -/
def rank : DeliveryPc → ℕ
  | .beginRead => 0
  | .beginWrite _ => 1
  | .publishBegin .. => 2
  | .running _ => 3
  | .publishFinish .. => 4
  | .responded .. => 5

/-- Past the read of `begin_attempt`, and yet to write. -/
def active : DeliveryPc → Bool
  | .beginWrite _ | .publishBegin .. | .running _ => true
  | .beginRead | .publishFinish .. | .responded .. => false

/-- The attempt whose start has been written. -/
def begun : DeliveryPc → Option ℕ
  | .publishBegin attempt _ | .running attempt | .publishFinish attempt _ _ => some attempt
  | .responded attempt _ => attempt
  | .beginRead | .beginWrite _ => none

/-- The attempt `begin_attempt` has returned. -/
def issued : DeliveryPc → Option ℕ
  | .running attempt | .publishFinish attempt _ _ => some attempt
  | .responded attempt _ => attempt
  | .beginRead | .beginWrite _ | .publishBegin .. => none

/-- Inside `begin_attempt`, past its read. -/
def halfDone : DeliveryPc → Bool
  | .beginWrite _ | .publishBegin .. => true
  | .beginRead | .running _ | .publishFinish .. | .responded .. => false

end DeliveryPc

/-- The run a call has decided on, while it still works on it. -/
def SubmitPc.run : SubmitPc T → Option (TaskRun T)
  | .insert run | .publishQueued run _ | .enqueue run | .failWrite run _ => some run
  | .dedup | .latest | .recheckInFlight | .recheckConflict | .publishFailed .. | .returned _ => none

/-- The task a call is started with. -/
def Ev.submitted : Ev T → Option T
  | .submit task _ => some task
  | .call .. | .accept _ | .deliver _ | .delivery .. => none

/-- The run an event delivers. -/
def Ev.delivered (s : TaskState T) : Ev T → Option (TaskRun T)
  | .deliver i => s.accepted[i]?
  | .submit .. | .call .. | .accept _ | .delivery .. => none

/-- The run an event records as failed to submit. -/
def Ev.failing (s : TaskState T) : Ev T → Option (TaskRun T)
  | .call c (.write _) => (s.calls[c]?).bind fun call =>
    match call.pc with
    | .failWrite run _ => some run
    | _ => none
  | .call .. | .submit .. | .accept _ | .deliver _ | .delivery .. => none

/-- Whatever the event submits satisfies `P`. -/
def SubmitsOnly (P : T → Prop) (_ : TaskState T) (e : Ev T) (_ : TaskState T) : Prop :=
  ∀ task ∈ e.submitted, P task

instance {P : T → Prop} [DecidablePred P] (s s' : TaskState T) (e : Ev T) :
    Decidable (SubmitsOnly P s e s') := inferInstanceAs (Decidable (∀ task ∈ e.submitted, P task))

/-- The calls, the runs they decided on and the runs handed over are of
tasks that satisfy `P`. -/
structure TasksInv (P : T → Prop) (s : TaskState T) : Prop where
  calls : ∀ (c : ℕ) (call : Call T), s.calls[c]? = some call → P call.task
  runs : ∀ (c : ℕ) (call : Call T) (run : TaskRun T), s.calls[c]? = some call →
    call.pc.run = some run → P run.task
  handed : ∀ h ∈ s.handed, P h.2.task

/-- What is read off the deliveries of one run. -/
def readingsOf {α : Type} (f : DeliveryPc → Option α) (s : TaskState T) (runId : String) :
    List α :=
  s.deliveries.filterMap fun delivery =>
    if delivery.run.runId = runId then f delivery.pc else none

/-- The attempts of a run whose start has been written. -/
def begunOf (s : TaskState T) (runId : String) : List ℕ := readingsOf DeliveryPc.begun s runId

/-- The attempts of a run `begin_attempt` has returned. -/
def issuedOf (s : TaskState T) (runId : String) : List ℕ := readingsOf DeliveryPc.issued s runId

variable [WebhookTask T]

/-- The states of the machine from the empty table. -/
abbrev TaskMaster.Reaches (m : TaskMaster) (s : TaskState T) : Prop :=
  (system T m).Reachable (TaskState.start [] []) s

namespace TaskMaster

variable {m : TaskMaster} {s s' F : TaskState T} {e : Ev T} {es : List (Ev T)} {d : ℕ}
variable {delivery : Delivery T} {choice : Choice} {pc : DeliveryPc} {fx : List (Effect T)}
variable {rows : List TaskRunModel} {row r : TaskRunModel} {runId : String} {run : TaskRun T}
variable {w : StatusWrite}

/-- A step of a delivery is a step forward. -/
theorem rank_lt_of_deliveryMove (h : DeliveryMove m rows delivery choice pc fx) :
    delivery.pc.rank < pc.rank := by
  cases h with
  | _ hpc => rw [hpc]; simp only [DeliveryPc.rank]; omega

/-- A delivery never goes back. -/
theorem rank_le_of_run (hd : s.deliveries[d]? = some delivery)
    (h : (system T m).run s es = some F) :
    ∃ delivery', F.deliveries[d]? = some delivery' ∧ delivery'.run = delivery.run ∧
      delivery.pc.rank ≤ delivery'.pc.rank := by
  refine System.run_inv (I := fun t : TaskState T => ∃ delivery',
    t.deliveries[d]? = some delivery' ∧ delivery'.run = delivery.run ∧
      delivery.pc.rank ≤ delivery'.pc.rank) ?_ ⟨delivery, hd, rfl, le_rfl⟩ h
  rintro t e t' ⟨delivery', hd', hrun, hle⟩ hs
  obtain ⟨pc, hd'', ⟨rfl, -⟩ | ⟨choice, fx, -, hm⟩⟩ := delivery_step (move_of_system hs) hd'
  · exact ⟨_, hd'', hrun, hle⟩
  · exact ⟨_, hd'', hrun, hle.trans (rank_lt_of_deliveryMove hm).le⟩

/-- **A delivery that takes a step never stands there again.** -/
theorem delivery_ne_of_step (hd : s.deliveries[d]? = some delivery)
    (hs : (system T m).step s (.delivery d choice) = some s')
    (h : (system T m).run s' es = some F) : F.deliveries[d]? ≠ some delivery := by
  obtain ⟨pc, hd', ⟨-, hne⟩ | ⟨choice', fx, -, hm⟩⟩ := delivery_step (move_of_system hs) hd
  · exact absurd rfl (hne choice)
  · obtain ⟨delivery', hF, -, hle⟩ := rank_le_of_run hd' h
    intro heq
    rw [hF] at heq
    cases heq
    have hlt := rank_lt_of_deliveryMove hm
    exact absurd hle (Nat.not_le_of_lt hlt)

/-- Every row has one of the six statuses. -/
theorem Reaches.hasStatus (h : m.Reaches s) (hr : row ∈ s.rows) : ∃ st, row.HasStatus st := by
  obtain ⟨evs, hrun⟩ := h
  refine System.run_inv (I := fun t : TaskState T => ∀ row ∈ t.rows, ∃ st, row.HasStatus st) ?_
    (fun row hr => by cases hr) hrun row hr
  intro t e t' hi hs row hr
  rcases row_of_tableMove (tableMove_of_move (move_of_system hs)) hr with hr | ⟨w, r, -, -, -, rfl⟩ |
    ⟨run, now, -, rfl⟩
  · exact hi row hr
  · exact ⟨w.status, StatusWrite.update_statusCode⟩
  · exact ⟨.queued, rfl⟩

/-! ## Where deliveries come from -/

/-- Every reachable state keeps its indexes. -/
theorem Reaches.tableInv (h : m.Reaches s) : TableInv s := by
  obtain ⟨evs, hrun⟩ := h
  exact tableInv_of_run tableInv_empty hrun

/-- Every reachable state has inserted what it hands over. -/
theorem Reaches.handInv (h : m.Reaches s) : HandInv s := by
  obtain ⟨evs, hrun⟩ := h
  exact handInv_of_run hrun

/-- Accepted runs were handed over, and delivered runs accepted. -/
structure QueueInv (s : TaskState T) : Prop where
  handed : ∀ run ∈ s.accepted, ∃ c, (c, run) ∈ s.handed
  accepted : ∀ delivery ∈ s.deliveries, delivery.run ∈ s.accepted

/-- A step keeps the queue to what was handed over. -/
theorem queueInv_of_move (h : Move m s e s') (hi : QueueInv s) : QueueInv s' := by
  have hgrow : ∀ p ∈ s.handed, p ∈ s'.handed := fun _ => mem_handed_of_move h
  cases h with
  | submit =>
    refine ⟨fun run hr => ?_, hi.accepted⟩
    obtain ⟨c, hc⟩ := hi.handed run hr
    exact ⟨c, hgrow _ hc⟩
  | call =>
    refine ⟨fun run hr => ?_, hi.accepted⟩
    obtain ⟨c, hc⟩ := hi.handed run hr
    exact ⟨c, hgrow _ hc⟩
  | @accept i c run hget =>
    refine ⟨fun run₁ hr => ?_, fun delivery hd => ?_⟩
    · rcases List.mem_append.1 hr with hr | hr
      · exact hi.handed run₁ hr
      · rw [List.mem_singleton.1 hr]
        exact ⟨c, List.mem_of_getElem? hget⟩
    · exact List.mem_append_left _ (hi.accepted delivery hd)
  | @deliver i run hget =>
    refine ⟨hi.handed, fun delivery hd => ?_⟩
    rcases List.mem_append.1 hd with hd | hd
    · exact hi.accepted delivery hd
    · rw [List.mem_singleton.1 hd]
      exact List.mem_of_getElem? hget
  | @delivery d choice delivery pc fx hd hm =>
    refine ⟨fun run hr => ?_, fun delivery₁ hd₁ => ?_⟩
    · obtain ⟨c, hc⟩ := hi.handed run hr
      exact ⟨c, hgrow _ hc⟩
    · rcases mem_set_of_some hd₁ with rfl | ⟨j, -, hj⟩
      · exact hi.accepted delivery (List.mem_of_getElem? hd)
      · exact hi.accepted delivery₁ (List.mem_of_getElem? hj)

/-- Every reachable state delivers only what was handed over. -/
theorem Reaches.queueInv (h : m.Reaches s) : QueueInv s := by
  obtain ⟨evs, hrun⟩ := h
  refine System.run_inv (fun _ _ _ hi hs => queueInv_of_move (move_of_system hs) hi) ?_ hrun
  refine ⟨fun run hr => ?_, fun delivery hd => ?_⟩
  · cases hr
  · cases hd

/-- **A delivered run has its row.** -/
theorem Reaches.row_of_delivery (h : m.Reaches s) (hd : s.deliveries[d]? = some delivery) :
    ∃ row ∈ s.rows, row.identity = delivery.run.identity := by
  have hq := h.queueInv
  obtain ⟨c, hc⟩ := hq.handed _ (hq.accepted _ (List.mem_of_getElem? hd))
  obtain ⟨evs, hrun⟩ := h
  exact row_of_hand hrun hc

/-- And the reads and writes by its run id meet that row. -/
theorem find?_runId (hu : UniqueKeys rows) (hr : r ∈ rows) :
    (rows.find? fun row => row.runId = r.runId) = some r := by
  cases hf : rows.find? fun row => row.runId = r.runId with
  | none =>
    have hnone := List.find?_eq_none.1 hf r hr
    simp at hnone
  | some r' =>
    have hid : r'.runId = r.runId := by simpa using List.find?_some hf
    rw [hu.eq_of_runId (List.mem_of_find?_eq_some hf) hr hid]

/-- A run is found by its id. -/
theorem queryRunById_eq (hu : UniqueKeys rows) (hr : r ∈ rows) :
    queryRunById rows r.runId none = some r := by
  rw [← find?_runId hu hr, queryRunById]
  simp

/-- A status write returns the row it wrote. -/
theorem returning_eq {w : StatusWrite} (hu : UniqueKeys rows) (hr : r ∈ rows)
    (hid : r.runId = w.runId) : w.returning rows = some (w.update r) := by
  rw [StatusWrite.returning, ← hid, find?_runId hu hr, Option.map_some]

/-- The row of a run after a write of it. -/
theorem eq_update_of_mem_apply {r' : TaskRunModel} (hu : UniqueKeys rows) (hr : r ∈ rows)
    (hid : r.runId = w.runId) (hr' : r' ∈ w.apply rows) (hid' : r'.runId = w.runId) :
    r' = w.update r := by
  obtain ⟨r₀, hmem, -, ⟨hne, rfl⟩ | ⟨-, rfl⟩⟩ := StatusWrite.mem_apply hr'
  · exact absurd hid' hne
  · have hrr : r₀.runId = r.runId := by rw [hid, ← hid', StatusWrite.update_runId]
    rw [hu.eq_of_runId hmem hr hrr]

/-! ## What is read off the deliveries of a run -/

/-- A step of a delivery leaves what is read off the deliveries alone, or
changes the reading of the one that took it. -/
theorem readingsOf_of_move {α : Type} {f : DeliveryPc → Option α} (hnew : f .beginRead = none)
    (h : Move m s e s') :
    readingsOf f s' runId = readingsOf f s runId ∨
    ∃ d choice delivery pc fx, e = .delivery d choice ∧ s.deliveries[d]? = some delivery ∧
      DeliveryMove m s.rows delivery choice pc fx ∧ delivery.run.runId = runId ∧
      s'.deliveries = s.deliveries.set d { delivery with pc := pc } ∧ f pc ≠ f delivery.pc := by
  cases h with
  | submit => exact Or.inl rfl
  | call => exact Or.inl rfl
  | accept => exact Or.inl rfl
  | deliver =>
    refine Or.inl ?_
    simp only [readingsOf, List.filterMap_append, List.filterMap_cons, List.filterMap_nil, hnew,
      ite_self, List.append_nil]
  | @delivery d choice delivery pc fx hd hm =>
    by_cases hrun : delivery.run.runId = runId
    · by_cases hf : f pc = f delivery.pc
      · refine Or.inl (filterMap_set_of_eq hd ?_)
        simp only [hf]
      · exact Or.inr ⟨d, choice, delivery, pc, fx, rfl, hd, hm, hrun, rfl, hf⟩
    · refine Or.inl (filterMap_set_of_eq hd ?_)
      simp only [if_neg hrun]

/-- **The begun attempts change by a start only**, which adds its number. -/
theorem begunOf_of_start (h : Move m s e s') (hw : m.writeOf s e = some w)
    (hst : w.status = .inProgress) :
    (begunOf s' w.runId).Perm (w.attempts :: begunOf s w.runId) := by
  have hset : ∀ (d : ℕ) (delivery : Delivery T) (pc : DeliveryPc) (attempt : ℕ),
      s.deliveries[d]? = some delivery → delivery.pc.begun = none → pc.begun = some attempt →
      s'.deliveries = s.deliveries.set d { delivery with pc := pc } →
      (begunOf s' delivery.run.runId).Perm (attempt :: begunOf s delivery.run.runId) := by
    intro d delivery pc attempt hd hnone hsome hset
    rw [begunOf, readingsOf, hset]
    exact filterMap_set_perm hd (by simp [hnone]) (by simp [hsome])
  cases writer_of_writeOf hw with
  | submission => cases hst
  | finish _ hpc => exact absurd hst (outcomeStatus_ne_inProgress _ _ _)
  | @start d delivery attempt now hd hpc =>
    cases h with
    | delivery hd' hm =>
      rw [hd] at hd'
      cases hd'
      cases hm with
      | began hpc' =>
        rw [hpc] at hpc'
        cases hpc'
        exact hset d delivery _ attempt hd (by rw [hpc]; rfl) rfl rfl
      | beganMissing hpc' =>
        rw [hpc] at hpc'
        cases hpc'
        exact hset d delivery _ attempt hd (by rw [hpc]; rfl) rfl rfl

/-- Without a begin the attempts of a run stay. -/
theorem begunOf_of_not_start (h : Move m s e s')
    (hno : ∀ w, m.writeOf s e = some w → w.runId = runId → w.status ≠ .inProgress) :
    begunOf s' runId = begunOf s runId := by
  rcases readingsOf_of_move (f := DeliveryPc.begun) rfl h with hsame |
    ⟨d, choice, delivery, pc, fx, he, hd, hm, hrun, -, hne⟩
  · exact hsame
  · subst he
    cases hm with
    | @began attempt now row hpc =>
      have hw : m.writeOf s (.delivery d (.write now)) =
          some (markInProgress delivery.run attempt now) := by simp [writeOf, hd, hpc]
      exact absurd rfl (hno _ hw hrun)
    | @beganMissing attempt now hpc =>
      have hw : m.writeOf s (.delivery d (.write now)) =
          some (markInProgress delivery.run attempt now) := by simp [writeOf, hd, hpc]
      exact absurd rfl (hno _ hw hrun)
    | _ hpc => exact absurd (by rw [hpc]; rfl) hne

/-- A run without a row has no deliveries. -/
theorem readingsOf_eq_nil {α : Type} {f : DeliveryPc → Option α} (h : m.Reaches s)
    (hno : ∀ r ∈ s.rows, r.runId ≠ runId) : readingsOf f s runId = [] := by
  refine List.filterMap_eq_nil_iff.2 fun delivery hd => ?_
  obtain ⟨d, hd⟩ := List.mem_iff_getElem?.1 hd
  obtain ⟨r, hr, hid⟩ := h.row_of_delivery hd
  have hrun : delivery.run.runId ≠ runId := by
    rw [← show r.runId = delivery.run.runId from congrArg RunIdentity.runId hid]
    exact hno r hr
  exact if_neg hrun

/-- A run without a row has no attempts. -/
theorem begunOf_eq_nil (h : m.Reaches s) (hno : ∀ r ∈ s.rows, r.runId ≠ runId) :
    begunOf s runId = [] := readingsOf_eq_nil h hno

/-! ## Runs being handed over -/

/-- A call that hands a run over did so before, and has not written its
failure, or it inserts the row now. -/
theorem handing_cases {c : ℕ} {call' : Call T} {run : TaskRun T} (h : Move m s e s')
    (hc' : s'.calls[c]? = some call') (hrun : call'.pc.handing = some run) :
    (∃ call, s.calls[c]? = some call ∧ call.pc.handing = some run ∧
      ∀ now, e ≠ .call c (.write now)) ∨
    ∃ call now reported, e = .call c (.insert now reported) ∧ s.calls[c]? = some call ∧
      call.pc = .insert run ∧ violatedKeys s.rows (queuedRow run now) = [] ∧
      s'.rows = s.rows ++ [queuedRow run now] := by
  rcases call_of_move h hc' with ⟨hc, hother⟩ | ⟨-, task, b, -, rfl⟩ |
    ⟨choice, call, fx, he, hc, hm, -, hs'⟩
  · exact Or.inl ⟨call', hc, hrun, fun now => hother _⟩
  · cases hrun
  · generalize call'.pc = pc at hm hrun
    subst he
    cases hm with
    | inserted hpc hv =>
      cases hrun
      exact Or.inr ⟨call, _, _, rfl, hc, hpc, hv, by rw [hs']; rfl⟩
    | published hpc =>
      cases hrun
      exact Or.inl ⟨call, hc, by rw [hpc]; rfl, by simp⟩
    | enqueueFailed hpc =>
      cases hrun
      exact Or.inl ⟨call, hc, by rw [hpc]; rfl, by simp⟩
    | _ => cases hrun

/-- Two calls do not hand one run over. -/
theorem eq_of_handing {c c' : ℕ} {call call' : Call T} {run run' : TaskRun T}
    (h : m.Reaches s) (hc : s.calls[c]? = some call) (hc' : s.calls[c']? = some call')
    (hrun : call.pc.handing = some run) (hrun' : call'.pc.handing = some run')
    (hid : run.runId = run'.runId) : c = c' := by
  have hhand := h.handInv
  obtain ⟨row, hin, hrow⟩ := hhand.handing c call run hc hrun
  obtain ⟨row', hin', hrow'⟩ := hhand.handing c' call' run' hc' hrun'
  obtain ⟨evs, hevs⟩ := h
  have hrid : row.runId = row'.runId := calc
    row.runId = run.runId := congrArg RunIdentity.runId hrow
    _ = run'.runId := hid
    _ = row'.runId := (congrArg RunIdentity.runId hrow').symm
  exact (Prod.mk.inj (insert_eq_of_runId hevs hin hin' hrid)).1

/-! ## What is asked of every submitted task -/

/-- The runs the calls decided on, and those handed over, satisfy `P`. -/
structure RunsInv (P : TaskRun T → Prop) (s : TaskState T) : Prop where
  runs : ∀ (c : ℕ) (call : Call T) (run : TaskRun T), s.calls[c]? = some call →
    call.pc.run = some run → P run
  handed : ∀ h ∈ s.handed, P h.2

/-- A step keeps what holds of every run, given that it holds of a new one. -/
theorem runsInv_of_move {P : TaskRun T → Prop} (h : Move m s e s') (hi : RunsInv P s)
    (hnew : ∀ (c : ℕ) (call : Call T) (n : ℕ) (runId : String), s.calls[c]? = some call →
      P (call.newRun n runId)) : RunsInv P s' := by
  refine ⟨fun c call' run hc' hrun => ?_, fun p hp => ?_⟩
  · rcases call_of_move h hc' with ⟨hc, -⟩ | ⟨-, task, b, rfl, rfl⟩ |
      ⟨choice, call, fx, -, hc, hmove, -, -⟩
    · exact hi.runs c call' run hc hrun
    · cases hrun
    · generalize call'.pc = pc at hmove hrun
      cases hmove with
      | decided =>
        cases hrun
        exact hnew c call _ _ hc
      | inserted hpc => exact hi.runs c call run hc (by rw [hpc]; exact hrun)
      | published hpc => exact hi.runs c call run hc (by rw [hpc]; exact hrun)
      | enqueueFailed hpc => exact hi.runs c call run hc (by rw [hpc]; exact hrun)
      | _ => cases hrun
  · rcases handed_of_move h with hsame | ⟨c, call, run, row, hc, hpc, -, hhanded⟩
    · exact hi.handed p (hsame ▸ hp)
    · rw [hhanded, List.mem_append, List.mem_singleton] at hp
      rcases hp with hp | rfl
      · exact hi.handed p hp
      · exact hi.runs c call run hc (by rw [hpc]; rfl)

/-- A step keeps what holds of every task, given that it holds of the
submitted ones. -/
theorem tasksInv_of_step {P : T → Prop} (hi : TasksInv P s)
    (hs : (system T m).step s e = some s') (hP : SubmitsOnly P s e s') : TasksInv P s' := by
  have hm := move_of_system hs
  have hruns : RunsInv (fun run => P run.task) s' :=
    runsInv_of_move hm ⟨hi.runs, hi.handed⟩ fun c call _ _ hc => hi.calls c call hc
  refine ⟨fun c call' hc' => ?_, hruns.runs, hruns.handed⟩
  rcases call_of_move hm hc' with ⟨hc, -⟩ | ⟨-, task, b, rfl, rfl⟩ |
    ⟨choice, call, fx, -, hc, -, heq, -⟩
  · exact hi.calls c call' hc
  · exact hP task rfl
  · rw [heq]
    exact hi.calls c call hc

omit [WebhookTask T] in
/-- Nothing has been submitted at the start. -/
theorem tasksInv_start {P : T → Prop} {accepted₀ : List (TaskRun T)} :
    TasksInv P (TaskState.start rows accepted₀) where
  calls _ _ hc := by cases hc
  runs _ _ _ hc := by cases hc
  handed _ hh := by cases hh

/-- **So the run of every delivery is of such a task.** -/
theorem TasksInv.delivered {P : T → Prop} (hi : TasksInv P s) (h : m.Reaches s)
    (hd : s.deliveries[d]? = some delivery) : P delivery.run.task := by
  have hq := h.queueInv
  obtain ⟨c, hc⟩ := hq.handed _ (hq.accepted _ (List.mem_of_getElem? hd))
  exact hi.handed _ hc

/-- **A run goes by the logical id of its task.** -/
theorem Reaches.logicalId_of_delivery (h : m.Reaches s) (hd : s.deliveries[d]? = some delivery) :
    delivery.run.logicalId = TaskRun.makeLogicalId delivery.run.task := by
  have hq := h.queueInv
  obtain ⟨c, hc⟩ := hq.handed _ (hq.accepted _ (List.mem_of_getElem? hd))
  obtain ⟨evs, hrun⟩ := h
  have hnamed : RunsInv (fun run => run.logicalId = TaskRun.makeLogicalId run.task) s := by
    refine System.run_inv (fun _ _ _ hi hs => runsInv_of_move (move_of_system hs) hi
      fun _ _ _ _ _ => rfl) ⟨fun c call run hc => ?_, fun p hp => ?_⟩ hrun
    · cases hc
    · cases hp
  exact hnamed.handed _ hc

/-- **The run a call works on is the one it decided.** -/
theorem Reaches.run_eq_newRun {c : ℕ} {call : Call T} (h : m.Reaches s)
    (hc : s.calls[c]? = some call) (hrun : call.pc.run = some run) :
    run = call.newRun run.runNumber run.runId := by
  obtain ⟨evs, hevs⟩ := h
  refine System.run_inv (I := fun t : TaskState T => ∀ (c : ℕ) (call : Call T)
    (run : TaskRun T), t.calls[c]? = some call → call.pc.run = some run →
      run = call.newRun run.runNumber run.runId) ?_ (fun c call run hc => by cases hc)
    hevs c call run hc hrun
  intro t e t' hi hs c call' run hc' hrun
  rcases call_of_move (move_of_system hs) hc' with ⟨hc, -⟩ | ⟨-, task, bid, -, rfl⟩ |
    ⟨choice, call, fx, -, hc, hm, heq, -⟩
  · exact hi c call' run hc hrun
  · cases hrun
  · have hnew : ∀ n id, call'.newRun n id = call.newRun n id := by
      intro n id
      rw [heq]
      rfl
    rw [hnew]
    generalize call'.pc = pc at hm hrun
    cases hm with
    | decided =>
      cases hrun
      rfl
    | inserted hpc =>
      cases hrun
      exact hi c call _ hc (by rw [hpc]; rfl)
    | published hpc =>
      cases hrun
      exact hi c call _ hc (by rw [hpc]; rfl)
    | enqueueFailed hpc =>
      cases hrun
      exact hi c call _ hc (by rw [hpc]; rfl)
    | _ => cases hrun

/-- A call in the middle of its hand-over has its row. -/
theorem Reaches.row_of_handing {c : ℕ} {call : Call T} (h : m.Reaches s)
    (hc : s.calls[c]? = some call) (hrun : call.pc.handing = some run) :
    ∃ row ∈ s.rows, row.identity = run.identity := by
  obtain ⟨row, hin, hrow⟩ := h.handInv.handing c call run hc hrun
  obtain ⟨evs, hevs⟩ := h
  obtain ⟨r, hr, hrid⟩ := row_of_insert hevs hin
  exact ⟨r, hr, hrid.trans hrow⟩

/-- What a call is about to answer with, or has answered with, was handed
over by it. -/
structure AnswerInv (s : TaskState T) : Prop where
  enqueue : ∀ (c : ℕ) (call : Call T) (run : TaskRun T), s.calls[c]? = some call →
    call.pc = .enqueue run → (c, run) ∈ s.handed ∧ run.task = call.task
  returned : ∀ (c : ℕ) (call : Call T) (runId : String) (n : ℕ), s.calls[c]? = some call →
    call.pc = .returned (.ok (.enqueued runId n)) →
    ∃ run, (c, run) ∈ s.handed ∧ run.runId = runId ∧ run.task = call.task

/-- A step keeps what a call answers with among what it has handed over. -/
theorem answerInv_of_step (h : m.Reaches s) (hs : (system T m).step s e = some s')
    (hi : AnswerInv s) : AnswerInv s' := by
  have hm := move_of_system hs
  refine ⟨fun c call' run hc' hpc => ?_, fun c call' runId n hc' hpc => ?_⟩
  · rcases call_of_move hm hc' with ⟨hc, -⟩ | ⟨-, task, b, -, rfl⟩ |
      ⟨choice, call, fx, -, hc, hmove, heq, hs'⟩
    · obtain ⟨hh, ht⟩ := hi.enqueue c call' run hc hpc
      exact ⟨mem_handed_of_move hm hh, ht⟩
    · cases hpc
    · rw [hpc] at hmove
      have htask : call'.task = call.task := by rw [heq]
      cases hmove with
      | published hpc₀ =>
        have hrun : run = call.newRun run.runNumber run.runId :=
          h.run_eq_newRun hc (by rw [hpc₀]; rfl)
        refine ⟨?_, by rw [htask, hrun]; rfl⟩
        rw [hs', TaskState.handed_eq, TaskState.perform_log, handsOf_append, handsOf_append]
        exact List.mem_append_right _ (List.mem_append_right _ (List.mem_singleton.2 rfl))
  · rcases call_of_move hm hc' with ⟨hc, -⟩ | ⟨-, task, b, -, rfl⟩ |
      ⟨choice, call, fx, -, hc, hmove, heq, -⟩
    · obtain ⟨run, hh, hrest⟩ := hi.returned c call' runId n hc hpc
      exact ⟨run, mem_handed_of_move hm hh, hrest⟩
    · cases hpc
    · rw [hpc] at hmove
      have htask : call'.task = call.task := by rw [heq]
      cases hmove with
      | enqueued hpc₀ =>
        obtain ⟨hh, ht⟩ := hi.enqueue c call _ hc hpc₀
        exact ⟨_, mem_handed_of_move hm hh, rfl, ht.trans htask.symm⟩
      | found _ ha =>
        -- an earlier run of the backfill is no run of this call
        unfold alreadySubmitted at ha
        split at ha
        · cases ha
        · obtain ⟨row, -, hrow⟩ := Option.map_eq_some_iff.1 ha
          cases hrow

/-- **A call that answered with a run has handed it over.** -/
theorem Reaches.answerInv (h : m.Reaches s) : AnswerInv s := by
  obtain ⟨evs, hevs⟩ := h
  have hstart : AnswerInv (TaskState.start (T := T) [] []) :=
    ⟨fun _ _ _ hc => (by cases hc), fun _ _ _ _ hc => (by cases hc)⟩
  refine (System.run_inv (I := fun t => m.Reaches t ∧ AnswerInv t) ?_
    ⟨System.Reachable.refl, hstart⟩ hevs).2
  rintro t e t' ⟨hreach, hi⟩ hs
  exact ⟨hreach.step hs, answerInv_of_step hreach hs hi⟩

end TaskMaster

end Dreamscroll
