import Dreamscroll.Webhook.Retry
import Mathlib.Algebra.GroupWithZero.Nat
/-!
# The retry contract

What a run delivered sequentially comes to: the body is executed by
attempts `1, …, lastAttempt` and no more, every answer before the last is
5xx with the row at `ErrorWillRetry`, the last is 2xx with the row settled,
and a completed run ignores whatever is delivered after that.
-/

namespace Dreamscroll

namespace TaskMaster

variable {m : TaskMaster} {results : ℕ → Except ApiError Unit} {n q : ℕ} {runId : String}
variable {s s' : TaskState AnyTask} {e : Ev AnyTask} {evs es : List (Ev AnyTask)}
variable {row r : TaskRunModel} {run : TaskRun AnyTask} {delivery : Delivery AnyTask}
variable {pcs : List DeliveryPc} {pc : DeliveryPc} {d j : ℕ}

/-- **The retry contract** of a run, in a state of its row `row`. -/
structure RetryContract (m : TaskMaster) (results : ℕ → Except ApiError Unit) (runId : String)
    (row : TaskRunModel) (s : TaskState AnyTask) : Prop where
  /-- The body is executed by the attempts `1, 2, …`, at most `lastAttempt`. -/
  executed : ∃ n ≤ m.lastAttempt results, issuedOf s runId = List.range' 1 n
  /-- After delivery `n`, before the last. -/
  retrying : ∀ n < m.lastAttempt results, Answered s runId →
    issuedOf s runId = List.range' 1 n →
    row.HasStatus (if n = 0 then .queued else .errorWillRetry) ∧ row.attempts = n ∧
      responsesOf s runId = (List.range' 1 n).map fun i => (some i, 500)
  /-- After the last, and whatever is delivered of a completed run. -/
  settled : Answered s runId → issuedOf s runId = List.range' 1 (m.lastAttempt results) →
    row.HasStatus (settledStatus (results (m.lastAttempt results))) ∧
      row.attempts = m.lastAttempt results ∧
      ∃ q, (q ≠ 0 → results (m.lastAttempt results) = .ok ()) ∧
        responsesOf s runId =
          ((List.range' 1 (m.lastAttempt results - 1)).map fun i => (some i, 500)) ++
            (some (m.lastAttempt results),
                httpStatusForTaskRun (settledStatus (results (m.lastAttempt results)))) ::
              List.replicate q (none, noContent)
  /-- A 2xx answer is a settled row. -/
  acknowledged : Answered s runId →
    ((∃ answer ∈ responsesOf s runId, isSuccess answer.2 = true) ↔ row.inFlight = false)
  /-- A completed run executes nothing more, and its row stays. -/
  kept : row.HasStatus .completeSuccess → ∀ es s', (system AnyTask m).run s es = some s' →
    (system AnyTask m).Along (Redelivers m results runId) s es →
    row ∈ s'.rows ∧ issuedOf s' runId = issuedOf s runId
  /-- And if the queue goes on, the last attempt is reached. -/
  finishes : (∃ run ∈ s.accepted, run.runId = runId) →
    ∃ es s', (system AnyTask m).run s es = some s' ∧
      (system AnyTask m).Along (Redelivers m results runId) s es ∧ Answered s' runId ∧
      issuedOf s' runId = List.range' 1 (m.lastAttempt results)

/-! ## The answers -/

/-- The retried attempts are answered 500, each under its number. -/
theorem filterMap_answer_retried : (retried n).filterMap DeliveryPc.answer =
    (List.range' 1 n).map fun i => (some i, 500) := by
  rw [retried, List.filterMap_map, ← List.filterMap_eq_map]
  rfl

/-- All the answers: the retried ones, the one that settles, and no content
for each redelivery after it. -/
theorem filterMap_answer_answers : (m.answers results q).filterMap DeliveryPc.answer =
    ((List.range' 1 (m.lastAttempt results - 1)).map fun i => (some i, 500)) ++
      (some (m.lastAttempt results),
          httpStatusForTaskRun (settledStatus (results (m.lastAttempt results)))) ::
        List.replicate q (none, noContent) := by
  have hcons : ∀ (attempt : Option ℕ) (code : ℕ) (l : List DeliveryPc),
      (DeliveryPc.responded attempt code :: l).filterMap DeliveryPc.answer =
        (attempt, code) :: l.filterMap DeliveryPc.answer := fun _ _ _ => rfl
  have hrep : (List.replicate q (DeliveryPc.responded none noContent)).filterMap
      DeliveryPc.answer = List.replicate q (none, noContent) := by
    induction q with
    | zero => rfl
    | succ q ih => rw [List.replicate_succ, hcons, ih, List.replicate_succ]
  rw [answers, List.filterMap_append, filterMap_answer_retried, hcons, hrep]

/-- A run between two attempts is in flight. -/
theorem RetriedRow.inFlight (h : RetriedRow n row) : row.inFlight = true := by
  rw [TaskRunModel.inFlight_eq_of_hasStatus h.1]
  split_ifs <;> rfl

/-- A settled run is not in flight. -/
theorem SettledRow.inFlight (h : m.SettledRow results row) : row.inFlight = false := by
  rw [TaskRunModel.inFlight_eq_of_hasStatus h.1]
  cases results (m.lastAttempt results) <;> rfl

/-- Only the answers of a settled run have a 2xx among them. -/
theorem not_isSuccess_of_mem_retried {answer : Option ℕ × ℕ}
    (h : answer ∈ (retried n).filterMap DeliveryPc.answer) : isSuccess answer.2 = false := by
  rw [filterMap_answer_retried] at h
  obtain ⟨i, -, rfl⟩ := List.mem_map.1 h
  rfl

/-- Some delivery is answered with a success, so that the queue stops. -/
theorem exists_isSuccess_of_answers :
    ∃ answer ∈ (m.answers results q).filterMap DeliveryPc.answer, isSuccess answer.2 = true := by
  rw [filterMap_answer_answers]
  exact ⟨_, List.mem_append_right _ List.mem_cons_self, isSuccess_settledStatus _⟩

/-! ## A completed run is kept -/

/-- No delivery of a completed run is past its read. -/
theorem Phase.not_active_of_completed (h : Phase m results pcs row)
    (hok : row.HasStatus .completeSuccess) (hpc : pc ∈ pcs) : pc.active = false := by
  have hold : ∀ pc : DeliveryPc, pc.answer.isSome → pc.active = false := by
    intro pc hpc
    cases pc with
    | responded => rfl
    | _ => cases hpc
  rcases h.completed hok with ⟨status, row', rfl⟩ | ⟨q, rfl | rfl⟩
  · rcases List.mem_append.1 hpc with hpc | hpc
    · exact hold pc (isSome_answer_of_mem_retried hpc)
    · rw [List.mem_singleton.1 hpc]
      rfl
  · exact hold pc (isSome_answer_of_mem_answers hpc)
  · rcases List.mem_append.1 hpc with hpc | hpc
    · exact hold pc (isSome_answer_of_mem_answers hpc)
    · rw [List.mem_singleton.1 hpc]
      rfl

/-- And it has executed its last attempt. -/
theorem Phase.issued_of_completed (h : Phase m results pcs row)
    (hok : row.HasStatus .completeSuccess) :
    pcs.filterMap DeliveryPc.issued = List.range' 1 (m.lastAttempt results) := by
  rcases h.completed hok with ⟨status, row', rfl⟩ | ⟨q, rfl | rfl⟩
  · rw [← filterMap_issued_answers (q := 0), answers_zero, List.filterMap_append,
      List.filterMap_append]
    rfl
  · exact filterMap_issued_answers
  · rw [List.filterMap_append, filterMap_issued_answers]
    exact List.append_nil _

/-- A success stays as it is along the rest of the run. -/
theorem kept_of_retryInv (hi : RetryInv m results runId s) (hr : row ∈ s.rows)
    (hid : row.runId = runId) (hok : row.HasStatus .completeSuccess)
    (hrun : (system AnyTask m).run s es = some s')
    (hred : (system AnyTask m).Along (Redelivers m results runId) s es) : row ∈ s'.rows := by
  have hidle : ∀ (d : ℕ) (delivery : Delivery AnyTask), s.deliveries[d]? = some delivery →
      delivery.run.runId = row.runId → delivery.pc.active = false := by
    intro d delivery hd hrun₁
    refine (hi.phase row hr hid).not_active_of_completed hok ?_
    exact List.mem_filterMap.2 ⟨delivery, List.mem_of_getElem? hd, if_pos (hrun₁.trans hid)⟩
  refine (System.run_inv_along (I := Absorbed s row) ?_ ?_ hrun hred).mem
  · intro s₁ e s₂ habs hs hstep
    refine absorbed_of_step hok habs hs ?_
    rintro ⟨w, hw, hwid, hst | ⟨d, choice, delivery, -, hd, hrun₁, hact⟩⟩
    · exact hstep.2.1 w hw (hwid.trans hid) hst
    · rw [hidle d delivery hd hrun₁] at hact
      cases hact
  · refine ⟨hi.reaches.tableInv, hr, fun d delivery hd hrun₁ hact => ?_⟩
    rw [hidle d delivery hd hrun₁] at hact
    cases hact

/-- The contract holds along every run. -/
theorem retryInv_of_run (hi : RetryInv m results runId s)
    (hrun : (system AnyTask m).run s es = some s')
    (hred : (system AnyTask m).Along (Redelivers m results runId) s es) :
    RetryInv m results runId s' :=
  System.run_inv_along (fun _ _ _ hi hs hred => retryInv_of_step hi hs hred) hi hrun hred

/-! ## The queue gets there -/

/-- The statements run by the deliveries of a list, and the deliveries. -/
def progress (pcs : List DeliveryPc) : ℕ := (pcs.map fun pc => pc.rank + 1).sum

/-- The progress of the retried deliveries. -/
theorem progress_retried : progress (retried n) = 6 * n := by
  induction n with
  | zero => rfl
  | succ n ih =>
    rw [retried_succ, progress, List.map_append, List.sum_append, ← progress, ih]
    simp only [List.map_cons, List.map_nil, List.sum_cons, List.sum_nil, DeliveryPc.rank]
    omega

/-- One more delivery is progress. -/
theorem progress_append : progress (pcs ++ [pc]) = progress pcs + pc.rank + 1 := by
  simp only [progress, List.map_append, List.sum_append, List.map_cons, List.map_nil,
    List.sum_cons, List.sum_nil]
  omega

/-- What the environment supplies to the next statement of a delivery. -/
def nextChoice (result : Except ApiError Unit) : DeliveryPc → Choice
  | .beginRead | .responded .. => .read
  | .beginWrite _ => .write 0
  | .publishBegin .. | .publishFinish .. => .publish none
  | .running _ => .finish result 0

/-- **A delivery without an answer can go on.** -/
theorem exists_deliveryStep (m : TaskMaster) (rows : List TaskRunModel)
    (delivery : Delivery AnyTask) (result : Except ApiError Unit)
    (h : delivery.pc.answer = none) :
    ∃ next, m.deliveryStep rows delivery (nextChoice result delivery.pc) = some next := by
  rw [← Option.isSome_iff_exists]
  obtain ⟨run, pc⟩ := delivery
  cases pc with
  | beginRead =>
    simp only [nextChoice, deliveryStep]
    split
    · rfl
    · split <;> rfl
  | beginWrite attempt =>
    simp only [nextChoice, deliveryStep]
    split <;> rfl
  | publishBegin => rfl
  | running attempt =>
    simp only [nextChoice, deliveryStep]
    split <;> rfl
  | publishFinish => rfl
  | responded => cases h

/-- A statement of a delivery is progress. -/
theorem progress_lt {l₁ l₂ : List DeliveryPc} {pc' : DeliveryPc} (h : pc.rank < pc'.rank) :
    progress (l₁ ++ pc :: l₂) < progress (l₁ ++ pc' :: l₂) := by
  simp only [progress, List.map_append, List.map_cons, List.sum_append, List.sum_cons]
  omega

/-- The result that ends an attempt is the one the stream gives. -/
theorem eq_of_mem_ended {result r : Except ApiError Unit}
    (h : result ∈ Ev.ended s runId (.delivery d (nextChoice r pc))) : result = r := by
  cases pc with
  | running attempt =>
    obtain ⟨delivery, -, heq⟩ := Option.map_eq_some_iff.1 h
    exact heq.symm
  | _ => cases h

/-- No delivery writes `SubmissionFailed`. -/
theorem status_ne_of_delivery {w : StatusWrite} {choice : Choice}
    (h : m.writeOf s (.delivery d choice) = some w) : w.status ≠ .submissionFailed := by
  cases writer_of_writeOf h with
  | start => simp [markInProgress]
  | finish => exact outcomeStatus_ne_submissionFailed _ _ _

/-- A delivery of the run without an answer takes a step the queue grants. -/
theorem exists_step_of_mem (m : TaskMaster) (results : ℕ → Except ApiError Unit)
    (hpc : pc ∈ pcsOf s runId) (hans : pc.answer = none) :
    ∃ d delivery choice pc' fx s' l₁ l₂, delivery.pc = pc ∧ s.deliveries[d]? = some delivery ∧
      delivery.run.runId = runId ∧ DeliveryMove m s.rows delivery choice pc' fx ∧
      (system AnyTask m).step s (.delivery d choice) = some s' ∧
      Redelivers m results runId s (.delivery d choice) s' ∧ s'.accepted = s.accepted ∧
      pcsOf s runId = l₁ ++ pc :: l₂ ∧ pcsOf s' runId = l₁ ++ pc' :: l₂ := by
  obtain ⟨delivery, hmem, hif⟩ := List.mem_filterMap.1 hpc
  obtain ⟨d, hd⟩ := List.mem_iff_getElem?.1 hmem
  have hrun : delivery.run.runId = runId := by
    by_contra hne
    rw [if_neg hne] at hif
    cases hif
  rw [if_pos hrun] at hif
  obtain rfl : delivery.pc = pc := Option.some.inj hif
  obtain ⟨⟨pc', fx⟩, hstep⟩ := exists_deliveryStep m s.rows delivery
    (results (issuedOf s runId).length) hans
  obtain ⟨l₁, l₂, hpcs, hpcs'⟩ := filterMap_set_split (y := { delivery with pc := pc' })
    (f := fun x : Delivery AnyTask => if x.run.runId = runId then some x.pc else none) hd
    (if_pos hrun) (if_pos hrun)
  refine ⟨d, delivery, _, pc', fx,
    (s.setDelivery d { delivery with pc := pc' }).perform fx, l₁, l₂, rfl, hd, hrun,
    deliveryMove_of_step hstep, ?_, ⟨fun _ h => (by cases h), fun w hw _ => ?_,
      fun _ h => (by cases h), fun result hresult => eq_of_mem_ended hresult⟩, rfl, hpcs, hpcs'⟩
  · simp only [system, step, hd, Option.bind_some, hstep, Option.map_some]
  · exact status_ne_of_delivery hw

/-- The run has executed its last attempt, and every delivery is answered. -/
def Finished (m : TaskMaster) (results : ℕ → Except ApiError Unit) (runId : String)
    (s : TaskState AnyTask) : Prop :=
  Answered s runId ∧ issuedOf s runId = List.range' 1 (m.lastAttempt results)

/-- With all its answers given, the run is finished. -/
theorem finished_of_answers (h : pcsOf s runId = m.answers results q) :
    Finished m results runId s := by
  refine ⟨fun pc hpc => isSome_answer_of_mem_answers (h ▸ hpc), ?_⟩
  rw [issuedOf_eq, h, filterMap_issued_answers]

/-- **Until it is finished, the run gets closer to it.** -/
theorem exists_progress (hi : RetryInv m results runId s) (hj : s.accepted[j]? = some run)
    (hrun : run.runId = runId) (hr : row ∈ s.rows) (hid : row.runId = runId) :
    Finished m results runId s ∨
    ∃ e s', (system AnyTask m).step s e = some s' ∧ Redelivers m results runId s e s' ∧
      (Finished m results runId s' ∨ s'.accepted = s.accepted ∧
        progress (pcsOf s runId) < progress (pcsOf s' runId) ∧
        progress (pcsOf s runId) < 6 * m.lastAttempt results) := by
  have hphase := hi.phase row hr hid
  generalize hpcs : pcsOf s runId = pcs at hphase
  cases hphase with
  | @waiting n row hn hrow =>
    -- nothing is under way: the queue delivers the run again
    have hpcs' : pcsOf { s with deliveries := s.deliveries ++ [⟨run, .beginRead⟩] } runId =
        retried n ++ [.beginRead] := by
      rw [← hpcs]
      simp [pcsOf, readingsOf, List.filterMap_append, hrun]
    refine Or.inr ⟨.deliver j, { s with deliveries := s.deliveries ++ [⟨run, .beginRead⟩] }, ?_,
      ⟨fun _ h => (by cases h), fun _ hw => (by cases hw), fun _ _ _ => Or.inl ?_,
        fun _ h => (by cases h)⟩, Or.inr ⟨rfl, ?_, ?_⟩⟩
    · simp only [system, step, hj, Option.map_some]
    · intro pc hpc
      rw [hpcs] at hpc
      obtain ⟨attempt, hans⟩ := answer_of_mem_retried hpc
      rw [hans]
      rfl
    · rw [hpcs', progress_append]
      omega
    · rw [progress_retried]
      omega
  | @delivering n pc row hn hd =>
    -- a delivery is under way, and has a next statement
    have hans : pc.answer = none := by
      cases pc with
      | responded => exact hd.elim
      | _ => rfl
    obtain ⟨d, delivery, choice, pc', fx, s', l₁, l₂, rfl, -, -, hmove, hs, hred, hacc, hsplit,
      hsplit'⟩ := exists_step_of_mem m results
        (by rw [hpcs]; exact List.mem_append_right _ List.mem_cons_self) hans
    refine Or.inr ⟨_, s', hs, hred, Or.inr ⟨hacc, ?_, ?_⟩⟩
    · rw [← hpcs, hsplit, hsplit']
      exact progress_lt (rank_lt_of_deliveryMove hmove)
    · have hrank := rank_lt_of_deliveryMove hmove
      have hle : pc'.rank ≤ 5 := by cases pc' <;> simp [DeliveryPc.rank]
      rw [progress_append, progress_retried]
      omega
  | settled => exact Or.inl (finished_of_answers hpcs)
  | @ignoring q row hrow hok =>
    -- a redelivery of a success is answered at its first statement
    obtain ⟨d, delivery, choice, pc', fx, s', l₁, l₂, hpc, hd, hrun₁, hmove, hs, hred, -, hsplit,
      hsplit'⟩ := exists_step_of_mem m results
        (by rw [hpcs]; exact List.mem_append_right _ List.mem_cons_self) rfl
    rw [hpcs] at hsplit
    obtain ⟨rfl, -, rfl⟩ :=
      last_of_append_singleton (fun _ => isSome_answer_of_mem_answers) rfl hsplit
    refine Or.inr ⟨_, s', hs, hred, Or.inl ?_⟩
    have hdone : decideNextAttempt (queryRunById s.rows delivery.run.runId none) = none := by
      rw [hrun₁, ← hid, queryRunById_eq hi.reaches.tableInv.unique hr]
      refine decideNextAttempt_of_completeSuccess ?_
      have hst := hrow.1
      rw [hok] at hst
      exact hst
    cases hmove with
    | rejected _ hrej => rw [TasksInv.delivered hi.tasks hi.reaches hd] at hrej; cases hrej
    | attempt _ hdec => rw [hdone] at hdec; cases hdec
    | ignored =>
      rw [← answers_succ] at hsplit'
      exact finished_of_answers hsplit'
    | _ hpc' => rw [hpc] at hpc'; cases hpc'

/-- From any state the run can be finished, by induction on what is left of
its deliveries. -/
theorem finishes_of_retryInv (hi : RetryInv m results runId s) (hj : s.accepted[j]? = some run)
    (hrun : run.runId = runId) :
    ∃ es s', (system AnyTask m).run s es = some s' ∧
      (system AnyTask m).Along (Redelivers m results runId) s es ∧
      Finished m results runId s' := by
  -- by induction on the statements left
  induction hleft : 6 * m.lastAttempt results - progress (pcsOf s runId) using
    Nat.strong_induction_on generalizing s with
  | _ left ih =>
    obtain ⟨c, hc⟩ := hi.reaches.queueInv.handed run (List.mem_of_getElem? hj)
    obtain ⟨evs, hevs⟩ := hi.reaches
    obtain ⟨row, hr, hident⟩ := row_of_hand hevs hc
    have hid : row.runId = runId := (congrArg RunIdentity.runId hident).trans hrun
    rcases exists_progress hi hj hrun hr hid with hfin | ⟨e, s', hs, hred, hnext⟩
    · exact ⟨[], s, rfl, trivial, hfin⟩
    have hcons : ∀ es s₂, (system AnyTask m).run s' es = some s₂ →
        (system AnyTask m).Along (Redelivers m results runId) s' es →
        (system AnyTask m).run s (e :: es) = some s₂ ∧
          (system AnyTask m).Along (Redelivers m results runId) s (e :: es) := by
      intro es s₂ hrun₂ hred₂
      refine ⟨System.run_cons_eq_some.2 ⟨s', hs, hrun₂⟩, fun t ht => ?_⟩
      rw [hs] at ht
      cases ht
      exact ⟨hred, hred₂⟩
    rcases hnext with hfin | ⟨hacc, hlt, hbound⟩
    · obtain ⟨h₁, h₂⟩ := hcons [] s' rfl trivial
      exact ⟨[e], s', h₁, h₂, hfin⟩
    · obtain ⟨es, s₂, hrun₂, hred₂, hfin⟩ := ih _ (by omega) (retryInv_of_step hi hs hred)
        (by rw [hacc]; exact hj) rfl
      obtain ⟨h₁, h₂⟩ := hcons es s₂ hrun₂ hred₂
      exact ⟨e :: es, s₂, h₁, h₂, hfin⟩

/-! ## The contract -/

/-- **The retry contract holds**, for every configured budget, every
sequence of results, and whatever else the machine does. -/
theorem retry_contract {maxAttempts : Option ℤ} {notifier : Bool}
    (hrun : (system AnyTask (build maxAttempts notifier)).run (TaskState.start [] []) evs = some s)
    (hred : (system AnyTask (build maxAttempts notifier)).Along
      (Redelivers (build maxAttempts notifier) results runId) (TaskState.start [] []) evs)
    (hr : row ∈ s.rows) (hid : row.runId = runId) :
    RetryContract (build maxAttempts notifier) results runId row s := by
  generalize build maxAttempts notifier = m at hrun hred ⊢
  have hi : RetryInv m results runId s := retryInv_of_run retryInv_start hrun hred
  have hphase := hi.phase row hr hid
  refine ⟨?_, fun n hn ha hissued => ?_, fun ha hissued => ?_, fun ha => ?_,
    fun hok es s' hrun' hred' => ?_, fun hacc => ?_⟩
  · rw [issuedOf_eq]
    exact hphase.issued
  · rw [issuedOf_eq] at hissued
    rw [responsesOf_eq]
    rcases hphase.answered ha with ⟨n', -, hrow, hpcs⟩ | ⟨-, q, -, hpcs⟩
    · rw [hpcs, filterMap_issued_retried] at hissued
      obtain rfl : n' = n := by simpa using congrArg List.length hissued
      rw [hpcs, filterMap_answer_retried]
      exact ⟨hrow.1, hrow.2, rfl⟩
    · -- a settled run has issued its last attempt already
      rw [hpcs, filterMap_issued_answers] at hissued
      have hlen := congrArg List.length hissued
      simp only [List.length_range'] at hlen
      omega
  · rw [issuedOf_eq] at hissued
    rw [responsesOf_eq]
    rcases hphase.answered ha with ⟨n', hn', -, hpcs⟩ | ⟨hrow, q, hq, hpcs⟩
    · rw [hpcs, filterMap_issued_retried] at hissued
      have hlen := congrArg List.length hissued
      simp only [List.length_range'] at hlen
      omega
    · rw [hpcs, filterMap_answer_answers]
      exact ⟨hrow.1, hrow.2, q, hq, rfl⟩
  · rw [responsesOf_eq]
    rcases hphase.answered ha with ⟨n', -, hrow, hpcs⟩ | ⟨hrow, q, -, hpcs⟩
    · rw [hpcs, RetriedRow.inFlight hrow]
      refine iff_of_false ?_ (by simp)
      rintro ⟨answer, hmem, hsucc⟩
      rw [not_isSuccess_of_mem_retried hmem] at hsucc
      cases hsucc
    · rw [hpcs]
      exact iff_of_true exists_isSuccess_of_answers hrow.inFlight
  · have hr' := kept_of_retryInv hi hr hid hok hrun' hred'
    have hphase' := (retryInv_of_run hi hrun' hred').phase row hr' hid
    rw [issuedOf_eq, issuedOf_eq, hphase.issued_of_completed hok,
      hphase'.issued_of_completed hok]
    exact ⟨hr', rfl⟩
  · obtain ⟨run, hmem, hrunId⟩ := hacc
    obtain ⟨j, hj⟩ := List.mem_iff_getElem?.1 hmem
    obtain ⟨es, s', h₁, h₂, hfin⟩ := finishes_of_retryInv hi hj hrunId
    exact ⟨es, s', h₁, h₂, hfin.1, hfin.2⟩

/-- An attempt fails with a 5xx error, the next succeeds, and the run is
delivered once more. -/
def redeliveredSchedule : List (Ev AnyTask) :=
  Ev.submission 0 (.searchIndex ⟨7, 1⟩) none "run-1" 0 ++ [.accept 0] ++
    Ev.attempt 0 0 (.error (ApiError.internal "timeout")) 10 ++ Ev.attempt 0 1 (.ok ()) 20 ++
    [.deliver 0, .delivery 2 .read]

/-- The second attempt fails, the others do not. -/
def redeliveredResults (i : ℕ) : Except ApiError Unit :=
  if i = 1 then .error (ApiError.internal "timeout") else .ok ()

/-- The state after that. -/
def redeliveredState : TaskState AnyTask :=
  ((system AnyTask (build (some 5) true)).run (TaskState.start [] []) redeliveredSchedule).get
    (by decide)

/-- A run whose first attempt fails and whose second succeeds, delivered once
more. -/
theorem retry_contract_success : RetryContract (build (some 5) true) redeliveredResults "run-1"
    (redeliveredState.rows.head (by decide)) redeliveredState :=
  retry_contract (Option.some_get _).symm (by decide) (List.head_mem _) (by decide)

end TaskMaster

end Dreamscroll
