import Dreamscroll.Task.Attempts
import Mathlib.Data.Nat.Find
/-!
# Retries and acknowledgements

The queue delivers a run again until its webhook answers 2xx. Four pieces
have to agree for that to end: the persisted attempt counter, the retry
decision, the status recorded with an attempt and the answer it is mapped
to. Here one run is delivered sequentially, among any other activity, and
`lastAttempt` is the attempt the four of them settle it with.
-/

namespace Dreamscroll

/-! ## What is submitted -/

/-- The caller of a submission, as far as `auth::Context` is asked. -/
structure Context where
  isAdmin : Bool
  userId : ℤ

/-- `ensure_task_submission_allowed`: for the owner of the entity, and for
admins. -/
def ensureTaskSubmissionAllowed {T : Type} [Task T] (context : Context) (task : T) :
    Except ApiError Unit :=
  if context.isAdmin ∨ context.userId = Task.entityOwnerId task then .ok ()
  else .error (ApiError.forbidden
    "Only the target entity owner or an admin can submit this task")

/-- What `submit_illuminate`, `submit_search_index` and `submit_spark` check
before `submit_inner`. -/
def AnyTask.submitCheck (context : Context) : AnyTask → Except ApiError Unit
  | .illuminate t => ensureTaskSubmissionAllowed context t
  | .searchIndex t => ensureTaskSubmissionAllowed context t
  | .spark t =>
    if t.captureIds.isEmpty then
      .error (ApiError.badRequest "submit_spark requires at least one capture_id")
    else ensureTaskSubmissionAllowed context t

/-- Some caller may submit the task. -/
def AnyTask.Submittable (task : AnyTask) : Prop := ∃ context, task.submitCheck context = .ok ()

/-- **What can be submitted is what the webhooks accept.** -/
theorem AnyTask.submittable_iff {task : AnyTask} :
    task.Submittable ↔ WebhookTask.reject task = none := by
  have hadmin : ∀ {T : Type} [Task T] (task : T),
      ensureTaskSubmissionAllowed ⟨true, 0⟩ task = .ok () := by
    intro T _ task
    simp [ensureTaskSubmissionAllowed]
  cases task with
  | illuminate t => exact iff_of_true ⟨⟨true, 0⟩, hadmin t⟩ rfl
  | searchIndex t => exact iff_of_true ⟨⟨true, 0⟩, hadmin t⟩ rfl
  | spark t =>
    by_cases hempty : t.captureIds.isEmpty
    · refine iff_of_false ?_ ?_
      · rintro ⟨context, h⟩
        simp [submitCheck, hempty] at h
      · simp [WebhookTask.reject, hempty]
    · refine iff_of_true ⟨⟨true, 0⟩, ?_⟩ ?_
      · simp only [submitCheck, if_neg hempty]
        exact hadmin t
      · simp [WebhookTask.reject, hempty]

instance : DecidablePred AnyTask.Submittable := fun _ =>
  decidable_of_iff _ AnyTask.submittable_iff.symm

/-! ## The attempt that settles a run -/

/-- The result settles its run whatever the budget: a success, or an error
that is not 5xx. -/
def settles : Except ApiError Unit → Bool
  | .ok () => true
  | .error err => !err.isRetryable

/-- The status a settled run is left with. -/
def settledStatus : Except ApiError Unit → TaskRunStatus
  | .ok () => .completeSuccess
  | .error _ => .completeFailure

variable {m : TaskMaster} {results : ℕ → Except ApiError Unit} {i n q : ℕ}

/-- A run settles as a success exactly when its task succeeded. -/
theorem settledStatus_eq_completeSuccess {result : Except ApiError Unit} :
    settledStatus result = .completeSuccess ↔ result = .ok () := by
  cases result with
  | ok => exact iff_of_true rfl rfl
  | error => exact iff_of_false (by simp [settledStatus]) (by simp)

/-- A settled run is answered with a success, whatever it settled as: there is
nothing to deliver again. -/
theorem isSuccess_settledStatus (result : Except ApiError Unit) :
    isSuccess (httpStatusForTaskRun (settledStatus result)) = true := by
  cases result <;> rfl

namespace TaskMaster

/-- No attempt follows attempt `i`. -/
def Final (m : TaskMaster) (results : ℕ → Except ApiError Unit) (i : ℕ) : Prop :=
  1 ≤ i ∧ (m.maxAttemptsPerRun ≤ i ∨ settles (results i) = true)

instance : DecidablePred (m.Final results) := fun _ => inferInstanceAs (Decidable (_ ∧ _))

/-- There is a last attempt: at the latest the one that exhausts the budget. -/
theorem exists_final (m : TaskMaster) (results : ℕ → Except ApiError Unit) :
    ∃ i, m.Final results i :=
  ⟨max m.maxAttemptsPerRun.toNat 1, Nat.le_max_right _ _, Or.inl (by omega)⟩

/-- **The attempt a run is settled with**: the least of the budget, the
first success and the first error that is not 5xx. -/
def lastAttempt (m : TaskMaster) (results : ℕ → Except ApiError Unit) : ℕ :=
  Nat.find (m.exists_final results)

/-- The last attempt is one that settles the run. -/
theorem final_lastAttempt : m.Final results (m.lastAttempt results) := Nat.find_spec _

/-- At least one attempt is made. -/
theorem lastAttempt_pos : 1 ≤ m.lastAttempt results := final_lastAttempt.1

/-- An attempt is retried exactly if it is not final. -/
theorem outcomeStatus_of_lt (h₁ : 1 ≤ i) (h : i < m.lastAttempt results) :
    m.outcomeStatus i (results i) = .errorWillRetry := by
  have hnot := Nat.find_min (m.exists_final results) h
  simp only [Final, not_and, not_or] at hnot
  obtain ⟨hbudget, hsettles⟩ := hnot h₁
  cases hres : results i with
  | ok => rw [hres] at hsettles; exact absurd rfl hsettles
  | error err =>
    rw [hres] at hsettles
    have hretry : decideWillRetry err i m.maxAttemptsPerRun = true := by
      simp only [settles, Bool.not_eq_true', Bool.not_eq_false] at hsettles
      simp only [decideWillRetry, hsettles, Bool.and_true, decide_eq_true_eq]
      omega
    simp [outcomeStatus, hretry]

/-- The last attempt leaves the status the run settles with. -/
theorem outcomeStatus_lastAttempt :
    m.outcomeStatus (m.lastAttempt results) (results (m.lastAttempt results)) =
      settledStatus (results (m.lastAttempt results)) := by
  obtain ⟨-, hfinal⟩ : m.Final results (m.lastAttempt results) := final_lastAttempt
  generalize m.lastAttempt results = k at hfinal ⊢
  cases hres : results k with
  | ok => rfl
  | error err =>
    rw [hres] at hfinal
    have hretry : decideWillRetry err k m.maxAttemptsPerRun = false := by
      simp only [settles, Bool.not_eq_true'] at hfinal
      simp only [decideWillRetry, Bool.and_eq_false_iff, decide_eq_false_iff_not]
      rcases hfinal with h | h
      · exact Or.inl (by omega)
      · exact Or.inr h
    simp [outcomeStatus, settledStatus, hretry]

end TaskMaster

/-! ## One run, delivered sequentially -/

/-- The answer of a delivery: the attempt it executed, if any, and the
status. -/
def DeliveryPc.answer : DeliveryPc → Option (Option ℕ × ℕ)
  | .responded attempt code => some (attempt, code)
  | .beginRead | .beginWrite _ | .publishBegin .. | .running _ | .publishFinish .. => none

section Queue

variable {T : Type} (s : TaskState T) (runId : String)

/-- How far each delivery of a run is. -/
def pcsOf : List DeliveryPc := readingsOf some s runId

/-- The answers to the deliveries of a run. -/
def responsesOf : List (Option ℕ × ℕ) := readingsOf DeliveryPc.answer s runId

/-- Every delivery of the run has been answered. -/
def Answered : Prop := ∀ pc ∈ pcsOf s runId, pc.answer.isSome

/-- And none of the answers is 2xx. -/
def Unacknowledged : Prop := ∀ pc ∈ pcsOf s runId, pc.answer.any fun a => !isSuccess a.2

/-- The run has completed. -/
def Completed : Prop := ∃ row ∈ s.rows, row.runId = runId ∧ row.HasStatus .completeSuccess

instance : Decidable (Answered s runId) := inferInstanceAs (Decidable (∀ _ ∈ _, _))
instance : Decidable (Unacknowledged s runId) := inferInstanceAs (Decidable (∀ _ ∈ _, _))
instance : Decidable (Completed s runId) := inferInstanceAs (Decidable (∃ _ ∈ _, _))

/-- The result an event ends an attempt of the run with. -/
def Ev.ended : Ev T → Option (Except ApiError Unit)
  | .delivery d (.finish result _) =>
    ((s.deliveries[d]?).filter fun delivery => delivery.run.runId = runId).map fun _ => result
  | .delivery .. | .submit .. | .call .. | .accept _ | .deliver _ => none

end Queue

/-- **The run is delivered sequentially, and again exactly while no answer
is 2xx**: its `i`-th execution ends with `results i`, and its enqueue does
not fail. A completed run may be delivered any number of times more. -/
def Redelivers (m : TaskMaster) (results : ℕ → Except ApiError Unit) (runId : String)
    (s : TaskState AnyTask) (e : Ev AnyTask) (s' : TaskState AnyTask) : Prop :=
  SubmitsOnly AnyTask.Submittable s e s' ∧ NoSubmissionFailure m runId s e s' ∧
  (∀ run ∈ e.delivered s, run.runId = runId →
    Unacknowledged s runId ∨ Answered s runId ∧ Completed s runId) ∧
  ∀ result ∈ e.ended s runId, result = results (issuedOf s runId).length

instance (s s' : TaskState AnyTask) (e : Ev AnyTask) (runId : String) :
    Decidable (Redelivers m results runId s e s') := inferInstanceAs (Decidable (_ ∧ _))

/-! ## Where such a run stands -/

/-- The deliveries of `n` retried attempts. -/
def retried (n : ℕ) : List DeliveryPc := (List.range' 1 n).map fun i => .responded (some i) 500

/-- The row after `n` retried attempts. -/
def RetriedRow (n : ℕ) (row : TaskRunModel) : Prop :=
  row.HasStatus (if n = 0 then .queued else .errorWillRetry) ∧ row.attempts = n

namespace TaskMaster

/-- The deliveries of a settled run, the last `q` of them ignored. -/
def answers (m : TaskMaster) (results : ℕ → Except ApiError Unit) (q : ℕ) : List DeliveryPc :=
  retried (m.lastAttempt results - 1) ++
    .responded (some (m.lastAttempt results))
        (httpStatusForTaskRun (settledStatus (results (m.lastAttempt results)))) ::
      List.replicate q (.responded none noContent)

/-- The row of a settled run. -/
def SettledRow (m : TaskMaster) (results : ℕ → Except ApiError Unit) (row : TaskRunModel) : Prop :=
  row.HasStatus (settledStatus (results (m.lastAttempt results))) ∧
    row.attempts = m.lastAttempt results

/-- What the delivery of attempt `n + 1` and the row say together. -/
def Delivering (m : TaskMaster) (results : ℕ → Except ApiError Unit) (n : ℕ)
    (row : TaskRunModel) : DeliveryPc → Prop
  | .beginRead => RetriedRow n row
  | .beginWrite attempt => attempt = n + 1 ∧ RetriedRow n row
  | .publishBegin attempt _ | .running attempt =>
    attempt = n + 1 ∧ row.HasStatus .inProgress ∧ row.attempts = n + 1
  | .publishFinish attempt status _ => attempt = n + 1 ∧
    status = m.outcomeStatus (n + 1) (results (n + 1)) ∧ row.HasStatus status ∧
    row.attempts = n + 1
  | .responded .. => False

/-- **Where the run stands**: its deliveries, and its row. -/
inductive Phase (m : TaskMaster) (results : ℕ → Except ApiError Unit) :
    List DeliveryPc → TaskRunModel → Prop
  | waiting {n : ℕ} {row : TaskRunModel} : n < m.lastAttempt results → RetriedRow n row →
      Phase m results (retried n) row
  | delivering {n : ℕ} {pc : DeliveryPc} {row : TaskRunModel} : n < m.lastAttempt results →
      m.Delivering results n row pc → Phase m results (retried n ++ [pc]) row
  | settled {q : ℕ} {row : TaskRunModel} : m.SettledRow results row →
      (q ≠ 0 → results (m.lastAttempt results) = .ok ()) →
      Phase m results (m.answers results q) row
  /-- A completed run is delivered once more. -/
  | ignoring {q : ℕ} {row : TaskRunModel} : m.SettledRow results row →
      results (m.lastAttempt results) = .ok () →
      Phase m results (m.answers results q ++ [.beginRead]) row

variable {pcs l l₁ l₂ : List DeliveryPc} {pc pc' x : DeliveryPc} {row row' : TaskRunModel}

/-! ### Reading a phase -/

/-- Every attempt before the last one is answered 500. -/
theorem answer_of_mem_retried (h : pc ∈ retried n) : ∃ attempt, pc.answer = some (attempt, 500) := by
  obtain ⟨i, -, rfl⟩ := List.mem_map.1 h
  exact ⟨some i, rfl⟩

/-- One more retried attempt. -/
theorem retried_succ (n : ℕ) : retried (n + 1) = retried n ++ [.responded (some (n + 1)) 500] := by
  rw [retried, List.range'_concat, List.map_append, Nat.one_mul, Nat.add_comm 1]
  rfl

/-- The answers up to the one that settles the run. -/
theorem answers_zero : m.answers results 0 = retried (m.lastAttempt results - 1) ++
    [.responded (some (m.lastAttempt results))
      (httpStatusForTaskRun (settledStatus (results (m.lastAttempt results))))] := rfl

/-- A redelivery after that is answered without an attempt. -/
theorem answers_succ :
    m.answers results (q + 1) = m.answers results q ++ [.responded none noContent] := by
  rw [answers, answers, List.replicate_succ', List.append_assoc, List.cons_append]

/-- Each of these deliveries has been answered. -/
theorem isSome_answer_of_mem_answers (h : pc ∈ m.answers results q) : pc.answer.isSome := by
  rw [answers, List.mem_append, List.mem_cons] at h
  rcases h with h | rfl | h
  · obtain ⟨attempt, hpc⟩ := answer_of_mem_retried h
    rw [hpc]
    rfl
  · rfl
  · rw [List.eq_of_mem_replicate h]
    rfl

/-- The delivery that still moves is the last one. -/
theorem last_of_append_singleton (hl : ∀ pc ∈ l, pc.answer.isSome) (hpc : pc.answer = none)
    (h : l ++ [x] = l₁ ++ pc :: l₂) : l₁ = l ∧ pc = x ∧ l₂ = [] := by
  rcases List.eq_nil_or_concat l₂ with rfl | ⟨l₃, y, rfl⟩
  · obtain ⟨hl₁, hx⟩ := List.append_inj' h rfl
    cases hx
    exact ⟨hl₁.symm, rfl, rfl⟩
  · rw [List.concat_eq_append, ← List.cons_append, ← List.append_assoc] at h
    obtain ⟨hl₁, -⟩ := List.append_inj' h rfl
    have hmem : pc ∈ l := by
      rw [hl₁]
      exact List.mem_append_right _ List.mem_cons_self
    have hsome := hl pc hmem
    rw [hpc] at hsome
    cases hsome

/-- A delivery without an answer is not among the answered ones. -/
theorem not_mem_of_answered (hl : ∀ pc ∈ l, pc.answer.isSome) (hpc : pc.answer = none) :
    l ≠ l₁ ++ pc :: l₂ := by
  rintro rfl
  have hsome := hl pc (List.mem_append_right _ List.mem_cons_self)
  rw [hpc] at hsome
  cases hsome

/-- A retried attempt has been answered. -/
theorem isSome_answer_of_mem_retried (h : pc ∈ retried n) : pc.answer.isSome := by
  obtain ⟨attempt, hpc⟩ := answer_of_mem_retried h
  rw [hpc]
  rfl

/-- **A delivery of the run that still moves** is the one in progress, or
the redelivery of a completed run. -/
theorem Phase.moving (h : Phase m results (l₁ ++ pc :: l₂) row) (hpc : pc.answer = none) :
    l₂ = [] ∧
    ((∃ n, l₁ = retried n ∧ n < m.lastAttempt results ∧ m.Delivering results n row pc) ∨
      ∃ q, l₁ = m.answers results q ∧ pc = .beginRead ∧ m.SettledRow results row ∧
        results (m.lastAttempt results) = .ok ()) := by
  generalize hpcs : l₁ ++ pc :: l₂ = pcs at h
  cases h with
  | waiting =>
    exact absurd hpcs.symm (not_mem_of_answered (fun _ => isSome_answer_of_mem_retried) hpc)
  | @delivering n pc₀ row hn hd =>
    obtain ⟨rfl, rfl, rfl⟩ :=
      last_of_append_singleton (fun _ => isSome_answer_of_mem_retried) hpc hpcs.symm
    exact ⟨rfl, Or.inl ⟨n, rfl, hn, hd⟩⟩
  | settled =>
    exact absurd hpcs.symm (not_mem_of_answered (fun _ => isSome_answer_of_mem_answers) hpc)
  | @ignoring q row hrow hok =>
    obtain ⟨rfl, rfl, rfl⟩ :=
      last_of_append_singleton (fun _ => isSome_answer_of_mem_answers) hpc hpcs.symm
    exact ⟨rfl, Or.inr ⟨q, rfl, rfl, hrow, hok⟩⟩

/-- The retried attempts are numbered from one on. -/
@[simp] theorem filterMap_issued_retried : (retried n).filterMap DeliveryPc.issued =
    List.range' 1 n := by
  rw [retried, List.filterMap_map, ← List.filterMap_some (l := List.range' 1 n)]
  simp [DeliveryPc.issued, Function.comp_def]

/-- A run that is not settled is not ignored. -/
theorem RetriedRow.decideNextAttempt_eq (h : RetriedRow n row) :
    decideNextAttempt (some row) = some (n + 1) := by
  obtain ⟨hst, hatt⟩ := h
  have hlive : ∀ st, (if n = 0 then TaskRunStatus.queued else .errorWillRetry) ≠ st →
      row.statusCode ≠ st.asI32 := fun st hne heq =>
    hne (TaskRunStatus.asI32_injective (hst.symm.trans heq))
  rw [decideNextAttempt, if_neg (hlive _ _), if_neg (hlive _ _), hatt]
  · split_ifs <;> simp
  · split_ifs <;> simp

/-! ### The phase after a step of the run -/

variable {rows : List TaskRunModel} {delivery : Delivery AnyTask} {choice : Choice}
variable {fx : List (Effect AnyTask)} {w : StatusWrite}

/-- **A step of the run's delivery leads to its next phase.** -/
theorem phase_of_deliveryMove (hu : UniqueKeys rows) (hr : row ∈ rows)
    (hid : row.runId = delivery.run.runId) (hrej : WebhookTask.reject delivery.run.task = none)
    (hph : Phase m results (l₁ ++ delivery.pc :: l₂) row)
    (h : DeliveryMove m rows delivery choice pc fx)
    (hres : ∀ result now, choice = .finish result now → result =
      results ((l₁ ++ delivery.pc :: l₂).filterMap DeliveryPc.issued).length)
    (hr' : row' ∈ fx.foldl Effect.apply rows) (hid' : row'.runId = delivery.run.runId) :
    Phase m results (l₁ ++ pc :: l₂) row' := by
  have hnone : delivery.pc.answer = none := by cases h with | _ hpc => rw [hpc]; rfl
  -- all that a delivery reads and writes is the one row of its run
  have hquery : queryRunById rows delivery.run.runId none = some row := by
    rw [← hid, queryRunById_eq hu hr]
  have hsame : row' ∈ rows → row' = row := fun hmem =>
    hu.eq_of_runId hmem hr (hid'.trans hid.symm)
  have hwrote : ∀ w : StatusWrite, w.runId = delivery.run.runId → row' ∈ w.apply rows →
      row' = w.update row := fun w hw hmem =>
    eq_update_of_mem_apply hu hr (hid.trans hw.symm) hmem (hid'.trans hw.symm)
  obtain ⟨rfl, ⟨n, rfl, hn, hd⟩ | ⟨q, rfl, hpc, hrow, hok⟩⟩ := hph.moving hnone
  · cases h with
    | rejected _ hrej' => rw [hrej] at hrej'; cases hrej'
    | attempt hpc hdec =>
      rw [hpc] at hd
      rw [hquery, RetriedRow.decideNextAttempt_eq hd] at hdec
      cases hdec
      rw [hsame hr']
      exact .delivering hn ⟨rfl, hd⟩
    | ignored hpc hdec =>
      -- a row that is to be retried is not ignored
      rw [hpc] at hd
      rw [hquery, RetriedRow.decideNextAttempt_eq hd] at hdec
      cases hdec
    | began hpc =>
      rw [hpc] at hd
      obtain ⟨rfl, -⟩ := hd
      rw [hwrote _ rfl hr']
      exact .delivering hn ⟨rfl, StatusWrite.update_statusCode, StatusWrite.update_attempts⟩
    | beganMissing _ hmiss => rw [returning_eq hu hr hid] at hmiss; cases hmiss
    | publishedBegin hpc =>
      rw [hpc] at hd
      rw [foldl_publishEffects] at hr'
      rw [hsame hr']
      exact .delivering hn hd
    | @finished attempt result now _ hpc =>
      have hlen : ((retried n ++ [delivery.pc]).filterMap DeliveryPc.issued).length = n + 1 := by
        simp [hpc, DeliveryPc.issued]
      rw [hpc] at hd
      obtain ⟨rfl, -⟩ := hd
      have hresult : result = results (n + 1) := hlen ▸ hres result now rfl
      rw [hwrote _ rfl hr', hresult]
      exact .delivering hn
        ⟨rfl, rfl, StatusWrite.update_statusCode, StatusWrite.update_attempts⟩
    | finishedMissing _ hmiss => rw [returning_eq hu hr hid] at hmiss; cases hmiss
    | publishedFinish hpc =>
      rw [hpc] at hd
      obtain ⟨rfl, rfl, hst, hatt⟩ := hd
      rw [foldl_publishEffects] at hr'
      rw [hsame hr']
      rcases Nat.lt_or_ge (n + 1) (m.lastAttempt results) with hlt | hge
      · -- the attempt is retried
        rw [outcomeStatus_of_lt (Nat.succ_pos n) hlt] at hst ⊢
        have hrow : RetriedRow (n + 1) row := ⟨by rw [if_neg (Nat.succ_ne_zero n)]; exact hst, hatt⟩
        have hph' : Phase m results (retried (n + 1)) row := .waiting hlt hrow
        rw [retried_succ] at hph'
        exact hph'
      · -- the last attempt settles the run
        have hlast : n + 1 = m.lastAttempt results := by omega
        have hn₁ : n = m.lastAttempt results - 1 := by omega
        rw [hlast] at hst hatt ⊢
        rw [outcomeStatus_lastAttempt] at hst ⊢
        have hph' : Phase m results (m.answers results 0) row :=
          .settled ⟨hst, hatt⟩ fun h => absurd rfl h
        rw [answers_zero, ← hn₁] at hph'
        exact hph'
  · -- the run has succeeded before, and this is a redelivery
    have hdone : decideNextAttempt (some row) = none := by
      refine decideNextAttempt_of_completeSuccess ?_
      have hst := hrow.1
      rw [hok] at hst
      exact hst
    cases h with
    | rejected _ hrej' => rw [hrej] at hrej'; cases hrej'
    | attempt _ hdec => rw [hquery, hdone] at hdec; cases hdec
    | ignored =>
      rw [hsame hr', ← answers_succ]
      exact .settled hrow fun _ => hok
    | _ hpc' => rw [hpc] at hpc'; cases hpc'

/-! ## Every step keeps the phase -/

/-- The run stands at a phase, once it has a row. -/
structure RetryInv (m : TaskMaster) (results : ℕ → Except ApiError Unit) (runId : String)
    (s : TaskState AnyTask) : Prop where
  reaches : m.Reaches s
  tasks : TasksInv (fun task => WebhookTask.reject task = none) s
  phase : ∀ row ∈ s.rows, row.runId = runId → Phase m results (pcsOf s runId) row

variable {s s' : TaskState AnyTask} {e : Ev AnyTask} {runId : String} {evs : List (Ev AnyTask)}

/-- A new row has not been attempted. -/
theorem retriedRow_zero {run : TaskRun AnyTask} {now : Timestamp} :
    RetriedRow 0 (queuedRow run now) := ⟨rfl, rfl⟩

/-- An event that neither moves nor writes the run. -/
theorem phase_of_same_pcs (hi : RetryInv m results runId s)
    (hs : (system AnyTask m).step s e = some s') (hpcs : pcsOf s' runId = pcsOf s runId)
    (hw : ∀ w, m.writeOf s e = some w → w.runId ≠ runId) (hr' : row ∈ s'.rows)
    (hid' : row.runId = runId) : Phase m results (pcsOf s' runId) row := by
  rw [hpcs]
  rcases row_of_tableMove (tableMove_of_move (move_of_system hs)) hr' with hr |
    ⟨w, r, hw', -, hid, rfl⟩ | ⟨run, now, hins, rfl⟩
  · exact hi.phase row hr hid'
  · rw [StatusWrite.update_runId] at hid'
    exact absurd (hid.symm.trans hid') (hw w hw')
  · have hnil : pcsOf s runId = [] :=
      readingsOf_eq_nil hi.reaches fun r hr heq => hins.runId_ne hr (heq.trans hid'.symm)
    rw [hnil]
    exact .waiting (Nat.lt_of_lt_of_le Nat.zero_lt_one lastAttempt_pos) retriedRow_zero

/-- A delivery that may start finds a run to retry, or a completed one. -/
theorem Phase.deliver (h : Phase m results pcs row)
    (hd : (∀ pc ∈ pcs, pc.answer.any fun a => !isSuccess a.2) ∨
      (∀ pc ∈ pcs, pc.answer.isSome) ∧ row.HasStatus .completeSuccess) :
    Phase m results (pcs ++ [.beginRead]) row := by
  have hans : ∀ pc ∈ pcs, pc.answer.isSome := by
    rcases hd with hd | ⟨hd, -⟩
    · intro pc hpc
      have hany := hd pc hpc
      cases hc : pc.answer with
      | none => rw [hc] at hany; cases hany
      | some a => rfl
    · exact hd
  cases h with
  | waiting hn hrow => exact .delivering hn hrow
  | @delivering n pc row hn hlive =>
    have hsome := hans pc (List.mem_append_right _ List.mem_cons_self)
    cases pc with
    | responded => exact hlive.elim
    | _ => cases hsome
  | @settled q row hrow hq =>
    refine .ignoring hrow ?_
    rcases hd with hd | ⟨-, hok⟩
    · -- one answer is 2xx
      have hany := hd _ (List.mem_append_right _ List.mem_cons_self)
      simp only [DeliveryPc.answer, Option.any_some, Bool.not_eq_true',
        isSuccess_settledStatus] at hany
      cases hany
    · exact settledStatus_eq_completeSuccess.1
        (TaskRunStatus.asI32_injective (hrow.1.symm.trans hok))
  | ignoring =>
    have hsome := hans .beginRead (List.mem_append_right _ List.mem_cons_self)
    cases hsome

/-- One step of the machine keeps to the contract, by cases on where the
current delivery stands. -/
theorem retryInv_of_step (hi : RetryInv m results runId s)
    (hs : (system AnyTask m).step s e = some s') (hred : Redelivers m results runId s e s') :
    RetryInv m results runId s' := by
  obtain ⟨hsubmit, hsub, hdeliver, hfinish⟩ := hred
  refine ⟨hi.reaches.step hs, ?_, fun row' hr' hid' => ?_⟩
  · exact tasksInv_of_step hi.tasks hs fun task ht => AnyTask.submittable_iff.1 (hsubmit task ht)
  have hm := move_of_system hs
  cases hm with
  | submit => exact hi.phase row' hr' hid'
  | accept => exact hi.phase row' hr' hid'
  | call =>
    refine phase_of_same_pcs hi hs rfl (fun w hw hid => ?_) hr' hid'
    cases writer_of_writeOf hw with
    | submission => exact hsub _ hw hid rfl
  | @deliver i run hget =>
    have hphase := hi.phase row' hr' hid'
    by_cases hrun : run.runId = runId
    · have hpcs : readingsOf some { s with deliveries := s.deliveries ++ [⟨run, .beginRead⟩] }
          runId = pcsOf s runId ++ [.beginRead] := by
        simp [readingsOf, pcsOf, List.filterMap_append, hrun]
      rw [pcsOf, hpcs]
      refine hphase.deliver ?_
      rcases hdeliver run hget hrun with hun | ⟨hans, row, hr, hid, hok⟩
      · exact Or.inl hun
      · rw [hi.reaches.tableInv.unique.eq_of_runId hr hr' (hid.trans hid'.symm)] at hok
        exact Or.inr ⟨hans, hok⟩
    · have hpcs : pcsOf { s with deliveries := s.deliveries ++ [⟨run, .beginRead⟩] } runId =
          pcsOf s runId := by
        simp [readingsOf, pcsOf, List.filterMap_append, hrun]
      rw [hpcs]
      exact hphase
  | @delivery d choice delivery pc fx hd hmove =>
    by_cases hrun : delivery.run.runId = runId
    · obtain ⟨r, hr, hident⟩ := hi.reaches.row_of_delivery hd
      have hrid : r.runId = delivery.run.runId := congrArg RunIdentity.runId hident
      obtain ⟨l₁, l₂, hpcs, hpcs'⟩ := filterMap_set_split (y := { delivery with pc := pc })
        (f := fun x : Delivery AnyTask => if x.run.runId = runId then some x.pc else none) hd
        (if_pos hrun) (if_pos hrun)
      have hphase := hi.phase r hr (hrid.trans hrun)
      rw [pcsOf, readingsOf, hpcs] at hphase
      rw [pcsOf, readingsOf, TaskState.perform_deliveries, TaskState.setDelivery_deliveries, hpcs']
      refine phase_of_deliveryMove hi.reaches.tableInv.unique hr hrid
        (TasksInv.delivered hi.tasks hi.reaches hd) hphase hmove ?_ hr' (hid'.trans hrun.symm)
      rintro result now rfl
      have hlen : (l₁ ++ delivery.pc :: l₂).filterMap DeliveryPc.issued = issuedOf s runId := by
        rw [← hpcs, List.filterMap_filterMap]
        refine List.filterMap_congr fun x _ => ?_
        split_ifs <;> rfl
      rw [hlen]
      exact hfinish result (by simp [Ev.ended, hd, hrun])
    · refine phase_of_same_pcs hi hs (filterMap_set_of_eq hd ?_) (fun w hw hid => ?_) hr' hid'
      · simp only [if_neg hrun]
      · cases writer_of_writeOf hw with
        | start hd' => rw [hd] at hd'; cases hd'; exact hrun hid
        | finish hd' => rw [hd] at hd'; cases hd'; exact hrun hid

/-- The contract holds before the first delivery. -/
theorem retryInv_start : RetryInv m results runId (TaskState.start [] []) :=
  ⟨System.Reachable.refl, tasksInv_start, fun row hr => by cases hr⟩

/-! ## What a phase says -/

/-- The attempts of a run, read off where its deliveries stand. -/
theorem issuedOf_eq : issuedOf s runId = (pcsOf s runId).filterMap DeliveryPc.issued := by
  rw [issuedOf, readingsOf, pcsOf, readingsOf, List.filterMap_filterMap]
  refine List.filterMap_congr fun x _ => ?_
  split_ifs <;> rfl

/-- The answers of a run, read off where its deliveries stand. -/
theorem responsesOf_eq : responsesOf s runId = (pcsOf s runId).filterMap DeliveryPc.answer := by
  rw [responsesOf, readingsOf, pcsOf, readingsOf, List.filterMap_filterMap]
  refine List.filterMap_congr fun x _ => ?_
  split_ifs <;> rfl

/-- The attempts are numbered from one to the last, each once. -/
theorem filterMap_issued_answers : (m.answers results q).filterMap DeliveryPc.issued =
    List.range' 1 (m.lastAttempt results) := by
  have hpos : 1 ≤ m.lastAttempt results := lastAttempt_pos
  have hk : m.lastAttempt results = m.lastAttempt results - 1 + 1 := by omega
  have hrep : (List.replicate q (DeliveryPc.responded none noContent)).filterMap
      DeliveryPc.issued = [] :=
    List.filterMap_eq_nil_iff.2 fun pc hpc => by rw [List.eq_of_mem_replicate hpc]; rfl
  have hcons : ∀ (attempt code : ℕ) (l : List DeliveryPc),
      (DeliveryPc.responded (some attempt) code :: l).filterMap DeliveryPc.issued =
        attempt :: l.filterMap DeliveryPc.issued := fun _ _ _ => rfl
  rw [answers, List.filterMap_append, filterMap_issued_retried, hcons, hrep]
  conv_rhs => rw [hk, List.range'_concat, Nat.one_mul, Nat.add_comm 1, ← hk]

/-- **The bodies executed are those of attempts `1, 2, …`**, and attempt
`lastAttempt` is the last. -/
theorem Phase.issued (h : Phase m results pcs row) :
    ∃ n ≤ m.lastAttempt results, pcs.filterMap DeliveryPc.issued = List.range' 1 n := by
  cases h with
  | @waiting n _ hn => exact ⟨n, hn.le, filterMap_issued_retried⟩
  | @delivering n pc _ hn hd =>
    rw [List.filterMap_append, filterMap_issued_retried]
    cases pc with
    | running attempt =>
      obtain ⟨rfl, -⟩ := hd
      exact ⟨n + 1, hn, by rw [List.range'_concat, Nat.one_mul, Nat.add_comm 1]; rfl⟩
    | publishFinish attempt status row =>
      obtain ⟨rfl, -⟩ := hd
      exact ⟨n + 1, hn, by rw [List.range'_concat, Nat.one_mul, Nat.add_comm 1]; rfl⟩
    | responded => exact hd.elim
    | _ => exact ⟨n, hn.le, List.append_nil _⟩
  | settled => exact ⟨_, le_rfl, filterMap_issued_answers⟩
  | ignoring =>
    refine ⟨_, le_rfl, ?_⟩
    rw [List.filterMap_append, filterMap_issued_answers]
    exact List.append_nil _

/-- **Once every delivery is answered**, the run waits for its next
delivery or is settled. -/
theorem Phase.answered (h : Phase m results pcs row) (ha : ∀ pc ∈ pcs, pc.answer.isSome) :
    (∃ n, n < m.lastAttempt results ∧ RetriedRow n row ∧ pcs = retried n) ∨
      m.SettledRow results row ∧ ∃ q, (q ≠ 0 → results (m.lastAttempt results) = .ok ()) ∧
        pcs = m.answers results q := by
  cases h with
  | @waiting n _ hn hrow => exact Or.inl ⟨n, hn, hrow, rfl⟩
  | @delivering n pc _ hn hd =>
    have hsome := ha pc (List.mem_append_right _ List.mem_cons_self)
    cases pc with
    | responded => exact hd.elim
    | _ => cases hsome
  | @settled q _ hrow hq => exact Or.inr ⟨hrow, q, hq, rfl⟩
  | ignoring =>
    have hsome := ha .beginRead (List.mem_append_right _ List.mem_cons_self)
    cases hsome

/-- **A completed run** is publishing its last attempt, or is settled. -/
theorem Phase.completed (h : Phase m results pcs row) (hok : row.HasStatus .completeSuccess) :
    (∃ status row', pcs = retried (m.lastAttempt results - 1) ++
        [.publishFinish (m.lastAttempt results) status row']) ∨
      ∃ q, pcs = m.answers results q ∨ pcs = m.answers results q ++ [.beginRead] := by
  have hne : ∀ st, row.HasStatus st → st = .completeSuccess := fun st hst =>
    TaskRunStatus.asI32_injective (hst.symm.trans hok)
  have hretried : ∀ n, ¬ RetriedRow n row := by
    intro n hrow
    have hst := hne _ hrow.1
    split_ifs at hst
  cases h with
  | waiting _ hrow => exact absurd hrow (hretried _)
  | @delivering n pc _ hn hd =>
    cases pc with
    | beginRead => exact absurd hd (hretried _)
    | beginWrite => exact absurd hd.2 (hretried _)
    | publishBegin => exact absurd (hne _ hd.2.1) (by simp)
    | running => exact absurd (hne _ hd.2.1) (by simp)
    | publishFinish attempt status row' =>
      obtain ⟨rfl, rfl, hst, -⟩ := hd
      have hlast : n + 1 = m.lastAttempt results := by
        by_contra hlt
        rw [outcomeStatus_of_lt (Nat.succ_pos n) (by omega)] at hst
        exact absurd (hne _ hst) (by simp)
      exact Or.inl ⟨_, row', by rw [← hlast, Nat.add_sub_cancel]⟩
    | responded => exact hd.elim
  | @settled q => exact Or.inr ⟨q, Or.inl rfl⟩
  | @ignoring q => exact Or.inr ⟨q, Or.inr rfl⟩

end TaskMaster

end Dreamscroll
