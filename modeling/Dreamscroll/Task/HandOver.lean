import Dreamscroll.Task.Deliveries
/-!
# A failed hand-over

An enqueue that reports an error may have been accepted all the same, so a
worker may have begun the run by the time its submission records
`SubmissionFailed`. That write keeps what a worker has recorded exactly if
it comes before the first start of an attempt.
-/

namespace Dreamscroll

variable {T : Type} [WebhookTask T]

/-- A worker has recorded its attempt in the row. -/
def WorkerRecorded (row : TaskRunModel) : Prop :=
  row.HasStatus .inProgress ∨ row.HasStatus .errorWillRetry ∨
    row.HasStatus .completeSuccess ∨ row.HasStatus .completeFailure

instance (row : TaskRunModel) : Decidable (WorkerRecorded row) :=
  inferInstanceAs (Decidable (_ ∨ _ ∨ _ ∨ _))

/-- The `SubmissionFailed` write of a run, if the step is one, leaves the
status and the attempts a worker has recorded. -/
def KeepsWorkerRecord (m : TaskMaster) (s : TaskState T) (e : Ev T) (s' : TaskState T) : Prop :=
  ∀ w, m.writeOf s e = some w → w.status = .submissionFailed →
    ∀ row ∈ s.rows, row.runId = w.runId → WorkerRecorded row →
      ∃ row' ∈ s'.rows, row'.runId = row.runId ∧ row'.statusCode = row.statusCode ∧
        row'.attempts = row.attempts

instance (m : TaskMaster) (s s' : TaskState T) (e : Ev T) :
    Decidable (KeepsWorkerRecord m s e s') :=
  inferInstanceAs (Decidable (∀ w ∈ m.writeOf s e, w.status = .submissionFailed →
    ∀ row ∈ s.rows, row.runId = w.runId → WorkerRecorded row →
      ∃ row' ∈ s'.rows, row'.runId = row.runId ∧ row'.statusCode = row.statusCode ∧
        row'.attempts = row.attempts))

/-- The `SubmissionFailed` write of a run, if the step is one, comes before
any attempt of it has written its start. -/
def FailsBeforeStart (m : TaskMaster) (s : TaskState T) (e : Ev T) (_ : TaskState T) : Prop :=
  ∀ w, m.writeOf s e = some w → w.status = .submissionFailed → begunOf s w.runId = []

namespace TaskMaster

variable {m : TaskMaster} {s s' : TaskState T} {e : Ev T} {evs : List (Ev T)}
variable {row r : TaskRunModel} {w : StatusWrite} {runId : String}

omit [WebhookTask T] in
/-- What an attempt writes is a worker's record, and nothing else is. -/
theorem workerRecorded_update (h : Writer m s e w) :
    WorkerRecorded (w.update row) ↔ w.status ≠ .submissionFailed := by
  have hst : ∀ st, (w.update row).HasStatus st ↔ w.status = st := by
    intro st
    rw [TaskRunModel.HasStatus, StatusWrite.update_statusCode, TaskRunStatus.asI32_inj]
  simp only [WorkerRecorded, hst]
  cases h with
  | submission => simp [setStatus]
  | start => simp [markInProgress]
  | @finish d delivery attempt result now =>
    change m.outcomeStatus attempt result = _ ∨ m.outcomeStatus attempt result = _ ∨
      m.outcomeStatus attempt result = _ ∨ m.outcomeStatus attempt result = _ ↔
      m.outcomeStatus attempt result ≠ _
    cases result with
    | ok => simp [outcomeStatus]
    | error err =>
      simp only [outcomeStatus]
      split_ifs <;> simp

/-- **Until its submission has answered or failed, a run's row shows
whether a worker has begun it.** -/
structure RecordInv (m : TaskMaster) (s : TaskState T) : Prop where
  reaches : m.Reaches s
  record : ∀ (c : ℕ) (call : Call T) (run : TaskRun T), s.calls[c]? = some call →
    call.pc.handing = some run → ∀ row ∈ s.rows, row.runId = run.runId →
    (WorkerRecorded row ↔ begunOf s run.runId ≠ [])

omit [WebhookTask T] in
/-- The attempt that finishes has begun. -/
theorem begunOf_ne_nil {d attempt : ℕ} {delivery : Delivery T}
    (hd : s.deliveries[d]? = some delivery) (hb : delivery.pc.begun = some attempt) :
    begunOf s delivery.run.runId ≠ [] := by
  refine List.ne_nil_of_mem (a := attempt) (List.mem_filterMap.2 ⟨delivery, ?_, ?_⟩)
  · exact List.mem_of_getElem? hd
  · simp [hb]

theorem recordInv_of_step (hi : RecordInv m s) (hs : (system T m).step s e = some s') :
    RecordInv m s' := by
  refine ⟨hi.reaches.step hs, ?_⟩
  intro c call' run hc' hrun row' hr' hid'
  have hm := move_of_system hs
  have ht := tableMove_of_move hm
  rcases handing_cases hm hc' hrun with ⟨call, hc, hrun₀, hnowrite⟩ |
    ⟨call, now, reported, he, hc, hpc, hv, hrows⟩
  · by_cases hw : ∃ w, m.writeOf s e = some w ∧ w.runId = run.runId
    · obtain ⟨w, hw, hwid⟩ := hw
      have hwriter := writer_of_writeOf hw
      obtain ⟨r₁, -, hrid, ⟨hne, rfl⟩ | ⟨-, rfl⟩⟩ :=
        StatusWrite.mem_apply (rows_of_write ht hw ▸ hr')
      · exact absurd (hid'.trans hwid.symm) hne
      · rw [workerRecorded_update hwriter]
        cases hwriter with
        | submission hc₁ hpc₁ =>
          -- its own submission would have left the hand-over
          have hcc := eq_of_handing hi.reaches hc₁ hc (by rw [hpc₁]; rfl) hrun₀ hwid
          subst hcc
          exact absurd rfl (hnowrite _)
        | start hd hpc =>
          have hperm := begunOf_of_start hm hw rfl
          rw [hwid] at hperm
          refine iff_of_true (by simp [markInProgress]) fun hnil => ?_
          rw [hnil] at hperm
          exact List.cons_ne_nil _ _ (List.nil_perm.1 hperm)
        | @finish d delivery attempt result now hd hpc =>
          have hb : begunOf s delivery.run.runId ≠ [] := begunOf_ne_nil hd (by rw [hpc]; rfl)
          rw [begunOf_of_not_start hm]
          · refine iff_of_true (outcomeStatus_ne_submissionFailed _ _ _) ?_
            rw [← hwid]
            exact hb
          · intro w' hw' _
            rw [hw] at hw'
            cases hw'
            exact outcomeStatus_ne_inProgress _ _ _
    · rw [begunOf_of_not_start hm fun w hw₁ hwid _ => hw ⟨w, hw₁, hwid⟩]
      rcases row_of_tableMove ht hr' with hr₀ | ⟨w, row₀, hw₁, -, hwid, rfl⟩ |
        ⟨run₁, now, hins, rfl⟩
      · exact hi.record c call run hc hrun₀ row' hr₀ hid'
      · refine absurd ⟨w, hw₁, ?_⟩ hw
        rw [← hwid, ← hid', StatusWrite.update_runId]
      · obtain ⟨row, hin, hrow⟩ := hi.reaches.handInv.handing c call run hc hrun₀
        obtain ⟨evs, hevs⟩ := hi.reaches
        obtain ⟨r, hr, hrid⟩ := row_of_insert hevs hin
        have hr₁ : r.runId = run.runId := congrArg RunIdentity.runId (hrid.trans hrow)
        exact absurd (hr₁.trans hid'.symm) (hins.runId_ne hr)
  · -- a row just inserted is queued, and its run not delivered yet
    have hnew : ∀ r ∈ s.rows, r.runId ≠ run.runId := fun r hr =>
      (violatedKeys_eq_nil.1 hv r hr).2.2
    subst he
    rw [begunOf_of_not_start hm (by intro w hw; cases hw), begunOf_eq_nil hi.reaches hnew]
    rw [hrows, List.mem_append, List.mem_singleton] at hr'
    rcases hr' with hr' | rfl
    · exact absurd hid' (hnew row' hr')
    · refine iff_of_false ?_ (by simp)
      simp [WorkerRecorded, TaskRunModel.HasStatus, queuedRow]

/-- **One failure write, exactly.** It keeps a worker's record if and only
if there is none: no attempt of the run has written its start. -/
theorem keepsWorkerRecord_iff (hi : RecordInv m s) (hs : (system T m).step s e = some s') :
    KeepsWorkerRecord m s e s' ↔ FailsBeforeStart m s e s' := by
  have ht := tableMove_of_move (move_of_system hs)
  constructor
  · intro hkeep w hw hst
    have hkeep' := hkeep w hw hst
    cases writer_of_writeOf hw with
    | start => cases hst
    | finish => exact absurd hst (outcomeStatus_ne_submissionFailed _ _ _)
    | @submission c call run err now hc hpc =>
      have hrun : call.pc.handing = some run := by rw [hpc]; rfl
      obtain ⟨row, hin, hrow⟩ := hi.reaches.handInv.handing c call run hc hrun
      obtain ⟨evs, hevs⟩ := hi.reaches
      obtain ⟨r, hr, hrid⟩ := row_of_insert hevs hin
      have hr₁ : r.runId = run.runId := congrArg RunIdentity.runId (hrid.trans hrow)
      by_contra hbegun
      have hrec := (hi.record c call run hc hrun r hr hr₁).2 hbegun
      obtain ⟨r', hr', hid', hcode, -⟩ := hkeep' r hr hr₁ hrec
      obtain ⟨r₂, -, hrid₂, ⟨hne, rfl⟩ | ⟨-, rfl⟩⟩ :=
        StatusWrite.mem_apply (rows_of_write ht hw ▸ hr')
      · exact hne (hid'.trans hr₁)
      · rw [StatusWrite.update_statusCode] at hcode
        simp [WorkerRecorded, TaskRunModel.HasStatus, ← hcode, setStatus] at hrec
  · intro hbefore w hw hst row hr hid hrec
    have hnil := hbefore w hw hst
    cases writer_of_writeOf hw with
    | start => cases hst
    | finish => exact absurd hst (outcomeStatus_ne_submissionFailed _ _ _)
    | @submission c call run err now hc hpc =>
      have hrun : call.pc.handing = some run := by rw [hpc]; rfl
      exact absurd hnil ((hi.record c call run hc hrun row hr hid).1 hrec)

/-- **Exactly when a failed hand-over keeps the workers' records**: in a
run from the empty table every `SubmissionFailed` write does, if and only
if every one comes before the first start of an attempt of its run. -/
theorem submissionFailed_keeps_iff :
    (system T m).Along (KeepsWorkerRecord m) (TaskState.start [] []) evs ↔
      (system T m).Along (FailsBeforeStart m) (TaskState.start [] []) evs := by
  refine System.along_congr (I := RecordInv m) (fun s e s' hi hs => recordInv_of_step hi hs)
    (fun s e s' hi hs => keepsWorkerRecord_iff hi hs) ⟨System.Reachable.refl, ?_⟩
  intro c call run hc
  cases hc

/-- The enqueue of a run reports an error, but the run was accepted, and a
worker has begun it. -/
def acceptedSchedule : List (Ev SearchIndexTask) :=
  (Ev.submission 0 ⟨7, 1⟩ none "run-1" 0).dropLast ++ [.accept 0, .deliver 0,
    .delivery 0 .read, .delivery 0 (.write 10), .call 0 (.enqueueFailed "deadline exceeded")]

/-- **The failure write then erases what the worker recorded.** -/
theorem submissionFailed_overwrites :
    ¬ ∀ (evs : List (Ev SearchIndexTask)) (s : TaskState SearchIndexTask) e s',
      (system SearchIndexTask ⟨3, true⟩).run (TaskState.start [] []) evs = some s →
      (system SearchIndexTask ⟨3, true⟩).step s e = some s' →
      KeepsWorkerRecord ⟨3, true⟩ s e s' := by
  intro h
  have hkept := h acceptedSchedule _ (.call 0 (.write 20)) _
    (Option.some_get (by decide)).symm (Option.some_get (by decide)).symm
  exact absurd hkept (by decide)

end TaskMaster

end Dreamscroll
