import Dreamscroll.Task.HandOver
/-!
# What a row of each status holds

The nullable columns of a row are written with its status: an attempt's
start writes when it started, its end how long it took and what went wrong.
So what the reports read from a row of a status is there.
-/

namespace Dreamscroll

variable {T : Type} [WebhookTask T]

/-- The columns that go with the row's status. -/
structure Recorded (row : TaskRunModel) : Prop where
  started : WorkerRecorded row → row.processingStartedAt.isSome
  succeeded : row.HasStatus .completeSuccess → row.successDurationMs.isSome
  failed : row.HasStatus .errorWillRetry ∨ row.HasStatus .completeFailure →
    row.lastErrorDurationMs.isSome ∧ row.lastErrorCode.isSome ∧ row.lastErrorMessage.isSome

namespace TaskMaster

variable {m : TaskMaster} {s s' : TaskState T} {e : Ev T}
variable {row r : TaskRunModel} {w : StatusWrite} {run : TaskRun T} {now : Timestamp}

omit [WebhookTask T] in
/-- A start that was recorded stays so. -/
theorem started_update (h : r.processingStartedAt.isSome) :
    (w.update r).processingStartedAt.isSome := by
  unfold StatusWrite.update StatusWrite.applyExtras withErrorColumns
  split
  · exact h
  · exact h
  · rfl
  · split_ifs
    · exact h
    · dsimp only
      split <;> exact h
    · exact h

omit [WebhookTask T] in
theorem hasStatus_update {st : TaskRunStatus} : (w.update r).HasStatus st ↔ w.status = st := by
  rw [TaskRunModel.HasStatus, StatusWrite.update_statusCode, TaskRunStatus.asI32_inj]

omit [WebhookTask T] in
/-- **The end of an attempt records what its status asks for**, if the
attempt's start was recorded. -/
theorem recorded_finishWrite {attempt : ℕ} {result : Except ApiError Unit}
    (h : r.processingStartedAt.isSome) :
    Recorded ((m.finishWrite run attempt result now).update r) := by
  obtain ⟨started, hstarted⟩ := Option.isSome_iff_exists.1 h
  refine ⟨fun _ => started_update h, fun hok => ?_, fun hfailed => ?_⟩
  · have hstatus : m.outcomeStatus attempt result = .completeSuccess := hasStatus_update.1 hok
    simp [finishWrite, recordOutcome, StatusWrite.update, StatusWrite.applyExtras, hstatus,
      attemptDurationMs, hstarted]
  · have hstatus : m.outcomeStatus attempt result = .errorWillRetry ∨
        m.outcomeStatus attempt result = .completeFailure := by
      rcases hfailed with hretry | hterminal
      · exact Or.inl (hasStatus_update.1 hretry)
      · exact Or.inr (hasStatus_update.1 hterminal)
    cases result with
    | ok => rcases hstatus with hstatus | hstatus <;> cases hstatus
    | error err =>
      have hne : m.outcomeStatus attempt (.error err) ≠ .completeSuccess := by
        intro hok
        rw [hok] at hstatus
        rcases hstatus with hstatus | hstatus <;> cases hstatus
      simp [finishWrite, recordOutcome, StatusWrite.update, StatusWrite.applyExtras, hstatus, hne,
        attemptDurationMs, hstarted, resultError, withErrorColumns]

/-- **A run that was begun has its start recorded, and every row the columns
of its status.** -/
structure ColumnsInv (m : TaskMaster) (s : TaskState T) : Prop where
  reaches : m.Reaches s
  begun : ∀ row ∈ s.rows, begunOf s row.runId ≠ [] → row.processingStartedAt.isSome
  recorded : ∀ row ∈ s.rows, Recorded row

omit [WebhookTask T] in
/-- What a write leaves of the run it is about. -/
theorem ColumnsInv.of_writer [WebhookTask T] (hi : ColumnsInv m s) (hw : Writer m s e w)
    (hr : r ∈ s.rows) (hid : r.runId = w.runId) (hm : Move m s e s')
    (hwrite : m.writeOf s e = some w) :
    (begunOf s' w.runId ≠ [] → (w.update r).processingStartedAt.isSome) ∧
      Recorded (w.update r) := by
  have hkeeps : w.status ≠ .inProgress → begunOf s' w.runId ≠ [] →
      (w.update r).processingStartedAt.isSome := by
    intro hne hbegun
    rw [begunOf_of_not_start hm fun w' hw' _ => by
      rw [hwrite] at hw'
      exact Option.some.inj hw' ▸ hne] at hbegun
    exact started_update (hi.begun r hr (hid ▸ hbegun))
  cases hw with
  | submission =>
    refine ⟨hkeeps (fun h => by cases h), fun hworked => ?_, fun hok => ?_, fun hfailed => ?_⟩
    · rcases hworked with h | h | h | h <;> cases hasStatus_update.1 h
    · cases hasStatus_update.1 hok
    · rcases hfailed with h | h <;> cases hasStatus_update.1 h
  | start =>
    refine ⟨fun _ => rfl, fun _ => rfl, fun hok => ?_, fun hfailed => ?_⟩
    · cases hasStatus_update.1 hok
    · rcases hfailed with h | h <;> cases hasStatus_update.1 h
  | @finish d delivery attempt result now hd hpc =>
    have hbegun : begunOf s delivery.run.runId ≠ [] := begunOf_ne_nil hd (by rw [hpc]; rfl)
    have hstarted := hi.begun r hr (by rw [hid]; exact hbegun)
    exact ⟨hkeeps (outcomeStatus_ne_inProgress _ _ _), recorded_finishWrite hstarted⟩

theorem columnsInv_of_step (hi : ColumnsInv m s) (hs : (system T m).step s e = some s') :
    ColumnsInv m s' := by
  have hm := move_of_system hs
  have ht := tableMove_of_move hm
  have hrow : ∀ row ∈ s'.rows, (begunOf s' row.runId ≠ [] → row.processingStartedAt.isSome) ∧
      Recorded row := by
    intro row hr
    by_cases hwrite : ∃ w, m.writeOf s e = some w ∧ w.runId = row.runId
    · -- the row is the one the step writes
      obtain ⟨w, hw, hid⟩ := hwrite
      obtain ⟨r, hr₀, -, ⟨hne, rfl⟩ | ⟨heq, rfl⟩⟩ :=
        StatusWrite.mem_apply (rows_of_write ht hw ▸ hr)
      · exact absurd hid.symm hne
      · rw [← hid]
        exact hi.of_writer (writer_of_writeOf hw) hr₀ heq hm hw
    · have hbegun : begunOf s' row.runId = begunOf s row.runId :=
        begunOf_of_not_start hm fun w hw hid _ => hwrite ⟨w, hw, hid⟩
      rw [hbegun]
      rcases row_of_tableMove ht hr with hr₀ | ⟨w, r, hw, -, hid, rfl⟩ | ⟨run, now, hins, rfl⟩
      · exact ⟨hi.begun row hr₀, hi.recorded row hr₀⟩
      · exact absurd ⟨w, hw, by rw [StatusWrite.update_runId, hid]⟩ hwrite
      · refine ⟨fun hne => absurd ?_ hne, fun hworked => ?_, fun hok => ?_, fun hfailed => ?_⟩
        · exact begunOf_eq_nil hi.reaches fun r hr => hins.runId_ne hr
        · simp [WorkerRecorded, TaskRunModel.HasStatus, queuedRow] at hworked
        · simp [TaskRunModel.HasStatus, queuedRow] at hok
        · simp [TaskRunModel.HasStatus, queuedRow] at hfailed
  exact ⟨hi.reaches.step hs, fun row hr => (hrow row hr).1, fun row hr => (hrow row hr).2⟩

theorem columnsInv_start : ColumnsInv m (TaskState.start [] [] : TaskState T) where
  reaches := System.Reachable.refl
  begun _ hr := absurd hr List.not_mem_nil
  recorded _ hr := absurd hr List.not_mem_nil

/-- **Every row there is has the columns of its status.** -/
theorem Reaches.recorded (h : m.Reaches s) : ∀ row ∈ s.rows, Recorded row := by
  obtain ⟨evs, hrun⟩ := h
  exact (System.run_inv (fun _ _ _ => columnsInv_of_step) columnsInv_start hrun).recorded

end TaskMaster

end Dreamscroll
