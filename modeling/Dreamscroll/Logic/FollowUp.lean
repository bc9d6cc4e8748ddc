import Dreamscroll.Logic.BodyMoves
/-!
# The follow-up of an illumination

An illuminate attempt that ends well has committed its projection, and its
follow-up submission has been answered since. Whatever the answer, unless
the backfill was served before, it points at a search-index run that was in
flight after the commit: the run the submission inserted, or the one it was
refused for. So what settles that run is recorded after the commit.
-/

namespace Dreamscroll

variable {captures : List Capture} {m : TaskMaster} {s s' : PipelineState} {d c : ℕ}
variable {run : TaskRun AnyTask} {a : Access} {row r : TaskRunModel} {runId L : String}
variable {st : TaskRunStatus} {call : Call AnyTask}

/-! ## What settles a run -/

/-- The status an attempt settles its run with. -/
def TaskRunStatus.Completed (st : TaskRunStatus) : Prop :=
  st = .completeSuccess ∨ st = .completeFailure

/-- The result is one that settles a run so. -/
def Completes (st : TaskRunStatus) (result : Except ApiError Unit) : Prop :=
  st = .completeSuccess → result = .ok ()

/-- The status an attempt leaves is complete exactly as its result says. -/
theorem completes_outcomeStatus {attempt : ℕ} {result : Except ApiError Unit} :
    Completes (m.outcomeStatus attempt result) result := by
  intro h
  cases result with
  | ok => rfl
  | error err =>
    simp only [TaskMaster.outcomeStatus] at h
    split_ifs at h

/-- **A run is settled by the end of one of its attempts**, which is then
the last entry of the history. -/
theorem settled_of_move (h : PipelineMove captures m s s') (hr : row ∈ s'.tasks.rows)
    (hst : row.HasStatus st) (hset : st.Completed) :
    (∃ r ∈ s.tasks.rows, r.runId = row.runId ∧ r.HasStatus st) ∨
    ∃ d run result, run.runId = row.runId ∧ Completes st result ∧
      s'.log = s.log ++ [.finish d run result] := by
  -- of the writes, only that of `finish_attempt` completes a run
  have hwrote : ∀ {e : Ev AnyTask} {w : StatusWrite} {r : TaskRunModel},
      m.writeOf s.tasks e = some w → row = w.update r →
      ∃ d delivery attempt result now, e = .delivery d (.finish result now) ∧
        s.tasks.deliveries[d]? = some delivery ∧ delivery.run.runId = w.runId ∧
        st = m.outcomeStatus attempt result := by
    intro e w r hw hrow
    have hstw : st = w.status := by
      rw [hrow] at hst
      exact TaskRunStatus.asI32_injective (hst.symm.trans StatusWrite.update_statusCode)
    cases TaskMaster.writer_of_writeOf hw with
    | submission =>
      rw [hstw] at hset
      rcases hset with h | h <;> cases h
    | start =>
      rw [hstw] at hset
      rcases hset with h | h <;> cases h
    | @finish d delivery attempt result now hd =>
      exact ⟨d, delivery, attempt, result, now, rfl, hd, rfl, hstw⟩
  have hqueued : ∀ {run : TaskRun AnyTask} {now : Timestamp}, row ≠ queuedRow run now := by
    intro run now hrow
    rw [hrow] at hst
    have hq : st = .queued := TaskRunStatus.asI32_injective hst.symm
    rw [hq] at hset
    rcases hset with h | h <;> cases h
  cases h with
  | @task e tasks hother hs =>
    rcases TaskMaster.row_of_tableMove (TaskMaster.tableMove_of_move
      (TaskMaster.move_of_system hs)) hr with hr | ⟨w, r, hw, hr, hid, hrow⟩ | ⟨run, now, -, hrow⟩
    · exact Or.inl ⟨row, hr, rfl, hst⟩
    · obtain ⟨d, delivery, attempt, result, now, he, -⟩ := hwrote hw hrow
      exact absurd he (hother d result now)
    · exact absurd hrow hqueued
  | @finish d result now delivery tasks hb hd hs =>
    rcases TaskMaster.row_of_tableMove (TaskMaster.tableMove_of_move
      (TaskMaster.move_of_system hs)) hr with hr | ⟨w, r, hw, hr, hid, hrow⟩ | ⟨run, now, -, hrow⟩
    · exact Or.inl ⟨row, hr, rfl, hst⟩
    · obtain ⟨d', delivery', attempt, result', now', he, hd', hrun, hstw⟩ := hwrote hw hrow
      cases he
      rw [hd] at hd'
      cases hd'
      refine Or.inr ⟨d, delivery.run, result, ?_, ?_, rfl⟩
      · rw [hrow, StatusWrite.update_runId, hrun, hid]
      · rw [hstw]
        exact completes_outcomeStatus
    · exact absurd hrow hqueued
  | body hd hmove =>
    obtain ⟨-, -, -, -, -, -, -, hrows, -⟩ := goto_of_bodyMove hmove
    exact Or.inl ⟨row, hrows ▸ hr, rfl, hst⟩

/-! ## Runs that answer after an access -/

/-- **Whatever completed the run was recorded after the access.** -/
def SettledAfter (s : PipelineState) (a : Access) (runId : String) : Prop :=
  ∀ row ∈ s.tasks.rows, row.runId = runId → ∀ st : TaskRunStatus, st.Completed →
    row.HasStatus st → ∃ d run result, run.runId = runId ∧ Completes st result ∧
      Before s.log a (.finish d run result)

/-- **Whatever the run read, it read after the access.** -/
def ReadAfter (s : PipelineState) (a : Access) (runId : String) : Prop :=
  ∀ d run, .fetch d run ∈ s.log → run.runId = runId → Before s.log a (.fetch d run)

/-- The run is one of the logical task. -/
def RunOf (s : PipelineState) (L runId : String) : Prop :=
  ∃ row ∈ s.tasks.rows, row.runId = runId ∧ row.logicalId = L

/-- A run that has no row yet has not settled. -/
theorem settledAfter_of_not_mem (h : ∀ r ∈ s.tasks.rows, r.runId ≠ runId) :
    SettledAfter s a runId := fun row hr hid => absurd hid (h row hr)

/-- A run in flight has not settled. -/
theorem settledAfter_of_inFlight (hu : UniqueKeys s.tasks.rows) (hr : row ∈ s.tasks.rows)
    (hfl : row.inFlight = true) : SettledAfter s a row.runId := by
  intro r hr' hid st hset hst
  rw [hu.eq_of_runId hr' hr hid] at hst
  rw [TaskRunModel.inFlight_eq_of_hasStatus hst] at hfl
  rcases hset with rfl | rfl <;> cases hfl

/-- Having settled after an access is kept by every step. -/
theorem SettledAfter.move (hs : SettledAfter s a runId) (h : PipelineMove captures m s s')
    (ha : a ∈ s.log) : SettledAfter s' a runId := by
  obtain ⟨accesses, hlog⟩ := log_of_pipelineMove h
  intro row hr hid st hset hst
  rcases settled_of_move h hr hst hset with ⟨r, hr₀, hrid, hst₀⟩ |
    ⟨d, run, result, hrun, hres, hlog'⟩
  · obtain ⟨d, run, result, hrun, hres, hbefore⟩ := hs r hr₀ (hrid.trans hid) st hset hst₀
    exact ⟨d, run, result, hrun, hres, by rw [hlog]; exact hbefore.append⟩
  · exact ⟨d, run, result, hrun.trans hid, hres, by rw [hlog']; exact before_last ha⟩

/-- Having read after an access is kept by every step. -/
theorem ReadAfter.move (hs : ReadAfter s a runId) (h : PipelineMove captures m s s')
    (ha : a ∈ s.log) : ReadAfter s' a runId := by
  obtain ⟨accesses, hlog⟩ := log_of_pipelineMove h
  intro d run hmem hrun
  rw [hlog] at hmem ⊢
  rcases List.mem_append.1 hmem with hmem | hmem
  · exact (hs d run hmem hrun).append
  · exact before_of_mem_append ha hmem

/-- A row stays the row of its run. -/
theorem row_of_pipelineMove (h : PipelineMove captures m s s') (hr : r ∈ s.tasks.rows) :
    ∃ r' ∈ s'.tasks.rows, r'.identity = r.identity := by
  rcases tasks_of_move h with heq | ⟨e, hs⟩
  · rw [heq]
    exact ⟨r, hr, rfl⟩
  · have hmem := (TaskMaster.prefix_identity (TaskMaster.tableMove_of_move
      (TaskMaster.move_of_system hs))).subset (List.mem_map.2 ⟨r, hr, rfl⟩)
    obtain ⟨r', hr', heq⟩ := List.mem_map.1 hmem
    exact ⟨r', hr', heq⟩

/-- A run stays the run of its task. -/
theorem RunOf.move (hs : RunOf s L runId) (h : PipelineMove captures m s s') :
    RunOf s' L runId := by
  obtain ⟨row, hr, hid, hL⟩ := hs
  obtain ⟨row', hr', hident⟩ := row_of_pipelineMove h hr
  exact ⟨row', hr', (congrArg RunIdentity.runId hident).trans hid,
    (congrArg RunIdentity.logicalId hident).trans hL⟩

/-- A run without a row has read nothing. -/
theorem readAfter_of_not_mem (hi : BodyInv captures m s)
    (h : ∀ r ∈ s.tasks.rows, r.runId ≠ runId) : ReadAfter s a runId := by
  intro d run hmem hrun
  obtain ⟨delivery, hd, hdrun⟩ := hi.logged _ hmem
  obtain ⟨r, hr, hident⟩ := hi.reaches.row_of_delivery hd
  refine absurd ?_ (h r hr)
  calc r.runId = delivery.run.runId := congrArg RunIdentity.runId hident
    _ = run.runId := by rw [hdrun]; rfl
    _ = runId := hrun

/-! ## How a follow-up is answered -/

/-- The run of the logical task answers a submission: whatever completed it
was recorded after the access. -/
def Answers (s : PipelineState) (a : Access) (L runId : String) : Prop :=
  RunOf s L runId ∧ SettledAfter s a runId

/-- **What a submission that started after the access is about to answer.** -/
def Answering (s : PipelineState) (a : Access) (call : Call AnyTask) : Prop :=
  match call.pc with
  | .insert run => ∀ row ∈ s.tasks.rows, row.logicalId = call.logicalId →
    run.runNumber ≤ row.runNumber → SettledAfter s a row.runId
  | .publishQueued run _ | .enqueue run | .failWrite run _ =>
    Answers s a call.logicalId run.runId ∧ ReadAfter s a run.runId
  | .recheckInFlight => ∃ runId, Answers s a call.logicalId runId
  | .recheckConflict => (∃ runId, Answers s a call.logicalId runId) ∨
    alreadySubmitted s.tasks.rows call.backfillId call.logicalId ≠ none
  | .returned (.ok (.enqueued runId _)) =>
    Answers s a call.logicalId runId ∧ ReadAfter s a runId
  | .returned (.ok .refusedAlreadyInFlight) => ∃ runId, Answers s a call.logicalId runId
  | .dedup | .latest | .publishFailed .. | .returned (.ok (.alreadySubmittedBackfill ..))
  | .returned (.error _) => True

/-- A run that answers an access goes on to do so. -/
theorem Answers.move (hs : Answers s a L runId) (h : PipelineMove captures m s s')
    (ha : a ∈ s.log) : Answers s' a L runId := ⟨hs.1.move h, hs.2.move h ha⟩

/-- A row of the next state was there, or is of a new run. -/
theorem old_row_of_pipelineMove (h : PipelineMove captures m s s') (hr : row ∈ s'.tasks.rows) :
    (∃ r ∈ s.tasks.rows, r.identity = row.identity) ∨
      ∀ r ∈ s.tasks.rows, r.runId ≠ row.runId := by
  rcases tasks_of_move h with heq | ⟨e, hs⟩
  · exact Or.inl ⟨row, heq ▸ hr, rfl⟩
  · rcases TaskMaster.row_of_tableMove (TaskMaster.tableMove_of_move
      (TaskMaster.move_of_system hs)) hr with hr₀ | ⟨w, r, -, hr₀, -, rfl⟩ | ⟨run, now, hins, rfl⟩
    · exact Or.inl ⟨row, hr₀, rfl⟩
    · exact Or.inl ⟨r, hr₀, StatusWrite.update_identity.symm⟩
    · exact Or.inr fun r hr₀ => hins.runId_ne hr₀

/-- The claim of a backfill stays. -/
theorem alreadySubmitted_of_move {backfillId : Option String} (h : PipelineMove captures m s s')
    (hs : alreadySubmitted s.tasks.rows backfillId L ≠ none) :
    alreadySubmitted s'.tasks.rows backfillId L ≠ none := by
  cases backfillId with
  | none => exact absurd rfl hs
  | some backfill =>
    simp only [alreadySubmitted, ne_eq, Option.map_eq_none_iff, queryBackfillRun,
      List.find?_eq_none, not_forall, not_not] at hs ⊢
    obtain ⟨r, hr, hmatch⟩ := hs
    obtain ⟨r', hr', hident⟩ := row_of_pipelineMove h hr
    refine ⟨r', hr', ?_⟩
    rw [show r'.backfillId = r.backfillId from congrArg RunIdentity.backfillId hident,
      show r'.logicalId = r.logicalId from congrArg RunIdentity.logicalId hident]
    exact hmatch

/-- What stands, stands after any event that leaves the call alone. -/
theorem Answering.move (hans : Answering s a call) (h : PipelineMove captures m s s')
    (ha : a ∈ s.log) : Answering s' a call := by
  unfold Answering at hans ⊢
  cases hpc : call.pc with
  | insert run =>
    rw [hpc] at hans
    simp only at hans ⊢
    intro row hr hL hle
    rcases old_row_of_pipelineMove h hr with ⟨r, hr₀, hident⟩ | hnew
    · have hid : r.runId = row.runId := congrArg RunIdentity.runId hident
      have hnum : r.runNumber = row.runNumber := congrArg RunIdentity.runNumber hident
      rw [← hid]
      refine (hans r hr₀ ?_ ?_).move h ha
      · exact (congrArg RunIdentity.logicalId hident).trans hL
      · rw [hnum]
        exact hle
    · exact (settledAfter_of_not_mem hnew).move h ha
  | recheckInFlight =>
    rw [hpc] at hans
    obtain ⟨runId, hrun⟩ := hans
    exact ⟨runId, hrun.move h ha⟩
  | recheckConflict =>
    rw [hpc] at hans
    rcases hans with ⟨runId, hrun⟩ | hclaimed
    · exact Or.inl ⟨runId, hrun.move h ha⟩
    · exact Or.inr (alreadySubmitted_of_move h hclaimed)
  | returned outcome =>
    rw [hpc] at hans
    cases outcome with
    | error err => trivial
    | ok outcome =>
      cases outcome with
      | enqueued runId n => exact ⟨hans.1.move h ha, hans.2.move h ha⟩
      | alreadySubmittedBackfill => trivial
      | refusedAlreadyInFlight =>
        obtain ⟨runId, hrun⟩ := hans
        exact ⟨runId, hrun.move h ha⟩
  | publishQueued =>
    rw [hpc] at hans
    exact ⟨hans.1.move h ha, hans.2.move h ha⟩
  | enqueue =>
    rw [hpc] at hans
    exact ⟨hans.1.move h ha, hans.2.move h ha⟩
  | failWrite =>
    rw [hpc] at hans
    exact ⟨hans.1.move h ha, hans.2.move h ha⟩
  | _ => trivial

/-- **And the call's own statements keep it**: what it reads is in flight,
and what it inserts is new, after the access. -/
theorem answering_of_submitMove {pc : SubmitPc AnyTask} {choice : Choice}
    {fx : List (Effect AnyTask)} (hi : BodyInv captures m s)
    (h : PipelineMove captures m s s') (ha : a ∈ s.log) (hc : s.tasks.calls[c]? = some call)
    (hm : TaskMaster.SubmitMove m s.tasks.rows c call choice pc fx)
    (hrows : s'.tasks.rows = fx.foldl Effect.apply s.tasks.rows) (hans : Answering s a call) :
    Answering s' a { call with pc := pc } := by
  have htable := hi.reaches.tableInv
  have hL : Call.logicalId { call with pc := pc } = call.logicalId := rfl
  have hkeep : ∀ {runId : String}, Answers s a call.logicalId runId →
      Answers s' a call.logicalId runId := fun hrun => hrun.move h ha
  unfold Answering at hans
  cases hm with
  | @found outcome hpc hfound =>
    unfold Answering
    cases outcome with
    | alreadySubmittedBackfill => trivial
    | enqueued =>
      cases hb : call.backfillId with
      | none => rw [hb] at hfound; cases hfound
      | some backfill =>
        rw [hb] at hfound
        obtain ⟨row, -, hrow⟩ := Option.map_eq_some_iff.1 hfound
        cases hrow
    | refusedAlreadyInFlight =>
      cases hb : call.backfillId with
      | none => rw [hb] at hfound; cases hfound
      | some backfill =>
        rw [hb] at hfound
        obtain ⟨row, -, hrow⟩ := Option.map_eq_some_iff.1 hfound
        cases hrow
  | fresh => trivial
  | @decided n runId hpc hdec =>
    -- the next number is above every row, so the new run has begun after all of them
    intro row hr hLrow hle
    have hr₀ : row ∈ s.tasks.rows := by rw [hrows] at hr; exact hr
    have htop := runNumber_le_topRun hr₀ hLrow
    have hn := decideNextRun_eq_some hdec
    have hle' : n ≤ row.runNumber := hle
    rw [hL] at htop
    omega
  | sawInFlight hpc hdec =>
    -- a run in flight has not settled, whenever the commit was
    obtain ⟨r, hlatest, hfl⟩ := decideNextRun_eq_none hdec
    obtain ⟨hr, hLr, -⟩ := queryRunStatus_eq_some hlatest
    exact ⟨r.runId, hkeep ⟨⟨r, hr, rfl, hLr⟩, settledAfter_of_inFlight htable.unique hr hfl⟩⟩
  | refused hpc hnone =>
    rcases hpc with hpc | hpc
    · rw [hpc] at hans
      obtain ⟨runId, hrun⟩ := hans
      exact ⟨runId, hkeep hrun⟩
    · rw [hpc] at hans
      rcases hans with ⟨runId, hrun⟩ | hclaimed
      · exact ⟨runId, hkeep hrun⟩
      · exact absurd hnone hclaimed
  | @inserted run now reported hpc hv =>
    have hrun : run = call.newRun run.runNumber run.runId := (htable.pending c call run hc hpc).1
    have hnew : ∀ r ∈ s.tasks.rows, r.runId ≠ run.runId :=
      fun r hr => (violatedKeys_eq_nil.1 hv r hr).2.2
    have hmem : queuedRow run now ∈ s'.tasks.rows := by
      rw [hrows]
      exact List.mem_append_right _ (List.mem_singleton_self _)
    refine ⟨⟨⟨queuedRow run now, hmem, rfl, ?_⟩, (settledAfter_of_not_mem hnew).move h ha⟩,
      (readAfter_of_not_mem hi hnew).move h ha⟩
    rw [hL]
    exact congrArg TaskRun.logicalId hrun
  | @conflict run now reported hpc hkey =>
    have hrun : run = call.newRun run.runNumber run.runId := (htable.pending c call run hc hpc).1
    have hLrun : run.logicalId = call.logicalId := congrArg TaskRun.logicalId hrun
    have hbrun : run.backfillId = call.backfillId := congrArg TaskRun.backfillId hrun
    rw [hpc] at hans
    -- which of the two indexes refused the row
    rcases hkey with ⟨r, hr, hLr, hn⟩ | ⟨r, hr, hb, hLr, hsome⟩
    · rw [hLrun] at hLr
      exact Or.inl ⟨r.runId, hkeep ⟨⟨r, hr, rfl, hLr⟩, hans r hr hLr hn.ge⟩⟩
    · -- the index that refused the row is the one of the backfill
      have hclaimed : alreadySubmitted s.tasks.rows call.backfillId call.logicalId ≠ none := by
        rw [hbrun] at hb hsome
        obtain ⟨backfill, hbackfill⟩ := Option.isSome_iff_exists.1 hsome
        rw [hbackfill] at hb ⊢
        intro hnone
        have hno := List.find?_eq_none.1 (Option.map_eq_none_iff.1 hnone) r hr
        rw [hb, hLr, hLrun] at hno
        simp at hno
      exact Or.inr (alreadySubmitted_of_move h hclaimed)
  | insertFailed => trivial
  | published hpc =>
    rw [hpc] at hans
    exact ⟨hkeep hans.1, hans.2.move h ha⟩
  | enqueued hpc =>
    rw [hpc] at hans
    exact ⟨hkeep hans.1, hans.2.move h ha⟩
  | enqueueFailed hpc =>
    rw [hpc] at hans
    exact ⟨hkeep hans.1, hans.2.move h ha⟩
  | failWrote => trivial
  | failMissed => trivial
  | failPublished => trivial

/-! ## The invariant of the follow-ups -/

/-- The attempt committed its projection, and then submitted the indexing of
its capture. -/
structure FollowedUp (s : PipelineState) (d : ℕ) (run : TaskRun AnyTask) (t : IlluminationTask)
    (c : ℕ) (call : Call AnyTask) : Prop where
  committed : ∃ table, Before s.log (.commit d run table) (.followUp d run c)
  started : s.tasks.calls[c]? = some call
  task : call.task = .searchIndex ⟨t.captureId, t.entityOwnerId⟩
  backfill : call.backfillId = run.backfillId

/-- **What a projected illumination and its follow-up leave.** -/
structure FollowInv (s : PipelineState) : Prop where
  success : ∀ row ∈ s.tasks.rows, row.HasStatus .completeSuccess →
    ∃ d run, run.runId = row.runId ∧ .finish d run (.ok ()) ∈ s.log
  answering : ∀ d run c a, Before s.log a (.followUp d run c) →
    ∃ call, s.tasks.calls[c]? = some call ∧ Answering s a call
  committed : ∀ (d : ℕ) (delivery : Delivery AnyTask) (t : IlluminationTask),
    s.tasks.deliveries[d]? = some delivery → delivery.run.task = .illuminate t → t.Projected →
    s.bodies d = .newIllumination → ∃ table, .commit d delivery.run table ∈ s.log
  followed : ∀ (d : ℕ) (delivery : Delivery AnyTask) (t : IlluminationTask) (c : ℕ),
    s.tasks.deliveries[d]? = some delivery → delivery.run.task = .illuminate t → t.Projected →
    s.bodies d = .submitted c → ∃ call, FollowedUp s d delivery.run t c call
  succeeded : ∀ (d : ℕ) (delivery : Delivery AnyTask) (t : IlluminationTask),
    s.tasks.deliveries[d]? = some delivery → delivery.run.task = .illuminate t → t.Projected →
    s.bodies d = .done (.ok ()) → ∃ c call outcome, FollowedUp s d delivery.run t c call ∧
      call.pc = .returned (.ok outcome)
  finished : ∀ (d : ℕ) (run : TaskRun AnyTask) (t : IlluminationTask),
    .finish d run (.ok ()) ∈ s.log → run.task = .illuminate t → t.Projected →
    ∃ c call outcome, FollowedUp s d run t c call ∧ call.pc = .returned (.ok outcome) ∧
      Before s.log (.followUp d run c) (.finish d run (.ok ()))

/-- A call goes on, as the machine says. -/
theorem call_of_pipelineMove (h : PipelineMove captures m s s')
    (hc : s.tasks.calls[c]? = some call) :
    ∃ pc, s'.tasks.calls[c]? = some { call with pc := pc } ∧ (pc = call.pc ∨
      ∃ choice fx, TaskMaster.SubmitMove m s.tasks.rows c call choice pc fx ∧
        s'.tasks.rows = fx.foldl Effect.apply s.tasks.rows) := by
  rcases tasks_of_move h with heq | ⟨e, hs⟩
  · rw [heq]
    exact ⟨_, hc, Or.inl rfl⟩
  · have hm := TaskMaster.move_of_system hs
    obtain ⟨pc, hc', hstep⟩ := TaskMaster.call_step hm hc
    refine ⟨pc, hc', ?_⟩
    rcases TaskMaster.call_of_move hm hc' with ⟨hc₀, -⟩ | ⟨hlen, -⟩ |
      ⟨choice, call₀, fx, -, hc₀, hmove, -, hs'⟩
    · rw [hc] at hc₀
      exact Or.inl (congrArg Call.pc (Option.some.inj hc₀)).symm
    · rw [hlen] at hc
      simp at hc
    · rw [hc] at hc₀
      cases hc₀
      refine Or.inr ⟨choice, fx, hmove, ?_⟩
      rw [hs', TaskState.perform_rows]
      rfl

/-- A follow-up submission that was made stays made, and its outcome stays
what it was. -/
theorem FollowedUp.move {t : IlluminationTask} (hf : FollowedUp s d run t c call)
    (h : PipelineMove captures m s s') :
    ∃ call', FollowedUp s' d run t c call' ∧
      ∀ outcome, call.pc = .returned outcome → call'.pc = .returned outcome := by
  obtain ⟨accesses, hlog⟩ := log_of_pipelineMove h
  obtain ⟨table, hbefore⟩ := hf.committed
  obtain ⟨pc, hc', hpc⟩ := call_of_pipelineMove h hf.started
  refine ⟨_, ⟨⟨table, ?_⟩, hc', hf.task, hf.backfill⟩, fun outcome hout => ?_⟩
  · rw [hlog]
    exact hbefore.append
  · rcases hpc with rfl | ⟨choice, fx, hmove, -⟩
    · exact hout
    · exfalso
      cases hmove with
      | found hpc => rw [hout] at hpc; simp at hpc
      | refused hpc => rw [hout] at hpc; simp at hpc
      | _ hpc => rw [hout] at hpc; cases hpc

/-- The invariant holds at the start. -/
theorem followInv_start : FollowInv PipelineState.start where
  success _ hr := by cases hr
  answering _ _ _ _ h := by cases h
  committed _ _ _ hd := by cases hd
  followed _ _ _ _ hd := by cases hd
  succeeded _ _ _ hd := by cases hd
  finished _ _ _ h := by cases h

/-- A follow-up of the next state was there, or starts. -/
theorem followUp_of_pipelineMove (h : PipelineMove captures m s s')
    (hb : Before s'.log a (.followUp d run c)) :
    Before s.log a (.followUp d run c) ∨
      a ∈ s.log ∧ ∃ task b, s'.tasks.calls[c]? = some ⟨task, b, .dedup⟩ := by
  have hnone : ∀ {x : Access}, s'.log = s.log ++ [x] → x ≠ .followUp d run c →
      Before s.log a (.followUp d run c) := by
    intro x hlog hne
    rw [hlog] at hb
    rcases before_append_singleton.1 hb with hold | ⟨-, heq⟩
    · exact hold
    · exact absurd heq.symm hne
  have hsame : s'.log = s.log ++ [] → Before s.log a (.followUp d run c) := by
    intro hlog
    rw [hlog, List.append_nil] at hb
    exact hb
  cases h with
  | task => exact Or.inl hb
  | finish => exact Or.inl (hnone rfl (by simp))
  | @body d₁ delivery _ hd hmove =>
    cases hmove with
    | @follows t =>
      rcases before_append_singleton.1 hb with hold | ⟨ha, heq⟩
      · exact Or.inl hold
      · obtain ⟨-, -, rfl⟩ := Access.followUp.inj heq
        refine Or.inr ⟨ha, .searchIndex ⟨t.captureId, t.entityOwnerId⟩, delivery.run.backfillId, ?_⟩
        exact List.getElem?_concat_length
    | fetchEnded => exact Or.inl (hnone rfl (by simp))
    | illuminates => exact Or.inl (hnone rfl (by simp))
    | indexes => exact Or.inl (hnone rfl (by simp))
    | projected => exact Or.inl (hnone rfl (by simp))
    | wrote => exact Or.inl (hnone rfl (by simp))
    | _ => exact Or.inl (hsame rfl)

section Step

variable (hi : BodyInv captures m s) (hf : FollowInv s) (h : PipelineMove captures m s s')
include hi hf h

/-- What a follow-up submission finds is a run that answers the commit before
it. -/
theorem answering_of_pipelineMove (hb : Before s'.log a (.followUp d run c)) :
    ∃ call, s'.tasks.calls[c]? = some call ∧ Answering s' a call := by
  rcases followUp_of_pipelineMove h hb with hold | ⟨-, task, b, hc⟩
  · obtain ⟨call, hc, hans⟩ := hf.answering d run c a hold
    have ha := hold.mem_left
    obtain ⟨pc, hc', rfl | ⟨choice, fx, hmove, hrows⟩⟩ := call_of_pipelineMove h hc
    · exact ⟨_, hc', hans.move h ha⟩
    · exact ⟨_, hc', answering_of_submitMove hi h ha hc hmove hrows hans⟩
  · exact ⟨_, hc, trivial⟩

variable {t : IlluminationTask} {delivery' : Delivery AnyTask}
variable (hd' : s'.tasks.deliveries[d]? = some delivery')
variable (ht : delivery'.run.task = .illuminate t) (hp : t.Projected)
include hd' ht hp

/-- A body that has a new illumination has committed it. -/
theorem committed_of_pipelineMove (hb : s'.bodies d = .newIllumination) :
    ∃ table, .commit d delivery'.run table ∈ s'.log := by
  obtain ⟨accesses, hlog⟩ := log_of_pipelineMove h
  rcases body_of_pipelineMove hi h hd' with ⟨delivery, hd, hrun, hsame | hmove⟩ | hfetch
  · rw [← hrun] at ht ⊢
    obtain ⟨table, hmem⟩ := hf.committed d delivery t hd ht hp (hsame ▸ hb)
    exact ⟨table, by rw [hlog]; exact List.mem_append_left _ hmem⟩
  · cases hmove with
    | projected => exact ⟨_, List.mem_append_right _ (List.mem_singleton_self _)⟩
    | stored _ ht' hnot =>
      rw [ht] at ht'
      cases ht'
      exact absurd hp hnot
    | worked _ _ hbody =>
      simp only [PipelineState.goto, Function.update_self] at hb
      rw [hb] at hbody
      cases hbody
    | _ => simp [PipelineState.goto, PipelineState.putObject] at hb
  · rw [hfetch] at hb
    cases hb

/-- A body that waits for its follow-up has made the call. -/
theorem followed_of_pipelineMove (hb : s'.bodies d = .submitted c) :
    ∃ call, FollowedUp s' d delivery'.run t c call := by
  rcases body_of_pipelineMove hi h hd' with ⟨delivery, hd, hrun, hsame | hmove⟩ | hfetch
  · rw [← hrun] at ht ⊢
    obtain ⟨call, hfol⟩ := hf.followed d delivery t c hd ht hp (hsame ▸ hb)
    obtain ⟨call', hfol', -⟩ := hfol.move h
    exact ⟨call', hfol'⟩
  · cases hmove with
    | @follows t' hbody ht' =>
      rw [ht] at ht'
      cases ht'
      simp only [PipelineState.goto, PipelineState.invoke, Function.update_self,
        Body.submitted.injEq] at hb
      subst hb
      rw [← hrun] at ht
      obtain ⟨table, hmem⟩ := hf.committed d delivery t hd ht hp hbody
      rw [hrun] at hmem
      exact ⟨_, ⟨table, before_last hmem⟩, List.getElem?_concat_length, rfl, rfl⟩
    | worked _ _ hbody =>
      simp only [PipelineState.goto, Function.update_self] at hb
      rw [hb] at hbody
      cases hbody
    | _ => simp [PipelineState.goto, PipelineState.putObject] at hb
  · rw [hfetch] at hb
    cases hb

/-- A body that ended well had its follow-up accepted. -/
theorem succeeded_of_pipelineMove (hb : s'.bodies d = .done (.ok ())) :
    ∃ c call outcome, FollowedUp s' d delivery'.run t c call ∧
      call.pc = .returned (.ok outcome) := by
  rcases body_of_pipelineMove hi h hd' with ⟨delivery, hd, hrun, hsame | hmove⟩ | hfetch
  · rw [← hrun] at ht ⊢
    obtain ⟨c, call, outcome, hfol, hpc⟩ := hf.succeeded d delivery t hd ht hp (hsame ▸ hb)
    obtain ⟨call', hfol', hret⟩ := hfol.move h
    exact ⟨c, call', outcome, hfol', hret _ hpc⟩
  · have hmove' := hmove
    cases hmove with
    | @answered t' c call outcome hbody ht' hc hpc =>
      rw [← hrun] at ht
      obtain ⟨call', hfol⟩ := hf.followed d delivery t c hd ht hp hbody
      have heq : call' = call := Option.some.inj (hfol.started.symm.trans hc)
      subst heq
      obtain ⟨call', hfol', hret⟩ := hfol.move h
      rw [hrun] at hfol'
      exact ⟨c, call', outcome, hfol', hret _ hpc⟩
    | fetchEnded _ hnot =>
      simp only [PipelineState.goto, Function.update_self, Body.done.injEq] at hb
      exact absurd hb (hnot t ht)
    | unprojected _ ht' hnot =>
      rw [ht] at ht'
      cases ht'
      exact absurd hp hnot
    | worked _ _ hbody =>
      simp only [PipelineState.goto, Function.update_self] at hb
      rw [hb] at hbody
      cases hbody
    | wrote _ ht' => rw [ht] at ht'; cases ht'
    | existed _ ht' => rw [ht] at ht'; cases ht'
    | _ => simp [PipelineState.goto] at hb
  · rw [hfetch] at hb
    cases hb

end Step

/-- **Every step keeps the invariant of the follow-ups.** -/
theorem followInv_of_move (hi : BodyInv captures m s) (hf : FollowInv s)
    (h : PipelineMove captures m s s') : FollowInv s' where
  success row hr hok := by
    obtain ⟨accesses, hlog⟩ := log_of_pipelineMove h
    rcases settled_of_move h hr hok (Or.inl rfl) with ⟨r, hr₀, hid, hok₀⟩ |
      ⟨d, run, result, hrun, hres, hlog'⟩
    · obtain ⟨d, run, hrun, hmem⟩ := hf.success r hr₀ hok₀
      exact ⟨d, run, hrun.trans hid, by rw [hlog]; exact List.mem_append_left _ hmem⟩
    · refine ⟨d, run, hrun, ?_⟩
      rw [hlog', ← hres rfl]
      exact List.mem_append_right _ (List.mem_singleton_self _)
  answering _ _ _ _ hb := answering_of_pipelineMove hi hf h hb
  committed _ _ _ hd ht hp hb := committed_of_pipelineMove hi hf h hd ht hp hb
  followed _ _ _ _ hd ht hp hb := followed_of_pipelineMove hi hf h hd ht hp hb
  succeeded _ _ _ hd ht hp hb := succeeded_of_pipelineMove hi hf h hd ht hp hb
  finished d run t hmem ht hp := by
    obtain ⟨accesses, hlog⟩ := log_of_pipelineMove h
    have hold : .finish d run (.ok ()) ∈ s.log → ∃ c call outcome,
        FollowedUp s' d run t c call ∧ call.pc = .returned (.ok outcome) ∧
          Before s'.log (.followUp d run c) (.finish d run (.ok ())) := by
      intro hmem
      obtain ⟨c, call, outcome, hfol, hpc, hbefore⟩ := hf.finished d run t hmem ht hp
      obtain ⟨call', hfol', hret⟩ := hfol.move h
      exact ⟨c, call', outcome, hfol', hret _ hpc, by rw [hlog]; exact hbefore.append⟩
    have h' := h
    cases h with
    | task => exact hold hmem
    | @finish d' result now delivery tasks hb hd hs =>
      rcases List.mem_append.1 hmem with hmem | hmem
      · exact hold hmem
      · obtain ⟨rfl, rfl, rfl⟩ := Access.finish.inj (List.mem_singleton.1 hmem)
        obtain ⟨c, call, outcome, hfol, hpc⟩ := hf.succeeded d delivery t hd ht hp hb
        obtain ⟨call', hfol', hret⟩ := hfol.move h'
        obtain ⟨table, hbefore⟩ := hfol.committed
        exact ⟨c, call', outcome, hfol', hret _ hpc, before_last hbefore.mem_right⟩
    | body hd hmove =>
      obtain ⟨body, accesses, -, -, hlog', hown, -⟩ := goto_of_bodyMove hmove
      rw [hlog'] at hmem
      rcases List.mem_append.1 hmem with hmem | hmem
      · exact hold hmem
      · obtain ⟨hdel, hrun, hne⟩ := hown _ hmem
        have hd' : d = _ := hdel
        have hrun' : run = _ := hrun
        rw [hd', hrun'] at hne
        exact absurd rfl (hne _)

end Dreamscroll
