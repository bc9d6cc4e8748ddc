import Dreamscroll.Backfill.Engine
import Dreamscroll.Task.Deliveries
/-!
# Selection and submission agree

A pump leaves out the targets its subquery finds a run for, by five
columns; a submission is answered `AlreadySubmittedBackfill` by one text,
the logical id. The two tests coincide because every row's columns are
those of the task its logical id names, and a logical id names its work.
-/

namespace Dreamscroll

/-! ## What a row is about -/

section Named

variable {T : Type} [Task T]

/-- The identity columns are those of a run of the task. -/
structure RunIdentity.IsOf (i : RunIdentity) (task : T) : Prop where
  logicalId : i.logicalId = TaskRun.makeLogicalId task
  taskType : i.taskType = Task.taskType task
  entityType : i.entityType = Task.entityType task
  entityOwnerId : i.entityOwnerId = Task.entityOwnerId task
  entityId : i.entityId = Task.entityId task

end Named

/-- **Every row is of some task**, and named after it. -/
theorem TaskMaster.Reaches.isOf {T : Type} [WebhookTask T] {m : TaskMaster} {s : TaskState T}
    {row : TaskRunModel} (h : m.Reaches s) (hr : row ∈ s.rows) :
    ∃ task : T, row.identity.IsOf task := by
  obtain ⟨evs, hrun⟩ := h
  refine (System.run_inv (I := fun t : TaskState T => TableInv t ∧
    ∀ row ∈ t.rows, ∃ task : T, row.identity.IsOf task) ?_
    ⟨tableInv_empty, fun row hr => absurd hr List.not_mem_nil⟩ hrun).2 row hr
  rintro t e t' ⟨hi, hall⟩ hs
  have hm := move_of_system hs
  refine ⟨tableInv_of_move hm hi, fun row hr => ?_⟩
  rcases row_of_tableMove (tableMove_of_move hm) hr with hold | ⟨w, r, -, hold, -, rfl⟩ |
    ⟨run, now, ⟨c, call, hc, hpc, -⟩, rfl⟩
  · exact hall row hold
  · rw [StatusWrite.update_identity]
    exact hall r hold
  · have hrun := (hi.pending c call run hc hpc).1
    rw [hrun]
    exact ⟨call.task, rfl, rfl, rfl, rfl, rfl⟩

/-- The type of work is the type of the task and of its entity. -/
theorem AnyTask.types_of_workType {task task' : AnyTask} (h : task.workType = task'.workType) :
    Task.taskType task = Task.taskType task' ∧ Task.entityType task = Task.entityType task' := by
  cases task <;> cases task' <;> first | exact ⟨rfl, rfl⟩ | simp [workType] at h

/-! ## The two tests -/

namespace Backfill

variable {b : Backfill} {target : BackfillTarget} {rows : List TaskRunModel}
variable {relation : List BackfillTarget} {limit : ℕ}

/-- `make_task` preserves the target's ID and owner. -/
def Keeps (b : Backfill) (target : BackfillTarget) : Prop :=
  Task.entityId (b.makeTask target) = target.entityId ∧
    Task.entityOwnerId (b.makeTask target) = target.ownerId

/-- The logical task of a target. -/
def logicalId (b : Backfill) (target : BackfillTarget) : String :=
  TaskRun.makeLogicalId (b.makeTask target)

/-- A row is a tagged run of the target, as a submission looks for it. -/
def Tags (b : Backfill) (row : TaskRunModel) (target : BackfillTarget) : Prop :=
  row.backfillId = some b.id ∧ row.logicalId = b.logicalId target

instance (row : TaskRunModel) (target : BackfillTarget) : Decidable (b.Tags row target) :=
  inferInstanceAs (Decidable (_ ∧ _))

/-- **The two tests coincide** on rows that are of some task. -/
theorem submitted_iff (hrows : ∀ row ∈ rows, ∃ task : AnyTask, row.identity.IsOf task)
    (hkeeps : b.Keeps target) :
    b.Submitted rows target ↔ ∃ row ∈ rows, b.Tags row target := by
  constructor
  · rintro ⟨row, hr, hid, htype, hetype, howner, hentity⟩
    refine ⟨row, hr, hid, ?_⟩
    obtain ⟨task, htask⟩ := hrows row hr
    have h₁ : Task.taskType task = Task.taskType (b.makeTask target) := by
      rw [← htask.taskType, b.taskType_makeTask]
      exact htype
    have h₂ : Task.entityType task = Task.entityType (b.makeTask target) := by
      rw [← htask.entityType, b.entityType_makeTask]
      exact hetype
    have h₃ : Task.entityOwnerId task = Task.entityOwnerId (b.makeTask target) := by
      rw [← htask.entityOwnerId, hkeeps.2]
      exact howner
    have h₄ : Task.entityId task = Task.entityId (b.makeTask target) := by
      rw [← htask.entityId, hkeeps.1]
      exact hentity
    calc row.logicalId
      _ = TaskRun.makeLogicalId task := htask.logicalId
      _ = b.logicalId target := by
        unfold logicalId TaskRun.makeLogicalId
        rw [h₁, h₂, h₃, h₄]
  · rintro ⟨row, hr, hid, hlogical⟩
    obtain ⟨task, htask⟩ := hrows row hr
    obtain ⟨howner, hwork, hentity⟩ :=
      AnyTask.work_of_logicalId (htask.logicalId.symm.trans hlogical)
    obtain ⟨htype, hetype⟩ := AnyTask.types_of_workType hwork
    refine ⟨row, hr, hid, ?_, ?_, ?_, ?_⟩
    · exact (htask.taskType.trans htype).trans (b.taskType_makeTask target)
    · exact (htask.entityType.trans hetype).trans (b.entityType_makeTask target)
    · exact (htask.entityOwnerId.trans howner).trans hkeeps.2
    · exact (htask.entityId.trans hentity).trans hkeeps.1

/-- A limit the relation does not reach leaves out the excluded targets
only. -/
theorem mem_selectTargets (hlimit : relation.length ≤ limit) :
    target ∈ selectTargets b rows relation limit ↔
      target ∈ relation ∧ ¬ b.Submitted rows target := by
  have hlen : ((relation.filter fun target => ¬ b.Submitted rows target).insertionSort
      BackfillTarget.DescLe).length ≤ limit := by
    rw [List.length_insertionSort]
    exact (List.length_filter_le _ _).trans hlimit
  rw [selectTargets, List.take_of_length_le hlen, List.mem_insertionSort, List.mem_filter,
    decide_eq_true_eq]

/-- What a submission reads first. -/
theorem alreadySubmitted_isSome_iff :
    (alreadySubmitted rows (some b.id) (b.logicalId target)).isSome ↔
      ∃ row ∈ rows, b.Tags row target := by
  simp [alreadySubmitted, queryBackfillRun, Tags]

end Backfill

theorem exists_of_alreadySubmitted {rows : List TaskRunModel} {backfillId : Option String}
    {L : String} {outcome : SubmitOutcome} (h : alreadySubmitted rows backfillId L = some outcome) :
    ∃ runId n, outcome = .alreadySubmittedBackfill runId n := by
  cases backfillId with
  | none => cases h
  | some id =>
    obtain ⟨row, -, rfl⟩ := Option.map_eq_some_iff.1 h
    exact ⟨_, _, rfl⟩

/-! ## A submission on its own -/

namespace TaskMaster

variable {m : TaskMaster} {s s' t : TaskState AnyTask} {task : AnyTask} {backfillId : Option String}
variable {outcome : Except SubmitError SubmitOutcome} {pc : SubmitPc AnyTask} {context : Context}
variable {choice : Choice} {choices : List Choice} {c : ℕ}

/-- A `submit_inner` call that starts now, and whose statements are the
only ones to run, returns `outcome`. -/
def ReturnsAlone (m : TaskMaster) (s : TaskState AnyTask) (task : AnyTask)
    (backfillId : Option String) (outcome : Except SubmitError SubmitOutcome) : Prop :=
  ∃ (choices : List Choice) (s' : TaskState AnyTask),
    (system AnyTask m).run s
      (.submit task backfillId :: choices.map (Ev.call s.calls.length)) = some s' ∧
    s'.calls[s.calls.length]? = some ⟨task, backfillId, .returned outcome⟩

/-- The answers of `submit_illuminate`, `submit_search_index` or
`submit_spark` to a caller that submits in this state. -/
def SubmitAnswers (m : TaskMaster) (context : Context) (s : TaskState AnyTask) (task : AnyTask)
    (backfillId : Option String) (answer : Except ApiError SubmitOutcome) : Prop :=
  match task.submitCheck context with
  | .error err => answer = .error err
  | .ok () => ∃ outcome, m.ReturnsAlone s task backfillId outcome ∧ answer = submitResult outcome

theorem logicalId_mk : Call.logicalId ⟨task, backfillId, pc⟩ = TaskRun.makeLogicalId task := rfl

/-- A step of call `c`, with what it does to the table. -/
theorem submitMove_of_call (hs : (system AnyTask m).step t (.call c choice) = some s')
    (hc : t.calls[c]? = some ⟨task, backfillId, pc⟩) :
    ∃ pc' fx, SubmitMove m t.rows c ⟨task, backfillId, pc⟩ choice pc' fx ∧
      s'.calls[c]? = some ⟨task, backfillId, pc'⟩ ∧ s'.rows = fx.foldl Effect.apply t.rows := by
  have hmove := move_of_system hs
  cases hmove with
  | @call c choice call pc' fx hc' hm =>
    rw [hc] at hc'
    cases hc'
    exact ⟨pc', fx, hm, getElem?_set_of_some hc, rfl⟩

/-- A call that has returned takes no step. -/
theorem not_submitMove_returned {rows : List TaskRunModel} {fx : List (Effect AnyTask)}
    (h : SubmitMove m rows c ⟨task, backfillId, .returned outcome⟩ choice pc fx) : False := by
  cases h with
  | found hpc => rcases hpc with h | h | h <;> cases h
  | refused hpc => rcases hpc with h | h <;> cases h
  | _ hpc => cases hpc

/-- The call right after it started. -/
theorem call_of_submit (hs : (system AnyTask m).step s (.submit task backfillId) = some t) :
    t.calls[s.calls.length]? = some ⟨task, backfillId, .dedup⟩ ∧ t.rows = s.rows := by
  have hmove := move_of_system hs
  cases hmove with
  | submit => exact ⟨by simp, rfl⟩

/-- **A claimed task is answered with its claim**, and nothing else. -/
theorem returnsAlone_of_alreadySubmitted {found : SubmitOutcome}
    (ha : alreadySubmitted s.rows backfillId (TaskRun.makeLogicalId task) = some found) :
    m.ReturnsAlone s task backfillId outcome ↔ outcome = .ok found := by
  constructor
  · rintro ⟨choices, s', hrun, hc'⟩
    obtain ⟨t, ht, hrun⟩ := System.run_cons_eq_some.1 hrun
    obtain ⟨hc, hrows⟩ := call_of_submit ht
    cases choices with
    | nil =>
      cases hrun
      rw [hc] at hc'
      cases hc'
    | cons choice choices =>
      obtain ⟨u, hu, hrun⟩ := System.run_cons_eq_some.1 hrun
      obtain ⟨pc, fx, hm, hcu, -⟩ := submitMove_of_call hu hc
      -- its first statement reads the backfill, and returns
      have hpc : pc = .returned (.ok found) := by
        rw [hrows] at hm
        cases hm with
        | found _ hfound =>
          rw [logicalId_mk, ha] at hfound
          cases hfound
          rfl
        | fresh _ hnone =>
          rw [logicalId_mk, ha] at hnone
          cases hnone
        | refused hpc => rcases hpc with h | h <;> cases h
        | _ hpc => cases hpc
      rw [hpc] at hcu
      cases choices with
      | nil =>
        cases hrun
        rw [hcu] at hc'
        cases hc'
        rfl
      | cons choice choices =>
        obtain ⟨v, hv, -⟩ := System.run_cons_eq_some.1 hrun
        obtain ⟨_, _, hm, -⟩ := submitMove_of_call hv hcu
        exact (not_submitMove_returned hm).elim
  · rintro rfl
    have hstep : ((system AnyTask m).run s
        (.submit task backfillId :: [Choice.read].map (Ev.call s.calls.length))).isSome := by
      simp [System.run, system, step, TaskState.perform, Effect.apply, submitStep,
        Call.logicalId, ha]
    obtain ⟨s', hs'⟩ := Option.isSome_iff_exists.1 hstep
    refine ⟨[.read], s', hs', ?_⟩
    obtain ⟨t, ht, hrun⟩ := System.run_cons_eq_some.1 hs'
    obtain ⟨hc, hrows⟩ := call_of_submit ht
    obtain ⟨u, hu, hrun⟩ := System.run_cons_eq_some.1 hrun
    cases hrun
    obtain ⟨pc, fx, hm, hcu, -⟩ := submitMove_of_call hu hc
    rw [hrows] at hm
    cases hm with
    | found _ hfound =>
      rw [logicalId_mk, ha] at hfound
      cases hfound
      exact hcu
    | fresh _ hnone =>
      rw [logicalId_mk, ha] at hnone
      cases hnone
    | refused hpc => rcases hpc with h | h <;> cases h

/-- Where a call stands that found no claim, on a table only it changes:
before its insert the table is the one it started on. -/
def Unclaimed (rows₀ rows : List TaskRunModel) (pc : SubmitPc AnyTask) : Prop :=
  pc.stage = 0 ∧ rows = rows₀ ∨ pc.stage = 1 ∨ pc.stage = 2 ∨
    ∃ outcome, pc = .returned outcome ∧ ∀ runId n,
      outcome ≠ .ok (.alreadySubmittedBackfill runId n)

theorem unclaimed_of_submitMove {rows₀ rows : List TaskRunModel} {fx : List (Effect AnyTask)}
    {pc' : SubmitPc AnyTask} (hu : Unclaimed rows₀ rows pc)
    (ha : alreadySubmitted rows₀ backfillId (TaskRun.makeLogicalId task) = none)
    (h : SubmitMove m rows c ⟨task, backfillId, pc⟩ choice pc' fx) :
    Unclaimed rows₀ (fx.foldl Effect.apply rows) pc' := by
  have hstart : pc.stage = 0 → rows = rows₀ := by
    intro h0
    rcases hu with ⟨-, h⟩ | h | h | ⟨_, rfl, -⟩
    · exact h
    · omega
    · omega
    · cases h0
  cases h with
  | found hpc hfound =>
    have hstage : pc.stage = 0 := by rcases hpc with rfl | rfl | rfl <;> rfl
    rw [hstart hstage, logicalId_mk, ha] at hfound
    cases hfound
  | fresh hpc => cases hpc; exact Or.inl ⟨rfl, hstart rfl⟩
  | decided hpc => cases hpc; exact Or.inl ⟨rfl, hstart rfl⟩
  | sawInFlight hpc => cases hpc; exact Or.inl ⟨rfl, hstart rfl⟩
  | conflict hpc => cases hpc; exact Or.inl ⟨rfl, hstart rfl⟩
  | inserted => exact Or.inr (Or.inl rfl)
  | published => exact Or.inr (Or.inr (Or.inl rfl))
  | enqueueFailed => exact Or.inr (Or.inr (Or.inl rfl))
  | failWrote => exact Or.inr (Or.inr (Or.inl rfl))
  | refused => exact Or.inr (Or.inr (Or.inr ⟨_, rfl, fun _ _ h => by cases h⟩))
  | insertFailed => exact Or.inr (Or.inr (Or.inr ⟨_, rfl, fun _ _ h => by cases h⟩))
  | enqueued => exact Or.inr (Or.inr (Or.inr ⟨_, rfl, fun _ _ h => by cases h⟩))
  | failMissed => exact Or.inr (Or.inr (Or.inr ⟨_, rfl, fun _ _ h => by cases h⟩))
  | failPublished => exact Or.inr (Or.inr (Or.inr ⟨_, rfl, fun _ _ h => by cases h⟩))

/-- **And an unclaimed one never with a claim.** -/
theorem not_returnsAlone_of_fresh {runId : String} {n : ℕ}
    (ha : alreadySubmitted s.rows backfillId (TaskRun.makeLogicalId task) = none) :
    ¬ m.ReturnsAlone s task backfillId (.ok (.alreadySubmittedBackfill runId n)) := by
  rintro ⟨choices, s', hall, hc'⟩
  obtain ⟨t, ht, hrun⟩ := System.run_cons_eq_some.1 hall
  obtain ⟨hc, hrows⟩ := call_of_submit ht
  have hstart : Unclaimed s.rows t.rows (SubmitPc.dedup : SubmitPc AnyTask) :=
    Or.inl ⟨rfl, hrows⟩
  generalize SubmitPc.dedup = pc at hc hstart
  clear ht hrows hall
  generalize s.calls.length = c at hc hc' hrun
  induction choices generalizing t pc with
  | nil =>
    cases hrun
    rw [hc] at hc'
    cases hc'
    rcases hstart with ⟨h, -⟩ | h | h | ⟨outcome, heq, hne⟩
    · cases h
    · cases h
    · cases h
    · cases heq
      exact hne _ _ rfl
  | cons choice choices ih =>
    obtain ⟨u, hu, hrun⟩ := System.run_cons_eq_some.1 hrun
    obtain ⟨pc', fx, hm, hcu, hrows⟩ := submitMove_of_call hu hc
    exact ih u pc' (hrows ▸ unclaimed_of_submitMove hstart ha hm) hcu hrun

end TaskMaster

/-! ## The agreement -/

/-- **Selection and submission agree** on a target of the relation. -/
structure SelectionAgrees (m : TaskMaster) (context : Context) (b : Backfill)
    (s : TaskState AnyTask) (relation : List BackfillTarget) (limit : ℕ) (target : BackfillTarget) :
    Prop where
  /-- What is left out is answered with its claim, and with nothing else. -/
  omitted : target ∉ selectTargets b s.rows relation limit →
    WebhookTask.reject (b.makeTask target) = none →
    ∃ runId n, ∀ answer, m.SubmitAnswers context s (b.makeTask target) (some b.id) answer ↔
      answer = .ok (.alreadySubmittedBackfill runId n)
  /-- What is selected never is. -/
  selected : target ∈ selectTargets b s.rows relation limit →
    ∀ runId n, ¬ m.SubmitAnswers context s (b.makeTask target) (some b.id)
      (.ok (.alreadySubmittedBackfill runId n))
  /-- A spark of no captures is refused before the table is read. -/
  rejected : WebhookTask.reject (b.makeTask target) ≠ none →
    ∀ answer, m.SubmitAnswers context s (b.makeTask target) (some b.id) answer ↔
      answer = .error (ApiError.badRequest "submit_spark requires at least one capture_id")

theorem AnyTask.submitCheck_of_admin {context : Context} {task : AnyTask}
    (h : context.isAdmin = true) : task.submitCheck context =
      if WebhookTask.reject task = none then .ok ()
      else .error (ApiError.badRequest "submit_spark requires at least one capture_id") := by
  cases task with
  | illuminate t => simp [submitCheck, ensureTaskSubmissionAllowed, h, WebhookTask.reject]
  | searchIndex t => simp [submitCheck, ensureTaskSubmissionAllowed, h, WebhookTask.reject]
  | spark t =>
    by_cases hempty : t.captureIds.isEmpty
    · simp [submitCheck, hempty, WebhookTask.reject]
    · simp [submitCheck, ensureTaskSubmissionAllowed, h, hempty, WebhookTask.reject]

open TaskMaster in
/-- **Backfill selection and submission dedup agree.** -/
theorem selection_agrees {m : TaskMaster} {s : TaskState AnyTask} {b : Backfill}
    {context : Context} {relation : List BackfillTarget} {target : BackfillTarget} {limit : ℕ}
    (h : m.Reaches s) (hmem : target ∈ relation) (hkeeps : b.Keeps target)
    (hadmin : context.isAdmin = true) (hlimit : relation.length ≤ limit) :
    SelectionAgrees m context b s relation limit target := by
  have hiff : target ∈ selectTargets b s.rows relation limit ↔
      ¬ (alreadySubmitted s.rows (some b.id) (b.logicalId target)).isSome := by
    rw [Backfill.mem_selectTargets hlimit, Backfill.alreadySubmitted_isSome_iff,
      Backfill.submitted_iff (fun _ hr => h.isOf hr) hkeeps]
    exact and_iff_right hmem
  refine ⟨fun hout haccept => ?_, fun hin runId n hans => ?_, fun hreject answer => ?_⟩
  · obtain ⟨found, hfound⟩ := Option.isSome_iff_exists.1 (not_not.1 (mt hiff.2 hout))
    obtain ⟨runId, n, rfl⟩ := exists_of_alreadySubmitted hfound
    refine ⟨runId, n, fun answer => ?_⟩
    unfold SubmitAnswers
    rw [AnyTask.submitCheck_of_admin hadmin, if_pos haccept]
    constructor
    · rintro ⟨outcome, hret, rfl⟩
      rw [(returnsAlone_of_alreadySubmitted hfound).1 hret]
      rfl
    · rintro rfl
      exact ⟨_, (returnsAlone_of_alreadySubmitted hfound).2 rfl, rfl⟩
  · have hnone := Option.not_isSome_iff_eq_none.1 (hiff.1 hin)
    unfold SubmitAnswers at hans
    rw [AnyTask.submitCheck_of_admin hadmin] at hans
    split_ifs at hans with haccept
    · obtain ⟨outcome, hret, heq⟩ := hans
      cases outcome with
      | error err => cases heq
      | ok found =>
        cases heq
        exact not_returnsAlone_of_fresh hnone hret
    · cases hans
  · unfold SubmitAnswers
    rw [AnyTask.submitCheck_of_admin hadmin, if_neg hreject]

/-! ### Two definitions over one table -/

/-- A definition over sparks, with the captures every task is built on. -/
def sparksBackfill (captureIds : List ℤ) : Backfill where
  id := "selected-sparks"
  taskType := "spark"
  entityType := "spark"
  makeTask target := .spark ⟨target.entityId, target.ownerId, captureIds⟩
  taskType_makeTask _ := rfl
  entityType_makeTask _ := rfl

/-- The table after spark 4 of user 1 was submitted under the tag. -/
def taggedSparkState : TaskState AnyTask :=
  ((TaskMaster.system AnyTask (TaskMaster.build none false)).run (TaskState.start [] [])
    (Ev.submission 0 (.spark ⟨4, 1, [7]⟩) (some "selected-sparks") "run-1" 0)).get (by decide)

/-- Spark 4 is left out, and answered with its claim. -/
theorem selection_agrees_spark : SelectionAgrees (TaskMaster.build none false) ⟨true, 9⟩
    (sparksBackfill [7]) taggedSparkState [⟨4, 1⟩, ⟨5, 1⟩] 100 ⟨4, 1⟩ :=
  selection_agrees ⟨_, (Option.some_get _).symm⟩ (by decide) ⟨rfl, rfl⟩ rfl (by decide)

/-- **Built without captures** it is left out all the same, and the
submission is a bad request. -/
theorem empty_spark_disagrees : ¬ ∀ (m : TaskMaster) (s : TaskState AnyTask) (b : Backfill)
    (context : Context) (relation : List BackfillTarget) (target : BackfillTarget) (limit : ℕ),
    m.Reaches s → target ∈ relation → b.Keeps target → context.isAdmin = true →
    relation.length ≤ limit →
    (target ∉ selectTargets b s.rows relation limit ↔
      ∃ runId n, m.SubmitAnswers context s (b.makeTask target) (some b.id)
        (.ok (.alreadySubmittedBackfill runId n))) := by
  intro h
  have hiff := h (TaskMaster.build none false) taggedSparkState (sparksBackfill []) ⟨true, 9⟩
    [⟨4, 1⟩] ⟨4, 1⟩ 100 ⟨_, (Option.some_get _).symm⟩ (by decide) ⟨rfl, rfl⟩ rfl (by decide)
  obtain ⟨runId, n, hans⟩ := hiff.1 (by decide)
  -- the guard of `submit_spark` answers, and its answer is an error
  have herr : (.ok (.alreadySubmittedBackfill runId n) : Except ApiError SubmitOutcome) =
      .error (ApiError.badRequest "submit_spark requires at least one capture_id") := hans
  cases herr

end Dreamscroll
