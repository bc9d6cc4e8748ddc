import Dreamscroll.Common.Sql
import Dreamscroll.Logic.CatchUp
/-!
# The illumination that is exposed

A projection takes its key from the sequence of the table when the upsert
of its transaction runs, and shows when the transaction commits; a retry of
its run keeps the key. Readers take the highest key of a capture for its
latest run. That holds as long as no run draws its first key behind a later
run of the capture (`exposed_latest`), which a run delivered again after it
failed may do (`stale_run_exposed`).
-/

namespace Dreamscroll

/-! ## Keys from a sequence -/

/-- An open transaction of `insert_illumination_v2`, past its upsert. -/
structure OpenInsert where
  d : ℕ
  run : TaskRun AnyTask
  captureId : ℤ
  /-- The key the upsert drew. -/
  id : ℤ

/-- The pipeline, and the database below its projections. -/
structure SequencedState where
  pipeline : PipelineState
  sequence : Sequence
  inserting : List OpenInsert

/-- What happens: the key of a projection is drawn before its commit. -/
inductive SequencedEv
  /-- The upsert of a projection runs. -/
  | upsert (d : ℕ)
  /-- A step of the pipeline: of a projection, the commit. -/
  | pipeline (e : PipelineEv)

namespace SequencedState

/-- Nothing was submitted yet. -/
def start (sequence : Sequence) : SequencedState := ⟨.start, sequence, []⟩

/-- A commit shows the row under the key its transaction drew. -/
def mayRun (s : SequencedState) : PipelineEv → Bool
  | .body d (.drawn id) => s.inserting.any fun o => o.d = d && o.id = id
  | .body .. | .task _ => true

/-- A statement of the body after the upsert ends its transaction. -/
def openAfter (s : SequencedState) : PipelineEv → List OpenInsert
  | .body d _ => s.inserting.filter fun o => o.d ≠ d
  | .task _ => s.inserting

/-- The run and the capture of a body that stands at its projection. -/
def projecting (s : SequencedState) (d : ℕ) : Option (TaskRun AnyTask × ℤ) :=
  (s.pipeline.tasks.deliveries[d]?).bind fun delivery =>
    match delivery.pc, s.pipeline.bodies d with
    | .running _, .project capture _ => some (delivery.run, capture.id)
    | _, _ => none

variable (captures : List Capture) (m : TaskMaster)

/-- What an event does. -/
def step (s : SequencedState) : SequencedEv → Option SequencedState
  | .upsert d =>
    if s.inserting.any fun o => o.d = d then none
    else (s.projecting d).bind fun p => s.sequence.nextval.map fun q =>
      { s with
        sequence := q
        inserting := s.inserting ++ [⟨d, p.1, p.2, q.last⟩] }
  | .pipeline e =>
    if s.mayRun e then
      (s.pipeline.step captures m e).map fun p =>
        { s with pipeline := p, inserting := s.openAfter e }
    else none

end SequencedState

/-- The pipeline over a database that hands out its keys. -/
def sequenced (captures : List Capture) (m : TaskMaster) : System SequencedState SequencedEv :=
  ⟨SequencedState.step captures m⟩

/-! ## What readers rely on -/

/-- **The exposed illumination is the latest run's**: no stored projection
of the capture is of a run with a higher number. -/
def ExposesLatest (s : PipelineState) : Prop :=
  ∀ capture : Capture, ∀ i ∈ (makeCaptureInfo s.illuminations capture).illuminations,
    ∃ row ∈ s.tasks.rows, row.runId = i.taskRunId ∧
      ∀ j ∈ s.illuminations, j.captureId = capture.id →
        ∀ row' ∈ s.tasks.rows, row'.runId = j.taskRunId → row'.runNumber ≤ row.runNumber

/-- **A higher id means a later run.** -/
def HigherIdIsLater (s : PipelineState) : Prop :=
  ∀ i ∈ s.illuminations, ∀ j ∈ s.illuminations, i.captureId = j.captureId → i.id < j.id →
    ∀ row ∈ s.tasks.rows, row.runId = i.taskRunId →
      ∀ row' ∈ s.tasks.rows, row'.runId = j.taskRunId → row.runNumber < row'.runNumber

/-- A run that has no projection yet is later than every run of the capture
that has one, or is inserting one. -/
def InTurn (s : SequencedState) (run : TaskRun AnyTask) (captureId : ℤ) : Prop :=
  (∃ i ∈ s.pipeline.illuminations, i.taskRunId = run.runId) ∨
  ((∀ i ∈ s.pipeline.illuminations, i.captureId = captureId →
    ∀ row ∈ s.pipeline.tasks.rows, row.runId = i.taskRunId → row.runNumber < run.runNumber) ∧
  ∀ o ∈ s.inserting, o.captureId = captureId → o.run.runId ≠ run.runId →
    o.run.runNumber < run.runNumber)

/-- **No run draws its first key behind a later run.** -/
def DrawsInTurn (s : SequencedState) (e : SequencedEv) (_ : SequencedState) : Prop :=
  match e with
  | .upsert d => ∀ p ∈ s.projecting d, InTurn s p.1 p.2
  | .pipeline _ => True

instance (s : PipelineState) : Decidable (HigherIdIsLater s) :=
  inferInstanceAs (Decidable (∀ i ∈ _, ∀ j ∈ _, _ → _ → _))

instance (s : SequencedState) (run : TaskRun AnyTask) (captureId : ℤ) :
    Decidable (InTurn s run captureId) := inferInstanceAs (Decidable (_ ∨ _))

instance (s : SequencedState) (e : SequencedEv) (s' : SequencedState) :
    Decidable (DrawsInTurn s e s') :=
  match e with
  | .upsert d => inferInstanceAs (Decidable (∀ p ∈ s.projecting d, InTurn s p.1 p.2))
  | .pipeline _ => isTrue trivial

/-! ## What a step does -/

variable {captures : List Capture} {m : TaskMaster} {s s' : SequencedState} {d : ℕ}
variable {p p' : PipelineState} {run : TaskRun AnyTask} {captureId id : ℤ} {e : PipelineEv}

/-- A delivery that is about to project its text. -/
theorem projecting_eq_some (h : s.projecting d = some (run, captureId)) :
    ∃ delivery capture text, s.pipeline.tasks.deliveries[d]? = some delivery ∧
      delivery.run = run ∧ s.pipeline.bodies d = .project capture text ∧
      capture.id = captureId := by
  unfold SequencedState.projecting at h
  rw [Option.bind_eq_some_iff] at h
  obtain ⟨delivery, hd, h⟩ := h
  split at h
  · rename_i capture text hpc hb
    cases h
    exact ⟨delivery, capture, text, hd, rfl, hb, rfl⟩
  · cases h

/-- **A commit** of the pipeline. -/
theorem commit_of_step (h : p.step captures m (.body d (.drawn id)) = some p') :
    ∃ delivery capture text table, p.tasks.deliveries[d]? = some delivery ∧
      p.bodies d = .project capture text ∧
      insertIlluminationV2 p.illuminations capture.id delivery.run.runId id text = some table ∧
      p' = { p with illuminations := table }.goto d .newIllumination
        [.commit d delivery.run table] := by
  simp only [PipelineState.step, Option.bind_eq_some_iff] at h
  obtain ⟨delivery, hd, h⟩ := h
  split at h
  · simp only [PipelineState.bodyStep] at h
    cases ht : delivery.run.task with
    | illuminate t =>
      rw [ht] at h
      cases hb : p.bodies d with
      | project capture text =>
        rw [hb] at h
        simp only [IlluminationTask.step, Option.map_eq_some_iff] at h
        obtain ⟨table, htable, rfl⟩ := h
        exact ⟨delivery, capture, text, table, hd, rfl, htable, rfl⟩
      | _ => rw [hb] at h; simp [IlluminationTask.step] at h
    | searchIndex t =>
      rw [ht] at h
      cases hb : p.bodies d <;> rw [hb] at h <;> simp [SearchIndexTask.step] at h
    | spark t =>
      rw [ht] at h
      cases hb : p.bodies d <;> rw [hb] at h <;> simp [SparkTask.step] at h
  · cases h

/-- **Any other step leaves the projections alone.** -/
theorem illuminations_of_step (h : p.step captures m e = some p')
    (hne : ∀ d id, e ≠ .body d (.drawn id)) : p'.illuminations = p.illuminations := by
  cases e with
  | task e =>
    simp only [PipelineState.step, Option.bind_eq_some_iff, Option.map_eq_some_iff] at h
    obtain ⟨accesses, -, tasks, -, rfl⟩ := h
    rfl
  | body d choice =>
    simp only [PipelineState.step, Option.bind_eq_some_iff] at h
    obtain ⟨delivery, hd, h⟩ := h
    split at h
    · have hmove := bodyMove_of_step h
      cases hmove with
      | projected hb ht htable =>
        simp only [PipelineState.bodyStep, hb, ht, IlluminationTask.step] at h
        cases choice with
        | drawn id => exact absurd rfl (hne d id)
        | failed err =>
          simp only [reduceCtorEq, if_false, Body.fallible, if_true, Option.some.injEq] at h
          have hbody := congrFun (congrArg PipelineState.bodies h) d
          simp [PipelineState.goto] at hbody
        | _ => simp at h
      | _ => rfl
    · cases h

/-- What `insert_illumination_v2` did to the table: it kept the key of a
run that had a row, or added the row of one that had none. -/
theorem insert_cases {illuminations table : List Illumination} {runId text : String}
    (h : insertIlluminationV2 illuminations captureId runId id text = some table) :
    ((∃ i ∈ illuminations, i.taskRunId = runId) ∧ table = illuminations.map fun i =>
      if i.taskRunId = runId then { i with captureId := captureId, text := text } else i) ∨
    ((∀ i ∈ illuminations, i.taskRunId ≠ runId) ∧ (∀ i ∈ illuminations, i.id ≠ id) ∧
      table = illuminations ++ [⟨id, captureId, runId, text⟩]) := by
  unfold insertIlluminationV2 at h
  split_ifs at h with hrun hid
  · exact Or.inl ⟨hrun, (Option.some.inj h).symm⟩
  · refine Or.inr ⟨fun i hi heq => hrun ⟨i, hi, heq⟩, fun i hi heq => hid ⟨i, hi, heq⟩, ?_⟩
    exact (Option.some.inj h).symm

/-! ## Where the runs come from -/

/-- A hand-over is never taken back. -/
theorem handed_of_pipelineMove {x : ℕ × TaskRun AnyTask} (h : PipelineMove captures m p p')
    (hx : x ∈ p.tasks.handed) : x ∈ p'.tasks.handed := by
  rcases tasks_of_move h with heq | ⟨e, hs⟩
  · rw [heq]
    exact hx
  · obtain ⟨fx, hfx⟩ := TaskMaster.log_of_move (TaskMaster.move_of_system hs)
    rw [TaskState.handed_eq, hfx, handsOf_append]
    exact List.mem_append_left _ hx

/-- A run id names one run that was handed over. -/
theorem run_eq_of_handed {t : TaskState AnyTask} {c c' : ℕ} {run run' : TaskRun AnyTask}
    (h : m.Reaches t) (hrun : (c, run) ∈ t.handed) (hrun' : (c', run') ∈ t.handed)
    (hid : run.runId = run'.runId) : run = run' := by
  obtain ⟨evs, hevs⟩ := h
  exact (Prod.mk.inj (TaskMaster.hand_eq_of_runId hevs hrun hrun' hid)).2

/-- A delivered run was handed over. -/
theorem handed_of_delivery {t : TaskState AnyTask} {delivery : Delivery AnyTask}
    (h : m.Reaches t) (hd : t.deliveries[d]? = some delivery) :
    ∃ c, (c, delivery.run) ∈ t.handed :=
  h.queueInv.handed _ (h.queueInv.accepted _ (List.mem_of_getElem? hd))

/-- And has one row, with its number. -/
theorem number_of_handed {t : TaskState AnyTask} {c : ℕ} {row : TaskRunModel}
    (h : m.Reaches t) (hrun : (c, run) ∈ t.handed) (hrow : row ∈ t.rows)
    (hid : row.runId = run.runId) : row.runNumber = run.runNumber := by
  have hunique := h.tableInv.unique
  obtain ⟨evs, hevs⟩ := h
  obtain ⟨row', hrow', hident⟩ := TaskMaster.row_of_hand hevs hrun
  have hsame : row = row' := hunique.eq_of_runId hrow hrow'
    (hid.trans (congrArg RunIdentity.runId hident).symm)
  rw [hsame]
  exact congrArg RunIdentity.runNumber hident

/-! ## The order of the keys -/

/-- The run holds this key: its row has it, or is being inserted with it. -/
inductive Keyed (s : SequencedState) (run : TaskRun AnyTask) (id : ℤ) : Prop
  | stored {i : Illumination} {c : ℕ} : i ∈ s.pipeline.illuminations →
      (c, run) ∈ s.pipeline.tasks.handed → run.runId = i.taskRunId → i.id = id → Keyed s run id
  | inserting {o : OpenInsert} : o ∈ s.inserting →
      (∀ i ∈ s.pipeline.illuminations, i.taskRunId ≠ o.run.runId) → o.run = run → o.id = id →
      Keyed s run id

/-- **What the keys and the runs say together.** -/
structure OrderInv (captures : List Capture) (m : TaskMaster) (s : SequencedState) : Prop where
  body : BodyInv captures m s.pipeline
  sourced : ∀ i ∈ s.pipeline.illuminations, ∃ c run, (c, run) ∈ s.pipeline.tasks.handed ∧
    run.runId = i.taskRunId ∧ i.captureId = Task.entityId run.task
  opened : ∀ o ∈ s.inserting, o.captureId = Task.entityId o.run.task ∧
    ∃ delivery, s.pipeline.tasks.deliveries[o.d]? = some delivery ∧ delivery.run = o.run
  ids : (s.pipeline.illuminations.map Illumination.id).Nodup
  runs : (s.pipeline.illuminations.map Illumination.taskRunId).Nodup
  drawn : ∀ run id, Keyed s run id → id ≤ (s.sequence.last : ℤ)
  ordered : ∀ run id run' id', Keyed s run id → Keyed s run' id' →
    Task.entityId run.task = Task.entityId run'.task → run.runId ≠ run'.runId → id < id' →
    run.runNumber < run'.runNumber

/-- The invariant holds at the start. -/
theorem orderInv_start {q : Sequence} : OrderInv captures m (SequencedState.start q) where
  body := bodyInv_start
  sourced _ hi := by cases hi
  opened _ ho := by cases ho
  ids := List.nodup_nil
  runs := List.nodup_nil
  drawn _ _ h := by
    cases h with
    | stored hi => cases hi
    | inserting ho => cases ho
  ordered _ _ _ _ h := by
    cases h with
    | stored hi => cases hi
    | inserting ho => cases ho

/-! ### An upsert -/

/-- **A run that draws in turn keeps the order**, its key being above all
others. -/
theorem orderInv_of_upsert (hi : OrderInv captures m s)
    (hs : s.step captures m (.upsert d) = some s') (hturn : DrawsInTurn s (.upsert d) s') :
    OrderInv captures m s' := by
  simp only [SequencedState.step] at hs
  split_ifs at hs with hopen
  rw [Option.bind_eq_some_iff] at hs
  obtain ⟨⟨run, captureId⟩, hp, hs⟩ := hs
  obtain ⟨q, hq, rfl⟩ := Option.map_eq_some_iff.1 hs
  have hlast : q.last = s.sequence.last + 1 := by
    unfold Sequence.nextval at hq
    split_ifs at hq
    cases hq
    rfl
  obtain ⟨delivery, capture, text, hd, hrun, hb, hcap⟩ := projecting_eq_some hp
  obtain ⟨hsnap, -⟩ := hi.body.snapshot d delivery capture hd (by rw [hb]; rfl)
  have hentity : captureId = Task.entityId run.task := by rw [← hcap, hsnap, hrun]
  -- a key of the next state is an old one, or the one drawn for a new run
  have hcases : ∀ run' id', Keyed { s with sequence := q, inserting := s.inserting ++
      [⟨d, run, captureId, q.last⟩] } run' id' → Keyed s run' id' ∨
      run' = run ∧ id' = q.last ∧ ∀ i ∈ s.pipeline.illuminations, i.taskRunId ≠ run.runId := by
    intro run' id' hk
    cases hk with
    | stored hmem hh hid hkey => exact Or.inl (.stored hmem hh hid hkey)
    | inserting ho hnew hr hkey =>
      rcases List.mem_append.1 ho with hold | hlast
      · exact Or.inl (.inserting hold hnew hr hkey)
      · rw [List.mem_singleton] at hlast
        subst hlast
        exact Or.inr ⟨hr.symm, hkey.symm, hnew⟩
  refine ⟨hi.body, hi.sourced, ?_, hi.ids, hi.runs, ?_, ?_⟩
  · intro o ho
    rcases List.mem_append.1 ho with hold | hlast
    · exact hi.opened o hold
    · rw [List.mem_singleton] at hlast
      subst hlast
      exact ⟨hentity, delivery, hd, hrun⟩
  · intro run' id' hk
    show id' ≤ (q.last : ℤ)
    rcases hcases run' id' hk with hold | ⟨-, hkey, -⟩
    · have hle := hi.drawn run' id' hold
      omega
    · omega
  · intro run₁ id₁ run₂ id₂ h₁ h₂ hsame hne hlt
    rcases hcases run₂ id₂ h₂ with h₂ | ⟨rfl, rfl, hnew⟩
    · rcases hcases run₁ id₁ h₁ with h₁ | ⟨-, rfl, -⟩
      · exact hi.ordered run₁ id₁ run₂ id₂ h₁ h₂ hsame hne hlt
      · have hle := hi.drawn run₂ id₂ h₂
        omega
    · rcases hcases run₁ id₁ h₁ with h₁ | ⟨rfl, -, -⟩
      · rcases hturn (run₂, captureId) hp with ⟨i, hmem, heq⟩ | ⟨hstored, hins⟩
        · exact absurd heq (hnew i hmem)
        · cases h₁ with
          | @stored i c hmem hh hid hkey =>
            obtain ⟨c', run', hh', hid', hcap'⟩ := hi.sourced i hmem
            have hr : run₁ = run' :=
              run_eq_of_handed hi.body.reaches hh hh' (hid.trans hid'.symm)
            obtain ⟨evs, hevs⟩ := hi.body.reaches
            obtain ⟨row, hrow, hident⟩ := TaskMaster.row_of_hand hevs hh
            have hrowid : row.runId = run₁.runId := congrArg RunIdentity.runId hident
            have hnum : row.runNumber = run₁.runNumber := congrArg RunIdentity.runNumber hident
            rw [← hnum]
            refine hstored i hmem ?_ row hrow (hrowid.trans hid)
            rw [hcap', ← hr, hsame, hentity]
          | inserting ho _ hr hkey =>
            rw [← hr] at hsame hne ⊢
            refine hins _ ho ?_ hne
            rw [(hi.opened _ ho).1, hsame, hentity]
      · exact absurd rfl hne

/-! ### A step of the pipeline -/

/-- What a step of the pipeline did to the projections. -/
inductive TableMove (s : SequencedState) : List Illumination → Prop
  /-- At most the text of rows changed. -/
  | kept {f : Illumination → Illumination} :
      (∀ i ∈ s.pipeline.illuminations, (f i).id = i.id ∧ (f i).taskRunId = i.taskRunId ∧
        (f i).captureId = i.captureId) → TableMove s (s.pipeline.illuminations.map f)
  /-- A run without a projection committed the one it had under way. -/
  | added {o : OpenInsert} {text : String} : o ∈ s.inserting →
      (∀ i ∈ s.pipeline.illuminations, i.taskRunId ≠ o.run.runId) →
      (∀ i ∈ s.pipeline.illuminations, i.id ≠ o.id) →
      TableMove s (s.pipeline.illuminations ++ [⟨o.id, o.captureId, o.run.runId, text⟩])

/-- When an event of the pipeline may run, and what it does to the open
insertions. -/
theorem step_pipeline_eq_some :
    s.step captures m (.pipeline e) = some s' ↔ s.mayRun e = true ∧
      ∃ p, s.pipeline.step captures m e = some p ∧
        s' = { s with pipeline := p, inserting := s.openAfter e } := by
  simp only [SequencedState.step, Option.ite_none_right_eq_some, Option.map_eq_some_iff,
    eq_comm (b := s')]

/-- An event opens no insertion. -/
theorem mem_of_mem_openAfter {o : OpenInsert} (h : o ∈ s.openAfter e) : o ∈ s.inserting := by
  cases e with
  | task e => exact h
  | body d choice => exact List.mem_of_mem_filter h

/-- What an event does to the illuminations: rows are rewritten in place, or
an open insertion adds its row. -/
theorem tableMove_of_step (hi : OrderInv captures m s) (hmay : s.mayRun e = true)
    (h : s.pipeline.step captures m e = some p') : TableMove s p'.illuminations := by
  by_cases hdrawn : ∃ d id, e = .body d (.drawn id)
  · obtain ⟨d, id, rfl⟩ := hdrawn
    obtain ⟨delivery, capture, text, table, hd, hb, htable, rfl⟩ := commit_of_step h
    obtain ⟨hentity, -⟩ := hi.body.snapshot d delivery capture hd (by rw [hb]; rfl)
    rcases insert_cases htable with ⟨-, rfl⟩ | ⟨hrun, hid, rfl⟩
    · refine .kept fun i hmem => ?_
      split_ifs with heq
      · -- the capture of a row is that of its run
        obtain ⟨c, run, hh, hrunid, hcap⟩ := hi.sourced i hmem
        obtain ⟨c', hh'⟩ := handed_of_delivery hi.body.reaches hd
        have hsame : run = delivery.run :=
          run_eq_of_handed hi.body.reaches hh hh' (hrunid.trans heq)
        refine ⟨rfl, rfl, ?_⟩
        show capture.id = i.captureId
        rw [hentity, hcap, hsame]
      · exact ⟨rfl, rfl, rfl⟩
    · obtain ⟨o, ho, hmatch⟩ := List.any_eq_true.1 hmay
      simp only [Bool.and_eq_true, decide_eq_true_eq] at hmatch
      obtain ⟨hod, rfl⟩ := hmatch
      obtain ⟨hcap, delivery', hd', hrun'⟩ := hi.opened o ho
      rw [hod, hd] at hd'
      cases hd'
      have hadded : TableMove s (s.pipeline.illuminations ++
          [⟨o.id, o.captureId, o.run.runId, text⟩]) :=
        .added ho (by rw [← hrun']; exact hrun) hid
      rw [hcap, ← hrun', ← hentity] at hadded
      exact hadded
  · have hsame := illuminations_of_step h fun d id he => hdrawn ⟨d, id, he⟩
    rw [hsame]
    have hkept : TableMove s (s.pipeline.illuminations.map fun i => i) :=
      .kept fun i _ => ⟨rfl, rfl, rfl⟩
    rw [List.map_id'] at hkept
    exact hkept

/-- **A step of the pipeline gives no run a key**: what is committed was
drawn before. -/
theorem keyed_of_step (hi : OrderInv captures m s)
    (hs : s.step captures m (.pipeline e) = some s') (hk : Keyed s' run id) : Keyed s run id := by
  obtain ⟨hmay, p, hp, rfl⟩ := step_pipeline_eq_some.1 hs
  have hmove : PipelineMove captures m s.pipeline p := pipelineMove_of_step hp
  have hreaches := (bodyInv_of_move hmove hi.body).reaches
  have htable := tableMove_of_step hi hmay hp
  cases hk with
  | stored hmem hh hrun hid =>
    -- the run was handed over before, as its row or its delivery was there
    have hback : ∀ {c' : ℕ} {run' : TaskRun AnyTask}, (c', run') ∈ s.pipeline.tasks.handed →
        run'.runId = run.runId → run' = run := fun hh' heq =>
      run_eq_of_handed hreaches (handed_of_pipelineMove hmove hh') hh heq
    change _ ∈ p.illuminations at hmem
    generalize htab : p.illuminations = table at hmem htable
    cases htable with
    | kept hsame =>
      obtain ⟨i, hi', rfl⟩ := List.mem_map.1 hmem
      obtain ⟨hfid, hfrun, -⟩ := hsame i hi'
      obtain ⟨c', run', hh', hrun', -⟩ := hi.sourced i hi'
      obtain rfl := hback hh' (hrun'.trans (hfrun.symm.trans hrun.symm))
      exact .stored hi' hh' hrun' (hfid.symm.trans hid)
    | added ho hnew _ =>
      rcases List.mem_append.1 hmem with hi' | hlast
      · obtain ⟨c', run', hh', hrun', -⟩ := hi.sourced _ hi'
        obtain rfl := hback hh' (hrun'.trans hrun.symm)
        exact .stored hi' hh' hrun' hid
      · rw [List.mem_singleton] at hlast
        subst hlast
        obtain ⟨-, delivery, hd, hdrun⟩ := hi.opened _ ho
        obtain ⟨c', hh'⟩ := handed_of_delivery hi.body.reaches hd
        rw [hdrun] at hh'
        exact .inserting ho hnew (hback hh' hrun.symm) hid
  | inserting ho hnew hrun hid =>
    refine .inserting (mem_of_mem_openAfter ho) (fun i hi' => ?_) hrun hid
    change ∀ i ∈ p.illuminations, _ at hnew
    generalize htab : p.illuminations = table at hnew htable
    cases htable with
    | kept hsame =>
      have hne := hnew _ (List.mem_map_of_mem hi')
      rw [(hsame i hi').2.1] at hne
      exact hne
    | added _ _ _ => exact hnew i (List.mem_append_left _ hi')

/-- **A step of the pipeline keeps the order.** -/
theorem orderInv_of_pipeline (hi : OrderInv captures m s)
    (hs : s.step captures m (.pipeline e) = some s') : OrderInv captures m s' := by
  have hkeyed : ∀ run id, Keyed s' run id → Keyed s run id := fun _ _ => keyed_of_step hi hs
  obtain ⟨hmay, p, hp, rfl⟩ := step_pipeline_eq_some.1 hs
  have hmove : PipelineMove captures m s.pipeline p := pipelineMove_of_step hp
  have htable := tableMove_of_step hi hmay hp
  have hhanded : ∀ x, x ∈ s.pipeline.tasks.handed → x ∈ p.tasks.handed := fun _ =>
    handed_of_pipelineMove hmove
  have hrows : (∀ i ∈ p.illuminations, ∃ c run, (c, run) ∈ p.tasks.handed ∧
      run.runId = i.taskRunId ∧ i.captureId = Task.entityId run.task) ∧
      (p.illuminations.map Illumination.id).Nodup ∧
      (p.illuminations.map Illumination.taskRunId).Nodup := by
    generalize htab : p.illuminations = table at htable ⊢
    cases htable with
    | @kept f hsame =>
      -- rows may be rewritten in place, under the same id and run
      refine ⟨fun i hmem => ?_, ?_, ?_⟩
      · obtain ⟨i, hi', rfl⟩ := List.mem_map.1 hmem
        obtain ⟨-, hfrun, hfcap⟩ := hsame i hi'
        obtain ⟨c, run, hh, hrun, hcap⟩ := hi.sourced i hi'
        exact ⟨c, run, hhanded _ hh, hrun.trans hfrun.symm, hfcap.trans hcap⟩
      · have heq : s.pipeline.illuminations.map (Illumination.id ∘ f) =
            s.pipeline.illuminations.map Illumination.id :=
          List.map_congr_left fun i hi' => (hsame i hi').1
        rw [List.map_map, heq]
        exact hi.ids
      · have heq : s.pipeline.illuminations.map (Illumination.taskRunId ∘ f) =
            s.pipeline.illuminations.map Illumination.taskRunId :=
          List.map_congr_left fun i hi' => (hsame i hi').2.1
        rw [List.map_map, heq]
        exact hi.runs
    | @added o text ho hnew hid =>
      -- a row is added by an open insertion, for its own run
      refine ⟨fun i hmem => ?_, ?_, ?_⟩
      · rcases List.mem_append.1 hmem with hi' | hlast
        · obtain ⟨c, run, hh, hrun, hcap⟩ := hi.sourced i hi'
          exact ⟨c, run, hhanded _ hh, hrun, hcap⟩
        · rw [List.mem_singleton] at hlast
          subst hlast
          obtain ⟨hcap, delivery, hd, hrun⟩ := hi.opened o ho
          obtain ⟨c, hh⟩ := handed_of_delivery hi.body.reaches hd
          rw [hrun] at hh
          exact ⟨c, o.run, hhanded _ hh, rfl, hcap⟩
      · rw [List.map_append, List.map_singleton, List.nodup_append_comm, List.singleton_append,
          List.nodup_cons]
        refine ⟨fun hmem => ?_, hi.ids⟩
        obtain ⟨i, hi', heq⟩ := List.mem_map.1 hmem
        exact hid i hi' heq
      · rw [List.map_append, List.map_singleton, List.nodup_append_comm, List.singleton_append,
          List.nodup_cons]
        refine ⟨fun hmem => ?_, hi.runs⟩
        obtain ⟨i, hi', heq⟩ := List.mem_map.1 hmem
        exact hnew i hi' heq
  obtain ⟨hsourced, hids, hruns⟩ := hrows
  refine ⟨bodyInv_of_move hmove hi.body, hsourced, fun o ho => ?_, hids, hruns, ?_, ?_⟩
  · obtain ⟨hcap, delivery, hd, hrun⟩ := hi.opened o (mem_of_mem_openAfter ho)
    obtain ⟨delivery', hd', hrun'⟩ := delivery_of_pipelineMove hmove hd
    exact ⟨hcap, delivery', hd', hrun'.trans hrun⟩
  · exact fun run id hk => hi.drawn run id (hkeyed run id hk)
  · exact fun run id run' id' hk hk' =>
      hi.ordered run id run' id' (hkeyed run id hk) (hkeyed run' id' hk')

/-! ## The exposed illumination -/

/-- The invariant holds along every run whose draws are in turn. -/
theorem orderInv_of_run {q : Sequence} {evs : List SequencedEv}
    (h : (sequenced captures m).run (SequencedState.start q) evs = some s)
    (hturn : (sequenced captures m).Along DrawsInTurn (SequencedState.start q) evs) :
    OrderInv captures m s := by
  refine System.run_inv_along (fun s e s' hi hs hP => ?_) orderInv_start h hturn
  cases e with
  | upsert d => exact orderInv_of_upsert hi hs hP
  | pipeline e => exact orderInv_of_pipeline hi hs

/-- The higher of two ids is that of the later run. -/
theorem higherIdIsLater_of_inv (hi : OrderInv captures m s) : HigherIdIsLater s.pipeline := by
  intro i hmem j hmem' hcap hlt row hrow hrid row' hrow' hrid'
  obtain ⟨c, run, hh, hrun, hentity⟩ := hi.sourced i hmem
  obtain ⟨c', run', hh', hrun', hentity'⟩ := hi.sourced j hmem'
  have hne : run.runId ≠ run'.runId := by
    intro heq
    have hsame : i = j := List.inj_on_of_nodup_map hi.runs hmem hmem'
      (hrun.symm.trans (heq.trans hrun'))
    rw [hsame] at hlt
    omega
  have hlater := hi.ordered run i.id run' j.id (.stored hmem hh hrun rfl)
    (.stored hmem' hh' hrun' rfl) (by rw [← hentity, hcap, hentity']) hne hlt
  rw [number_of_handed hi.body.reaches hh hrow (hrid.trans hrun.symm),
    number_of_handed hi.body.reaches hh' hrow' (hrid'.trans hrun'.symm)]
  exact hlater

/-- The illumination that is shown is that of the latest run. -/
theorem exposesLatest_of_inv (hi : OrderInv captures m s) : ExposesLatest s.pipeline := by
  intro capture i hexposed
  have hnewest : latestIllumination s.pipeline.illuminations capture.id = some i :=
    Option.mem_toList.1 hexposed
  unfold latestIllumination newest at hnewest
  have hof := List.argmax_mem hnewest
  rw [List.mem_filter, decide_eq_true_eq] at hof
  obtain ⟨hmem, hcap⟩ := hof
  obtain ⟨c, run, hh, hrun, -⟩ := hi.sourced i hmem
  have hreaches := hi.body.reaches
  have hunique := hreaches.tableInv.unique
  obtain ⟨evs, hevs⟩ := hreaches
  obtain ⟨row, hrow, hident⟩ := TaskMaster.row_of_hand hevs hh
  have hrid : row.runId = i.taskRunId := (congrArg RunIdentity.runId hident).trans hrun
  refine ⟨row, hrow, hrid, fun j hmem' hcap' row' hrow' hrid' => ?_⟩
  have hle : j.id ≤ i.id := List.le_of_mem_argmax
    (List.mem_filter.2 ⟨hmem', decide_eq_true hcap'⟩) hnewest
  rcases lt_or_eq_of_le hle with hlt | heq
  · have hlater := higherIdIsLater_of_inv hi j hmem' i hmem (hcap'.trans hcap.symm) hlt
      row' hrow' hrid' row hrow hrid
    omega
  · have hsame : j = i := List.inj_on_of_nodup_map hi.ids hmem' hmem heq
    rw [hunique.eq_of_runId hrow' hrow (by rw [hrid', hsame, hrid])]

/-- **The exposed illumination is the latest run's** wherever no run draws
its first key behind a later run of its capture, and a higher id means a
later run there. -/
theorem exposed_latest {q : Sequence} {evs : List SequencedEv}
    (h : (sequenced captures m).run (SequencedState.start q) evs = some s)
    (hturn : (sequenced captures m).Along DrawsInTurn (SequencedState.start q) evs) :
    ExposesLatest s.pipeline ∧ HigherIdIsLater s.pipeline := by
  have hi := orderInv_of_run h hturn
  exact ⟨exposesLatest_of_inv hi, higherIdIsLater_of_inv hi⟩

section Schedules

open PipelineEv

namespace SequencedEv

/-- Steps of the pipeline alone. -/
def steps (evs : List PipelineEv) : List SequencedEv := evs.map .pipeline

/-- Call `c` submits a run of the task, which the backend accepts. -/
def submits (c i : ℕ) (task : IlluminationTask) (runId : String) (now : Timestamp) :
    List SequencedEv :=
  steps (.task (.submit (.illuminate task) none) :: enqueues c i runId now)

/-- The body of delivery `d` goes up to the upsert of its projection. -/
def upserts (d : ℕ) (text : String) : List SequencedEv :=
  steps [.body d .proceed, .body d (.output text), .body d .proceed] ++ [.upsert d]

/-- The body of delivery `d` fails, and its attempt with it. -/
def fails (d : ℕ) (err : ApiError) (now : Timestamp) : List SequencedEv :=
  steps [.body d (.failed err), .task (.delivery d (.finish (.error err) now)),
    .task (.delivery d (.publish none))]

/-- It commits and submits its follow-up, and its attempt succeeds. -/
def commits (d : ℕ) (id : ℤ) (followUp : List PipelineEv) (now : Timestamp) :
    List SequencedEv :=
  steps ([.body d (.drawn id), .body d .proceed] ++ followUp ++ [.body d .proceed] ++
    succeeds d now)

end SequencedEv

open SequencedEv

/-- The commit of the first run fails, and its retry draws a second key;
then the capture is illuminated again. -/
def inTurnSchedule : List SequencedEv :=
  submits 0 0 illuminateSeven "illuminate-1" 0 ++ steps (begins 0 0 1) ++ upserts 0 "lost" ++
    fails 0 (ApiError.internal "connection closed") 2 ++
    steps (begins 0 1 3) ++ upserts 1 "first" ++
    commits 1 2 (enqueues 1 1 "index-1" 4) 5 ++
    submits 2 2 illuminateSeven "illuminate-2" 6 ++ steps (begins 2 2 7) ++ upserts 2 "second" ++
    commits 2 3 (refused 3) 8

/-- The state after that. -/
def inTurnState : SequencedState :=
  ((sequenced seven ⟨3, true⟩).run (SequencedState.start ⟨0⟩) inTurnSchedule).get (by decide)

/-- A capture illuminated twice, in turn. -/
theorem exposed_latest_rerun :
    ExposesLatest inTurnState.pipeline ∧ HigherIdIsLater inTurnState.pipeline :=
  exposed_latest (show (sequenced seven ⟨3, true⟩).run (SequencedState.start ⟨0⟩)
    inTurnSchedule = some inTurnState from (Option.some_get _).symm) (by decide)

/-- The first run fails for good before it has a projection, and is
delivered again after the second one has its own. -/
def staleSchedule : List SequencedEv :=
  submits 0 0 illuminateSeven "illuminate-1" 0 ++ steps (begins 0 0 1) ++
    steps [.body 0 .proceed] ++ fails 0 (ApiError.badRequest "blocked") 2 ++
    submits 1 1 illuminateSeven "illuminate-2" 3 ++ steps (begins 1 1 4) ++
    upserts 1 "second" ++ commits 1 1 (enqueues 2 2 "index-1" 5) 6 ++
    steps (begins 0 2 7) ++ upserts 2 "first" ++ commits 2 2 (refused 3) 8

/-- The state after that. -/
def staleState : SequencedState :=
  ((sequenced seven ⟨3, true⟩).run (SequencedState.start ⟨0⟩) staleSchedule).get (by decide)

/-- **An earlier run may be exposed over a later one**: delivered again, the
first run draws its first key above that of the second. -/
theorem stale_run_exposed :
    (sequenced seven ⟨3, true⟩).run (SequencedState.start ⟨0⟩) staleSchedule = some staleState ∧
    (makeCaptureInfo staleState.pipeline.illuminations ⟨7, 1⟩).illuminations =
      [⟨2, 7, "illuminate-1", "first"⟩] ∧
    ¬ ExposesLatest staleState.pipeline ∧ ¬ HigherIdIsLater staleState.pipeline := by
  refine ⟨(Option.some_get _).symm, by decide, fun h => ?_, by decide⟩
  have hexposed := h ⟨7, 1⟩ ⟨2, 7, "illuminate-1", "first"⟩ (by decide)
  revert hexposed
  decide

end Schedules

end Dreamscroll
