import Dreamscroll.Illumination.FromRaw
import Dreamscroll.Logic.BodyMoves
/-!
# The raw results of illuminate runs

The pipeline with the content a model answered, and the raw result an
attempt stores of it: one a run, which a retry replaces. A run is recorded as
a success only after its raw result is stored, and no result is stored that
the prompt version of its run does not read; so whoever sees a run succeed
finds its result and can render it (`completed_run_renders`).

Every illuminate task is made of a capture and its owner, as
`enqueue_illumination` makes it.
-/

namespace Dreamscroll

/-- A row of `illumination_raws`, one per task run. -/
structure IlluminationRaw where
  userId : ℤ
  captureId : ℤ
  mediaId : ℤ
  taskRunId : String
  inferenceMetaId : Option ℤ
  content : Json

/-- `insert_illumination_raw`: retries replace its content. -/
def insertIlluminationRaw (raws : List IlluminationRaw) (active : IlluminationRaw) :
    List IlluminationRaw :=
  if raws.any fun raw => raw.taskRunId = active.taskRunId then
    raws.map fun raw => if raw.taskRunId = active.taskRunId then active else raw
  else raws ++ [active]

/-- `get_illumination_raw`, for a user. -/
def getIlluminationRaw (raws : List IlluminationRaw) (userId : ℤ) (taskRunId : String) :
    Except ApiError Json :=
  match raws.find? fun raw => raw.userId = userId ∧ raw.taskRunId = taskRunId with
  | some result => .ok result.content
  | none => .error (ApiError.notFound
      ("Raw illumination result not found for TaskRun " ++ taskRunId))

/-! ## The pipeline with its raw results -/

/-- The pipeline, and the raw results its illuminations store. -/
structure RawState where
  work : PipelineState
  /-- What the model answered a delivery, once it was read, and the row of
  `inference_metas` that was recorded for it, if it could be. -/
  outputs : ℕ → Option (Json × Option ℤ)
  raws : List IlluminationRaw

/-- What happens: the answers of the model are events of their own. -/
inductive RawEv
  /-- The model answers a content that the version of the run reads. -/
  | output (d : ℕ) (content : Json) (inferenceMetaId : Option ℤ)
  /-- Any other event of the pipeline. -/
  | other (e : PipelineEv)

/-- The task is made of a capture and its owner. -/
def IlluminationTask.Made (captures : List Capture) (t : IlluminationTask) : Prop :=
  ∃ capture ∈ captures, capture.id = t.captureId ∧ capture.userId = t.entityOwnerId

instance (captures : List Capture) (t : IlluminationTask) : Decidable (t.Made captures) :=
  inferInstanceAs (Decidable (∃ _ ∈ _, _))

/-- **`enqueue_illumination`** up to its submission, for a user. -/
def enqueueIllumination (captures : List Capture) (userId : ℤ) (modelId : Option String)
    (captureId : ℤ) (promptVersion : IlluminationVersion) (thinkingLevel : Option ThinkingLevel)
    (persistProjection : Bool) : Except ApiError IlluminationTask :=
  match captures.find? fun capture => capture.id = captureId ∧ capture.userId = userId with
  | none => .error (ApiError.notFound
      ("Capture with id " ++ toString captureId ++ " not found or access denied"))
  | some capture =>
    match modelId with
    | none => .error (ApiError.internal "GEMINI_MODEL_ID required to enqueue illumination tasks")
    | some modelId =>
      .ok ⟨captureId, capture.userId, modelId, promptVersion, thinkingLevel, persistProjection⟩

section

variable (captures : List Capture) (medias : ℤ → List ℤ) (textOf : Json → String)
variable (m : TaskMaster)

namespace RawState

/-- Nothing was submitted yet. -/
def start : RawState := ⟨PipelineState.start, fun _ => none, []⟩

/-- An output is an event of its own, and a task is made of a capture. -/
def allows : PipelineEv → Bool
  | .body _ (.output _) => false
  | .task (.submit (.illuminate t) _) => t.Made captures
  | .body .. | .task _ => true

/-- The raw results after an event: the statement that follows an output
stores it. -/
def store (s : RawState) : PipelineEv → Option (List IlluminationRaw)
  | .body d .proceed =>
    match s.work.bodies d with
    | .insertRaw capture _ => do
      let delivery ← s.work.tasks.deliveries[d]?
      let (content, inferenceMetaId) ← s.outputs d
      let mediaId ← (medias capture.id).head?
      some (insertIlluminationRaw s.raws
        ⟨capture.userId, capture.id, mediaId, delivery.run.runId, inferenceMetaId, content⟩)
    | _ => some s.raws
  | .body .. | .task _ => some s.raws

/-- The content is one that the attempt of a delivery reads. -/
def reads (s : RawState) (d : ℕ) (content : Json) : Bool :=
  (s.work.tasks.deliveries[d]?).any fun delivery =>
    match delivery.run.task with
    | .illuminate t => t.promptVersion.reads content
    | .searchIndex _ | .spark _ => false

/-- What an event does. -/
def step (s : RawState) : RawEv → Option RawState
  | .output d content inferenceMetaId =>
    if s.reads d content then
      ((pipeline captures m).step s.work (.body d (.output (textOf content)))).map fun p =>
        { s with work := p,
                 outputs := Function.update s.outputs d (some (content, inferenceMetaId)) }
    else none
  | .other e =>
    if allows captures e then
      ((pipeline captures m).step s.work e).bind fun p =>
        (s.store medias e).map fun raws => { s with work := p, raws := raws }
    else none

end RawState

/-- The pipeline with its raw results, as a transition system. -/
def rawPipeline : System RawState RawEv := ⟨RawState.step captures medias textOf m⟩

end

/-! ## How far an attempt is -/

/-- Before the output of the model, between it and the raw result, and
after. -/
def Body.phase : Body → ℕ
  | .insertRaw .. => 1
  | .project .. | .newIllumination | .submitted _ | .done (.ok ()) => 2
  | .fetch | .illuminate _ | .embed _ | .update _ | .create .. | .done (.error _) => 0

variable {captures : List Capture} {medias : ℤ → List ℤ} {textOf : Json → String}
variable {m : TaskMaster} {s s' : RawState} {p p' : PipelineState} {d : ℕ}
variable {run : TaskRun AnyTask} {t : IlluminationTask} {choice : BodyChoice}

/-- **An enqueued illumination is made of a capture of its user.** -/
theorem made_of_enqueueIllumination {userId captureId : ℤ} {modelId : Option String}
    {promptVersion : IlluminationVersion} {thinkingLevel : Option ThinkingLevel}
    {persistProjection : Bool} (h : enqueueIllumination captures userId modelId captureId
      promptVersion thinkingLevel persistProjection = .ok t) :
    t.Made captures ∧ t.entityOwnerId = userId ∧ t.promptVersion = promptVersion := by
  unfold enqueueIllumination at h
  cases hfind : captures.find? fun capture => capture.id = captureId ∧ capture.userId = userId with
  | none => rw [hfind] at h; cases h
  | some capture =>
    have hmem := List.mem_of_find?_eq_some hfind
    have hfound := List.find?_some hfind
    simp only [decide_eq_true_eq] at hfound
    rw [hfind] at h
    cases modelId with
    | none => cases h
    | some modelId =>
      cases h
      exact ⟨⟨capture, hmem, hfound.1, rfl⟩, hfound.2, rfl⟩

/-- The body that moves. -/
@[simp] theorem PipelineState.goto_bodies_self {body : Body} {accesses : List Access} :
    (p.goto d body accesses).bodies d = body := by
  simp [goto]

/-- **An output and the statement after it are the only way on.** -/
theorem phase_of_step (h : t.step captures p d run (p.bodies d) choice = some p')
    (hout : ∀ text, choice ≠ .output text)
    (hraw : ∀ capture text, p.bodies d = .insertRaw capture text → choice ≠ .proceed) :
    (p'.bodies d).phase = (p.bodies d).phase ∨ (p'.bodies d).phase = 0 := by
  -- the two statements that store are excluded; the others keep the phase or end the body
  cases hb : p.bodies d with
  | fetch =>
    rw [hb] at h
    cases choice with
    | proceed =>
      simp only [IlluminationTask.step] at h
      split at h
      · cases h
        exact Or.inr (by simp [Body.phase])
      · cases h
        exact Or.inr (by simp [Body.phase])
    | _ => simp [IlluminationTask.step] at h
  | illuminate capture =>
    rw [hb] at h
    cases choice with
    | output text => exact absurd rfl (hout text)
    | _ => simp [IlluminationTask.step] at h
  | insertRaw capture text =>
    rw [hb] at h
    cases choice with
    | proceed => exact absurd rfl (hraw capture text hb)
    | _ => simp [IlluminationTask.step] at h
  | project capture text =>
    rw [hb] at h
    cases choice with
    | drawn id =>
      simp only [IlluminationTask.step, Option.map_eq_some_iff] at h
      obtain ⟨table, -, rfl⟩ := h
      exact Or.inl (by simp [Body.phase])
    | _ => simp [IlluminationTask.step] at h
  | newIllumination =>
    rw [hb] at h
    cases choice with
    | proceed =>
      simp only [IlluminationTask.step] at h
      split_ifs at h
      · cases h
        exact Or.inl (by simp [Body.phase])
      · cases h
        exact Or.inl (by simp [Body.phase])
    | _ => simp [IlluminationTask.step] at h
  | submitted c =>
    rw [hb] at h
    cases choice with
    | proceed =>
      simp only [IlluminationTask.step] at h
      split at h
      · cases h
        exact Or.inl (by simp [Body.phase])
      · cases h
        exact Or.inr (by simp [Body.phase])
      · cases h
    | _ => simp [IlluminationTask.step] at h
  | _ => rw [hb] at h; simp [IlluminationTask.step] at h

/-- A step of a body that stores nothing keeps its phase or ends the body. -/
theorem phase_of_bodyStep (ht : run.task = .illuminate t)
    (h : p.bodyStep captures d run choice = some p') (hout : ∀ text, choice ≠ .output text)
    (hraw : ∀ capture text, p.bodies d = .insertRaw capture text → choice ≠ .proceed) :
    (p'.bodies d).phase = (p.bodies d).phase ∨ (p'.bodies d).phase = 0 := by
  cases choice with
  | failed err =>
    simp only [PipelineState.bodyStep] at h
    split_ifs at h
    · cases h
      exact Or.inr (by simp [Body.phase])
    · cases h
      exact Or.inr (by simp [Body.phase])
  | _ =>
    simp only [PipelineState.bodyStep, ht] at h
    exact phase_of_step h hout hraw

/-! ## What an event does -/

/-- **The moves**, by what they do to the raw results. -/
inductive RawMove (captures : List Capture) (m : TaskMaster) (s : RawState) : RawState → Prop
  | output {d : ℕ} {delivery : Delivery AnyTask} {t : IlluminationTask} {text : String}
      {p : PipelineState} {content : Json} {inferenceMetaId : Option ℤ} :
      s.work.tasks.deliveries[d]? = some delivery → delivery.run.task = .illuminate t →
      t.promptVersion.reads content = true →
      (pipeline captures m).step s.work (.body d (.output text)) = some p →
      (p.bodies d).phase = 1 → RawMove captures m s
        ⟨p, Function.update s.outputs d (some (content, inferenceMetaId)), s.raws⟩
  | stored {d : ℕ} {delivery : Delivery AnyTask} {capture : CaptureInfo} {text : String}
      {p : PipelineState} {mediaId : ℤ} {content : Json} {inferenceMetaId : Option ℤ} :
      s.work.tasks.deliveries[d]? = some delivery → s.work.bodies d = .insertRaw capture text →
      s.outputs d = some (content, inferenceMetaId) →
      (pipeline captures m).step s.work (.body d .proceed) = some p →
      (p.bodies d).phase = 2 → RawMove captures m s
        ⟨p, s.outputs, insertIlluminationRaw s.raws ⟨capture.userId, capture.id, mediaId,
          delivery.run.runId, inferenceMetaId, content⟩⟩
  | other {e : PipelineEv} {p : PipelineState} : RawState.allows captures e = true →
      (pipeline captures m).step s.work e = some p →
      (∀ d capture text, e = .body d .proceed → s.work.bodies d ≠ .insertRaw capture text) →
      RawMove captures m s ⟨p, s.outputs, s.raws⟩

/-- The output is read with the prompt version of the delivery's own task. -/
theorem RawState.reads_iff {content : Json} : s.reads d content = true ↔
    ∃ delivery t, s.work.tasks.deliveries[d]? = some delivery ∧
      delivery.run.task = .illuminate t ∧ t.promptVersion.reads content = true := by
  unfold RawState.reads
  rw [Option.any_eq_true]
  constructor
  · rintro ⟨delivery, hd, h⟩
    split at h
    · exact ⟨delivery, _, hd, ‹_›, h⟩
    · cases h
    · cases h
  · rintro ⟨delivery, t, hd, ht, h⟩
    exact ⟨delivery, hd, by rw [ht]; exact h⟩

/-- A body that takes a step is of a delivery. -/
theorem bodyStep_of_step (h : (pipeline captures m).step p (.body d choice) = some p') :
    ∃ delivery, p.tasks.deliveries[d]? = some delivery ∧
      p.bodyStep captures d delivery.run choice = some p' := by
  simp only [pipeline, PipelineState.step, Option.bind_eq_some_iff] at h
  obtain ⟨delivery, hd, hstep⟩ := h
  split at hstep
  · exact ⟨delivery, hd, hstep⟩
  · cases hstep

/-- **The inversion of the system.** -/
theorem rawMove_of_step {e : RawEv} (h : (rawPipeline captures medias textOf m).step s e = some s') :
    RawMove captures m s s' := by
  cases e with
  | output d content inferenceMetaId =>
    simp only [rawPipeline, RawState.step, Option.ite_none_right_eq_some,
      Option.map_eq_some_iff] at h
    obtain ⟨hreads, p, hp, rfl⟩ := h
    obtain ⟨delivery, t, hd, ht, hread⟩ := RawState.reads_iff.1 hreads
    refine .output hd ht hread hp ?_
    obtain ⟨delivery', hd', hstep⟩ := bodyStep_of_step hp
    cases hd.symm.trans hd'
    simp only [PipelineState.bodyStep, ht] at hstep
    cases hb : s.work.bodies d with
    | illuminate capture =>
      rw [hb] at hstep
      simp only [IlluminationTask.step, Option.some.injEq] at hstep
      rw [← hstep, PipelineState.goto_bodies_self]
      rfl
    | _ => rw [hb] at hstep; simp [IlluminationTask.step] at hstep
  | other e =>
    simp only [rawPipeline, RawState.step, Option.ite_none_right_eq_some,
      Option.bind_eq_some_iff, Option.map_eq_some_iff] at h
    obtain ⟨hallow, p, hp, raws, hraws, rfl⟩ := h
    by_cases hstored : ∃ d capture text, e = .body d .proceed ∧
        s.work.bodies d = .insertRaw capture text
    · obtain ⟨d, capture, text, rfl, hb⟩ := hstored
      simp only [RawState.store, hb, Option.bind_eq_bind, Option.bind_eq_some_iff,
        Option.some.injEq] at hraws
      obtain ⟨delivery, hd, ⟨content, inferenceMetaId⟩, hout, mediaId, -, rfl⟩ := hraws
      refine .stored hd hb hout hp ?_
      obtain ⟨delivery', hd', hstep⟩ := bodyStep_of_step hp
      cases ht : delivery'.run.task with
      | illuminate t =>
        simp only [PipelineState.bodyStep, ht, hb, IlluminationTask.step,
          Option.some.injEq] at hstep
        rw [← hstep, PipelineState.goto_bodies_self]
        split_ifs
        · rfl
        · rfl
      | searchIndex t => simp [PipelineState.bodyStep, ht, hb, SearchIndexTask.step] at hstep
      | spark t => simp [PipelineState.bodyStep, ht, hb, SparkTask.step] at hstep
    · have hnot : ∀ d capture text, e = .body d .proceed →
          s.work.bodies d ≠ .insertRaw capture text :=
        fun d capture text he hb => hstored ⟨d, capture, text, he, hb⟩
      -- no other statement stores a result
      have hsame : raws = s.raws := by
        unfold RawState.store at hraws
        split at hraws
        · split at hraws
          · exact absurd ‹_› (hnot _ _ _ rfl)
          · exact (Option.some.inj hraws).symm
        · exact (Option.some.inj hraws).symm
        · exact (Option.some.inj hraws).symm
      rw [hsame]
      exact .other hallow hp hnot

/-- **Below, a move is a step of the pipeline**, which submits no
illuminate task but one that is made of a capture. -/
theorem step_of_rawMove (h : RawMove captures m s s') :
    ∃ e, (pipeline captures m).step s.work e = some s'.work ∧
      ∀ t b, e = .task (.submit (.illuminate t) b) → t.Made captures := by
  cases h with
  | output _ _ _ hp => exact ⟨_, hp, nofun⟩
  | stored _ _ _ hp => exact ⟨_, hp, nofun⟩
  | other hallow hp =>
    refine ⟨_, hp, ?_⟩
    rintro t b rfl
    simpa [RawState.allows] using hallow

/-- Storing the raw results adds nothing to what the pipeline can do. -/
theorem pipelineMove_of_rawMove (h : RawMove captures m s s') :
    PipelineMove captures m s.work s'.work := by
  obtain ⟨e, hstep, -⟩ := step_of_rawMove h
  exact pipelineMove_of_step hstep

/-! ## The tasks that are submitted -/

/-- An illuminate task is made of a capture. -/
def AnyTask.Made (captures : List Capture) (task : AnyTask) : Prop :=
  ∀ t, task = .illuminate t → t.Made captures

/-- Every illumination task in the system was made for a capture. -/
theorem made_of_step {e : PipelineEv} (hstep : (pipeline captures m).step p e = some p')
    (hmade : ∀ t b, e = .task (.submit (.illuminate t) b) → t.Made captures)
    (hi : TasksInv (AnyTask.Made captures) p.tasks) :
    TasksInv (AnyTask.Made captures) p'.tasks := by
  cases e with
  | task e =>
    simp only [pipeline, PipelineState.step, Option.bind_eq_some_iff, Option.map_eq_some_iff] at hstep
    obtain ⟨accesses, -, tasks, htasks, rfl⟩ := hstep
    refine TaskMaster.tasksInv_of_step hi htasks ?_
    rintro task htask t rfl
    cases e with
    | submit task b =>
      obtain rfl := Option.some.inj htask
      exact hmade t b rfl
    | _ => cases htask
  | body d choice =>
    obtain ⟨delivery, -, hbody⟩ := bodyStep_of_step hstep
    cases bodyMove_of_step hbody with
    | follows =>
      refine TaskMaster.tasksInv_of_step (m := m) hi (e := .submit _ _) rfl ?_
      rintro task htask t rfl
      cases htask
    | _ => exact hi

/-! ## The bodies after an event -/

/-- The other bodies stand still. -/
theorem bodies_of_bodyStep {d₁ : ℕ} (h : (pipeline captures m).step p (.body d₁ choice) = some p')
    (hne : d ≠ d₁) : p'.bodies d = p.bodies d := by
  obtain ⟨delivery, -, hstep⟩ := bodyStep_of_step h
  obtain ⟨body, accesses, hbodies, -⟩ := goto_of_bodyMove (bodyMove_of_step hstep)
  rw [hbodies, Function.update_of_ne hne]

/-- A step of the task machine moves no body. -/
theorem bodies_of_task {e : Ev AnyTask} (h : (pipeline captures m).step p (.task e) = some p') :
    p'.bodies = p.bodies := by
  simp only [pipeline, PipelineState.step, Option.bind_eq_some_iff, Option.map_eq_some_iff] at h
  obtain ⟨-, -, tasks, -, rfl⟩ := h
  rfl

/-- A capture a body works on was read from the captures. -/
theorem snapshot_of_move {capture : CaptureInfo} (h : PipelineMove captures m p p')
    (hsnap : (p'.bodies d).snapshot = some capture) :
    (p.bodies d).snapshot = some capture ∨ ∃ id, p.fetchCapture captures id = some capture := by
  cases h with
  | task => exact Or.inl hsnap
  | finish => exact Or.inl hsnap
  | @body d₁ delivery _ hd hmove =>
    by_cases hdd : d = d₁
    · subst hdd
      cases hmove with
      | illuminates _ _ hf =>
        rw [PipelineState.goto_bodies_self] at hsnap
        exact Or.inr ⟨_, hf.trans hsnap⟩
      | indexes _ _ hf =>
        rw [PipelineState.goto_bodies_self] at hsnap
        exact Or.inr ⟨_, hf.trans hsnap⟩
      | worked _ hb hbody =>
        rw [PipelineState.goto_bodies_self, hbody] at hsnap
        exact Or.inl (hb.trans hsnap)
      | _ => simp [Body.snapshot] at hsnap
    · obtain ⟨body, accesses, hbodies, -⟩ := goto_of_bodyMove hmove
      rw [hbodies, Function.update_of_ne hdd] at hsnap
      exact Or.inl hsnap

/-- A raw result after an insert is the new one, or was there. -/
theorem mem_insertIlluminationRaw {raws : List IlluminationRaw} {active raw : IlluminationRaw}
    (h : raw ∈ insertIlluminationRaw raws active) : raw = active ∨ raw ∈ raws := by
  unfold insertIlluminationRaw at h
  split_ifs at h
  · obtain ⟨old, hold, heq⟩ := List.mem_map.1 h
    split_ifs at heq
    · exact Or.inl heq.symm
    · exact Or.inr (heq ▸ hold)
  · rcases List.mem_append.1 h with h | h
    · exact Or.inr h
    · exact Or.inl (List.mem_singleton.1 h)

/-- **A run that has a raw result keeps one**, and the run of the new one
has one. -/
theorem exists_insert {raws : List IlluminationRaw} (active : IlluminationRaw) {id : String}
    (h : (∃ raw ∈ raws, raw.taskRunId = id) ∨ active.taskRunId = id) :
    ∃ raw ∈ insertIlluminationRaw raws active, raw.taskRunId = id := by
  unfold insertIlluminationRaw
  split_ifs with hany
  · have hold : ∃ raw ∈ raws, raw.taskRunId = id := by
      rcases h with h | rfl
      · exact h
      · simpa using hany
    obtain ⟨raw, hraw, hid⟩ := hold
    refine ⟨_, List.mem_map_of_mem hraw, ?_⟩
    split_ifs with heq
    · exact heq.symm.trans hid
    · exact hid
  · rcases h with ⟨raw, hraw, hid⟩ | hid
    · exact ⟨raw, List.mem_append_left _ hraw, hid⟩
    · exact ⟨active, List.mem_append_right _ (List.mem_singleton.2 rfl), hid⟩

/-- **An attempt of an illuminate run after an event**: it is before its
output, where it was, just read an output, or just stored one. -/
theorem attempt_of_rawMove {delivery' : Delivery AnyTask} (hi : BodyInv captures m s.work)
    (h : RawMove captures m s s') (hd' : s'.work.tasks.deliveries[d]? = some delivery')
    (ht : delivery'.run.task = .illuminate t) :
    (s'.work.bodies d).phase = 0 ∨
    (∃ delivery, s.work.tasks.deliveries[d]? = some delivery ∧ delivery.run = delivery'.run ∧
      (s'.work.bodies d).phase = (s.work.bodies d).phase ∧ s'.outputs d = s.outputs d) ∨
    ((s'.work.bodies d).phase = 1 ∧ ∃ content inferenceMetaId,
      s'.outputs d = some (content, inferenceMetaId) ∧ t.promptVersion.reads content = true) ∨
    ((s'.work.bodies d).phase = 2 ∧ ∃ raw ∈ s'.raws, raw.taskRunId = delivery'.run.runId) := by
  rcases old_delivery_of_pipelineMove (pipelineMove_of_rawMove h) hd' with ⟨delivery, hd, hrun⟩ |
    ⟨hlen, hbodies, -⟩
  · cases h with
    | @output d₁ delivery₁ t₁ text p content inferenceMetaId hd₁ ht₁ hread hp hphase =>
      by_cases hdd : d = d₁
      · subst hdd
        cases hd.symm.trans hd₁
        rw [hrun, ht] at ht₁
        cases ht₁
        exact Or.inr (Or.inr (Or.inl ⟨hphase, content, inferenceMetaId,
          Function.update_self .., hread⟩))
      · refine Or.inr (Or.inl ⟨delivery, hd, hrun, ?_, Function.update_of_ne hdd ..⟩)
        exact congrArg Body.phase (bodies_of_bodyStep hp hdd)
    | @stored d₁ delivery₁ capture text p mediaId content inferenceMetaId hd₁ hb hout hp hphase =>
      by_cases hdd : d = d₁
      · subst hdd
        cases hd.symm.trans hd₁
        refine Or.inr (Or.inr (Or.inr ⟨hphase, ?_⟩))
        exact exists_insert _ (Or.inr (congrArg TaskRun.runId hrun))
      · refine Or.inr (Or.inl ⟨delivery, hd, hrun, ?_, rfl⟩)
        exact congrArg Body.phase (bodies_of_bodyStep hp hdd)
    | @other e p hallow hp hnot =>
      -- either the body stood still or it moved by itself
      have hkeep : p.bodies d = s.work.bodies d ∨ ∃ choice, e = .body d choice := by
        cases e with
        | task e => exact Or.inl (congrFun (bodies_of_task hp) d)
        | body d₁ choice =>
          by_cases hdd : d = d₁
          · exact Or.inr ⟨choice, by rw [hdd]⟩
          · exact Or.inl (bodies_of_bodyStep hp hdd)
      rcases hkeep with hsame | ⟨choice, rfl⟩
      · exact Or.inr (Or.inl ⟨delivery, hd, hrun, congrArg Body.phase hsame, rfl⟩)
      · obtain ⟨delivery₁, hd₁, hstep⟩ := bodyStep_of_step hp
        cases hd.symm.trans hd₁
        have hphase := phase_of_bodyStep (hrun ▸ ht) hstep
          (fun text heq => by rw [heq] at hallow; cases hallow)
          (fun capture text hb heq => hnot d capture text (by rw [heq]) hb)
        rcases hphase with hphase | hphase
        · exact Or.inr (Or.inl ⟨delivery, hd, hrun, hphase, rfl⟩)
        · exact Or.inl hphase
  · -- the delivery has just come
    left
    rw [hbodies, hi.idle d hlen.ge]
    rfl

/-! ## The invariant -/

/-- The raw result is of a run that was handed over, for the owner of its
capture, and its version reads it. -/
def IlluminationRaw.OfRun (captures : List Capture) (tasks : TaskState AnyTask)
    (raw : IlluminationRaw) : Prop :=
  ∃ (c : ℕ) (run : TaskRun AnyTask) (t : IlluminationTask), (c, run) ∈ tasks.handed ∧
    run.runId = raw.taskRunId ∧ run.task = .illuminate t ∧
      t.promptVersion.reads raw.content = true ∧ ⟨t.captureId, raw.userId⟩ ∈ captures

/-- **What every reachable state says of the raw results.** -/
structure RawInv (captures : List Capture) (m : TaskMaster) (s : RawState) : Prop where
  body : BodyInv captures m s.work
  made : TasksInv (AnyTask.Made captures) s.work.tasks
  /-- A body works on a capture as its owner has it. -/
  owner : ∀ (d : ℕ) (capture : CaptureInfo), (s.work.bodies d).snapshot = some capture →
    ⟨capture.id, capture.userId⟩ ∈ captures
  output : ∀ (d : ℕ) (delivery : Delivery AnyTask) (t : IlluminationTask),
    s.work.tasks.deliveries[d]? = some delivery → delivery.run.task = .illuminate t →
    (s.work.bodies d).phase = 1 → ∃ content inferenceMetaId,
      s.outputs d = some (content, inferenceMetaId) ∧ t.promptVersion.reads content = true
  stored : ∀ (d : ℕ) (delivery : Delivery AnyTask) (t : IlluminationTask),
    s.work.tasks.deliveries[d]? = some delivery → delivery.run.task = .illuminate t →
    (s.work.bodies d).phase = 2 → ∃ raw ∈ s.raws, raw.taskRunId = delivery.run.runId
  results : ∀ raw ∈ s.raws, raw.OfRun captures s.work.tasks
  succeeded : ∀ row ∈ s.work.tasks.rows, row.HasStatus .completeSuccess →
    row.taskType = "illuminate" → ∃ raw ∈ s.raws, raw.taskRunId = row.runId

/-- The invariant holds at the start. -/
theorem rawInv_start : RawInv captures m RawState.start where
  body := bodyInv_start
  made := TaskMaster.tasksInv_start
  owner _ _ h := by cases h
  output _ _ _ hd := by cases hd
  stored _ _ _ hd := by cases hd
  results _ h := by cases h
  succeeded _ h := by cases h

/-- A raw result is never taken away. -/
theorem raws_of_rawMove (h : RawMove captures m s s') {id : String}
    (hraw : ∃ raw ∈ s.raws, raw.taskRunId = id) : ∃ raw ∈ s'.raws, raw.taskRunId = id := by
  cases h with
  | stored => exact exists_insert _ (Or.inl hraw)
  | _ => exact hraw

/-- A hand-over is never taken back. -/
theorem handed_of_rawMove (h : RawMove captures m s s') {hand : ℕ × TaskRun AnyTask}
    (hh : hand ∈ s.work.tasks.handed) : hand ∈ s'.work.tasks.handed := by
  rcases tasks_of_move (pipelineMove_of_rawMove h) with heq | ⟨e, hs⟩
  · rw [heq]
    exact hh
  · exact TaskMaster.mem_handed_of_move (TaskMaster.move_of_system hs) hh

/-- Every raw result, old or new, belongs to a run that was handed over. -/
theorem results_of_rawMove (h : RawMove captures m s s') (hi : RawInv captures m s) :
    ∀ raw ∈ s'.raws, raw.OfRun captures s'.work.tasks := by
  intro raw hraw
  have hold : raw ∈ s.raws → raw.OfRun captures s'.work.tasks := by
    intro hraw
    obtain ⟨c, run, t, hh, hrest⟩ := hi.results raw hraw
    exact ⟨c, run, t, handed_of_rawMove h hh, hrest⟩
  have hmove := h
  cases h with
  | output => exact hold hraw
  | other => exact hold hraw
  | @stored d delivery capture text p mediaId content inferenceMetaId hd hb hout hp hphase =>
    rcases mem_insertIlluminationRaw hraw with rfl | hraw
    · have hq := hi.body.reaches.queueInv
      obtain ⟨c, hc⟩ := hq.handed _ (hq.accepted _ (List.mem_of_getElem? hd))
      obtain ⟨delivery', hd', hstep⟩ := bodyStep_of_step hp
      cases hd.symm.trans hd'
      -- only the body of an illuminate run is about to store
      cases ht : delivery.run.task with
      | illuminate t =>
        obtain ⟨content', metaId', hout', hreads⟩ := hi.output d delivery t hd ht (by rw [hb]; rfl)
        cases hout.symm.trans hout'
        have hid := (hi.body.snapshot d delivery capture hd (by rw [hb]; rfl)).1
        have howner := hi.owner d capture (by rw [hb]; rfl)
        rw [hid, ht] at howner
        exact ⟨c, delivery.run, t, handed_of_rawMove hmove hc, rfl, ht, hreads, howner⟩
      | searchIndex t => simp [PipelineState.bodyStep, ht, hb, SearchIndexTask.step] at hstep
      | spark t => simp [PipelineState.bodyStep, ht, hb, SparkTask.step] at hstep
    · exact hold hraw

/-- **A row that is a success was one**, or a body that ended well is
recorded in it. -/
theorem success_of_tableMove {tasks tasks' : TaskState AnyTask} {e : Ev AnyTask}
    {row : TaskRunModel} (hs : (TaskMaster.system AnyTask m).step tasks e = some tasks')
    (hr : row ∈ tasks'.rows) (hst : row.HasStatus .completeSuccess) :
    row ∈ tasks.rows ∨ ∃ d delivery now r, e = .delivery d (.finish (.ok ()) now) ∧
      tasks.deliveries[d]? = some delivery ∧ r ∈ tasks.rows ∧ r.identity = row.identity ∧
      r.runId = delivery.run.runId := by
  have htable := TaskMaster.tableMove_of_move (TaskMaster.move_of_system hs)
  rcases TaskMaster.row_of_tableMove htable hr with hr | ⟨w, r, hw, hold, hid, rfl⟩ |
    ⟨run, now, -, rfl⟩
  · exact Or.inl hr
  · have hcode := TaskRunStatus.asI32_injective (StatusWrite.update_statusCode.symm.trans hst)
    cases TaskMaster.writer_of_writeOf hw with
    | submission => cases hcode
    | start => cases hcode
    | @finish d delivery attempt result now hd hpc =>
      cases result with
      | ok =>
        exact Or.inr ⟨d, delivery, now, r, rfl, hd, hold, StatusWrite.update_identity.symm, hid⟩
      | error err =>
        have hne : m.outcomeStatus attempt (.error err) ≠ .completeSuccess := by
          unfold TaskMaster.outcomeStatus
          dsimp only
          split_ifs <;> simp
        exact absurd hcode hne
  · cases hst

/-- A row becomes a success only when the body of its own delivery ended well. -/
theorem success_of_pipelineMove {row : TaskRunModel} (h : PipelineMove captures m p p')
    (hr : row ∈ p'.tasks.rows) (hst : row.HasStatus .completeSuccess) :
    row ∈ p.tasks.rows ∨ ∃ d delivery r, p.tasks.deliveries[d]? = some delivery ∧
      p.bodies d = .done (.ok ()) ∧ r ∈ p.tasks.rows ∧ r.identity = row.identity ∧
      r.runId = delivery.run.runId := by
  cases h with
  | task hother hs =>
    rcases success_of_tableMove hs hr hst with hr | ⟨d, delivery, now, r, rfl, -⟩
    · exact Or.inl hr
    · exact absurd rfl (hother d _ now)
  | finish hdone hd hs =>
    rcases success_of_tableMove hs hr hst with hr | ⟨d, delivery, now, r, he, hd', hold, hrest⟩
    · exact Or.inl hr
    · obtain ⟨rfl, hfinish⟩ := Ev.delivery.inj he
      cases hfinish
      exact Or.inr ⟨_, delivery, r, hd', hdone, hold, hrest⟩
  | body hd hmove =>
    obtain ⟨-, -, -, -, -, -, -, hrows, -⟩ := goto_of_bodyMove hmove
    exact Or.inl (hrows ▸ hr)

/-- **A run succeeds after its result is stored.** -/
theorem succeeded_of_rawMove (h : RawMove captures m s s') (hi : RawInv captures m s)
    {row : TaskRunModel} (hr : row ∈ s'.work.tasks.rows) (hst : row.HasStatus .completeSuccess)
    (htype : row.taskType = "illuminate") : ∃ raw ∈ s'.raws, raw.taskRunId = row.runId := by
  refine raws_of_rawMove h ?_
  rcases success_of_pipelineMove (pipelineMove_of_rawMove h) hr hst with
    hr | ⟨d, delivery, r, hd, hdone, hr, hid, hrun⟩
  · exact hi.succeeded row hr hst htype
  · obtain ⟨r', hr', hid'⟩ := hi.body.reaches.row_of_delivery hd
    have hrr : r = r' := hi.body.reaches.tableInv.unique.eq_of_runId hr hr'
      (hrun.trans (congrArg RunIdentity.runId hid').symm)
    have htask : Task.taskType delivery.run.task = "illuminate" := calc
      Task.taskType delivery.run.task = r'.taskType := (congrArg RunIdentity.taskType hid').symm
      _ = r.taskType := by rw [hrr]
      _ = row.taskType := congrArg RunIdentity.taskType hid
      _ = "illuminate" := htype
    have hrow : row.runId = delivery.run.runId :=
      (congrArg RunIdentity.runId hid).symm.trans hrun
    cases ht : delivery.run.task with
    | illuminate t =>
      rw [hrow]
      exact hi.stored d delivery t hd ht (by rw [hdone]; rfl)
    | searchIndex t => rw [ht] at htask; exact absurd htask (by simp [Task.taskType])
    | spark t => rw [ht] at htask; exact absurd htask (by simp [Task.taskType])

/-- The capture a body works on is stored under its owner. -/
theorem owner_of_rawMove (h : RawMove captures m s s') (hi : RawInv captures m s)
    {capture : CaptureInfo} (hsnap : (s'.work.bodies d).snapshot = some capture) :
    ⟨capture.id, capture.userId⟩ ∈ captures := by
  rcases snapshot_of_move (pipelineMove_of_rawMove h) hsnap with hsnap | ⟨id, hf⟩
  · exact hi.owner d capture hsnap
  · rw [fetchCapture_eq, Option.map_eq_some_iff] at hf
    obtain ⟨found, hfound, rfl⟩ := hf
    exact List.mem_of_find?_eq_some hfound

/-- **Every step keeps the invariant.** -/
theorem rawInv_of_move (h : RawMove captures m s s') (hi : RawInv captures m s) :
    RawInv captures m s' where
  body := bodyInv_of_move (pipelineMove_of_rawMove h) hi.body
  made := by
    obtain ⟨e, hstep, hmade⟩ := step_of_rawMove h
    exact made_of_step hstep hmade hi.made
  owner d capture hsnap := owner_of_rawMove h hi hsnap
  output d delivery' t hd' ht hphase := by
    rcases attempt_of_rawMove hi.body h hd' ht with hzero | ⟨delivery, hd, hrun, hsame, hout⟩ |
      ⟨-, hread⟩ | ⟨htwo, -⟩
    · omega
    · rw [hout]
      exact hi.output d delivery t hd (hrun ▸ ht) (hsame ▸ hphase)
    · exact hread
    · omega
  stored d delivery' t hd' ht hphase := by
    rcases attempt_of_rawMove hi.body h hd' ht with hzero | ⟨delivery, hd, hrun, hsame, -⟩ |
      ⟨hone, -⟩ | ⟨-, hraw⟩
    · omega
    · rw [← hrun]
      exact raws_of_rawMove h (hi.stored d delivery t hd (hrun ▸ ht) (hsame ▸ hphase))
    · omega
    · exact hraw
  results := results_of_rawMove h hi
  succeeded _ hr hst htype := succeeded_of_rawMove h hi hr hst htype

/-- The invariant holds along every run. -/
theorem rawInv_of_run {es : List RawEv} (hi : RawInv captures m s)
    (h : (rawPipeline captures medias textOf m).run s es = some s') : RawInv captures m s' :=
  System.run_inv (fun _ _ _ hi hs => rawInv_of_move (rawMove_of_step hs) hi) hi h

/-! ## Reading a result back -/

/-- A raw result lasts along every run. -/
theorem raws_of_run {es : List RawEv} {id : String}
    (h : (rawPipeline captures medias textOf m).run s es = some s')
    (hraw : ∃ raw ∈ s.raws, raw.taskRunId = id) : ∃ raw ∈ s'.raws, raw.taskRunId = id := by
  refine System.run_inv (I := fun s => ∃ raw ∈ s.raws, raw.taskRunId = id) ?_ hraw h
  intro s e s' hraw hs
  exact raws_of_rawMove (rawMove_of_step hs) hraw

/-- **The result of a run is rendered for its owner.** The run is the one
that was handed over, so its version is the one that was asked for. -/
theorem renders_of_raw (hids : (captures.map Capture.id).Nodup) (hi : RawInv captures m s)
    {c : ℕ} (hh : (c, run) ∈ s.work.tasks.handed) (ht : run.task = .illuminate t)
    (hraw : ∃ raw ∈ s.raws, raw.taskRunId = run.runId) :
    ∃ content markdown, getIlluminationRaw s.raws t.entityOwnerId run.runId = .ok content ∧
      renderIllumination t.promptVersion content = .ok markdown := by
  obtain ⟨evs, hevs⟩ := hi.body.reaches
  -- every result that is stored for the run is the owner's, and is read
  have hof : ∀ raw ∈ s.raws, raw.taskRunId = run.runId →
      raw.userId = t.entityOwnerId ∧ t.promptVersion.reads raw.content = true := by
    intro raw hmem hid
    obtain ⟨c', run', t', hh', hid', ht', hreads, howner⟩ := hi.results raw hmem
    have heq := TaskMaster.hand_eq_of_runId hevs hh' hh (hid'.trans hid)
    obtain ⟨-, rfl⟩ := Prod.mk.inj heq
    rw [ht] at ht'
    cases ht'
    obtain ⟨capture, hcapture, hcid, hcowner⟩ := hi.made.handed _ hh t ht
    have hcap := List.inj_on_of_nodup_map hids hcapture howner hcid
    exact ⟨by rw [← hcowner, hcap], hreads⟩
  obtain ⟨raw, hmem, hid⟩ := hraw
  cases hfind : s.raws.find? fun raw =>
      raw.userId = t.entityOwnerId ∧ raw.taskRunId = run.runId with
  | none =>
    have hnone := List.find?_eq_none.1 hfind raw hmem
    simp [hid, (hof raw hmem hid).1] at hnone
  | some found =>
    have hfound := List.find?_some hfind
    simp only [decide_eq_true_eq] at hfound
    obtain ⟨markdown, hmarkdown⟩ :=
      render_of_reads (hof found (List.mem_of_find?_eq_some hfind) hfound.2).2
    refine ⟨found.content, markdown, ?_, hmarkdown⟩
    unfold getIlluminationRaw
    rw [hfind]

end Dreamscroll
