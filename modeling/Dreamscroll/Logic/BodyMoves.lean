import Dreamscroll.Logic.Pipeline
import Dreamscroll.Task.Deliveries
/-!
# What a body can do

The inversion of the pipeline, said once: `BodyMove` lists what the body of
an attempt does at its next statement, and `PipelineMove` what an event
does. `BodyInv` is what every reachable state says of the bodies and of the
history they leave.
-/

namespace Dreamscroll

/-- The capture a body works on. -/
def Body.snapshot : Body → Option CaptureInfo
  | .illuminate capture | .insertRaw capture _ | .project capture _ | .embed capture
  | .update capture | .create capture _ => some capture
  | .fetch | .newIllumination | .submitted _ | .done _ => none

/-- The delivery whose body did it. -/
def Access.delivery : Access → ℕ
  | .fetch d _ | .commit d _ _ | .followUp d _ _ | .write d _ _ | .finish d _ _ => d

/-- And the run it was for. -/
def Access.run : Access → TaskRun AnyTask
  | .fetch _ run | .commit _ run _ | .followUp _ run _ | .write _ run _ | .finish _ run _ => run

/-! ## The moves of a body -/

/-- **What a body does at its next statement.** -/
inductive BodyMove (captures : List Capture) (s : PipelineState) (d : ℕ)
    (run : TaskRun AnyTask) : PipelineState → Prop
  /-- The body ends with what it read, or failed to read. -/
  | fetchEnded {result : Except ApiError Unit} : s.bodies d = .fetch →
      (∀ t, run.task = .illuminate t → result ≠ .ok ()) →
      (∀ t, run.task = .searchIndex t → result = .ok () →
        s.fetchCapture captures t.captureId = none) →
      BodyMove captures s d run (s.goto d (.done result) [.fetch d run])
  | illuminates {t : IlluminationTask} {capture : CaptureInfo} : s.bodies d = .fetch →
      run.task = .illuminate t → s.fetchCapture captures t.captureId = some capture →
      BodyMove captures s d run (s.goto d (.illuminate capture) [.fetch d run])
  | indexes {t : SearchIndexTask} {capture : CaptureInfo} : s.bodies d = .fetch →
      run.task = .searchIndex t → s.fetchCapture captures t.captureId = some capture →
      BodyMove captures s d run (s.goto d (.embed capture) [.fetch d run])
  | failed {err : ApiError} : s.bodies d ≠ .fetch → (∀ result, s.bodies d ≠ .done result) →
      BodyMove captures s d run (s.goto d (.done (.error err)) [])
  /-- A statement that leaves the body with its capture. -/
  | worked (capture : CaptureInfo) {body : Body} : (s.bodies d).snapshot = some capture →
      body.snapshot = some capture →
      (∀ object, body = .create capture object →
        capture.dataObject = some object ∧ s.objects capture.dataObjectId = none) →
      BodyMove captures s d run (s.goto d body [])
  | stored {t : IlluminationTask} {capture : CaptureInfo} {text : String} :
      s.bodies d = .insertRaw capture text → run.task = .illuminate t → ¬ t.Projected →
      BodyMove captures s d run (s.goto d .newIllumination [])
  | projected {t : IlluminationTask} {capture : CaptureInfo} {text : String} {id : ℤ}
      {table : List Illumination} : s.bodies d = .project capture text →
      run.task = .illuminate t →
      insertIlluminationV2 s.illuminations capture.id run.runId id text = some table →
      BodyMove captures s d run
        ({ s with illuminations := table }.goto d .newIllumination [.commit d run table])
  | follows {t : IlluminationTask} : s.bodies d = .newIllumination → run.task = .illuminate t →
      t.Projected → BodyMove captures s d run
        ((s.invoke (.searchIndex ⟨t.captureId, t.entityOwnerId⟩) run.backfillId).goto d
          (.submitted s.tasks.calls.length) [.followUp d run s.tasks.calls.length])
  | unprojected {t : IlluminationTask} : s.bodies d = .newIllumination →
      run.task = .illuminate t → ¬ t.Projected →
      BodyMove captures s d run (s.goto d (.done (.ok ())) [])
  | answered {t : IlluminationTask} {c : ℕ} {call : Call AnyTask} {outcome : SubmitOutcome} :
      s.bodies d = .submitted c → run.task = .illuminate t → s.tasks.calls[c]? = some call →
      call.pc = .returned (.ok outcome) →
      BodyMove captures s d run (s.goto d (.done (.ok ())) [])
  | wrote {t : SearchIndexTask} {capture : CaptureInfo} {object : DataObject} :
      (s.bodies d = .update capture ∧ capture.dataObject = some object ∨
        s.bodies d = .create capture object) → run.task = .searchIndex t →
      BodyMove captures s d run ((s.putObject capture.dataObjectId object).goto d
        (.done (.ok ())) [.write d run capture.dataObjectId])
  /-- Another attempt created the object. -/
  | existed {t : SearchIndexTask} {capture : CaptureInfo} {object : DataObject} :
      s.bodies d = .create capture object → run.task = .searchIndex t →
      s.objects capture.dataObjectId ≠ none →
      BodyMove captures s d run (s.goto d (.done (.ok ())) [])

variable {captures : List Capture} {m : TaskMaster} {s s' : PipelineState} {d : ℕ}
variable {run : TaskRun AnyTask} {choice : BodyChoice}

/-- The body of an illumination moves as a body does. -/
theorem bodyMove_of_illuminate {t : IlluminationTask} (ht : run.task = .illuminate t)
    (h : t.step captures s d run (s.bodies d) choice = some s') :
    BodyMove captures s d run s' := by
  cases hb : s.bodies d with
  | fetch =>
    rw [hb] at h
    cases choice with
    | proceed =>
      cases hf : s.fetchCapture captures t.captureId with
      | none =>
        simp only [IlluminationTask.step, hf, Option.some.injEq] at h
        rw [← h]
        refine .fetchEnded hb (fun _ _ => by simp) fun t' ht' => ?_
        rw [ht] at ht'
        cases ht'
      | some capture =>
        simp only [IlluminationTask.step, hf, Option.some.injEq] at h
        rw [← h]
        exact .illuminates hb ht hf
    | _ => simp [IlluminationTask.step] at h
  | illuminate capture =>
    rw [hb] at h
    cases choice with
    | output text =>
      simp only [IlluminationTask.step, Option.some.injEq] at h
      rw [← h]
      exact .worked capture (by rw [hb]; rfl) rfl (by simp)
    | _ => simp [IlluminationTask.step] at h
  | insertRaw capture text =>
    rw [hb] at h
    cases choice with
    | proceed =>
      simp only [IlluminationTask.step, Option.some.injEq] at h
      rw [← h]
      by_cases hp : t.Projected
      · rw [if_pos hp]
        exact .worked capture (by rw [hb]; rfl) rfl (by simp)
      · rw [if_neg hp]
        exact .stored hb ht hp
    | _ => simp [IlluminationTask.step] at h
  | project capture text =>
    rw [hb] at h
    cases choice with
    | drawn id =>
      simp only [IlluminationTask.step, Option.map_eq_some_iff] at h
      obtain ⟨table, htable, rfl⟩ := h
      exact .projected hb ht htable
    | _ => simp [IlluminationTask.step] at h
  | newIllumination =>
    rw [hb] at h
    cases choice with
    | proceed =>
      simp only [IlluminationTask.step] at h
      split_ifs at h with hp
      · cases h
        exact .follows hb ht hp
      · cases h
        exact .unprojected hb ht hp
    | _ => simp [IlluminationTask.step] at h
  | submitted c =>
    rw [hb] at h
    cases choice with
    | proceed =>
      cases hc : s.tasks.calls[c]? with
      | none => simp [IlluminationTask.step, hc] at h
      | some call =>
        cases hpc : call.pc with
        | returned outcome =>
          simp only [IlluminationTask.step, hc, Option.map_some, hpc] at h
          cases outcome with
          | ok outcome =>
            cases h
            exact .answered hb ht hc hpc
          | error err =>
            cases h
            exact .failed (by rw [hb]; simp) (by rw [hb]; simp)
        | _ => simp [IlluminationTask.step, hc, hpc] at h
    | _ => simp [IlluminationTask.step] at h
  | _ => rw [hb] at h; simp [IlluminationTask.step] at h

/-- The body of a search-index task moves as a body does. -/
theorem bodyMove_of_searchIndex {t : SearchIndexTask} (ht : run.task = .searchIndex t)
    (h : t.step captures s d run (s.bodies d) choice = some s') :
    BodyMove captures s d run s' := by
  cases hb : s.bodies d with
  | fetch =>
    rw [hb] at h
    cases choice with
    | proceed =>
      have hill : ∀ result t', run.task = .illuminate t' → result ≠ Except.ok (ε := ApiError) () := by
        intro result t' ht'
        rw [ht] at ht'
        cases ht'
      cases hf : s.fetchCapture captures t.captureId with
      | none =>
        simp only [SearchIndexTask.step, hf, Option.some.injEq] at h
        rw [← h]
        refine .fetchEnded hb (hill _) fun t' ht' _ => ?_
        rw [ht] at ht'
        cases ht'
        exact hf
      | some capture =>
        simp only [SearchIndexTask.step, hf] at h
        split_ifs at h with hempty
        · cases h
          exact .fetchEnded hb (hill _) (by simp)
        · cases h
          exact .indexes hb ht hf
    | _ => simp [SearchIndexTask.step] at h
  | embed capture =>
    rw [hb] at h
    cases choice with
    | proceed =>
      simp only [SearchIndexTask.step, Option.some.injEq] at h
      rw [← h]
      exact .worked capture (by rw [hb]; rfl) rfl (by simp)
    | _ => simp [SearchIndexTask.step] at h
  | update capture =>
    rw [hb] at h
    cases choice with
    | proceed =>
      cases ho : capture.dataObject with
      | none =>
        simp only [SearchIndexTask.step, ho, Option.some.injEq] at h
        rw [← h]
        exact .failed (by rw [hb]; simp) (by rw [hb]; simp)
      | some object =>
        cases hobj : s.objects capture.dataObjectId with
        | some old =>
          simp only [SearchIndexTask.step, ho, hobj, Option.some.injEq] at h
          rw [← h]
          exact .wrote (Or.inl ⟨hb, ho⟩) ht
        | none =>
          simp only [SearchIndexTask.step, ho, hobj, Option.some.injEq] at h
          rw [← h]
          refine .worked capture (by rw [hb]; rfl) rfl fun object' heq => ?_
          cases heq
          exact ⟨ho, hobj⟩
    | _ => simp [SearchIndexTask.step] at h
  | create capture object =>
    rw [hb] at h
    cases choice with
    | proceed =>
      cases hobj : s.objects capture.dataObjectId with
      | some old =>
        simp only [SearchIndexTask.step, hobj, Option.some.injEq] at h
        rw [← h]
        exact .existed hb ht (by rw [hobj]; simp)
      | none =>
        simp only [SearchIndexTask.step, hobj, Option.some.injEq] at h
        rw [← h]
        exact .wrote (Or.inr hb) ht
    | _ => simp [SearchIndexTask.step] at h
  | _ => rw [hb] at h; simp [SearchIndexTask.step] at h

/-- The body of a spark moves as a body does. -/
theorem bodyMove_of_spark {t : SparkTask} (ht : run.task = .spark t)
    (h : SparkTask.step s d run (s.bodies d) choice = some s') :
    BodyMove captures s d run s' := by
  cases hb : s.bodies d with
  | fetch =>
    rw [hb] at h
    cases choice with
    | ended result =>
      simp only [SparkTask.step, Option.some.injEq] at h
      rw [← h]
      exact .fetchEnded hb (by simp [ht]) (by simp [ht])
    | _ => simp [SparkTask.step] at h
  | _ => rw [hb] at h; simp [SparkTask.step] at h

/-- **The inversion of a body.** -/
theorem bodyMove_of_step (h : s.bodyStep captures d run choice = some s') :
    BodyMove captures s d run s' := by
  cases choice with
  | failed err =>
    simp only [PipelineState.bodyStep] at h
    split_ifs at h with hb hf
    · cases h
      exact .fetchEnded hb (by simp) (by simp)
    · cases h
      refine .failed hb fun result hdone => ?_
      rw [hdone] at hf
      cases hf
  | _ =>
    simp only [PipelineState.bodyStep] at h
    cases ht : run.task with
    | illuminate t =>
      rw [ht] at h
      exact bodyMove_of_illuminate ht h
    | searchIndex t =>
      rw [ht] at h
      exact bodyMove_of_searchIndex ht h
    | spark t =>
      rw [ht] at h
      exact bodyMove_of_spark ht h

/-! ## The moves of the pipeline -/

/-- **What an event does.** -/
inductive PipelineMove (captures : List Capture) (m : TaskMaster) (s : PipelineState) :
    PipelineState → Prop
  | task {e : Ev AnyTask} {tasks : TaskState AnyTask} :
      (∀ d result now, e ≠ .delivery d (.finish result now)) →
      (TaskMaster.system AnyTask m).step s.tasks e = some tasks →
      PipelineMove captures m s { s with tasks := tasks }
  | finish {d : ℕ} {result : Except ApiError Unit} {now : Timestamp} {delivery : Delivery AnyTask}
      {tasks : TaskState AnyTask} : s.bodies d = .done result →
      s.tasks.deliveries[d]? = some delivery →
      (TaskMaster.system AnyTask m).step s.tasks (.delivery d (.finish result now)) =
        some tasks →
      PipelineMove captures m s
        { s with tasks := tasks, log := s.log ++ [.finish d delivery.run result] }
  | body {d : ℕ} {delivery : Delivery AnyTask} {s' : PipelineState} :
      s.tasks.deliveries[d]? = some delivery → BodyMove captures s d delivery.run s' →
      PipelineMove captures m s s'

/-- **The inversion of the pipeline.** -/
theorem pipelineMove_of_step {e : PipelineEv} (h : (pipeline captures m).step s e = some s') :
    PipelineMove captures m s s' := by
  cases e with
  | task e =>
    simp only [pipeline, PipelineState.step, Option.bind_eq_some_iff, Option.map_eq_some_iff] at h
    obtain ⟨accesses, hfin, tasks, hs, rfl⟩ := h
    by_cases hfinish : ∃ d result now, e = .delivery d (.finish result now)
    · obtain ⟨d, result, now, rfl⟩ := hfinish
      simp only [PipelineState.finishes] at hfin
      split_ifs at hfin with hb
      obtain ⟨delivery, hd, rfl⟩ := Option.map_eq_some_iff.1 hfin
      exact .finish hb hd hs
    · have hother : ∀ d result now, e ≠ .delivery d (.finish result now) := by
        intro d result now he
        exact hfinish ⟨d, result, now, he⟩
      have hnil : accesses = [] := by
        unfold PipelineState.finishes at hfin
        split at hfin
        · exact absurd rfl (hother _ _ _)
        all_goals exact (Option.some.inj hfin).symm
      rw [hnil, List.append_nil]
      exact .task hother hs
  | body d choice =>
    simp only [pipeline, PipelineState.step, Option.bind_eq_some_iff] at h
    obtain ⟨delivery, hd, hstep⟩ := h
    split at hstep
    · exact .body hd (bodyMove_of_step hstep)
    · cases hstep

/-! ## What the moves share -/

/-- The capture a body fetches is the stored one, with the illuminations of
that moment. -/
theorem fetchCapture_eq (s : PipelineState) (captures : List Capture) (id : ℤ) :
    s.fetchCapture captures id =
      (captures.find? fun capture => capture.id = id).map (makeCaptureInfo s.illuminations) := by
  simp [PipelineState.fetchCapture, getCaptures, List.head?_map, List.head?_filter]

/-- The captures with an id that is known. -/
def Known (captures : List Capture) (id : ℤ) : Prop := ∃ capture ∈ captures, capture.id = id

/-- A capture that is found is one that exists, under the id that was asked
for. -/
theorem known_of_fetchCapture {id : ℤ} {capture : CaptureInfo}
    (h : s.fetchCapture captures id = some capture) : capture.id = id ∧ Known captures id := by
  rw [fetchCapture_eq, Option.map_eq_some_iff] at h
  obtain ⟨found, hfind, rfl⟩ := h
  have hid : found.id = id := by simpa using List.find?_some hfind
  exact ⟨hid, found, List.mem_of_find?_eq_some hfind, hid⟩

/-- A capture that exists is found. -/
theorem fetchCapture_of_known {id : ℤ} (h : Known captures id) :
    ∃ capture, s.fetchCapture captures id = some capture := by
  obtain ⟨found, hmem, rfl⟩ := h
  rw [fetchCapture_eq]
  cases hfind : captures.find? fun capture => capture.id = found.id with
  | none =>
    have hnone := List.find?_eq_none.1 hfind found hmem
    simp at hnone
  | some capture => exact ⟨_, rfl⟩

/-- **A body goes on from `d` alone**, and what it logs is its own. -/
theorem goto_of_bodyMove (h : BodyMove captures s d run s') :
    ∃ body accesses, s'.bodies = Function.update s.bodies d body ∧ body ≠ .fetch ∧
      s'.log = s.log ++ accesses ∧
      (∀ a ∈ accesses, a.delivery = d ∧ a.run = run ∧ ∀ result, a ≠ .finish d run result) ∧
      (s.bodies d = .fetch → .fetch d run ∈ accesses) ∧
      s'.tasks.rows = s.tasks.rows ∧ s'.tasks.deliveries = s.tasks.deliveries := by
  cases h with
  | @worked capture body hb hbody =>
    refine ⟨body, [], rfl, fun hfetch => ?_, rfl, by simp, fun hfetch => ?_, rfl, rfl⟩
    · rw [hfetch] at hbody
      cases hbody
    · rw [hfetch] at hb
      cases hb
  | failed hb => exact ⟨_, [], rfl, by simp, rfl, by simp, fun hfetch => absurd hfetch hb, rfl, rfl⟩
  | stored hb => exact ⟨_, [], rfl, by simp, rfl, by simp, by simp [hb], rfl, rfl⟩
  | wrote hb =>
    refine ⟨_, _, rfl, by simp, rfl, by simp [Access.delivery, Access.run], fun hfetch => ?_,
      rfl, rfl⟩
    rw [hfetch] at hb
    simp at hb
  | unprojected hb => exact ⟨_, [], rfl, by simp, rfl, by simp, by simp [hb], rfl, rfl⟩
  | answered hb => exact ⟨_, [], rfl, by simp, rfl, by simp, by simp [hb], rfl, rfl⟩
  | existed hb => exact ⟨_, [], rfl, by simp, rfl, by simp, by simp [hb], rfl, rfl⟩
  | _ hb =>
    exact ⟨_, _, rfl, by simp, rfl, by simp [Access.delivery, Access.run], by simp [hb], rfl, rfl⟩

/-- A body that has ended takes no step. -/
theorem not_done_of_bodyMove {result : Except ApiError Unit} (h : BodyMove captures s d run s') :
    s.bodies d ≠ .done result := by
  intro hdone
  cases h with
  | failed _ hnot => exact hnot result hdone
  | worked _ hb => rw [hdone] at hb; cases hb
  | wrote hb => rw [hdone] at hb; simp at hb
  | _ hb => rw [hdone] at hb; cases hb

/-- **Below, a move is at most one step of the task machine.** -/
theorem tasks_of_bodyMove (m : TaskMaster) (h : BodyMove captures s d run s') :
    s'.tasks = s.tasks ∨
      ∃ task b, (TaskMaster.system AnyTask m).step s.tasks (.submit task b) = some s'.tasks := by
  cases h with
  | follows => exact Or.inr ⟨_, _, rfl⟩
  | _ => exact Or.inl rfl

/-- The task machine stands still or takes a step of its own. -/
theorem tasks_of_move (h : PipelineMove captures m s s') :
    s'.tasks = s.tasks ∨
      ∃ e, (TaskMaster.system AnyTask m).step s.tasks e = some s'.tasks := by
  cases h with
  | task _ hs => exact Or.inr ⟨_, hs⟩
  | finish _ _ hs => exact Or.inr ⟨_, hs⟩
  | body _ hb =>
    rcases tasks_of_bodyMove m hb with h | ⟨task, b, h⟩
    · exact Or.inl h
    · exact Or.inr ⟨_, h⟩

/-- The history only grows. -/
theorem log_of_pipelineMove (h : PipelineMove captures m s s') :
    ∃ accesses, s'.log = s.log ++ accesses := by
  cases h with
  | task => exact ⟨[], (List.append_nil _).symm⟩
  | finish => exact ⟨_, rfl⟩
  | body _ hb =>
    obtain ⟨_, accesses, -, -, hlog, -⟩ := goto_of_bodyMove hb
    exact ⟨accesses, hlog⟩

/-- A delivery stays, with its run. -/
theorem delivery_of_pipelineMove {delivery : Delivery AnyTask} (h : PipelineMove captures m s s')
    (hd : s.tasks.deliveries[d]? = some delivery) :
    ∃ delivery', s'.tasks.deliveries[d]? = some delivery' ∧ delivery'.run = delivery.run := by
  rcases tasks_of_move h with heq | ⟨e, hs⟩
  · rw [heq]
    exact ⟨delivery, hd, rfl⟩
  · obtain ⟨pc, hd', -⟩ := TaskMaster.delivery_step (TaskMaster.move_of_system hs) hd
    exact ⟨_, hd', rfl⟩

/-- And is new, or was there. -/
theorem old_delivery_of_pipelineMove {delivery' : Delivery AnyTask}
    (h : PipelineMove captures m s s') (hd' : s'.tasks.deliveries[d]? = some delivery') :
    (∃ delivery, s.tasks.deliveries[d]? = some delivery ∧ delivery.run = delivery'.run) ∨
      d = s.tasks.deliveries.length ∧ s'.bodies = s.bodies ∧ s'.log = s.log := by
  have hcases : ∀ {e : Ev AnyTask},
      (TaskMaster.system AnyTask m).step s.tasks e = some s'.tasks →
      (∃ delivery, s.tasks.deliveries[d]? = some delivery ∧ delivery.run = delivery'.run) ∨
        d = s.tasks.deliveries.length ∧ ∃ i, e = .deliver i := by
    intro e hs
    rcases TaskMaster.delivery_of_move (TaskMaster.move_of_system hs) hd' with ⟨hd, -⟩ |
      ⟨hlen, i, run, rfl, -⟩ | ⟨choice, delivery, fx, -, hd, -, heq, -⟩
    · exact Or.inl ⟨delivery', hd, rfl⟩
    · exact Or.inr ⟨hlen, i, rfl⟩
    · exact Or.inl ⟨delivery, hd, by rw [heq]⟩
  cases h with
  | task _ hs =>
    rcases hcases hs with hold | ⟨hlen, -⟩
    · exact Or.inl hold
    · exact Or.inr ⟨hlen, rfl, rfl⟩
  | finish _ _ hs =>
    rcases hcases hs with hold | ⟨-, i, he⟩
    · exact Or.inl hold
    · cases he
  | body _ hb =>
    obtain ⟨-, -, -, -, -, -, -, -, hsame⟩ := goto_of_bodyMove hb
    rw [hsame] at hd'
    exact Or.inl ⟨delivery', hd', rfl⟩

/-! ## The bodies in a reachable state -/

/-- **What the bodies and the history say together.** -/
structure BodyInv (captures : List Capture) (m : TaskMaster) (s : PipelineState) : Prop where
  reaches : m.Reaches s.tasks
  logged : ∀ a ∈ s.log, ∃ delivery, s.tasks.deliveries[a.delivery]? = some delivery ∧
    delivery.run = a.run
  idle : ∀ d, s.tasks.deliveries.length ≤ d → s.bodies d = .fetch
  fetched : ∀ (d : ℕ) (delivery : Delivery AnyTask), s.tasks.deliveries[d]? = some delivery →
    s.bodies d ≠ .fetch → .fetch d delivery.run ∈ s.log
  snapshot : ∀ (d : ℕ) (delivery : Delivery AnyTask) (capture : CaptureInfo),
    s.tasks.deliveries[d]? = some delivery → (s.bodies d).snapshot = some capture →
    capture.id = Task.entityId delivery.run.task ∧ Known captures capture.id
  committed : ∀ (d : ℕ) (run : TaskRun AnyTask) (table : List Illumination),
    .commit d run table ∈ s.log → Known captures (Task.entityId run.task)
  finished : ∀ (d : ℕ) (run : TaskRun AnyTask) (result : Except ApiError Unit),
    .finish d run result ∈ s.log → Before s.log (.fetch d run) (.finish d run result)
  ended : ∀ (d : ℕ) (run : TaskRun AnyTask) (result : Except ApiError Unit),
    .finish d run result ∈ s.log → s.bodies d = .done result

/-- The invariant holds at the start. -/
theorem bodyInv_start : BodyInv captures m PipelineState.start where
  reaches := System.Reachable.refl
  logged _ ha := by cases ha
  idle _ _ := rfl
  fetched _ _ hd := by cases hd
  snapshot _ _ _ hd := by cases hd
  committed _ _ _ h := by cases h
  finished _ _ _ h := by cases h
  ended _ _ _ h := by cases h

/-- The capture a body works on is the one its own task names. -/
theorem snapshot_of_bodyMove {delivery : Delivery AnyTask} {capture : CaptureInfo}
    (hi : BodyInv captures m s) (hd : s.tasks.deliveries[d]? = some delivery)
    (h : BodyMove captures s d delivery.run s') (hsnap : (s'.bodies d).snapshot = some capture) :
    capture.id = Task.entityId delivery.run.task ∧ Known captures capture.id := by
  have hfetch : ∀ {id : ℤ}, s.fetchCapture captures id = some capture →
      id = Task.entityId delivery.run.task →
      capture.id = Task.entityId delivery.run.task ∧ Known captures capture.id := by
    intro id hf hid
    obtain ⟨heq, hknown⟩ := known_of_fetchCapture hf
    rw [heq]
    exact ⟨hid, hknown⟩
  cases h with
  | illuminates _ ht hf =>
    simp only [PipelineState.goto, Function.update_self, Body.snapshot, Option.some.injEq] at hsnap
    subst hsnap
    exact hfetch hf (by rw [ht]; rfl)
  | indexes _ ht hf =>
    simp only [PipelineState.goto, Function.update_self, Body.snapshot, Option.some.injEq] at hsnap
    subst hsnap
    exact hfetch hf (by rw [ht]; rfl)
  | worked _ hb hbody =>
    simp only [PipelineState.goto, Function.update_self, hbody, Option.some.injEq] at hsnap
    subst hsnap
    exact hi.snapshot d delivery _ hd hb
  | _ => simp [PipelineState.goto, PipelineState.putObject, Body.snapshot] at hsnap

/-- A body commits only for a capture that exists. -/
theorem committed_of_bodyMove {delivery : Delivery AnyTask} {d' : ℕ} {table : List Illumination}
    (hi : BodyInv captures m s) (hd : s.tasks.deliveries[d]? = some delivery)
    (h : BodyMove captures s d delivery.run s') (hmem : .commit d' run table ∈ s'.log) :
    Known captures (Task.entityId run.task) := by
  have hold : .commit d' run table ∈ s.log → Known captures (Task.entityId run.task) :=
    hi.committed d' run table
  cases h with
  | projected hb =>
    rcases List.mem_append.1 hmem with hmem | hmem
    · exact hold hmem
    · obtain ⟨-, rfl, -⟩ := Access.commit.inj (List.mem_singleton.1 hmem)
      obtain ⟨hid, hknown⟩ := hi.snapshot d delivery _ hd (by rw [hb]; rfl)
      rw [← hid]
      exact hknown
  | _ =>
    refine hold ?_
    simpa [PipelineState.goto, PipelineState.putObject, PipelineState.invoke] using hmem

/-- A finish of the history is of a delivery whose body fetched first. -/
theorem BodyInv.finished_append {d : ℕ} {run : TaskRun AnyTask} {result : Except ApiError Unit}
    {accesses : List Access} (hi : BodyInv captures m s) (hmem : .finish d run result ∈ s.log) :
    Before (s.log ++ accesses) (.fetch d run) (.finish d run result) :=
  (hi.finished d run result hmem).append

/-! ### A move that leaves the bodies where they are -/

section SameBodies

variable (h : PipelineMove captures m s s') (hi : BodyInv captures m s)
include h hi

/-- The task machine goes on from a state it had reached. -/
theorem reaches_of_move : m.Reaches s'.tasks := by
  rcases tasks_of_move h with heq | ⟨e, hs⟩
  · rw [heq]
    exact hi.reaches
  · exact hi.reaches.step hs

/-- Log entries keep their delivery. -/
theorem logged_of_move : ∀ a ∈ s.log, ∃ delivery,
    s'.tasks.deliveries[a.delivery]? = some delivery ∧ delivery.run = a.run := by
  intro a ha
  obtain ⟨delivery, hd, hrun⟩ := hi.logged a ha
  obtain ⟨delivery', hd', hrun'⟩ := delivery_of_pipelineMove h hd
  exact ⟨delivery', hd', hrun'.trans hrun⟩

variable (hbodies : s'.bodies = s.bodies)
include hbodies

/-- A delivery that has not come has no body under way. -/
theorem idle_of_bodies_eq (d : ℕ) (hd : s'.tasks.deliveries.length ≤ d) : s'.bodies d = .fetch := by
  have hlen : s.tasks.deliveries.length ≤ s'.tasks.deliveries.length := by
    by_contra hlt
    obtain ⟨delivery', hd', -⟩ := delivery_of_pipelineMove h
      (List.getElem?_eq_getElem (Nat.lt_of_not_le hlt))
    exact absurd (List.getElem?_eq_some_iff.1 hd').1 (Nat.lt_irrefl _)
  rw [hbodies]
  exact hi.idle d (hlen.trans hd)

/-- A body under way has fetched, as before. -/
theorem fetched_of_bodies_eq (d : ℕ) (delivery' : Delivery AnyTask)
    (hd' : s'.tasks.deliveries[d]? = some delivery') (hne : s'.bodies d ≠ .fetch) :
    .fetch d delivery'.run ∈ s'.log := by
  rw [hbodies] at hne
  rcases old_delivery_of_pipelineMove h hd' with ⟨delivery, hd, hrun⟩ | ⟨hlen, -⟩
  · obtain ⟨accesses, hlog⟩ := log_of_pipelineMove h
    rw [← hrun, hlog]
    exact List.mem_append_left _ (hi.fetched d delivery hd hne)
  · exact absurd (hi.idle d hlen.ge) hne

/-- A body works on the capture it worked on before. -/
theorem snapshot_of_bodies_eq (d : ℕ) (delivery' : Delivery AnyTask) (capture : CaptureInfo)
    (hd' : s'.tasks.deliveries[d]? = some delivery')
    (hsnap : (s'.bodies d).snapshot = some capture) :
    capture.id = Task.entityId delivery'.run.task ∧ Known captures capture.id := by
  rw [hbodies] at hsnap
  rcases old_delivery_of_pipelineMove h hd' with ⟨delivery, hd, hrun⟩ | ⟨hlen, -⟩
  · rw [← hrun]
    exact hi.snapshot d delivery capture hd hsnap
  · rw [hi.idle d hlen.ge] at hsnap
    cases hsnap

end SameBodies

/-- **A step of the task machine** that finishes no delivery. -/
theorem bodyInv_of_task {e : Ev AnyTask} {tasks : TaskState AnyTask} (hi : BodyInv captures m s)
    (hother : ∀ d result now, e ≠ .delivery d (.finish result now))
    (hs : (TaskMaster.system AnyTask m).step s.tasks e = some tasks) :
    BodyInv captures m { s with tasks := tasks } := by
  have h : PipelineMove captures m s { s with tasks := tasks } := .task hother hs
  have hlogged := logged_of_move h hi
  exact ⟨reaches_of_move h hi, hlogged, idle_of_bodies_eq h hi rfl, fetched_of_bodies_eq h hi rfl,
    snapshot_of_bodies_eq h hi rfl, hi.committed, hi.finished, hi.ended⟩

/-- **A delivery that finishes** is the last thing of the history. -/
theorem bodyInv_of_finish {d : ℕ} {result : Except ApiError Unit} {now : Timestamp}
    {delivery : Delivery AnyTask} {tasks : TaskState AnyTask} (hi : BodyInv captures m s)
    (hb : s.bodies d = .done result) (hd : s.tasks.deliveries[d]? = some delivery)
    (hs : (TaskMaster.system AnyTask m).step s.tasks (.delivery d (.finish result now)) =
      some tasks) :
    BodyInv captures m
      { s with tasks := tasks, log := s.log ++ [.finish d delivery.run result] } := by
  have h : PipelineMove captures m s
    { s with tasks := tasks, log := s.log ++ [.finish d delivery.run result] } := .finish hb hd hs
  refine ⟨reaches_of_move h hi, fun a ha => ?_, idle_of_bodies_eq h hi rfl,
    fetched_of_bodies_eq h hi rfl, snapshot_of_bodies_eq h hi rfl, fun d' run table hmem => ?_,
    fun d' run result' hmem => ?_, fun d' run result' hmem => ?_⟩
  · rcases List.mem_append.1 ha with ha | ha
    · exact logged_of_move h hi a ha
    · rw [List.mem_singleton.1 ha]
      exact delivery_of_pipelineMove h hd
  · rcases List.mem_append.1 hmem with hmem | hmem
    · exact hi.committed d' run table hmem
    · cases List.mem_singleton.1 hmem
  · rcases List.mem_append.1 hmem with hmem | hmem
    · exact hi.finished_append hmem
    · obtain ⟨rfl, rfl, rfl⟩ := Access.finish.inj (List.mem_singleton.1 hmem)
      exact before_last (hi.fetched d' delivery hd (by rw [hb]; simp))
  · rcases List.mem_append.1 hmem with hmem | hmem
    · exact hi.ended d' run result' hmem
    · obtain ⟨rfl, rfl, rfl⟩ := Access.finish.inj (List.mem_singleton.1 hmem)
      exact hb

/-! ### A move of a body -/

section OneBody

variable {delivery : Delivery AnyTask} (hi : BodyInv captures m s)
variable (hd : s.tasks.deliveries[d]? = some delivery)
variable (hmove : BodyMove captures s d delivery.run s')
include hi hd hmove

/-- A new log entry names the delivery whose body moved. -/
theorem logged_of_bodyMove : ∀ a ∈ s'.log, ∃ delivery',
    s'.tasks.deliveries[a.delivery]? = some delivery' ∧ delivery'.run = a.run := by
  obtain ⟨body, accesses, -, -, hlog, hown, -, -, hsame⟩ := goto_of_bodyMove hmove
  intro a ha
  rw [hsame]
  rw [hlog] at ha
  rcases List.mem_append.1 ha with ha | ha
  · exact hi.logged a ha
  · obtain ⟨hdel, hrun, -⟩ := hown a ha
    rw [hdel, hrun]
    exact ⟨delivery, hd, rfl⟩

/-- Only the body of a delivery that has come moves. -/
theorem idle_of_bodyMove (d' : ℕ) (hd' : s'.tasks.deliveries.length ≤ d') :
    s'.bodies d' = .fetch := by
  obtain ⟨body, accesses, hbodies, -, -, -, -, -, hsame⟩ := goto_of_bodyMove hmove
  have hlt := (List.getElem?_eq_some_iff.1 hd).1
  rw [hsame] at hd'
  rw [hbodies, Function.update_of_ne (by omega)]
  exact hi.idle d' hd'

/-- A body that is under way has fetched. -/
theorem fetched_of_bodyMove (d' : ℕ) (delivery' : Delivery AnyTask)
    (hd' : s'.tasks.deliveries[d']? = some delivery') (hne : s'.bodies d' ≠ .fetch) :
    .fetch d' delivery'.run ∈ s'.log := by
  obtain ⟨body, accesses, hbodies, -, hlog, -, hfetch, -, hsame⟩ := goto_of_bodyMove hmove
  rw [hsame] at hd'
  rw [hlog]
  by_cases hb : s.bodies d' = .fetch
  · have hdd : d' = d := by
      by_contra hdd
      rw [hbodies, Function.update_of_ne hdd] at hne
      exact hne hb
    subst hdd
    cases hd.symm.trans hd'
    exact List.mem_append_right _ (hfetch hb)
  · exact List.mem_append_left _ (hi.fetched d' delivery' hd' hb)

omit hi hd in
/-- A body does not finish an attempt by itself: only the task master writes
that. -/
theorem finish_mem_of_bodyMove {d' : ℕ} {run : TaskRun AnyTask} {result : Except ApiError Unit}
    (hmem : .finish d' run result ∈ s'.log) : .finish d' run result ∈ s.log := by
  obtain ⟨body, accesses, -, -, hlog, hown, -⟩ := goto_of_bodyMove hmove
  rw [hlog] at hmem
  rcases List.mem_append.1 hmem with hmem | hmem
  · exact hmem
  · obtain ⟨hdel, hrun, hne⟩ := hown _ hmem
    have hd' : d' = d := hdel
    have hrun' : run = delivery.run := hrun
    rw [hd', hrun'] at hne
    exact absurd rfl (hne result)

/-- **A step of a body**: it finishes nothing, and the body that takes it had
not ended. -/
theorem bodyInv_of_body : BodyInv captures m s' := by
  obtain ⟨body, accesses, hbodies, -, hlog, -, -, -, hsame⟩ := goto_of_bodyMove hmove
  refine ⟨reaches_of_move (.body hd hmove) hi, logged_of_bodyMove hi hd hmove,
    idle_of_bodyMove hi hd hmove, fetched_of_bodyMove hi hd hmove,
    fun d' delivery' capture hd' hsnap => ?_,
    fun _ _ _ hmem => committed_of_bodyMove hi hd hmove hmem, fun d' run result hmem => ?_,
    fun d' run result hmem => ?_⟩
  · rw [hsame] at hd'
    by_cases hdd : d' = d
    · subst hdd
      cases hd.symm.trans hd'
      exact snapshot_of_bodyMove hi hd hmove hsnap
    · rw [hbodies, Function.update_of_ne hdd] at hsnap
      exact hi.snapshot d' delivery' capture hd' hsnap
  · rw [hlog]
    exact hi.finished_append (finish_mem_of_bodyMove hmove hmem)
  · have hdone := hi.ended d' run result (finish_mem_of_bodyMove hmove hmem)
    have hdd : d' ≠ d := by
      intro heq
      rw [heq] at hdone
      exact not_done_of_bodyMove hmove hdone
    rw [hbodies, Function.update_of_ne hdd]
    exact hdone

end OneBody

/-- **Every step keeps the invariant.** -/
theorem bodyInv_of_move (h : PipelineMove captures m s s') (hi : BodyInv captures m s) :
    BodyInv captures m s' := by
  cases h with
  | task hother hs => exact bodyInv_of_task hi hother hs
  | finish hb hd hs => exact bodyInv_of_finish hi hb hd hs
  | body hd hmove => exact bodyInv_of_body hi hd hmove

/-- **The body of a delivery of the next state** is where it was, took a
step, or has not begun. -/
theorem body_of_pipelineMove {delivery' : Delivery AnyTask} (hi : BodyInv captures m s)
    (h : PipelineMove captures m s s') (hd' : s'.tasks.deliveries[d]? = some delivery') :
    (∃ delivery, s.tasks.deliveries[d]? = some delivery ∧ delivery.run = delivery'.run ∧
      (s'.bodies d = s.bodies d ∨ BodyMove captures s d delivery'.run s')) ∨
    s'.bodies d = .fetch := by
  rcases old_delivery_of_pipelineMove h hd' with ⟨delivery, hd, hrun⟩ | ⟨hlen, hbodies, -⟩
  · refine Or.inl ⟨delivery, hd, hrun, ?_⟩
    cases h with
    | task => exact Or.inl rfl
    | finish => exact Or.inl rfl
    | @body d₁ delivery₁ _ hd₁ hmove =>
      by_cases hdd : d = d₁
      · subst hdd
        rw [hd] at hd₁
        cases hd₁
        rw [← hrun]
        exact Or.inr hmove
      · obtain ⟨body, accesses, hbodies, -⟩ := goto_of_bodyMove hmove
        rw [hbodies, Function.update_of_ne hdd]
        exact Or.inl rfl
  · rw [hbodies]
    exact Or.inr (hi.idle d hlen.ge)

end Dreamscroll
