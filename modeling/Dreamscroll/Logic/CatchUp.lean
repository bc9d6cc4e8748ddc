import Dreamscroll.Logic.FollowUp
/-!
# The search index catches up

A projected illumination is indexed by the run its follow-up enqueues, or
by the one the follow-up is refused for: that run is settled after the
commit, so the attempt that settles it has read the capture since, unless it
had read it before and was still at work. Where it has read it since, what
it leaves in the vector store is the illumination committed last.
-/

namespace Dreamscroll

/-- The run indexes the capture. -/
def Indexes (run : TaskRun AnyTask) (captureId : ℤ) : Prop :=
  ∃ t, run.task = .searchIndex t ∧ t.captureId = captureId

section Spec

variable (captures : List Capture) (s : PipelineState) (a : Access) (captureId : ℤ)

/-- **The object of the capture is built from its latest illumination.** -/
def Indexed : Prop :=
  ∃ capture ∈ s.fetchCapture captures captureId,
    ∃ object ∈ capture.dataObject, s.objects capture.dataObjectId = some object

instance : Decidable (Indexed captures s captureId) :=
  inferInstanceAs (Decidable (∃ _ ∈ _, _))

/-- No commit since the table was left so changes the latest illumination of
the capture. -/
def Newest (table : List Illumination) : Prop :=
  ∀ d run table', Before s.log a (.commit d run table') →
    latestIllumination table' captureId = latestIllumination table captureId

/-- No attempt that read the capture before the access writes its object
after another attempt has read it since. -/
def NoStaleWrite : Prop :=
  ∀ d₁ run₁ d₂ run₂ objectId, Indexes run₁ captureId → Indexes run₂ captureId →
    Before s.log (.fetch d₁ run₁) a → Before s.log a (.fetch d₂ run₂) →
    ¬ Before s.log (.fetch d₂ run₂) (.write d₁ run₁ objectId)

/-- **What the attempts that read the capture after the commit know and
leave.** -/
structure FreshInv (table : List Illumination) : Prop where
  latest : latestIllumination s.illuminations captureId = latestIllumination table captureId
  snapshot : ∀ (d : ℕ) (delivery : Delivery AnyTask) (capture : CaptureInfo),
    s.tasks.deliveries[d]? = some delivery → Indexes delivery.run captureId →
    Before s.log a (.fetch d delivery.run) → (s.bodies d).snapshot = some capture →
    s.fetchCapture captures captureId = some capture
  created : ∀ (d : ℕ) (delivery : Delivery AnyTask) (capture : CaptureInfo) (object : DataObject),
    s.tasks.deliveries[d]? = some delivery → Indexes delivery.run captureId →
    Before s.log a (.fetch d delivery.run) → s.bodies d = .create capture object →
    capture.dataObject = some object ∧
      (s.objects capture.dataObjectId = none ∨ s.objects capture.dataObjectId = some object)
  indexed : ∀ (d : ℕ) (delivery : Delivery AnyTask), s.tasks.deliveries[d]? = some delivery →
    Indexes delivery.run captureId → Before s.log a (.fetch d delivery.run) →
    s.bodies d = .done (.ok ()) → Known captures captureId → Indexed captures s captureId

end Spec

variable {captures : List Capture} {m : TaskMaster} {s s' : PipelineState} {d c : ℕ}
variable {run : TaskRun AnyTask} {a : Access} {captureId : ℤ} {table : List Illumination}
variable {capture capture' : CaptureInfo} {delivery : Delivery AnyTask} {object : DataObject}
variable {t : IlluminationTask} {row : TaskRunModel} {evs : List PipelineEv}

/-! ## Objects of other captures -/

/-- **An object id names its capture.** -/
theorem id_of_dataObjectId (h : capture.dataObjectId = capture'.dataObjectId) :
    capture.id = capture'.id := by
  have hlist : ∀ x : CaptureInfo, x.dataObjectId.toList =
      'u' :: ((toString x.userId).toList ++ '-' :: 'c' :: (toString x.id).toList) := by
    intro x
    simp [CaptureInfo.dataObjectId, String.toList_append]
  have heq := congrArg String.toList h
  rw [hlist, hlist] at heq
  obtain ⟨-, hrest⟩ := int_dash_inj rfl rfl (List.cons.inj heq).2
  exact toString_int_injective (List.cons.inj hrest).2

/-- A capture reads the same while its latest illumination does. -/
theorem fetchCapture_congr
    (h : latestIllumination s'.illuminations captureId =
      latestIllumination s.illuminations captureId) :
    s'.fetchCapture captures captureId = s.fetchCapture captures captureId := by
  rw [fetchCapture_eq, fetchCapture_eq]
  cases hfind : captures.find? fun capture => capture.id = captureId with
  | none => rfl
  | some found =>
    have hid : found.id = captureId := by simpa using List.find?_some hfind
    rw [Option.map_some, Option.map_some, makeCaptureInfo, makeCaptureInfo, hid, h]

/-! ## The history of one step -/

/-- The latest illumination changes by a commit only. -/
theorem latest_of_pipelineMove (h : PipelineMove captures m s s') :
    s'.illuminations = s.illuminations ∨
      ∃ d run, s'.log = s.log ++ [.commit d run s'.illuminations] := by
  cases h with
  | task => exact Or.inl rfl
  | finish => exact Or.inl rfl
  | body _ hmove =>
    cases hmove with
    | projected => exact Or.inr ⟨_, _, rfl⟩
    | _ => exact Or.inl rfl

/-- A body that is past its read has done it before the step. -/
theorem fetch_of_pipelineMove (h : PipelineMove captures m s s') (hne : s.bodies d ≠ .fetch)
    (hb : Before s'.log a (.fetch d run)) : Before s.log a (.fetch d run) := by
  have hone : ∀ {x : Access}, s'.log = s.log ++ [x] → x ≠ .fetch d run →
      Before s.log a (.fetch d run) := by
    intro x hlog hx
    rw [hlog] at hb
    rcases before_append_singleton.1 hb with hold | ⟨-, heq⟩
    · exact hold
    · exact absurd heq.symm hx
  have hsame : s'.log = s.log ++ [] → Before s.log a (.fetch d run) := by
    intro hlog
    rw [hlog, List.append_nil] at hb
    exact hb
  have hfetch : ∀ {d₁ : ℕ} {run₁ : TaskRun AnyTask}, s.bodies d₁ = .fetch →
      Access.fetch d₁ run₁ ≠ .fetch d run := by
    intro d₁ run₁ hb₁ heq
    rw [(Access.fetch.inj heq).1] at hb₁
    exact hne hb₁
  cases h with
  | task => exact hb
  | finish => exact hone rfl (by simp)
  | body hd hmove =>
    cases hmove with
    | fetchEnded hb₁ => exact hone rfl (hfetch hb₁)
    | illuminates hb₁ => exact hone rfl (hfetch hb₁)
    | indexes hb₁ => exact hone rfl (hfetch hb₁)
    | follows => exact hone rfl (by simp)
    | projected => exact hone rfl (by simp)
    | wrote => exact hone rfl (by simp)
    | _ => exact hsame rfl

/-- The vector store changes by a write of the body's capture. -/
theorem objects_of_pipelineMove (h : PipelineMove captures m s s') :
    s'.objects = s.objects ∨
    ∃ d delivery t capture object, s.tasks.deliveries[d]? = some delivery ∧
      delivery.run.task = .searchIndex t ∧
      (s.bodies d = .update capture ∧ capture.dataObject = some object ∨
        s.bodies d = .create capture object) ∧
      s'.objects = Function.update s.objects capture.dataObjectId (some object) ∧
      s'.log = s.log ++ [.write d delivery.run capture.dataObjectId] := by
  cases h with
  | task => exact Or.inl rfl
  | finish => exact Or.inl rfl
  | body hd hmove =>
    cases hmove with
    | wrote hb ht => exact Or.inr ⟨_, _, _, _, _, hd, ht, hb, rfl, rfl⟩
    | _ => exact Or.inl rfl

/-! ## Fresh attempts -/

section Step

variable (hi : BodyInv captures m s) (hf : FreshInv captures s a captureId table)
variable (h : PipelineMove captures m s s') (ha : a ∈ s.log) (hcommit : ∀ d run, a ≠ .fetch d run)
variable (hnew : Newest s' a captureId table) (hstale : NoStaleWrite s' a captureId)
include hi hf h ha

omit hi in
include hnew in
/-- Nobody has illuminated the capture since: the latest illumination is the
one of the commit. -/
theorem latest_fresh :
    latestIllumination s'.illuminations captureId = latestIllumination table captureId := by
  rcases latest_of_pipelineMove h with heq | ⟨d, run, hlog⟩
  · rw [heq]
    exact hf.latest
  · refine hnew d run s'.illuminations ?_
    rw [hlog]
    exact before_last ha

omit hi in
include hnew in
/-- The capture reads as it did right after the commit. -/
theorem fetchCapture_fresh :
    s'.fetchCapture captures captureId = s.fetchCapture captures captureId :=
  fetchCapture_congr ((latest_fresh hf h ha hnew).trans hf.latest.symm)

include hcommit hstale in
/-- **Once an attempt has read the capture since**, whatever writes its
object writes what that attempt would. -/
theorem objects_fresh (hind : Indexes run captureId) (hb : Before s.log a (.fetch d run))
    (hcap : s.fetchCapture captures captureId = some capture) :
    s'.objects capture.dataObjectId = s.objects capture.dataObjectId ∨
      s'.objects capture.dataObjectId = capture.dataObject := by
  rcases objects_of_pipelineMove h with heq |
    ⟨d₁, delivery₁, t₁, capture₁, object₁, hd₁, ht₁, hbody₁, hobj, hlog⟩
  · rw [heq]
    exact Or.inl rfl
  · by_cases hkey : capture.dataObjectId = capture₁.dataObjectId
    · have hne : s.bodies d₁ ≠ .fetch := by
        intro hfetch
        rw [hfetch] at hbody₁
        simp at hbody₁
      have hsnap : (s.bodies d₁).snapshot = some capture₁ := by
        rcases hbody₁ with ⟨hbody, -⟩ | hbody <;> rw [hbody] <;> rfl
      obtain ⟨hid₁, -⟩ := hi.snapshot d₁ delivery₁ capture₁ hd₁ hsnap
      have hind₁ : Indexes delivery₁.run captureId := by
        refine ⟨t₁, ht₁, ?_⟩
        have hentity : Task.entityId delivery₁.run.task = t₁.captureId := by rw [ht₁]; rfl
        rw [← hentity, ← hid₁, ← id_of_dataObjectId hkey]
        exact (known_of_fetchCapture hcap).1
      have hmem₁ := hi.fetched d₁ delivery₁ hd₁ hne
      rcases before_or_before ha hmem₁ (hcommit _ _) with hfresh | hold
      · have heq : capture = capture₁ :=
          Option.some.inj (hcap.symm.trans (hf.snapshot d₁ delivery₁ capture₁ hd₁ hind₁ hfresh hsnap))
        have hdata : capture₁.dataObject = some object₁ := by
          rcases hbody₁ with ⟨-, hdata⟩ | hbody
          · exact hdata
          · exact (hf.created d₁ delivery₁ capture₁ object₁ hd₁ hind₁ hfresh hbody).1
        rw [hobj, heq, Function.update_self, hdata]
        exact Or.inr rfl
      · refine absurd ?_ (hstale d₁ delivery₁.run d run capture₁.dataObjectId hind₁ hind
          (by rw [hlog]; exact hold.append) (by rw [hlog]; exact hb.append))
        rw [hlog]
        exact before_last hb.mem_right
    · rw [hobj, Function.update_of_ne hkey]
      exact Or.inl rfl

include hcommit hnew hstale in
/-- A capture that is indexed stays so while it is not illuminated again. -/
theorem indexed_fresh (hind : Indexes run captureId) (hb : Before s.log a (.fetch d run))
    (hidx : Indexed captures s captureId) : Indexed captures s' captureId := by
  obtain ⟨capture, hcap, object, hobject, hstored⟩ := hidx
  refine ⟨capture, ?_, object, hobject, ?_⟩
  · rw [Option.mem_def, fetchCapture_fresh hf h ha hnew]
    exact hcap
  · rcases objects_fresh hi hf h ha hcommit hstale hind hb hcap with heq | heq
    · rw [heq]
      exact hstored
    · rw [heq]
      exact hobject

include hnew in
/-- A body that fetched behind the commit works on the capture as it is. -/
theorem snapshot_fresh {delivery' : Delivery AnyTask}
    (hd' : s'.tasks.deliveries[d]? = some delivery') (hind : Indexes delivery'.run captureId)
    (hb : Before s'.log a (.fetch d delivery'.run))
    (hsnap : (s'.bodies d).snapshot = some capture) :
    s'.fetchCapture captures captureId = some capture := by
  rw [fetchCapture_fresh hf h ha hnew]
  have hold : ∀ {delivery : Delivery AnyTask}, s.tasks.deliveries[d]? = some delivery →
      delivery.run = delivery'.run → (s.bodies d).snapshot = some capture →
      s.fetchCapture captures captureId = some capture := by
    intro delivery hd hrun hbody
    have hne : s.bodies d ≠ .fetch := by
      intro hfetch
      rw [hfetch] at hbody
      cases hbody
    rw [← hrun] at hind hb
    exact hf.snapshot d delivery capture hd hind (fetch_of_pipelineMove h hne hb) hbody
  rcases body_of_pipelineMove hi h hd' with ⟨delivery, hd, hrun, hsame | hmove⟩ | hfetch
  · exact hold hd hrun (hsame ▸ hsnap)
  · obtain ⟨t, ht, hid⟩ := hind
    cases hmove with
    | @indexes t' capture' _ ht' hcap =>
      rw [ht] at ht'
      cases ht'
      simp only [PipelineState.goto, Function.update_self, Body.snapshot, Option.some.injEq] at hsnap
      rw [← hsnap, ← hid]
      exact hcap
    | worked _ hbody hbody' =>
      simp only [PipelineState.goto, Function.update_self, hbody', Option.some.injEq] at hsnap
      subst hsnap
      exact hold hd hrun hbody
    | illuminates _ ht' => rw [ht] at ht'; cases ht'
    | _ => simp [PipelineState.goto, PipelineState.putObject, Body.snapshot] at hsnap
  · rw [hfetch] at hsnap
    cases hsnap

include hcommit hnew hstale in
/-- A body that creates the data object creates the current one, and finds
none or the same. -/
theorem created_fresh {delivery' : Delivery AnyTask}
    (hd' : s'.tasks.deliveries[d]? = some delivery') (hind : Indexes delivery'.run captureId)
    (hb : Before s'.log a (.fetch d delivery'.run)) (hbody : s'.bodies d = .create capture object) :
    capture.dataObject = some object ∧
      (s'.objects capture.dataObjectId = none ∨ s'.objects capture.dataObjectId = some object) := by
  rcases body_of_pipelineMove hi h hd' with ⟨delivery, hd, hrun, hsame | hmove⟩ | hfetch
  · rw [← hrun] at hind hb
    have hbody₀ : s.bodies d = .create capture object := hsame ▸ hbody
    have hb₀ := fetch_of_pipelineMove h (by rw [hbody₀]; simp) hb
    obtain ⟨hdata, hobj⟩ := hf.created d delivery capture object hd hind hb₀ hbody₀
    have hcap := hf.snapshot d delivery capture hd hind hb₀ (by rw [hbody₀]; rfl)
    refine ⟨hdata, ?_⟩
    rcases objects_fresh hi hf h ha hcommit hstale hind hb₀ hcap with heq | heq
    · rw [heq]
      exact hobj
    · rw [heq]
      exact Or.inr hdata
  · cases hmove with
    | @worked capture' body' _ hbody' hcreate =>
      simp only [PipelineState.goto, Function.update_self] at hbody
      subst hbody
      cases hbody'
      obtain ⟨hdata, hnone⟩ := hcreate object rfl
      exact ⟨hdata, Or.inl hnone⟩
    | _ => simp [PipelineState.goto, PipelineState.putObject] at hbody
  · rw [hfetch] at hbody
    cases hbody

include hcommit hnew hstale in
/-- A body that ended well behind the commit leaves the capture indexed. -/
theorem done_fresh {delivery' : Delivery AnyTask}
    (hd' : s'.tasks.deliveries[d]? = some delivery') (hind : Indexes delivery'.run captureId)
    (hb : Before s'.log a (.fetch d delivery'.run)) (hbody : s'.bodies d = .done (.ok ()))
    (hknown : Known captures captureId) : Indexed captures s' captureId := by
  -- a body that ends well has written its capture, or found it written
  have hput : ∀ {delivery : Delivery AnyTask} {capture : CaptureInfo} {object : DataObject},
      s.tasks.deliveries[d]? = some delivery → delivery.run = delivery'.run →
      (s.bodies d).snapshot = some capture → capture.dataObject = some object →
      s'.objects capture.dataObjectId = some object → Indexed captures s' captureId := by
    intro delivery capture object hd hrun hsnap hdata hobj
    have hne : s.bodies d ≠ .fetch := by
      intro hfetch
      rw [hfetch] at hsnap
      cases hsnap
    rw [← hrun] at hind hb
    have hcap := hf.snapshot d delivery capture hd hind (fetch_of_pipelineMove h hne hb) hsnap
    refine ⟨capture, ?_, object, hdata, hobj⟩
    rw [Option.mem_def, fetchCapture_fresh hf h ha hnew]
    exact hcap
  rcases body_of_pipelineMove hi h hd' with ⟨delivery, hd, hrun, hsame | hmove⟩ | hfetch
  · rw [← hrun] at hind hb
    have hbody₀ : s.bodies d = .done (.ok ()) := hsame ▸ hbody
    have hb₀ := fetch_of_pipelineMove h (by rw [hbody₀]; simp) hb
    exact indexed_fresh hi hf h ha hcommit hnew hstale hind hb₀
      (hf.indexed d delivery hd hind hb₀ hbody₀ hknown)
  · obtain ⟨t, ht, hid⟩ := hind
    cases hmove with
    | fetchEnded _ _ hmissing =>
      simp only [PipelineState.goto, Function.update_self, Body.done.injEq] at hbody
      have hnone := hmissing t ht hbody
      rw [hid] at hnone
      obtain ⟨capture, hcap⟩ := fetchCapture_of_known (s := s) hknown
      rw [hcap] at hnone
      cases hnone
    | @wrote t' capture object hbody₀ =>
      have hstored : (Function.update s.objects capture.dataObjectId (some object))
          capture.dataObjectId = some object := Function.update_self _ _ _
      rcases hbody₀ with ⟨hupd, hdata⟩ | hcreate
      · exact hput hd hrun (by rw [hupd]; rfl) hdata hstored
      · have hb₀ := fetch_of_pipelineMove h (by rw [hcreate]; simp) hb
        rw [← hrun] at hb₀
        have hdata := (hf.created d delivery capture object hd ⟨t, hrun ▸ ht, hid⟩ hb₀ hcreate).1
        exact hput hd hrun (by rw [hcreate]; rfl) hdata hstored
    | @existed t' capture object hcreate _ hne =>
      have hb₀ := fetch_of_pipelineMove h (by rw [hcreate]; simp) hb
      rw [← hrun] at hb₀
      obtain ⟨hdata, hnone | hobj⟩ :=
        hf.created d delivery capture object hd ⟨t, hrun ▸ ht, hid⟩ hb₀ hcreate
      · exact absurd hnone hne
      · exact hput hd hrun (by rw [hcreate]; rfl) hdata hobj
    | unprojected _ ht' => rw [ht] at ht'; cases ht'
    | answered _ ht' => rw [ht] at ht'; cases ht'
    | worked _ _ hbody' =>
      simp only [PipelineState.goto, Function.update_self] at hbody
      subst hbody
      cases hbody'
    | _ => simp [PipelineState.goto] at hbody
  · rw [hfetch] at hbody
    cases hbody

include hcommit hnew hstale in
/-- **Every step keeps what the fresh attempts know.** -/
theorem freshInv_of_move : FreshInv captures s' a captureId table where
  latest := latest_fresh hf h ha hnew
  snapshot _ _ _ hd hind hb hsnap := snapshot_fresh hi hf h ha hnew hd hind hb hsnap
  created _ _ _ _ hd hind hb hbody :=
    created_fresh hi hf h ha hcommit hnew hstale hd hind hb hbody
  indexed _ _ hd hind hb hbody hknown :=
    done_fresh hi hf h ha hcommit hnew hstale hd hind hb hbody hknown

end Step

/-- The commit itself, before anything is read. -/
theorem freshInv_of_commit (h : PipelineMove captures m s s')
    (hmem : .commit d run table ∈ s'.log) (hno : .commit d run table ∉ s.log) :
    FreshInv captures s' (.commit d run table) captureId table := by
  have hnone : ∀ {d' run'}, ¬ Before s'.log (.commit d run table) (.fetch d' run') := by
    intro d' run' hb
    cases h with
    | task => exact hno hb.mem_left
    | finish =>
      rcases before_append_singleton.1 hb with hold | ⟨ha, -⟩
      · exact hno hold.mem_left
      · exact hno ha
    | body _ hmove =>
      cases hmove with
      | follows =>
        rcases before_append_singleton.1 hb with hold | ⟨ha, -⟩
        · exact hno hold.mem_left
        · exact hno ha
      | projected =>
        rcases before_append_singleton.1 hb with hold | ⟨ha, -⟩
        · exact hno hold.mem_left
        · exact hno ha
      | _ => simp [PipelineState.goto, PipelineState.putObject, hno] at hmem
  refine ⟨?_, fun _ _ _ _ _ hb => absurd hb hnone, fun _ _ _ _ _ _ hb => absurd hb hnone,
    fun _ _ _ _ hb => absurd hb hnone⟩
  cases h with
  | task => exact absurd hmem hno
  | finish => simp [hno] at hmem
  | body _ hmove =>
    cases hmove with
    | projected =>
      rcases List.mem_append.1 hmem with hmem | hmem
      · exact absurd hmem hno
      · obtain ⟨-, -, rfl⟩ := Access.commit.inj (List.mem_singleton.1 hmem)
        rfl
    | _ => simp [PipelineState.goto, PipelineState.putObject, PipelineState.invoke, hno] at hmem

/-! ## Along a run -/

/-- **The invariant of the pipeline.** -/
structure PipelineInv (captures : List Capture) (m : TaskMaster) (s : PipelineState) : Prop where
  body : BodyInv captures m s
  follow : FollowInv s
  fresh : ∀ d run table captureId, .commit d run table ∈ s.log →
    Newest s (.commit d run table) captureId table →
    NoStaleWrite s (.commit d run table) captureId →
    FreshInv captures s (.commit d run table) captureId table

/-- One event keeps all the invariants of the pipeline. -/
theorem pipelineInv_of_move (h : PipelineMove captures m s s') (hi : PipelineInv captures m s) :
    PipelineInv captures m s' where
  body := bodyInv_of_move h hi.body
  follow := followInv_of_move hi.body hi.follow h
  fresh d run table captureId hmem hnew hstale := by
    obtain ⟨accesses, hlog⟩ := log_of_pipelineMove h
    by_cases ha : .commit d run table ∈ s.log
    · have hnew₀ : Newest s (.commit d run table) captureId table := by
        intro d' run' table' hb
        exact hnew d' run' table' (by rw [hlog]; exact hb.append)
      have hstale₀ : NoStaleWrite s (.commit d run table) captureId := by
        intro d₁ run₁ d₂ run₂ objectId h₁ h₂ hold hfresh hwrite
        refine hstale d₁ run₁ d₂ run₂ objectId h₁ h₂ ?_ ?_ ?_ <;> rw [hlog]
        · exact hold.append
        · exact hfresh.append
        · exact hwrite.append
      exact freshInv_of_move hi.body (hi.fresh d run table captureId ha hnew₀ hstale₀) h ha
        (by simp) hnew hstale
    · exact freshInv_of_commit h hmem ha

/-- The invariants hold at the start. -/
theorem pipelineInv_start : PipelineInv captures m PipelineState.start where
  body := bodyInv_start
  follow := followInv_start
  fresh _ _ _ _ h := by cases h

/-- The invariants hold along every run. -/
theorem pipelineInv_of_run (h : (pipeline captures m).run .start evs = some s) :
    PipelineInv captures m s :=
  System.run_inv (fun _ _ _ hi hs => pipelineInv_of_move (pipelineMove_of_step hs) hi)
    pipelineInv_start h

/-! ## Catching up -/

/-- **The search-index run that follows a commit up.** -/
structure CatchesUp (captures : List Capture) (s : PipelineState) (commit : Access)
    (table : List Illumination) (task : SearchIndexTask) (outcome : SubmitOutcome)
    (runId : String) : Prop where
  run : ∃ row ∈ s.tasks.rows, row.runId = runId ∧
    row.logicalId = TaskRun.makeLogicalId (AnyTask.searchIndex task)
  /-- It is the run the submission enqueued, if it enqueued one. -/
  enqueued : ∀ id n, outcome = .enqueued id n → id = runId
  /-- What completes it, does so after the commit, and has read the capture
  since; or it had read it before, and the submission was refused. -/
  reads : ∀ row ∈ s.tasks.rows, row.runId = runId → ∀ st : TaskRunStatus, st.Completed →
    row.HasStatus st → ∃ d run result, run.runId = runId ∧ run.task = .searchIndex task ∧
      Completes st result ∧ Before s.log commit (.finish d run result) ∧
      (Before s.log commit (.fetch d run) ∨
        outcome = .refusedAlreadyInFlight ∧ Before s.log (.fetch d run) commit)
  /-- An attempt that succeeds having read it since has indexed it. -/
  indexes : ∀ d run, run.task = .searchIndex task → .finish d run (.ok ()) ∈ s.log →
    Before s.log commit (.fetch d run) → Newest s commit task.captureId table →
    NoStaleWrite s commit task.captureId → Indexed captures s task.captureId

/-- **The projection of the run is followed up**: an attempt of it committed
the projection and had its follow-up answered before it ended, and there is
a search-index run that catches up, unless the run is tagged and another
submission of the indexing had been made for its backfill before. -/
def CaughtUp (captures : List Capture) (s : PipelineState) (run : TaskRun AnyTask)
    (t : IlluminationTask) : Prop :=
  ∃ d table c call outcome, Before s.log (.commit d run table) (.followUp d run c) ∧
    Before s.log (.followUp d run c) (.finish d run (.ok ())) ∧ s.tasks.calls[c]? = some call ∧
    call.task = .searchIndex ⟨t.captureId, t.entityOwnerId⟩ ∧
    call.backfillId = run.backfillId ∧ call.pc = .returned (.ok outcome) ∧
    ((∃ runId n, outcome = .alreadySubmittedBackfill runId n ∧ run.backfillId.isSome ∧
        TaskMaster.ServedBefore s.tasks c call runId n) ∨
      ∃ runId, CatchesUp captures s (.commit d run table) table ⟨t.captureId, t.entityOwnerId⟩
        outcome runId)

/-- The run of a delivery is the one its row says. -/
theorem task_of_logged {task : SearchIndexTask} {x : Access} (hi : BodyInv captures m s)
    (hx : x ∈ s.log) (hr : row ∈ s.tasks.rows) (hid : x.run.runId = row.runId)
    (hL : row.logicalId = TaskRun.makeLogicalId (AnyTask.searchIndex task)) :
    x.run.task = .searchIndex task := by
  obtain ⟨delivery, hd, hrun⟩ := hi.logged x hx
  obtain ⟨r, hr₀, hident⟩ := hi.reaches.row_of_delivery hd
  have hrow : r = row := by
    refine hi.reaches.tableInv.unique.eq_of_runId hr₀ hr ?_
    calc r.runId = delivery.run.runId := congrArg RunIdentity.runId hident
      _ = row.runId := by rw [hrun, hid]
  rw [← hrun]
  refine AnyTask.eq_searchIndex_of_logicalId ?_
  calc TaskRun.makeLogicalId delivery.run.task = delivery.run.logicalId :=
        (hi.reaches.logicalId_of_delivery hd).symm
    _ = r.logicalId := (congrArg RunIdentity.logicalId hident).symm
    _ = TaskRun.makeLogicalId (AnyTask.searchIndex task) := by rw [hrow, hL]

/-- A run that answers after the commit catches up with it. -/
theorem catchesUp_of_answers {outcome : SubmitOutcome} {runId : String}
    (hi : PipelineInv captures m s) (hmem : .commit d run table ∈ s.log)
    (ht : run.task = .illuminate t)
    (hans : Answers s (.commit d run table)
      (TaskRun.makeLogicalId (AnyTask.searchIndex ⟨t.captureId, t.entityOwnerId⟩)) runId)
    (houtcome : outcome = .refusedAlreadyInFlight ∨
      (∃ n, outcome = .enqueued runId n) ∧ ReadAfter s (.commit d run table) runId) :
    CatchesUp captures s (.commit d run table) table ⟨t.captureId, t.entityOwnerId⟩ outcome
      runId := by
  obtain ⟨⟨row, hr, hid, hL⟩, hsettled⟩ := hans
  refine ⟨⟨row, hr, hid, hL⟩, fun id n heq => ?_, fun row' hr' hid' st hset hst => ?_,
    fun d' run' ht' hfin hfetch hnew hstale => ?_⟩
  · rcases houtcome with hout | ⟨⟨n', hout⟩, -⟩
    · rw [hout] at heq
      cases heq
    · rw [hout] at heq
      cases heq
      rfl
  · obtain ⟨d', run', result, hrun, hres, hbefore⟩ := hsettled row' hr' hid' st hset hst
    have hfetched := hi.body.finished d' run' result hbefore.mem_right
    refine ⟨d', run', result, hrun, ?_, hres, hbefore, ?_⟩
    · exact task_of_logged hi.body hbefore.mem_right hr (hrun.trans hid.symm) hL
    · rcases houtcome with hout | ⟨-, hread⟩
      · rcases before_or_before hmem hfetched.mem_left (by simp) with hfresh | hold
        · exact Or.inl hfresh
        · exact Or.inr ⟨hout, hold⟩
      · exact Or.inl (hread d' run' hfetched.mem_left hrun)
  · obtain ⟨delivery, hd, hdrun⟩ := hi.body.logged _ hfin
    have hdrun' : delivery.run = run' := hdrun
    have hknown := hi.body.committed d run table hmem
    rw [ht] at hknown
    rw [← hdrun'] at ht' hfetch
    exact (hi.fresh d run table t.captureId hmem hnew hstale).indexed d' delivery hd
      ⟨_, ht', rfl⟩ hfetch (hi.body.ended d' run' _ hfin) hknown

section Schedules

open PipelineEv

/-- The capture of the schedules, and its illumination. -/
def seven : List Capture := [⟨7, 1⟩]

/-- An illumination of capture 7. -/
def illuminateSeven : IlluminationTask := ⟨7, 1, "gemini-3.8-flash", .v2, none, true⟩

/-- The first illumination of the capture has its follow-up enqueued. -/
def illuminated (backfillId : Option String) : List PipelineEv :=
  .task (.submit (.illuminate illuminateSeven) backfillId) ::
    enqueues 0 0 "illuminate-1" 0 ++ begins 0 0 1 ++ projects 0 "first" 1 ++
    enqueues 1 1 "index-1" 2 ++ [.body 0 .proceed]

/-- The body of delivery `d` goes on for `n` statements. -/
def proceeds (d n : ℕ) : List PipelineEv := List.replicate n (.body d .proceed)

/-- A capture is illuminated, and then indexed. -/
def caughtUpSchedule : List PipelineEv :=
  illuminated none ++ succeeds 0 3 ++ begins 1 1 4 ++ proceeds 1 4 ++ succeeds 1 5

/-- The state after that. -/
def caughtUpState : PipelineState :=
  ((pipeline seven ⟨3, true⟩).run .start caughtUpSchedule).get (by decide)

/-- The index run has read the first illumination when the second is
committed, and refuses its follow-up. -/
def refusedSchedule : List PipelineEv :=
  illuminated none ++ succeeds 0 3 ++ begins 1 1 4 ++ proceeds 1 1 ++
    .task (.submit (.illuminate illuminateSeven) none) ::
      enqueues 2 2 "illuminate-2" 5 ++ begins 2 2 6 ++ projects 2 "second" 2 ++ refused 3 ++
    [.body 2 .proceed] ++ succeeds 2 7 ++ proceeds 1 3 ++ succeeds 1 8

/-- The backfill run crashes after its first follow-up, which is indexed;
its second attempt replaces the projection. -/
def backfillSchedule : List PipelineEv :=
  illuminated (some "backfill") ++ begins 1 1 4 ++ proceeds 1 4 ++ succeeds 1 5 ++
    begins 0 2 6 ++ projects 2 "second" 2 ++ [.task (.call 2 .read), .body 2 .proceed] ++
    succeeds 2 7

/-- The refusing index run is delivered again and reads the second
illumination; then its first delivery writes the first one over it. -/
def overlapSchedule : List PipelineEv :=
  illuminated none ++ succeeds 0 3 ++ begins 1 1 4 ++ proceeds 1 1 ++
    .task (.submit (.illuminate illuminateSeven) none) ::
      enqueues 2 2 "illuminate-2" 5 ++ begins 2 2 6 ++ projects 2 "second" 2 ++ refused 3 ++
    [.body 2 .proceed] ++ succeeds 2 7 ++ begins 1 3 8 ++ proceeds 3 4 ++ succeeds 3 9 ++
    proceeds 1 2 ++ succeeds 1 10

/-- The state after a follow-up that is refused. -/
def refusedState : PipelineState :=
  ((pipeline seven ⟨3, true⟩).run .start refusedSchedule).get (by decide)

/-- And after one whose backfill was served before. -/
def backfillState : PipelineState :=
  ((pipeline seven ⟨3, true⟩).run .start backfillSchedule).get (by decide)

/-- And after two attempts of one index run that overlap. -/
def overlapState : PipelineState :=
  ((pipeline seven ⟨3, true⟩).run .start overlapSchedule).get (by decide)

/-- Every run has completed. -/
def AllSucceeded (s : PipelineState) : Prop :=
  ∀ row ∈ s.tasks.rows, row.HasStatus .completeSuccess

instance (s : PipelineState) : Decidable (AllSucceeded s) := inferInstanceAs (Decidable (∀ _ ∈ _, _))

/-- A search-index run reads the capture. -/
def Access.reads (captureId : ℤ) : Access → Bool
  | .fetch _ run =>
    match run.task with
    | .searchIndex t => t.captureId = captureId
    | .illuminate _ | .spark _ => false
  | .commit .. | .followUp .. | .write .. | .finish .. => false

/-- Delivery `d` commits its projection. -/
def Access.commits (d : ℕ) : Access → Bool
  | .commit d' _ _ => d' = d
  | .fetch .. | .followUp .. | .write .. | .finish .. => false

/-- Some search-index run has read the capture since delivery `d`
committed. -/
def ReadSince (s : PipelineState) (d : ℕ) (captureId : ℤ) : Prop :=
  (s.log.dropWhile fun a => !a.commits d).any (Access.reads captureId) = true

instance (s : PipelineState) (d : ℕ) (captureId : ℤ) : Decidable (ReadSince s d captureId) :=
  inferInstanceAs (Decidable (_ = true))

end Schedules

end Dreamscroll
