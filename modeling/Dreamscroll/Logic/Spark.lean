import Dreamscroll.Logic.Tasks
import Dreamscroll.Service.InsertSpark
/-!
# The spark task

`spark::exec`: the captures of the task are read and must belong to its
owner, the model is asked for a spark, and its response is inserted. The
captures a response refers to are the model's own words, and nothing checks
them: they stay inside the task's input exactly when the response does
(`references_inside_iff`).
-/

namespace Dreamscroll

/-- What a provider call came to, less the metadata of the call. -/
structure InferenceOutcome (α : Type) where
  output : Except String α
  httpStatusCode : Option ℕ

namespace Service

/-- **`record_inference`**: a failure is only warned of. -/
def recordInference (userId : ℤ) (taskRunId : String) (attempt : ℕ) (taskType : String) :
    SparkSql (Option ℤ) := fun s =>
  let insert : SparkSql ℤ :=
    .insertSerial (·.inferenceMetas) (fun q id => { q with inferenceMetas := id })
      (exhausted "inference_metas_id_seq") fun id tables =>
        .ok (id, { tables with inferenceMetas := tables.inferenceMetas ++
          [⟨id, userId, some taskRunId, some attempt, some taskType⟩] })
  match insert s with
  | .ok id s' => .ok (some id) s'
  | .error _ s' => .ok none s'

/-- **`get_captures`**, for these ids and whatever user. -/
def getCaptures (ids : List ℤ) : SparkSql (List CaptureModel) :=
  .select fun tables => tables.captures.filter fun capture => capture.id ∈ ids

end Service

namespace SparkTask

open Service

/-- `{:?}` of a `Vec<i32>`. -/
def debugIds (ids : List ℤ) : String := "[" ++ ", ".intercalate (ids.map toString) ++ "]"

/-- **`exec`**, where the firestarter answers like this. -/
def exec (task : SparkTask) (taskRunId : String) (attempt : ℕ)
    (fired : Except String (InferenceOutcome SparkResponse)) : SparkSql PUnit :=
  if task.captureIds = [] then
    throw (ApiError.badRequest "capture_ids must contain at least one capture ID")
  else do
    let captures ← getCaptures task.captureIds
    if captures = [] then
      throw (ApiError.notFound ("No captures found for the provided capture IDs " ++
        debugIds task.captureIds))
    else if captures.any fun capture => capture.userId ≠ task.entityOwnerId then
      throw (ApiError.badRequest "capture_ids must belong to the spark's entity_owner_id")
    else match fired with
      | .error error => throw (ApiError.internal error)
      | .ok outcome => do
        let inferenceMetaId ← recordInference task.entityOwnerId taskRunId attempt
          (Task.taskType task)
        match outcome.output with
        | .error error => throw ((ApiError.internal error).withInnerStatusCode
            (outcome.httpStatusCode.map Int.ofNat))
        | .ok spark => insertSpark task.entityOwnerId task.captureIds spark inferenceMetaId

/-- **`exec`, up to the insert.** -/
def prepare (task : SparkTask) (taskRunId : String) (attempt : ℕ)
    (fired : Except String (InferenceOutcome SparkResponse)) :
    SparkSql (SparkResponse × Option ℤ) :=
  if task.captureIds = [] then
    throw (ApiError.badRequest "capture_ids must contain at least one capture ID")
  else do
    let captures ← getCaptures task.captureIds
    if captures = [] then
      throw (ApiError.notFound ("No captures found for the provided capture IDs " ++
        debugIds task.captureIds))
    else if captures.any fun capture => capture.userId ≠ task.entityOwnerId then
      throw (ApiError.badRequest "capture_ids must belong to the spark's entity_owner_id")
    else match fired with
      | .error error => throw (ApiError.internal error)
      | .ok outcome => do
        let inferenceMetaId ← recordInference task.entityOwnerId taskRunId attempt
          (Task.taskType task)
        match outcome.output with
        | .error error => throw ((ApiError.internal error).withInnerStatusCode
            (outcome.httpStatusCode.map Int.ofNat))
        | .ok spark => pure (spark, inferenceMetaId)

/-- **What the insert finds**: the checks were passed, and only the metadata
of the call is written. -/
structure Prepared (task : SparkTask) (fired : Except String (InferenceOutcome SparkResponse))
    (s t : Session SparkTables SparkSequences ApiError) (spark : SparkResponse) : Prop where
  selects : s.faults.head?.join = none
  found : ∃ capture ∈ s.tables.captures, capture.id ∈ task.captureIds
  owned : ∀ capture ∈ s.tables.captures, capture.id ∈ task.captureIds →
    capture.userId = task.entityOwnerId
  answered : ∃ status, fired = .ok ⟨.ok spark, status⟩
  tables : t.tables = { s.tables with inferenceMetas := t.tables.inferenceMetas }
  sequences : t.sequences = { s.sequences with inferenceMetas := t.sequences.inferenceMetas }
  faults : t.faults = s.faults.drop 2

variable {task : SparkTask} {taskRunId : String} {attempt : ℕ}
  {fired : Except String (InferenceOutcome SparkResponse)} {taskType : String} {userId : ℤ}
  {s s' t : Session SparkTables SparkSequences ApiError} {u : PUnit}

theorem exec_eq_bind : task.exec taskRunId attempt fired =
    task.prepare taskRunId attempt fired >>= fun prepared =>
      insertSpark task.entityOwnerId task.captureIds prepared.1 prepared.2 := by
  unfold exec prepare
  split_ifs
  · rfl
  · rw [bind_assoc]
    congr 1
    funext captures
    split_ifs
    · rfl
    · rfl
    · cases fired with
      | error error => rfl
      | ok outcome =>
        obtain ⟨output, status⟩ := outcome
        dsimp only
        rw [bind_assoc]
        cases output <;> rfl

/-! ## What a call that returned did -/

/-- Whatever becomes of it, only the metadata is touched. -/
theorem recordInference_eq_ok {inferenceMetaId : Option ℤ}
    (h : recordInference userId taskRunId attempt taskType s = .ok inferenceMetaId s') :
    s'.tables = { s.tables with inferenceMetas := s'.tables.inferenceMetas } := by
  unfold recordInference at h
  dsimp only at h
  split at h
  · rename_i hinsert
    cases h
    obtain ⟨-, hwrite, -⟩ := Sql.insertSerial_eq_ok hinsert
    simp only [Except.ok.injEq, Prod.mk.injEq] at hwrite
    rw [← hwrite.2]
  · rename_i hinsert
    cases h
    rw [Sql.tables_of_statement_error hinsert]

theorem recordInference_session {inferenceMetaId : Option ℤ}
    (h : recordInference userId taskRunId attempt taskType s = .ok inferenceMetaId t) :
    t.sequences = { s.sequences with inferenceMetas := t.sequences.inferenceMetas } ∧
      t.faults = s.faults.tail := by
  unfold recordInference at h
  dsimp only at h
  split at h
  · rename_i hinsert
    cases h
    exact ⟨by rw [(Sql.insertSerial_eq_ok hinsert).2.2], Sql.faults_of_statement_ok hinsert⟩
  · rename_i hinsert
    cases h
    unfold Sql.insertSerial at hinsert
    refine ⟨?_, Sql.faults_of_statement_error hinsert⟩
    rcases Sql.sequences_of_statement_error hinsert with hsame | hsame
    · rw [hsame]
    · rw [hsame]
      split <;> rfl

theorem prepare_eq_ok {prepared : SparkResponse × Option ℤ}
    (h : task.prepare taskRunId attempt fired s = .ok prepared t) :
    Prepared task fired s t prepared.1 := by
  unfold prepare at h
  split_ifs at h with hempty
  · cases h
  obtain ⟨captures, t₁, hselect, hrest⟩ := Sql.bind_eq_ok.1 h
  obtain ⟨hcaptures, htables, hsequences⟩ := Sql.select_eq_ok hselect
  have hstatement := hselect
  unfold getCaptures Sql.select at hstatement
  have hfaults := Sql.faults_of_statement_ok hstatement
  split_ifs at hrest with hnone howner
  · cases hrest
  · cases hrest
  split at hrest
  · cases hrest
  · rename_i outcome
    obtain ⟨inferenceMetaId, t₂, hmeta, hrest⟩ := Sql.bind_eq_ok.1 hrest
    obtain ⟨output, status⟩ := outcome
    cases output with
    | error error => cases hrest
    | ok spark =>
      obtain ⟨rfl, rfl⟩ := Sql.pure_eq_ok.1 hrest
      have hmetas := recordInference_eq_ok hmeta
      obtain ⟨hsequences', hfaults'⟩ := recordInference_session hmeta
      refine ⟨?_, ?_, ?_, ⟨status, rfl⟩, ?_, ?_, ?_⟩
      · exact Sql.unrefused_of_statement_ok hstatement
      · obtain ⟨capture, hmem⟩ := List.exists_mem_of_ne_nil _ hnone
        rw [hcaptures, List.mem_filter] at hmem
        exact ⟨capture, hmem.1, of_decide_eq_true hmem.2⟩
      · intro capture hmem hid
        by_contra hne
        refine howner (List.any_eq_true.2 ⟨capture, ?_, decide_eq_true hne⟩)
        rw [hcaptures, List.mem_filter]
        exact ⟨hmem, decide_eq_true hid⟩
      · rw [htables] at hmetas
        exact hmetas
      · rw [hsequences] at hsequences'
        exact hsequences'
      · rw [hfaults', hfaults, ← List.drop_one, ← List.drop_one, List.drop_drop]

/-- Up to the insert, no spark is touched. -/
theorem frames_prepare :
    Sql.Frames SparkTables.sparks (task.prepare taskRunId attempt fired) := by
  unfold prepare
  split_ifs
  · exact Sql.frames_throw
  · refine Sql.frames_bind Sql.frames_select fun captures => ?_
    split_ifs
    · exact Sql.frames_throw
    · exact Sql.frames_throw
    · split
      · exact Sql.frames_throw
      · refine Sql.frames_bind ⟨fun s s' a h => ?_, fun s s' e h => ?_⟩ fun inferenceMetaId => ?_
        · rw [recordInference_eq_ok h]
        · unfold recordInference at h
          dsimp only at h
          split at h <;> cases h
        · split
          · exact Sql.frames_throw
          · exact Sql.frames_pure

/-- **An `exec` that returned passed its checks and stored the response.** -/
theorem exec_eq_ok (h : task.exec taskRunId attempt fired s = .ok u s') :
    ∃ spark status inferenceMetaId t row inputs clusters,
      fired = .ok ⟨.ok spark, status⟩ ∧
      (∀ capture ∈ s.tables.captures, capture.id ∈ task.captureIds →
        capture.userId = task.entityOwnerId) ∧
      t = { s.tables with inferenceMetas := t.inferenceMetas } ∧
      SparkStored task.entityOwnerId task.captureIds spark inferenceMetaId t s'.tables
        row inputs clusters := by
  rw [exec_eq_bind] at h
  obtain ⟨⟨spark, inferenceMetaId⟩, t, hprepare, hinsert⟩ := Sql.bind_eq_ok.1 h
  have hprepared := prepare_eq_ok hprepare
  obtain ⟨status, hfired⟩ := hprepared.answered
  obtain ⟨row, inputs, clusters, hstored, -⟩ := sparkStored_of_ok hinsert
  exact ⟨spark, status, inferenceMetaId, t.tables, row, inputs, clusters, hfired, hprepared.owned,
    hprepared.tables, hstored⟩

/-! ## The captures a spark refers to -/

/-- The capture is one of the task's input captures, and its owner's. -/
structure IsInput (task : SparkTask) (captures : List CaptureModel) (captureId : ℤ) : Prop where
  mem : captureId ∈ task.captureIds
  captureExists : Exists captures captureId
  owned : ∀ capture ∈ captures, capture.id = captureId → capture.userId = task.entityOwnerId

/-- Every capture that was inserted as an input is there. -/
theorem exists_of_inputRows {captures : List CaptureModel} {sparkId captureId : ℤ}
    {inputs : List SparkInputRefModel} {pairs : List (ℤ × ℕ)}
    (h : List.Forall₂ (IsInputRef captures userId sparkId) pairs inputs)
    (hmem : captureId ∈ pairs.map Prod.fst) : Exists captures captureId := by
  induction h with
  | nil => cases hmem
  | cons hrow _ ih =>
    rcases List.mem_cons.1 hmem with rfl | hmem
    · exact hrow.captureExists
    · exact ih hmem

/-- **References stay inside the input** of a spark that was stored exactly
when those of the response do. -/
theorem references_inside_iff (task : SparkTask) (taskRunId : String) (attempt : ℕ)
    (fired : Except String (InferenceOutcome SparkResponse))
    (s s' : Session SparkTables SparkSequences ApiError) (u : PUnit)
    (h : task.exec taskRunId attempt fired s = .ok u s') :
    ∃ spark status stored, fired = .ok ⟨.ok spark, status⟩ ∧
      s'.tables.sparkOutputRefs = s.tables.sparkOutputRefs ++ stored ∧
      ((∀ row ∈ stored, IsInput task s.tables.captures row.captureId) ↔
        ∀ cluster ∈ spark.clusters, ∀ captureId ∈ cluster.captureIds,
          captureId ∈ task.captureIds) := by
  obtain ⟨spark, status, inferenceMetaId, t, row, inputs, clusters, hfired, howned, ht, hstored⟩ :=
    exec_eq_ok h
  have hcaptures : t.captures = s.tables.captures := by rw [ht]
  refine ⟨spark, status, clusters.flatMap (·.outputRefs), hfired, ?_, ?_⟩
  · rw [hstored.tables, ht]
    rfl
  · have hreferenced := hstored.referenced
    constructor
    · intro hinside cluster hcluster captureId hid
      have hmem : captureId ∈ (clusters.flatMap (·.outputRefs)).map (·.captureId) := by
        rw [hreferenced]
        exact List.mem_flatMap.2 ⟨cluster, hcluster, hid⟩
      obtain ⟨ref, href, rfl⟩ := List.mem_map.1 hmem
      exact (hinside ref href).mem
    · intro hresponse ref href
      have hmem : ref.captureId ∈ spark.clusters.flatMap (·.captureIds) := by
        rw [← hreferenced]
        exact List.mem_map.2 ⟨ref, href, rfl⟩
      obtain ⟨cluster, hcluster, hid⟩ := List.mem_flatMap.1 hmem
      have hinput := hresponse cluster hcluster ref.captureId hid
      refine ⟨hinput, ?_, fun capture hcapture heq => howned capture hcapture (heq ▸ hinput)⟩
      rw [← hcaptures]
      refine exists_of_inputRows hstored.inputRows ?_
      rw [List.zipIdx_map_fst]
      exact hinput

/-- A capture of this user and one of another. -/
def twoUsers : Session SparkTables SparkSequences ApiError where
  tables := ⟨[⟨1, 7, 0, none⟩, ⟨2, 8, 0, none⟩], [], [], [], [], [], []⟩
  sequences := ⟨⟨0⟩, ⟨0⟩, ⟨0⟩, ⟨0⟩, ⟨0⟩, ⟨0⟩⟩
  faults := []

/-- A response of one cluster about this capture. -/
def about (captureId : ℤ) : Except String (InferenceOutcome SparkResponse) :=
  .ok ⟨.ok ⟨[⟨"title", "summary", [captureId], []⟩]⟩, some 200⟩

theorem references_inside_iff_input : ∃ u s',
    (⟨5, 7, [1]⟩ : SparkTask).exec "run-1" 1 (about 1) twoUsers = .ok u s' ∧
    ∃ spark status stored, about 1 = .ok ⟨.ok spark, status⟩ ∧
      s'.tables.sparkOutputRefs = twoUsers.tables.sparkOutputRefs ++ stored ∧
      ((∀ row ∈ stored, IsInput ⟨5, 7, [1]⟩ twoUsers.tables.captures row.captureId) ↔
        ∀ cluster ∈ spark.clusters, ∀ captureId ∈ cluster.captureIds, captureId ∈ [(1 : ℤ)]) := by
  obtain ⟨u, s', h, -⟩ := Sql.exists_ok_of_computed
    ((⟨5, 7, [1]⟩ : SparkTask).exec "run-1" 1 (about 1)) twoUsers (fun _ => true)
    (by decide +kernel)
  exact ⟨u, s', h, references_inside_iff ⟨5, 7, [1]⟩ "run-1" 1 (about 1) twoUsers s' u h⟩

/-- **The other user's capture is referred to**, and the call returns. -/
theorem references_outside : ∃ u s' row,
    (⟨5, 7, [1]⟩ : SparkTask).exec "run-1" 1 (about 2) twoUsers = .ok u s' ∧
    s'.tables.sparkOutputRefs = [row] ∧ row.captureId = 2 ∧
    ¬ IsInput ⟨5, 7, [1]⟩ twoUsers.tables.captures row.captureId := by
  obtain ⟨u, s', h, hrefs⟩ := Sql.exists_ok_of_computed
    ((⟨5, 7, [1]⟩ : SparkTask).exec "run-1" 1 (about 2)) twoUsers
    (fun s' => s'.tables.sparkOutputRefs.map (·.captureId) = [2]) (by decide +kernel)
  obtain ⟨row, hrow, hid⟩ := List.map_eq_singleton_iff.mp (of_decide_eq_true hrefs)
  refine ⟨u, s', row, h, hrow, hid, fun hinput => absurd hinput.mem ?_⟩
  rw [hid]
  decide

end SparkTask

end Dreamscroll
