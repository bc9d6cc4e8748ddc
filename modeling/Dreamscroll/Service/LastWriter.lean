import Dreamscroll.Common.System
import Dreamscroll.Service.InsertIllumination
/-!
# The last writer of a run

Calls of `insert_illumination_v2` one after another, each for any run and
any capture, and each meeting any faults. What the tables hold of a run is
what its last committed call wrote, under the key its first one drew
(`last_writer_wins`).
-/

namespace Dreamscroll

open Service

/-! ## A history of calls -/

/-- A call of `insert_illumination_v2`, with what its statements meet. -/
structure ProjectionCall where
  capture : Schema.CaptureInfo
  taskRunId : String
  inferenceMetaId : Option ℤ
  illumination : V2.Illumination
  /-- What the statements of the call meet. -/
  faults : List (Option ApiError)
  deriving DecidableEq

/-- The tables and sequences, and the calls that were committed. -/
structure ProjectionState where
  tables : ProjectionTables
  sequences : ProjectionSequences
  /-- The committed calls, oldest first, each with the key of its row. -/
  commits : List (ProjectionCall × Option ℤ)

namespace ProjectionTables

/-- The row of a run. -/
def rowOf (t : ProjectionTables) (taskRunId : String) : Option IlluminationModel :=
  t.illuminations.find? fun r => r.taskRunId = taskRunId

/-- The entities of an illumination. -/
def entitiesOf (t : ProjectionTables) (illuminationId : ℤ) : List KnowledgeEntityModel :=
  t.knowledgeEntities.filter fun r => r.illuminationId = illuminationId

/-- Its rows of the search index. -/
def searchOf (t : ProjectionTables) (illuminationId : ℤ) : List SearchIndexModel :=
  t.searchIndex.filter fun r => r.illuminationId = illuminationId

end ProjectionTables

namespace ProjectionState

/-- Empty tables. -/
def start (sequences : ProjectionSequences) : ProjectionState := ⟨⟨[], [], []⟩, sequences, []⟩

/-- The commits of a run. -/
def commitsOf (s : ProjectionState) (taskRunId : String) : List (ProjectionCall × Option ℤ) :=
  s.commits.filter fun c => c.1.taskRunId = taskRunId

end ProjectionState

/-- The call, on a connection to this state. -/
def ProjectionCall.exec (call : ProjectionCall) (s : ProjectionState) :
    EStateM.Result ApiError (Session ProjectionTables ProjectionSequences ApiError) Unit :=
  insertIlluminationV2 call.capture call.taskRunId call.inferenceMetaId call.illumination
    ⟨s.tables, s.sequences, call.faults⟩

/-- A call is committed whole, or changes the sequences alone. -/
def ProjectionState.step (s : ProjectionState) (call : ProjectionCall) : ProjectionState :=
  match call.exec s with
  | .ok _ t => ⟨t.tables, t.sequences,
      s.commits ++ [(call, (t.tables.rowOf call.taskRunId).map IlluminationModel.id)]⟩
  | .error _ t => ⟨t.tables, t.sequences, s.commits⟩

/-- Calls one after another. -/
def projections : System ProjectionState ProjectionCall := ⟨fun s call => some (s.step call)⟩

/-! ## What the tables hold -/

/-- **The tables hold this call's projection under this row**: the fields of
the row, the entities at their positions, and one row of the search
index. -/
structure Projects (t : ProjectionTables) (row : IlluminationModel) (call : ProjectionCall) :
    Prop where
  fields : row = illuminationRow call.capture call.taskRunId call.inferenceMetaId
    call.illumination row.id
  entities : List.Forall₂ (KnowledgeEntityModel.Holds call.capture row.id) (t.entitiesOf row.id)
    call.illumination.entities.zipIdx
  search : ∃ searchId, t.searchOf row.id =
    [⟨searchId, call.capture.userId, call.capture.id, row.id, call.illumination.toMarkdown⟩]

/-- **The last writer wins**: a run with a committed call has one row, whose
key is its first commit's and whose projection is its last commit's. The
other rows of the three tables are none. -/
structure LastWriterWins (s : ProjectionState) : Prop where
  projected : ∀ taskRunId first last, (s.commitsOf taskRunId).head? = some first →
    (s.commitsOf taskRunId).getLast? = some last →
    ∃ row, (s.tables.illuminations.filter fun r => r.taskRunId = taskRunId) = [row] ∧
      first.2 = some row.id ∧ Projects s.tables row last.1
  absent : ∀ taskRunId, s.commitsOf taskRunId = [] →
    (s.tables.illuminations.filter fun r => r.taskRunId = taskRunId) = []
  entityRefs : ∀ r ∈ s.tables.knowledgeEntities,
    ∃ row ∈ s.tables.illuminations, row.id = r.illuminationId
  searchRefs : ∀ r ∈ s.tables.searchIndex,
    ∃ row ∈ s.tables.illuminations, row.id = r.illuminationId

/-- **What a call leaves alone**: a failed one the tables, and a committed
one the rows of the other runs. -/
structure LeavesAlone (s : ProjectionState) (call : ProjectionCall) (s' : ProjectionState) :
    Prop where
  failed : ∀ e t, call.exec s = .error e t → s'.tables = s.tables ∧ s'.commits = s.commits
  illuminations : (s'.tables.illuminations.filter fun r => r.taskRunId ≠ call.taskRunId) =
    s.tables.illuminations.filter fun r => r.taskRunId ≠ call.taskRunId
  children : ∀ row ∈ s.tables.illuminations, row.taskRunId ≠ call.taskRunId →
    s'.tables.entitiesOf row.id = s.tables.entitiesOf row.id ∧
      s'.tables.searchOf row.id = s.tables.searchOf row.id

/-! ## The tables after a replacement -/

/-- The entities of an illumination refer to it. -/
theorem illuminationId_of_holds {capture : Schema.CaptureInfo} {id : ℤ}
    {rows : List KnowledgeEntityModel} {entities : List (V2.Entity × ℕ)}
    (h : List.Forall₂ (KnowledgeEntityModel.Holds capture id) rows entities) :
    ∀ r ∈ rows, r.illuminationId = id := by
  induction h with
  | nil => simp
  | cons hr _ ih =>
    intro r hmem
    rcases List.mem_cons.1 hmem with rfl | hmem
    · rw [hr]
      rfl
    · exact ih r hmem

namespace Replaced

variable {capture : Schema.CaptureInfo} {taskRunId : String} {inferenceMetaId : Option ℤ}
variable {illumination : V2.Illumination} {id : ℤ} {t t' : ProjectionTables}
variable {row : IlluminationModel}

/-- The row it leaves for its run. -/
theorem mem_self (h : Replaced capture taskRunId inferenceMetaId illumination id t t') :
    illuminationRow capture taskRunId inferenceMetaId illumination id ∈ t'.illuminations :=
  List.mem_of_find?_eq_some h.row

/-- A row of another run stays. -/
theorem mem_of_ne (h : Replaced capture taskRunId inferenceMetaId illumination id t t')
    (hrow : row ∈ t.illuminations) (hne : row.taskRunId ≠ taskRunId) :
    row ∈ t'.illuminations := by
  rw [h.illuminations]
  split_ifs with hany
  · exact List.mem_map.2 ⟨row, hrow, if_neg hne⟩
  · exact List.mem_append_left _ hrow

/-- A row of another run was there before. -/
theorem old_of_ne (h : Replaced capture taskRunId inferenceMetaId illumination id t t')
    (hrow : row ∈ t'.illuminations) (hne : row.taskRunId ≠ taskRunId) :
    row ∈ t.illuminations := by
  rw [h.illuminations] at hrow
  split_ifs at hrow with hany
  · obtain ⟨r, hr, heq⟩ := List.mem_map.1 hrow
    split_ifs at heq with hrt
    · rw [← heq] at hne
      exact absurd rfl hne
    · exact heq ▸ hr
  · rcases List.mem_append.1 hrow with hr | hr
    · exact hr
    · rw [List.mem_singleton] at hr
      rw [hr] at hne
      exact absurd rfl hne

/-- The keys are those there were, and the new one of a new run. -/
theorem map_id (h : Replaced capture taskRunId inferenceMetaId illumination id t t') :
    t'.illuminations.map IlluminationModel.id =
      if t.illuminations.any fun r => r.taskRunId = taskRunId then
        t.illuminations.map IlluminationModel.id
      else t.illuminations.map IlluminationModel.id ++ [id] := by
  rw [h.illuminations]
  split_ifs with hany
  · rw [List.map_map]
    refine List.map_congr_left fun r _ => ?_
    simp only [Function.comp_apply]
    split_ifs <;> rfl
  · rw [List.map_append]
    rfl

/-- The runs with an illumination: the same, or this one more. -/
theorem map_taskRunId (h : Replaced capture taskRunId inferenceMetaId illumination id t t') :
    t'.illuminations.map IlluminationModel.taskRunId =
      if t.illuminations.any fun r => r.taskRunId = taskRunId then
        t.illuminations.map IlluminationModel.taskRunId
      else t.illuminations.map IlluminationModel.taskRunId ++ [taskRunId] := by
  rw [h.illuminations]
  split_ifs with hany
  · rw [List.map_map]
    refine List.map_congr_left fun r _ => ?_
    simp only [Function.comp_apply]
    split_ifs with hrt
    · exact hrt.symm
    · rfl
  · rw [List.map_append]
    rfl

/-- The rows of the other runs are untouched. -/
theorem filter_ne (h : Replaced capture taskRunId inferenceMetaId illumination id t t') :
    (t'.illuminations.filter fun r => r.taskRunId ≠ taskRunId) =
      t.illuminations.filter fun r => r.taskRunId ≠ taskRunId := by
  rw [h.illuminations]
  split_ifs with hany
  · induction t.illuminations with
    | nil => rfl
    | cons r l ih =>
      rw [List.map_cons, List.filter_cons, List.filter_cons, ih]
      by_cases hrt : r.taskRunId = taskRunId
      · simp [hrt, illuminationRow]
      · simp [hrt]
  · rw [List.filter_append]
    simp [illuminationRow]

/-- **The rows below another key stay.** -/
theorem children_of_ne (h : Replaced capture taskRunId inferenceMetaId illumination id t t')
    {id' : ℤ} (hne : id' ≠ id) :
    t'.entitiesOf id' = t.entitiesOf id' ∧ t'.searchOf id' = t.searchOf id' := by
  constructor
  · obtain ⟨rows, hrows, hall⟩ := h.entities
    have hnone : (rows.filter fun r => r.illuminationId = id') = [] := by
      refine List.filter_eq_nil_iff.2 fun r hr => ?_
      rw [illuminationId_of_holds hall r hr, decide_eq_true_eq]
      exact fun h => hne h.symm
    unfold ProjectionTables.entitiesOf
    rw [hrows, List.filter_append, hnone, List.append_nil, List.filter_filter]
    refine List.filter_congr fun r _ => ?_
    by_cases hr : r.illuminationId = id'
    · simp [hr, hne]
    · simp [hr]
  · obtain ⟨searchId, hsearch⟩ := h.searchIndex
    unfold ProjectionTables.searchOf
    rw [hsearch, List.filter_append, List.filter_filter]
    have hnone : ([⟨searchId, capture.userId, capture.id, id, illumination.toMarkdown⟩] :
        List SearchIndexModel).filter (fun r => r.illuminationId = id') = [] := by
      simp [Ne.symm hne]
    rw [hnone, List.append_nil]
    refine List.filter_congr fun r _ => ?_
    by_cases hr : r.illuminationId = id'
    · simp [hr, hne]
    · simp [hr]

/-- The key of its row is the one the run had. -/
theorem id_of_mem (h : Replaced capture taskRunId inferenceMetaId illumination id t t')
    (hruns : (t.illuminations.map IlluminationModel.taskRunId).Nodup)
    (hrow : row ∈ t.illuminations) (hrun : row.taskRunId = taskRunId) : row.id = id := by
  have hany : (t.illuminations.any fun r => r.taskRunId = taskRunId) = true := by
    rw [List.any_eq_true]
    exact ⟨row, hrow, by simpa using hrun⟩
  have hmem := h.mem_self
  rw [h.illuminations, if_pos hany] at hmem
  obtain ⟨r, hr, heq⟩ := List.mem_map.1 hmem
  split_ifs at heq with hrt
  · have hsame : row = r := List.inj_on_of_nodup_map hruns hrow hr (hrun.trans hrt.symm)
    rw [hsame]
    exact congrArg IlluminationModel.id heq
  · rw [heq] at hrt
    exact absurd rfl hrt

/-- And of every other row another. -/
theorem id_ne (h : Replaced capture taskRunId inferenceMetaId illumination id t t')
    (hruns : (t.illuminations.map IlluminationModel.taskRunId).Nodup)
    (hids : (t.illuminations.map IlluminationModel.id).Nodup)
    (hfresh : (t.illuminations.any fun r => r.taskRunId = taskRunId) = false →
      ∀ r ∈ t.illuminations, r.id < id)
    (hrow : row ∈ t.illuminations) (hne : row.taskRunId ≠ taskRunId) : row.id ≠ id := by
  cases hany : t.illuminations.any fun r => r.taskRunId = taskRunId with
  | false => exact (hfresh hany row hrow).ne
  | true =>
    obtain ⟨r, hr, hrt⟩ := List.any_eq_true.1 hany
    rw [decide_eq_true_eq] at hrt
    intro heq
    have hsame : row = r :=
      List.inj_on_of_nodup_map hids hrow hr (heq.trans (h.id_of_mem hruns hr hrt).symm)
    exact hne (hsame ▸ hrt)

/-- A run keeps one illumination at most: the insertion updates the row on a
conflict. -/
theorem nodup_map_taskRunId
    (h : Replaced capture taskRunId inferenceMetaId illumination id t t')
    (hruns : (t.illuminations.map IlluminationModel.taskRunId).Nodup) :
    (t'.illuminations.map IlluminationModel.taskRunId).Nodup := by
  rw [h.map_taskRunId]
  split_ifs with hany
  · exact hruns
  · refine List.nodup_append.2 ⟨hruns, List.nodup_singleton _, ?_⟩
    intro a ha b hb heq
    rw [List.mem_singleton] at hb
    obtain ⟨r, hr, hra⟩ := List.mem_map.1 ha
    refine hany (List.any_eq_true.2 ⟨r, hr, ?_⟩)
    rw [decide_eq_true_eq, hra, heq, hb]

/-- The ids stay different: a new row takes a key above all others. -/
theorem nodup_map_id (h : Replaced capture taskRunId inferenceMetaId illumination id t t')
    (hids : (t.illuminations.map IlluminationModel.id).Nodup)
    (hfresh : (t.illuminations.any fun r => r.taskRunId = taskRunId) = false →
      ∀ r ∈ t.illuminations, r.id < id) :
    (t'.illuminations.map IlluminationModel.id).Nodup := by
  rw [h.map_id]
  split_ifs with hany
  · exact hids
  · refine List.nodup_append.2 ⟨hids, List.nodup_singleton _, ?_⟩
    intro a ha b hb heq
    rw [List.mem_singleton] at hb
    obtain ⟨r, hr, hra⟩ := List.mem_map.1 ha
    have hlt := hfresh (by simpa using hany) r hr
    omega

/-- **The run's own projection.** -/
theorem projects {call : ProjectionCall}
    (h : Replaced call.capture call.taskRunId call.inferenceMetaId call.illumination id t t') :
    Projects t' (illuminationRow call.capture call.taskRunId call.inferenceMetaId
      call.illumination id) call := by
  refine ⟨rfl, ?_, ?_⟩
  · obtain ⟨rows, hrows, hall⟩ := h.entities
    have hself : (rows.filter fun r => r.illuminationId = id) = rows :=
      List.filter_eq_self.2 fun r hr => by
        rw [illuminationId_of_holds hall r hr, decide_eq_true_eq]
    have hnone : ((t.knowledgeEntities.filter fun r => r.illuminationId ≠ id).filter
        fun r => r.illuminationId = id) = [] := by
      refine List.filter_eq_nil_iff.2 fun r hr => ?_
      simpa using (List.mem_filter.1 hr).2
    show List.Forall₂ _ (t'.entitiesOf id) _
    unfold ProjectionTables.entitiesOf
    rw [hrows, List.filter_append, hnone, hself, List.nil_append]
    exact hall
  · obtain ⟨searchId, hsearch⟩ := h.searchIndex
    have hnone : ((t.searchIndex.filter fun r => r.illuminationId ≠ id).filter
        fun r => r.illuminationId = id) = [] := by
      refine List.filter_eq_nil_iff.2 fun r hr => ?_
      simpa using (List.mem_filter.1 hr).2
    refine ⟨searchId, ?_⟩
    show t'.searchOf id = _
    unfold ProjectionTables.searchOf
    rw [hsearch, List.filter_append, hnone, List.nil_append]
    simp [illuminationRow]

/-- The row of the run is the one that was written. -/
theorem row_eq (h : Replaced capture taskRunId inferenceMetaId illumination id t t')
    (hruns : (t.illuminations.map IlluminationModel.taskRunId).Nodup) {row : IlluminationModel}
    (hrow : row ∈ t'.illuminations) (hrun : row.taskRunId = taskRunId) :
    row = illuminationRow capture taskRunId inferenceMetaId illumination id :=
  List.inj_on_of_nodup_map (h.nodup_map_taskRunId hruns) hrow h.mem_self hrun

/-- No key goes. -/
theorem exists_id (h : Replaced capture taskRunId inferenceMetaId illumination id t t')
    (hruns : (t.illuminations.map IlluminationModel.taskRunId).Nodup) {k : ℤ}
    (hk : ∃ row ∈ t.illuminations, row.id = k) : ∃ row ∈ t'.illuminations, row.id = k := by
  obtain ⟨row, hrow, hid⟩ := hk
  by_cases hrun : row.taskRunId = taskRunId
  · exact ⟨_, h.mem_self, (h.id_of_mem hruns hrow hrun).symm.trans hid⟩
  · exact ⟨row, h.mem_of_ne hrow hrun, hid⟩

/-- Every entity is still of a row. -/
theorem entityRefs (h : Replaced capture taskRunId inferenceMetaId illumination id t t')
    (hruns : (t.illuminations.map IlluminationModel.taskRunId).Nodup)
    (hrefs : ∀ r ∈ t.knowledgeEntities, ∃ row ∈ t.illuminations, row.id = r.illuminationId) :
    ∀ r ∈ t'.knowledgeEntities, ∃ row ∈ t'.illuminations, row.id = r.illuminationId := by
  intro r hr
  obtain ⟨rows, hrows, hall⟩ := h.entities
  rw [hrows] at hr
  rcases List.mem_append.1 hr with hold | hnew
  · exact h.exists_id hruns (hrefs r (List.mem_filter.1 hold).1)
  · exact ⟨_, h.mem_self, (illuminationId_of_holds hall r hnew).symm⟩

/-- Every search row still refers to an illumination there is. -/
theorem searchRefs (h : Replaced capture taskRunId inferenceMetaId illumination id t t')
    (hruns : (t.illuminations.map IlluminationModel.taskRunId).Nodup)
    (hrefs : ∀ r ∈ t.searchIndex, ∃ row ∈ t.illuminations, row.id = r.illuminationId) :
    ∀ r ∈ t'.searchIndex, ∃ row ∈ t'.illuminations, row.id = r.illuminationId := by
  intro r hr
  obtain ⟨searchId, hsearch⟩ := h.searchIndex
  rw [hsearch] at hr
  rcases List.mem_append.1 hr with hold | hnew
  · exact h.exists_id hruns (hrefs r (List.mem_filter.1 hold).1)
  · rw [List.mem_singleton] at hnew
    exact ⟨_, h.mem_self, by rw [hnew]; rfl⟩

end Replaced

/-! ## The invariant of a history -/

/-- **What holds after every call.** -/
structure ProjectionInv (s : ProjectionState) : Prop where
  runs : (s.tables.illuminations.map IlluminationModel.taskRunId).Nodup
  ids : (s.tables.illuminations.map IlluminationModel.id).Nodup
  drawn : ∀ row ∈ s.tables.illuminations, row.id ≤ (s.sequences.illuminations.last : ℤ)
  entityRefs : ∀ r ∈ s.tables.knowledgeEntities,
    ∃ row ∈ s.tables.illuminations, row.id = r.illuminationId
  searchRefs : ∀ r ∈ s.tables.searchIndex,
    ∃ row ∈ s.tables.illuminations, row.id = r.illuminationId
  projected : ∀ row ∈ s.tables.illuminations, ∃ first last,
    (s.commitsOf row.taskRunId).head? = some first ∧
    (s.commitsOf row.taskRunId).getLast? = some last ∧
    first.2 = some row.id ∧ Projects s.tables row last.1
  stored : ∀ c ∈ s.commits, ∃ row ∈ s.tables.illuminations, row.taskRunId = c.1.taskRunId

variable {s s' : ProjectionState} {call : ProjectionCall} {calls : List ProjectionCall}
variable {q : ProjectionSequences}
variable {t : Session ProjectionTables ProjectionSequences ApiError} {u : Unit}

/-- The invariant holds of the empty tables. -/
theorem projectionInv_start : ProjectionInv (ProjectionState.start q) := by
  constructor <;> simp [ProjectionState.start]

/-- A call that succeeds is a commit. -/
theorem step_of_ok (h : call.exec s = .ok u t) :
    s.step call = ⟨t.tables, t.sequences,
      s.commits ++ [(call, (t.tables.rowOf call.taskRunId).map IlluminationModel.id)]⟩ := by
  rw [ProjectionState.step, h]

/-- A call that fails commits nothing, whatever keys it drew. -/
theorem step_of_error {e : ApiError} (h : call.exec s = .error e t) :
    s.step call = ⟨t.tables, t.sequences, s.commits⟩ := by
  rw [ProjectionState.step, h]

/-- **A failed call changes no table.** -/
theorem tables_of_error {e : ApiError} (h : call.exec s = .error e t) : t.tables = s.tables :=
  Sql.tables_of_transaction_error h

/-- **A committed call replaced the projection of its run**, under the key
it had or one above all others. -/
theorem replaced_of_exec (hi : ProjectionInv s) (h : call.exec s = .ok u t) :
    ∃ id, Replaced call.capture call.taskRunId call.inferenceMetaId call.illumination id
        s.tables t.tables ∧
      ((s.tables.illuminations.any fun r => r.taskRunId = call.taskRunId) = false →
        ∀ r ∈ s.tables.illuminations, r.id < id) ∧
      id ≤ (t.sequences.illuminations.last : ℤ) ∧
      t.sequences.illuminations.last = s.sequences.illuminations.last + 1 := by
  obtain ⟨⟨id, hrep, hnew⟩, hseq⟩ := replaced_of_ok h
  refine ⟨id, hrep, ?_, ?_, hseq⟩
  · intro hany r hr
    have hle := hi.drawn r hr
    rw [hnew hany]
    show r.id < ((s.sequences.illuminations.last + 1 : ℕ) : ℤ)
    omega
  · rw [hseq]
    cases hany : s.tables.illuminations.any fun r => r.taskRunId = call.taskRunId with
    | false => exact (hnew hany).le
    | true =>
      obtain ⟨r, hr, hrt⟩ := List.any_eq_true.1 hany
      rw [decide_eq_true_eq] at hrt
      have hle := hi.drawn r hr
      rw [hrep.id_of_mem hi.runs hr hrt] at hle
      show id ≤ ((s.sequences.illuminations.last + 1 : ℕ) : ℤ)
      omega

/-- The commits of a run, with one call more. -/
theorem commitsOf_append {commits : List (ProjectionCall × Option ℤ)} {runId : String}
    {c : ProjectionCall × Option ℤ} {tables : ProjectionTables} {sequences : ProjectionSequences} :
    (⟨tables, sequences, commits ++ [c]⟩ : ProjectionState).commitsOf runId =
      (commits.filter fun c => c.1.taskRunId = runId) ++
        if c.1.taskRunId = runId then [c] else [] := by
  unfold ProjectionState.commitsOf
  rw [List.filter_append, List.filter_singleton]
  split_ifs <;> simp_all

/-- A row is projected by its commits, and without it there are none. -/
theorem ProjectionInv.commitsOf_eq_nil (hi : ProjectionInv s) {runId : String}
    (hnone : (s.tables.illuminations.any fun r => r.taskRunId = runId) = false) :
    s.commitsOf runId = [] := by
  refine List.filter_eq_nil_iff.2 fun c hc hrun => ?_
  obtain ⟨row, hrow, heq⟩ := hi.stored c hc
  rw [decide_eq_true_eq] at hrun
  have hany : (s.tables.illuminations.any fun r => r.taskRunId = runId) = true :=
    List.any_eq_true.2 ⟨row, hrow, by simpa using heq.trans hrun⟩
  rw [hany] at hnone
  cases hnone

section Committed

variable {id : ℤ} (hi : ProjectionInv s)
variable (hrep : Replaced call.capture call.taskRunId call.inferenceMetaId call.illumination id
  s.tables t.tables)
include hi hrep

/-- The first commit of the run fixed its key, whichever commit that is. -/
theorem firstCommit_of_replaced : ∃ first,
    ((s.commits.filter fun c => c.1.taskRunId = call.taskRunId) ++
      [(call, (t.tables.rowOf call.taskRunId).map IlluminationModel.id)]).head? = some first ∧
      first.2 = some id := by
  have hkey : (t.tables.rowOf call.taskRunId).map IlluminationModel.id = some id := by
    unfold ProjectionTables.rowOf
    rw [hrep.row]
    rfl
  cases hany : s.tables.illuminations.any fun r => r.taskRunId = call.taskRunId with
  | false =>
    have hnil : (s.commits.filter fun c => c.1.taskRunId = call.taskRunId) = [] :=
      hi.commitsOf_eq_nil hany
    rw [hnil]
    exact ⟨_, rfl, hkey⟩
  | true =>
    obtain ⟨r, hr, hrt⟩ := List.any_eq_true.1 hany
    rw [decide_eq_true_eq] at hrt
    obtain ⟨first, -, hfirst, -, hid, -⟩ := hi.projected r hr
    rw [hrt] at hfirst
    have hhead : (s.commits.filter fun c => c.1.taskRunId = call.taskRunId).head? =
        some first := hfirst
    refine ⟨first, ?_, by rw [hid, hrep.id_of_mem hi.runs hr hrt]⟩
    rw [List.head?_append, hhead]
    rfl

/-- **Another run keeps its projection.** -/
theorem projects_of_replaced {row : IlluminationModel} {last : ProjectionCall}
    (hrow : row ∈ s.tables.illuminations) (hrun : row.taskRunId ≠ call.taskRunId)
    (hfresh : (s.tables.illuminations.any fun r => r.taskRunId = call.taskRunId) = false →
      ∀ r ∈ s.tables.illuminations, r.id < id)
    (hproj : Projects s.tables row last) : Projects t.tables row last := by
  obtain ⟨hents, hsrch⟩ :=
    hrep.children_of_ne (hrep.id_ne hi.runs hi.ids hfresh hrow hrun)
  refine ⟨hproj.fields, ?_, ?_⟩
  · show List.Forall₂ _ (t.tables.entitiesOf row.id) _
    rw [hents]
    exact hproj.entities
  · obtain ⟨searchId, hsearch⟩ := hproj.search
    refine ⟨searchId, ?_⟩
    show t.tables.searchOf row.id = _
    rw [hsrch]
    exact hsearch

end Committed

/-- The step lemma, of a committed call. -/
theorem projectionInv_of_ok (hi : ProjectionInv s) (h : call.exec s = .ok u t) :
    ProjectionInv (s.step call) := by
  obtain ⟨id, hrep, hfresh, hle, hseq⟩ := replaced_of_exec hi h
  rw [step_of_ok h]
  refine ⟨hrep.nodup_map_taskRunId hi.runs, hrep.nodup_map_id hi.ids hfresh, ?_,
    hrep.entityRefs hi.runs hi.entityRefs, hrep.searchRefs hi.runs hi.searchRefs, ?_, ?_⟩
  · intro row hrow
    by_cases hrun : row.taskRunId = call.taskRunId
    · rw [hrep.row_eq hi.runs hrow hrun]
      exact hle
    · have hold := hi.drawn row (hrep.old_of_ne hrow hrun)
      show row.id ≤ (t.sequences.illuminations.last : ℤ)
      omega
  · intro row hrow
    rw [commitsOf_append]
    by_cases hrun : row.taskRunId = call.taskRunId
    · rw [if_pos hrun.symm, hrep.row_eq hi.runs hrow hrun]
      obtain ⟨first, hfirst, hkey⟩ := firstCommit_of_replaced hi hrep
      exact ⟨first, _, hfirst, List.getLast?_concat, hkey, hrep.projects⟩
    · have hold := hrep.old_of_ne hrow hrun
      obtain ⟨first, last, hfirst, hlast, hid, hproj⟩ := hi.projected row hold
      rw [if_neg (Ne.symm hrun), List.append_nil]
      exact ⟨first, last, hfirst, hlast, hid,
        projects_of_replaced hi hrep hold hrun hfresh hproj⟩
  · intro c hc
    rcases List.mem_append.1 hc with hold | hnew
    · obtain ⟨row, hrow, hrun⟩ := hi.stored c hold
      by_cases hsame : row.taskRunId = call.taskRunId
      · exact ⟨_, hrep.mem_self, hsame.symm.trans hrun⟩
      · exact ⟨row, hrep.mem_of_ne hrow hsame, hrun⟩
    · rw [List.mem_singleton] at hnew
      rw [hnew]
      exact ⟨_, hrep.mem_self, rfl⟩

/-- **A failed call keeps the invariant**, having changed no table. -/
theorem projectionInv_of_error {e : ApiError} (hi : ProjectionInv s)
    (h : call.exec s = .error e t) : ProjectionInv (s.step call) := by
  rw [step_of_error h]
  have htables := tables_of_error h
  have hseq : s.sequences.illuminations.last ≤ t.sequences.illuminations.last :=
    (keeps_insertIlluminationV2 _).of_error _ _ _ le_rfl h
  refine ⟨?_, ?_, ?_, ?_, ?_, ?_, ?_⟩
  all_goals dsimp only
  all_goals rw [htables]
  · exact hi.runs
  · exact hi.ids
  · intro row hrow
    have hle := hi.drawn row hrow
    omega
  · exact hi.entityRefs
  · exact hi.searchRefs
  · exact hi.projected
  · exact hi.stored

/-- Every call, successful or not, keeps the invariant. -/
theorem projectionInv_step (hi : ProjectionInv s) : ProjectionInv (s.step call) := by
  cases h : call.exec s with
  | ok u t => exact projectionInv_of_ok hi h
  | error e t => exact projectionInv_of_error hi h

/-- **What one call leaves alone.** -/
theorem leavesAlone_step (hi : ProjectionInv s) : LeavesAlone s call (s.step call) := by
  cases h : call.exec s with
  | ok u t =>
    obtain ⟨id, hrep, hfresh, -, -⟩ := replaced_of_exec hi h
    rw [step_of_ok h]
    refine ⟨?_, hrep.filter_ne, ?_⟩
    · intro e t' he
      rw [h] at he
      cases he
    · intro row hrow hne
      exact hrep.children_of_ne (hrep.id_ne hi.runs hi.ids hfresh hrow hne)
  | error e t =>
    have htables := tables_of_error h
    rw [step_of_error h, htables]
    exact ⟨fun _ _ _ => ⟨rfl, rfl⟩, rfl, fun _ _ _ => ⟨rfl, rfl⟩⟩

/-- The elements with the key of one of them, where no two share a key. -/
theorem filter_key_eq_singleton {α β : Type} [DecidableEq β] {f : α → β} {l : List α} {a : α}
    (hnd : (l.map f).Nodup) (ha : a ∈ l) : (l.filter fun b => f b = f a) = [a] := by
  induction l with
  | nil => cases ha
  | cons x l ih =>
    rw [List.map_cons, List.nodup_cons] at hnd
    rcases List.mem_cons.1 ha with rfl | hmem
    · have hnone : (l.filter fun b => f b = f a) = [] := by
        refine List.filter_eq_nil_iff.2 fun b hb hfb => hnd.1 ?_
        rw [decide_eq_true_eq] at hfb
        exact hfb ▸ List.mem_map_of_mem hb
      rw [List.filter_cons, if_pos (by simp), hnone]
    · have hne : f x ≠ f a := fun heq => hnd.1 (heq ▸ List.mem_map_of_mem hmem)
      rw [List.filter_cons, if_neg (by simpa using hne), ih hnd.2 hmem]

/-- What the invariant says of the tables is the claim. -/
theorem ProjectionInv.lastWriterWins (hi : ProjectionInv s) : LastWriterWins s := by
  refine ⟨?_, ?_, hi.entityRefs, hi.searchRefs⟩
  · intro runId first last hfirst hlast
    have hmem := List.mem_of_getLast? hlast
    obtain ⟨hcommit, hrun⟩ := List.mem_filter.1 hmem
    rw [decide_eq_true_eq] at hrun
    obtain ⟨row, hrow, heq⟩ := hi.stored last hcommit
    have hrowrun : row.taskRunId = runId := heq.trans hrun
    obtain ⟨first', last', hfirst', hlast', hid, hproj⟩ := hi.projected row hrow
    rw [hrowrun] at hfirst' hlast'
    obtain rfl : first = first' := Option.some.inj (hfirst.symm.trans hfirst')
    obtain rfl : last = last' := Option.some.inj (hlast.symm.trans hlast')
    refine ⟨row, ?_, hid, hproj⟩
    rw [← hrowrun]
    exact filter_key_eq_singleton hi.runs hrow
  · intro runId hnil
    refine List.filter_eq_nil_iff.2 fun row hrow hrun => ?_
    rw [decide_eq_true_eq] at hrun
    obtain ⟨first, last, hfirst, -⟩ := hi.projected row hrow
    rw [hrun, hnil] at hfirst
    cases hfirst

/-! ## Every history -/

/-- The invariant holds after every sequence of calls. -/
theorem projectionInv_of_run (h : projections.run (ProjectionState.start q) calls = some s) :
    ProjectionInv s := by
  refine System.run_inv ?_ projectionInv_start h
  intro s call s' hi hs
  cases hs
  exact projectionInv_step hi

/-- **The projection is transactional, and the last writer of a run wins.**
After every history of calls from empty tables the tables hold, of each run
with a committed call, its last commit under the key of its first one, and
of every other run nothing; and every call on the way left alone what it
should. -/
theorem last_writer_wins (h : projections.run (ProjectionState.start q) calls = some s) :
    LastWriterWins s ∧
      projections.Along LeavesAlone (ProjectionState.start q) calls := by
  refine ⟨(projectionInv_of_run h).lastWriterWins, ?_⟩
  refine System.along_of_inv (I := ProjectionInv) ?_ projectionInv_start
  intro s call s' hi hs
  cases hs
  exact ⟨projectionInv_step hi, leavesAlone_step hi⟩

/-! ## A retry -/

/-- A capture as the service API returns it. -/
def aCapture : Schema.CaptureInfo := ⟨9, 1, 0, "just now", none, [], [], none⟩

/-- A link with a handle. -/
def redditLink : V2.PlatformLink := ⟨.reddit, none, some "r/NFCWestMemeWar", none⟩

/-- An answer of the model. -/
def communityIllumination : V2.Illumination where
  summary := "A Reddit community for NFC West memes"
  details := "A community focused on memes about the NFC West division."
  suggestedSearches := ["NFC West memes"]
  entities := [⟨"NFCWestMemeWar", none, none, .onlineCommunity, some redditLink⟩]

/-- And one of its second attempt. -/
def retryIllumination : V2.Illumination :=
  ⟨"retry replaces the previous result", "latest attempt output", [], []⟩

/-- A run commits, fails at its seventh statement, and commits again, after
another run of the capture. -/
def retryHistory : List ProjectionCall :=
  [⟨aCapture, "run-1", some 1, communityIllumination, []⟩,
    ⟨aCapture, "run-1", some 2, communityIllumination,
      List.replicate 6 none ++ [some (ApiError.internal "connection closed")]⟩,
    ⟨aCapture, "run-2", none, communityIllumination, []⟩,
    ⟨aCapture, "run-1", some 3, retryIllumination, []⟩]

/-- The state after both. -/
def retryState : ProjectionState :=
  (projections.run (ProjectionState.start ⟨⟨0⟩, ⟨0⟩, ⟨0⟩⟩) retryHistory).get (by decide)

/-- The two runs keep one illumination each, run 1 its last. -/
theorem last_writer_wins_retry : retryState.commits.length = 3 ∧ LastWriterWins retryState ∧
    projections.Along LeavesAlone (ProjectionState.start ⟨⟨0⟩, ⟨0⟩, ⟨0⟩⟩) retryHistory :=
  ⟨by decide, last_writer_wins (Option.some_get _).symm⟩

end Dreamscroll
