import Dreamscroll.Api.InfoMaker
import Dreamscroll.Common.Sql
import Dreamscroll.Illumination.V2
import Mathlib.Algebra.Group.Nat.Defs
/-!
# Inserting a projection

`insert_illumination_v2`, one statement at a time: the upsert of the row of
the run, its lookup, the two deletes, an insert for each entity and one for
the search index, all in one transaction.

`Replaced` says what a committed call did to the three tables, and
`replaced_of_ok` is the only place that unfolds the function.
-/

namespace Dreamscroll

/-- `n as i32`. -/
def asI32 (n : ℕ) : ℤ := Int.bmod n (2 ^ 32)

theorem asI32_eq {n : ℕ} (h : n < Sequence.maxValue) : asI32 n = n := by
  unfold Sequence.maxValue at h
  unfold asI32
  rw [Int.bmod_eq_of_le] <;> omega

/-! ## The tables -/

/-- The tables a projection writes. -/
structure ProjectionTables where
  illuminations : List IlluminationModel
  knowledgeEntities : List KnowledgeEntityModel
  searchIndex : List SearchIndexModel
  deriving DecidableEq, Repr

/-- The sequences of the three serial keys. -/
structure ProjectionSequences where
  illuminations : Sequence
  knowledgeEntities : Sequence
  searchIndex : Sequence
  deriving DecidableEq, Repr

/-- A statement of its transaction. -/
abbrev ProjectionSql := Sql ProjectionTables ProjectionSequences ApiError

/-- The error of a sequence that reached its maximum. -/
def exhausted (sequence : String) : ApiError :=
  ApiError.internal ("nextval: reached maximum value of sequence \"" ++ sequence ++
    "\" (2147483647)")

/-! ## The statements -/

namespace Service

/-- The row a call writes for its run, with this key. -/
def illuminationRow (capture : Schema.CaptureInfo) (taskRunId : String)
    (inferenceMetaId : Option ℤ) (illumination : V2.Illumination) (id : ℤ) :
    IlluminationModel where
  id := id
  userId := capture.userId
  captureId := capture.id
  taskRunId := taskRunId
  inferenceMetaId := inferenceMetaId
  summary := illumination.summary
  details := illumination.details
  suggestedSearches := some illumination.suggestedSearches

/-- Insert the row, `ON CONFLICT (task_run_id) DO UPDATE`, which replaces
every column but the key. The key is drawn in either case. -/
def upsertIllumination (row : ℤ → IlluminationModel) (taskRunId : String) : ProjectionSql Unit :=
  .insertSerial (·.illuminations) (fun q id => { q with illuminations := id })
    (exhausted "illuminations_id_seq") fun id tables =>
      if tables.illuminations.any fun r => r.taskRunId = taskRunId then
        .ok ((), { tables with illuminations := tables.illuminations.map fun r =>
          if r.taskRunId = taskRunId then row r.id else r })
      else .ok ((), { tables with illuminations := tables.illuminations ++ [row id] })

/-- The entities of an earlier result go. -/
def deleteEntities (illuminationId : ℤ) : ProjectionSql Unit :=
  .update fun tables => { tables with
    knowledgeEntities := tables.knowledgeEntities.filter fun r =>
      r.illuminationId ≠ illuminationId }

/-- And its rows of the search index. -/
def deleteSearchIndex (illuminationId : ℤ) : ProjectionSql Unit :=
  .update fun tables => { tables with
    searchIndex := tables.searchIndex.filter fun r => r.illuminationId ≠ illuminationId }

/-- The row of an entity, its platform link flattened into three columns. -/
def entityRow (capture : Schema.CaptureInfo) (illuminationId position : ℤ) (entity : V2.Entity)
    (id : ℤ) : KnowledgeEntityModel where
  id := id
  userId := capture.userId
  captureId := capture.id
  illuminationId := illuminationId
  position := position
  name := entity.name
  entityType := entity.entityType.toString
  description := entity.description
  searchQuery := entity.searchQuery
  platform := entity.platformLink.map fun link => link.platform.toString
  platformHandle := entity.platformLink.bind fun link => link.handle
  platformDisplayName := entity.platformLink.bind fun link => link.displayName

/-- Insert the row of an entity, unless its position is taken. -/
def insertEntity (capture : Schema.CaptureInfo) (illuminationId position : ℤ)
    (entity : V2.Entity) : ProjectionSql Unit :=
  .insertSerial (·.knowledgeEntities) (fun q id => { q with knowledgeEntities := id })
    (exhausted "knowledge_entities_id_seq") fun id tables =>
      if tables.knowledgeEntities.any fun r =>
          r.illuminationId = illuminationId && r.position = position then
        .error (ApiError.internal ("duplicate key value violates unique constraint " ++
          "\"knowledge_entity_position\""))
      else .ok ((), { tables with knowledgeEntities := tables.knowledgeEntities ++
        [entityRow capture illuminationId position entity id] })

/-- The text the capture is found by. -/
def insertSearchIndex (capture : Schema.CaptureInfo) (illuminationId : ℤ) (content : String) :
    ProjectionSql Unit :=
  .insertSerial (·.searchIndex) (fun q id => { q with searchIndex := id })
    (exhausted "search_index_id_seq") fun id tables =>
      .ok ((), { tables with searchIndex :=
        tables.searchIndex ++ [⟨id, capture.userId, capture.id, illuminationId, content⟩] })

/-- `format_for_search_v2`. -/
def formatForSearchV2 (illumination : V2.Illumination) : String := illumination.toMarkdown

/-- **Upsert the relational illumination projection for one TaskRun.** -/
def insertIlluminationV2 (capture : Schema.CaptureInfo) (taskRunId : String)
    (inferenceMetaId : Option ℤ) (illumination : V2.Illumination) : ProjectionSql Unit :=
  let searchContent := formatForSearchV2 illumination
  Sql.transaction do
    upsertIllumination (illuminationRow capture taskRunId inferenceMetaId illumination) taskRunId
    let row ← Sql.select fun tables =>
      tables.illuminations.find? fun r => r.taskRunId = taskRunId
    match row with
    | none => throw (ApiError.internal "Illumination upsert returned no row")
    | some row =>
      deleteEntities row.id
      deleteSearchIndex row.id
      illumination.entities.zipIdx.forM fun (entity, position) =>
        insertEntity capture row.id (asI32 position) entity
      insertSearchIndex capture row.id searchContent

end Service

/-! ## What a committed call did -/

open Service

/-- The row holds this entity, at this position. -/
def KnowledgeEntityModel.Holds (capture : Schema.CaptureInfo) (illuminationId : ℤ)
    (r : KnowledgeEntityModel) (entity : V2.Entity × ℕ) : Prop :=
  r = entityRow capture illuminationId entity.2 entity.1 r.id

/-- **What a committed call did to the tables**: the row of the run, under
the key it had or a new one, and the rows of its entities and of the search
index, all in place of what was there. -/
structure Replaced (capture : Schema.CaptureInfo) (taskRunId : String)
    (inferenceMetaId : Option ℤ) (illumination : V2.Illumination) (id : ℤ)
    (tables tables' : ProjectionTables) : Prop where
  illuminations : tables'.illuminations =
    if tables.illuminations.any fun r => r.taskRunId = taskRunId then
      tables.illuminations.map fun r => if r.taskRunId = taskRunId then
        illuminationRow capture taskRunId inferenceMetaId illumination r.id else r
    else tables.illuminations ++
      [illuminationRow capture taskRunId inferenceMetaId illumination id]
  /-- The key is the one the row of the run has. -/
  row : tables'.illuminations.find? (fun r => r.taskRunId = taskRunId) =
    some (illuminationRow capture taskRunId inferenceMetaId illumination id)
  entities : ∃ rows : List KnowledgeEntityModel,
    tables'.knowledgeEntities =
      (tables.knowledgeEntities.filter fun r => r.illuminationId ≠ id) ++ rows ∧
    List.Forall₂ (KnowledgeEntityModel.Holds capture id) rows illumination.entities.zipIdx
  searchIndex : ∃ searchId, tables'.searchIndex =
    (tables.searchIndex.filter fun r => r.illuminationId ≠ id) ++
      [⟨searchId, capture.userId, capture.id, id, illumination.toMarkdown⟩]

variable {capture : Schema.CaptureInfo} {taskRunId : String} {inferenceMetaId : Option ℤ}
variable {illumination : V2.Illumination} {id position : ℤ} {entity : V2.Entity}
variable {s s' : Session ProjectionTables ProjectionSequences ApiError} {u : Unit}

theorem upsertIllumination_eq_ok {row : ℤ → IlluminationModel}
    (h : upsertIllumination row taskRunId s = .ok u s') :
    (s'.tables = { s.tables with illuminations :=
      if s.tables.illuminations.any fun r => r.taskRunId = taskRunId then
        s.tables.illuminations.map fun r => if r.taskRunId = taskRunId then row r.id else r
      else s.tables.illuminations ++ [row (s.sequences.illuminations.last + 1 : ℕ)] }) ∧
    s'.sequences = { s.sequences with
      illuminations := ⟨s.sequences.illuminations.last + 1⟩ } := by
  obtain ⟨-, hwrite, hseq⟩ := Sql.insertSerial_eq_ok h
  refine ⟨?_, hseq⟩
  split_ifs at hwrite ⊢ with hany
  · simp only [Except.ok.injEq, Prod.mk.injEq, true_and] at hwrite
    exact hwrite.symm
  · simp only [Except.ok.injEq, Prod.mk.injEq, true_and] at hwrite
    exact hwrite.symm

theorem insertEntity_eq_ok (h : insertEntity capture id position entity s = .ok u s') :
    s.sequences.knowledgeEntities.last < Sequence.maxValue ∧
    (∃ entityId, s'.tables = { s.tables with knowledgeEntities := s.tables.knowledgeEntities ++
      [entityRow capture id position entity entityId] }) ∧
    s'.sequences = { s.sequences with
      knowledgeEntities := ⟨s.sequences.knowledgeEntities.last + 1⟩ } := by
  obtain ⟨hlt, hwrite, hseq⟩ := Sql.insertSerial_eq_ok h
  split_ifs at hwrite with hany
  simp only [Except.ok.injEq, Prod.mk.injEq, true_and] at hwrite
  exact ⟨hlt, ⟨_, hwrite.symm⟩, hseq⟩

theorem insertSearchIndex_eq_ok {content : String}
    (h : insertSearchIndex capture id content s = .ok u s') :
    (∃ searchId, s'.tables = { s.tables with searchIndex := s.tables.searchIndex ++
      [⟨searchId, capture.userId, capture.id, id, content⟩] }) ∧
    s'.sequences.illuminations = s.sequences.illuminations := by
  obtain ⟨-, hwrite, hseq⟩ := Sql.insertSerial_eq_ok h
  simp only [Except.ok.injEq, Prod.mk.injEq, true_and] at hwrite
  exact ⟨⟨_, hwrite.symm⟩, hseq ▸ rfl⟩

/-- The index an enumeration pairs an element with. -/
theorem snd_of_zipIdx_eq {α : Type} {l : List α} {done rest : List (α × ℕ)} {c : α × ℕ}
    (h : l.zipIdx = done ++ c :: rest) : c.2 = done.length := by
  have hget : l.zipIdx[done.length]? = some c := by
    rw [h, List.getElem?_append_right le_rfl, Nat.sub_self]
    rfl
  rw [List.getElem?_zipIdx, Option.map_eq_some_iff] at hget
  obtain ⟨a, -, hc⟩ := hget
  rw [← hc]
  exact Nat.zero_add _

/-- **The entities are inserted in order**, and touch nothing else. Their
keys run out before their positions leave the range of an `i32`. -/
theorem insertEntities_eq_ok {entities : List V2.Entity}
    (h : (entities.zipIdx.forM fun (entity, position) =>
      insertEntity capture id (asI32 position) entity) s = .ok u s') :
    s'.tables.illuminations = s.tables.illuminations ∧
    s'.tables.searchIndex = s.tables.searchIndex ∧
    s'.sequences.illuminations = s.sequences.illuminations ∧
    ∃ rows, s'.tables.knowledgeEntities = s.tables.knowledgeEntities ++ rows ∧
      List.Forall₂ (KnowledgeEntityModel.Holds capture id) rows entities.zipIdx := by
  -- the sequence has advanced by one for each entity done
  let I : List (V2.Entity × ℕ) → Session ProjectionTables ProjectionSequences ApiError → Prop :=
    fun done t =>
      t.tables.illuminations = s.tables.illuminations ∧
      t.tables.searchIndex = s.tables.searchIndex ∧
      t.sequences.illuminations = s.sequences.illuminations ∧
      t.sequences.knowledgeEntities.last = s.sequences.knowledgeEntities.last + done.length ∧
      ∃ rows, t.tables.knowledgeEntities = s.tables.knowledgeEntities ++ rows ∧
        List.Forall₂ (KnowledgeEntityModel.Holds capture id) rows done
  have hend : I entities.zipIdx s' := by
    refine Sql.forM_ok ⟨rfl, rfl, rfl, rfl, [], by simp, .nil⟩ ?_ h
    rintro done ⟨entity, position⟩ rest t t' v hl ⟨hill, hsearch, hseq, hlast, rows, hrows, hall⟩ hrun
    obtain ⟨hlt, ⟨entityId, htables⟩, hsequences⟩ := insertEntity_eq_ok hrun
    have hpos : position = done.length := snd_of_zipIdx_eq hl
    have hcast : asI32 position = position := asI32_eq (by omega)
    refine ⟨?_, ?_, ?_, ?_, rows ++ [entityRow capture id position entity entityId], ?_, ?_⟩
    · rw [htables]
      exact hill
    · rw [htables]
      exact hsearch
    · rw [hsequences]
      exact hseq
    · rw [hsequences, List.length_append]
      show t.sequences.knowledgeEntities.last + 1 = _ + (done.length + 1)
      omega
    · rw [htables, hcast]
      show t.tables.knowledgeEntities ++ _ = _
      rw [hrows, List.append_assoc]
    · exact List.rel_append hall (.cons rfl .nil)
  obtain ⟨hill, hsearch, hseq, -, hrows⟩ := hend
  exact ⟨hill, hsearch, hseq, hrows⟩

/-- The row an upsert leaves for its run. -/
theorem row_of_upsert {rows : List IlluminationModel} {row : IlluminationModel} {drawn : ℤ}
    (h : (if rows.any fun r => r.taskRunId = taskRunId then
        rows.map fun r => if r.taskRunId = taskRunId then
          illuminationRow capture taskRunId inferenceMetaId illumination r.id else r
      else rows ++ [illuminationRow capture taskRunId inferenceMetaId illumination drawn]).find?
        (fun r => r.taskRunId = taskRunId) = some row) :
    row = illuminationRow capture taskRunId inferenceMetaId illumination row.id ∧
      ((rows.any fun r => r.taskRunId = taskRunId) = false → row.id = drawn) := by
  have hmem := List.mem_of_find?_eq_some h
  have hrun := List.find?_some h
  rw [decide_eq_true_eq] at hrun
  split_ifs at hmem with hany
  · refine ⟨?_, fun hfalse => by rw [hany] at hfalse; cases hfalse⟩
    obtain ⟨r, -, hr⟩ := List.mem_map.1 hmem
    split_ifs at hr with hrt
    · rw [← hr]
      rfl
    · exact absurd (hr ▸ hrun) hrt
  · have hnone : ∀ r ∈ rows, ¬ r.taskRunId = taskRunId := by simpa using hany
    rcases List.mem_append.1 hmem with hold | hnew
    · exact absurd hrun (hnone row hold)
    · rw [List.mem_singleton] at hnew
      rw [hnew]
      exact ⟨rfl, fun _ => rfl⟩

/-- **A call that returned replaced the projection of its run.** -/
theorem replaced_of_ok
    (h : insertIlluminationV2 capture taskRunId inferenceMetaId illumination s = .ok u s') :
    (∃ id, Replaced capture taskRunId inferenceMetaId illumination id s.tables s'.tables ∧
      ((s.tables.illuminations.any fun r => r.taskRunId = taskRunId) = false →
        id = (s.sequences.illuminations.last + 1 : ℕ))) ∧
    s'.sequences.illuminations.last = s.sequences.illuminations.last + 1 := by
  obtain ⟨t, t', ht, hq, hbody, ht', hq'⟩ := Sql.transaction_eq_ok h
  obtain ⟨_, t₁, hupsert, hrest⟩ := Sql.bind_eq_ok.1 hbody
  obtain ⟨row, t₂, hselect, hrest⟩ := Sql.bind_eq_ok.1 hrest
  obtain ⟨htables₁, hseq₁⟩ := upsertIllumination_eq_ok hupsert
  obtain ⟨hrow, htables₂, hseq₂⟩ := Sql.select_eq_ok hselect
  cases row with
  | none => cases hrest
  | some row =>
    obtain ⟨_, t₃, hdelete, hrest⟩ := Sql.bind_eq_ok.1 hrest
    obtain ⟨_, t₄, hdelete', hrest⟩ := Sql.bind_eq_ok.1 hrest
    obtain ⟨_, t₅, hentities, hsearch⟩ := Sql.bind_eq_ok.1 hrest
    obtain ⟨htables₃, hseq₃⟩ := Sql.update_eq_ok hdelete
    obtain ⟨htables₄, hseq₄⟩ := Sql.update_eq_ok hdelete'
    obtain ⟨hill₅, hsearch₅, hseq₅, rows, hrows, hall⟩ := insertEntities_eq_ok hentities
    obtain ⟨⟨searchId, htables₆⟩, hseq₆⟩ := insertSearchIndex_eq_ok hsearch
    -- the row the lookup found is the one the upsert wrote
    rw [htables₁, ht] at hrow
    have hfind := hrow.symm
    obtain ⟨heq, hfresh⟩ := row_of_upsert hfind
    have hill : s'.tables.illuminations = t₁.tables.illuminations := by
      rw [ht', htables₆, hill₅, htables₄, htables₃, htables₂]
    rw [htables₁, ht] at hill
    have hentities : s'.tables.knowledgeEntities =
        (s.tables.knowledgeEntities.filter fun r => r.illuminationId ≠ row.id) ++ rows := by
      rw [ht', htables₆, hrows, htables₄, htables₃, htables₂, htables₁, ht]
    have hindex : s'.tables.searchIndex =
        (s.tables.searchIndex.filter fun r => r.illuminationId ≠ row.id) ++
          [⟨searchId, capture.userId, capture.id, row.id, illumination.toMarkdown⟩] := by
      rw [ht', htables₆]
      show t₅.tables.searchIndex ++ _ = _
      rw [hsearch₅, htables₄, htables₃, htables₂, htables₁, ht]
      rfl
    refine ⟨⟨row.id, ⟨?_, ?_, ⟨rows, hentities, hall⟩, searchId, hindex⟩, ?_⟩, ?_⟩
    · rw [hill, hq]
      split_ifs with hany
      · rfl
      · rw [hfresh (by simpa using hany), hq]
    · rw [hill, hfind, ← heq]
    · intro hany
      rw [hfresh hany, hq]
    · rw [hq', hseq₆, hseq₅, hseq₄, hseq₃, hseq₂, hseq₁, hq]

/-- **The keys of the table only go up**, however the call ends. -/
theorem keeps_insertIlluminationV2 (n : ℕ) :
    Sql.Keeps (fun q => n ≤ q.illuminations.last)
      (insertIlluminationV2 capture taskRunId inferenceMetaId illumination) := by
  refine Sql.keeps_transaction (Sql.keeps_bind (Sql.keeps_insertSerial fun q hq => ?_) fun _ =>
    Sql.keeps_bind Sql.keeps_select fun row => ?_)
  · show n ≤ q.illuminations.last + 1
    omega
  · cases row with
    | none => exact Sql.keeps_throw
    | some row =>
      refine Sql.keeps_bind Sql.keeps_update fun _ => Sql.keeps_bind Sql.keeps_update fun _ =>
        Sql.keeps_bind (Sql.keeps_forM fun c => ?_) fun _ => ?_
      · exact Sql.keeps_insertSerial fun q hq => hq
      · exact Sql.keeps_insertSerial fun q hq => hq

end Dreamscroll
