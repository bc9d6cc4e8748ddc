import Dreamscroll.Api.InfoMaker
import Dreamscroll.Common.ByKey
import Dreamscroll.Common.FormUrl
import Dreamscroll.Common.Keyset
import Dreamscroll.Common.ParseInt
import Dreamscroll.Webhook.Retry
/-!
# The server's side of the entity export

`export_entities` reads one page of the knowledge entities in the order of
their ids, and `GET /api/admin/export/entities` sends it as one JSON object a
line, with the cursor of the next page in a header. Where every entity has
its capture, the page is the page of the sorted table
(`exportEntities_eq_ok`).
-/

namespace Dreamscroll

/-! ## The query -/

/-- The page size of a request that names none. -/
def exportDefaultLimit : ℕ := 1000

/-- The largest page size. -/
def exportMaxLimit : ℕ := 5000

/-- What `export_entities` is asked for. -/
structure ExportEntitiesRequest where
  /-- One user only; `none` is every user in one pass. -/
  userId : Option ℤ
  /-- Only entities with a greater id. -/
  afterId : ℤ
  limit : ℕ
  deriving DecidableEq, Repr

/-- One line of an export stream. -/
structure ExportRow where
  userId : ℤ
  row : Schema.KnowledgeEntityInfo
  deriving DecidableEq, Repr

/-- The tables an export reads. -/
structure ExportTables where
  knowledgeEntities : List KnowledgeEntityModel
  captures : List CaptureModel

/-- The optional filter of the query. -/
def ofUser (userId : Option ℤ) (entity : KnowledgeEntityModel) : Bool :=
  match userId with
  | some userId => entity.userId = userId
  | none => true

/-- The entities the request asks for, in the order of their ids. -/
def ExportTables.selected (tables : ExportTables) (userId : Option ℤ) :
    List KnowledgeEntityModel :=
  sortByKey KnowledgeEntityModel.id (tables.knowledgeEntities.filter (ofUser userId))

/-- `archived.get(&capture_id)`. -/
def ExportTables.archivedAt (tables : ExportTables) (captureId : ℤ) : Option (Option Timestamp) :=
  (tables.captures.find? fun c => c.id = captureId).map CaptureModel.archivedAt

/-- The row of an entity. One without its capture is an internal error. -/
def ExportTables.exportRow (tables : ExportTables) (entity : KnowledgeEntityModel) :
    Except ApiError ExportRow :=
  match tables.archivedAt entity.captureId with
  | none => .error (ApiError.internal (s!"knowledge entity {entity.id} references missing " ++
      s!"capture {entity.captureId}"))
  | some archivedAt => .ok ⟨entity.userId, Schema.KnowledgeEntityInfo.new entity archivedAt⟩

/-- `export_entities`: one page, for admins alone, with the cursor of the
next. -/
def exportEntities (tables : ExportTables) (context : Context) (req : ExportEntitiesRequest) :
    Except ApiError (List ExportRow × Option ℤ) := do
  if !context.isAdmin then
    throw (ApiError.forbidden "Only admin users can perform this operation")
  if req.limit = 0 ∨ exportMaxLimit < req.limit then
    throw (ApiError.badRequest s!"limit must be between 1 and {exportMaxLimit}")
  let entities := Keyset.page KnowledgeEntityModel.id (tables.selected req.userId) req.afterId
    req.limit
  let nextAfterId := if entities.length = req.limit then
    entities.getLast?.map KnowledgeEntityModel.id else none
  let rows ← entities.mapM tables.exportRow
  return (rows, nextAfterId)

/-! ## The route -/

/-- `serde_json` on an export row. -/
structure RowJson where
  toString : ExportRow → List Char
  fromStr : List Char → Except String ExportRow

/-- An HTTP response, as far as the client reads it. -/
structure Response where
  status : ℕ
  xNextAfterId : Option (List Char)
  body : List Char

/-- The query string. -/
structure ExportQuery where
  userId : Option ℤ
  afterId : ℤ
  limit : Option ℕ
  deriving DecidableEq, Repr

/-- A field of the query string: absent, or given once. -/
def queryField (pairs : List (List Char × List Char)) (name : String) :
    Option (Option (List Char)) :=
  match pairs.filter fun p => p.1 = name.toList with
  | [] => some none
  | [p] => some (some p.2)
  | _ => none

/-- A field of type `Option<T>`, which is `None` where it is empty. -/
def optionalQuery {α : Type} (parse : List Char → Except ParseIntError α) :
    Option (List Char) → Option (Option α)
  | none | some [] => some none
  | some text => (parse text).toOption.map some

/-- `Query<ExportQuery>`, `none` where it is refused. -/
def ExportQuery.parse (query : List Char) : Option ExportQuery := do
  let pairs := parseQuery query
  let userId ← (queryField pairs "user_id").bind (optionalQuery parseI32)
  let afterId ← (queryField pairs "after_id").bind fun
    | none => some 0
    | some text => (parseI32 text).toOption
  let limit ← (queryField pairs "limit").bind (optionalQuery parseU64)
  return ⟨userId, afterId, limit⟩

/-- `ApiError::into_response`, without the report id. -/
def ApiError.response (error : ApiError) : Response :=
  ⟨error.httpStatusCode, none, s!"Request failed. status={error.httpStatusCode}".toList⟩

/-- `ndjson`. -/
def ndjson (json : RowJson) (rows : List ExportRow) : List Char :=
  rows.flatMap fun row => json.toString row ++ ['\n']

/-- `GET /api/admin/export/entities`. -/
def getExportEntities (json : RowJson) (tables : ExportTables) (context : Context)
    (query : List Char) : Response :=
  match ExportQuery.parse query with
  | none => (ApiError.badRequest "Failed to deserialize query string").response
  | some query =>
    match exportEntities tables context
      ⟨query.userId, query.afterId, query.limit.getD exportDefaultLimit⟩ with
    | .error error => error.response
    | .ok (rows, nextAfterId) =>
      ⟨200, nextAfterId.map fun next => (toString next).toList, ndjson json rows⟩

/-! ## A page of the export -/

/-- `knowledge_entities.id` is a positive serial, and every entity refers to
a capture. -/
structure ExportTables.Consistent (tables : ExportTables) : Prop where
  nodup : (tables.knowledgeEntities.map KnowledgeEntityModel.id).Nodup
  serial : ∀ e ∈ tables.knowledgeEntities, 0 < e.id ∧ e.id ≤ i32Max
  captures : ∀ e ∈ tables.knowledgeEntities, ∃ c ∈ tables.captures, c.id = e.captureId

/-- The row of an entity that has its capture. -/
def ExportTables.infoRow (tables : ExportTables) (entity : KnowledgeEntityModel) : ExportRow :=
  ⟨entity.userId,
    Schema.KnowledgeEntityInfo.new entity ((tables.archivedAt entity.captureId).getD none)⟩

variable {tables : ExportTables} {context : Context} {req : ExportEntitiesRequest}
  {entity : KnowledgeEntityModel} {entities : List KnowledgeEntityModel} {userId : Option ℤ}

theorem mem_selected : entity ∈ tables.selected userId ↔
    entity ∈ tables.knowledgeEntities ∧ ∀ id ∈ userId, entity.userId = id := by
  unfold ExportTables.selected sortByKey
  rw [List.mem_insertionSort, List.mem_filter]
  cases userId with
  | none => simp [ofUser]
  | some id => simp [ofUser]

/-- The selected entities ascend in their ids. -/
theorem ExportTables.Consistent.pairwise_selected (h : tables.Consistent) (userId : Option ℤ) :
    (tables.selected userId).Pairwise fun a b => a.id < b.id := by
  have hle : (tables.selected userId).Pairwise fun a b => a.id ≤ b.id :=
    List.pairwise_insertionSort _ _
  have hnodup : (tables.selected userId).Pairwise fun a b => a.id ≠ b.id := by
    have hperm : (tables.selected userId).Perm (tables.knowledgeEntities.filter (ofUser userId)) :=
      List.perm_insertionSort _ _
    have hsub : ((tables.knowledgeEntities.filter (ofUser userId)).map
        KnowledgeEntityModel.id).Nodup :=
      h.nodup.sublist (List.filter_sublist.map KnowledgeEntityModel.id)
    exact List.pairwise_map.1 ((hperm.map KnowledgeEntityModel.id).nodup_iff.2 hsub)
  exact (hle.and hnodup).imp fun hab => lt_of_le_of_ne hab.1 hab.2

theorem ExportTables.Consistent.exportRow_eq_ok (h : tables.Consistent)
    (hmem : entity ∈ tables.knowledgeEntities) :
    tables.exportRow entity = .ok (tables.infoRow entity) := by
  obtain ⟨c, hc, hid⟩ := h.captures entity hmem
  unfold ExportTables.exportRow ExportTables.infoRow
  cases harchived : tables.archivedAt entity.captureId with
  | none =>
    have hnone := List.find?_eq_none.1 (Option.map_eq_none_iff.1 harchived) c hc
    exact absurd (decide_eq_true hid) hnone
  | some archivedAt => rfl

theorem ExportTables.Consistent.mapM_exportRow (h : tables.Consistent)
    (hmem : ∀ e ∈ entities, e ∈ tables.knowledgeEntities) :
    entities.mapM tables.exportRow = .ok (entities.map tables.infoRow) := by
  induction entities with
  | nil => rfl
  | cons e entities ih =>
    rw [List.mapM_cons, h.exportRow_eq_ok (hmem e List.mem_cons_self),
      ih fun e' he' => hmem e' (List.mem_cons_of_mem _ he')]
    rfl

/-- **A page of the export is the page of the selected entities.** -/
theorem exportEntities_eq_ok (h : tables.Consistent) (hadmin : context.isAdmin = true)
    (hlimit : 0 < req.limit) (hmax : req.limit ≤ exportMaxLimit) :
    exportEntities tables context req =
      .ok ((Keyset.page KnowledgeEntityModel.id (tables.selected req.userId) req.afterId
          req.limit).map tables.infoRow,
        Keyset.nextAfter KnowledgeEntityModel.id (Keyset.page KnowledgeEntityModel.id
          (tables.selected req.userId) req.afterId req.limit) req.limit) := by
  have hrange : ¬ (req.limit = 0 ∨ exportMaxLimit < req.limit) := by
    omega
  have hmem : ∀ e ∈ Keyset.page KnowledgeEntityModel.id (tables.selected req.userId) req.afterId
      req.limit, e ∈ tables.knowledgeEntities := fun e he =>
    (mem_selected.1 (List.mem_of_mem_filter (List.mem_of_mem_take he))).1
  have hrows := h.mapM_exportRow hmem
  unfold exportEntities
  rw [hadmin, if_neg hrange]
  simp only [Bool.not_true, Bool.false_eq_true, if_false]
  rw [hrows]
  rfl

end Dreamscroll
