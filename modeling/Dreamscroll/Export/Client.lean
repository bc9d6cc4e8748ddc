import Dreamscroll.Common.Lines
import Dreamscroll.Export.Server
import Dreamscroll.Webui.Content
/-!
# The client's side of the entity export

The `export-entities` command reads page after page and appends every row to
its file. It shortens the last request to what is left of `--max`, and stops
where the server names no cursor. Over a table that stays as it is, its file
is the first rows of the selection (`export_covers`): request by request the
loop is the reader of `Keyset.drain`.
-/

namespace Dreamscroll

/-! ## The command -/

/-- Why a request fails. -/
inductive ClientError
  /-- `request failed with status {status}: {body}` -/
  | status (status : ℕ) (body : List Char)
  /-- `failed to parse export line` -/
  | exportLine (error : String)

/-- `Client::parse_ndjson_response`. -/
def parseNdjsonResponse (json : RowJson) (response : Response) :
    Except ClientError (List ExportRow × Option ℤ) := do
  if !isSuccess response.status then throw (.status response.status response.body)
  let nextAfterId := response.xNextAfterId.bind fun value => (parseI32 value).toOption
  let rows ← ((lines response.body).filter fun line => !line.all Content.isWhitespace).mapM
    fun line => (json.fromStr line).mapError ClientError.exportLine
  return (rows, nextAfterId)

/-- The query of `Client::export_entities`. -/
def exportQuery (userId : Option ℤ) (afterId : ℤ) (limit : ℕ) : List (List Char × List Char) :=
  [("after_id".toList, (toString afterId).toList), ("limit".toList, (toString limit).toList)] ++
    userId.toList.map fun userId => ("user_id".toList, (toString userId).toList)

/-- `Client::export_entities`, against the server that answers `send`. -/
def clientExportEntities (json : RowJson) (send : List Char → Response) (userId : Option ℤ)
    (afterId : ℤ) (limit : ℕ) : Except ClientError (List ExportRow × Option ℤ) :=
  parseNdjsonResponse json (send (serializeQuery (exportQuery userId afterId limit)))

/-- The options of the command. -/
structure ExportEntitiesArgs where
  pageSize : ℕ
  userId : Option ℤ
  max : Option ℕ
  deriving DecidableEq, Repr

/-- The text of the output file and the rows in it. -/
structure Exported where
  file : List Char
  total : ℕ
  deriving DecidableEq, Repr

/-- The loop of `export`, `none` where `fuel` rounds do not end it. -/
def exportLoop (json : RowJson) (send : List Char → Response) (args : ExportEntitiesArgs) :
    ℕ → ℤ → Exported → Option (Except ClientError Exported)
  | 0, _, _ => none
  | fuel + 1, afterId, done =>
    let remaining := (args.max.map fun max => max - done.total).getD args.pageSize
    let limit := min args.pageSize remaining
    if limit = 0 then some (.ok done)
    else
      match clientExportEntities json send args.userId afterId limit with
      | .error e => some (.error e)
      | .ok (rows, nextAfterId) =>
        let done : Exported := ⟨done.file ++ ndjson json rows, done.total + rows.length⟩
        match nextAfterId with
        | some next => exportLoop json send args fuel next done
        | none => some (.ok done)

/-- `export`. -/
def runExport (json : RowJson) (send : List Char → Response) (args : ExportEntitiesArgs)
    (fuel : ℕ) : Option (Except ClientError Exported) := exportLoop json send args fuel 0 ⟨[], 0⟩

/-! ## One request -/

/-- `serde_json` writes the row as one line of text and reads it back. -/
structure RowJson.RoundTrips (json : RowJson) (row : ExportRow) : Prop where
  read : json.fromStr (json.toString row) = .ok row
  line : IsLine (json.toString row)
  text : ∃ c ∈ json.toString row, Content.isWhitespace c = false

variable {json : RowJson} {tables : ExportTables} {context : Context} {args : ExportEntitiesArgs}
  {row : ExportRow} {rows : List ExportRow} {text : List Char} {userId : Option ℤ} {afterId : ℤ}
  {limit fuel : ℕ}

/-- Visible ASCII text is a line that is not blank. -/
theorem RowJson.roundTrips_of_visible (hwrite : json.toString row = text)
    (hread : json.fromStr text = .ok row)
    (hvisible : ∀ c ∈ text, 32 < c.toNat ∧ c.toNat < 128) (hne : text ≠ []) :
    json.RoundTrips row := by
  rw [← hwrite] at hread hvisible hne
  obtain ⟨c, hc⟩ := List.exists_mem_of_ne_nil _ hne
  refine ⟨hread, ⟨fun hmem => ?_, fun hmem => ?_⟩, c, hc, ?_⟩
  · exact absurd (hvisible _ hmem).1 (by decide)
  · exact absurd (hvisible _ hmem).1 (by decide)
  · obtain ⟨hlow, hhigh⟩ := hvisible c hc
    simp only [Content.isWhitespace, Bool.or_eq_false_iff, Bool.and_eq_false_iff,
      decide_eq_false_iff_not, List.contains_eq_mem, List.mem_cons, List.not_mem_nil, or_false]
    refine ⟨⟨?_, ?_⟩, ?_⟩
    · omega
    · omega
    · omega

theorem ndjson_eq_unlines (json : RowJson) (rows : List ExportRow) :
    ndjson json rows = unlines (rows.map json.toString) := by
  rw [unlines, List.flatMap_map]
  rfl

theorem ndjson_append {rows' : List ExportRow} :
    ndjson json (rows ++ rows') = ndjson json rows ++ ndjson json rows' :=
  List.flatMap_append

/-- **The rows of a body are the rows that were written.** -/
theorem mapM_lines_ndjson (h : ∀ row ∈ rows, json.RoundTrips row) :
    ((lines (ndjson json rows)).filter fun line => !line.all Content.isWhitespace).mapM
      (fun line => (json.fromStr line).mapError ClientError.exportLine) = .ok rows := by
  have hlines : lines (ndjson json rows) = rows.map json.toString := by
    rw [ndjson_eq_unlines]
    refine lines_unlines fun line hline => ?_
    obtain ⟨row, hrow, rfl⟩ := List.mem_map.1 hline
    exact (h row hrow).line
  have hfilter : (rows.map json.toString).filter
      (fun line => !line.all Content.isWhitespace) = rows.map json.toString := by
    refine List.filter_eq_self.2 fun line hline => ?_
    obtain ⟨row, hrow, rfl⟩ := List.mem_map.1 hline
    obtain ⟨c, hc, hblank⟩ := (h row hrow).text
    rw [Bool.not_eq_true', List.all_eq_false]
    exact ⟨c, hc, by rw [hblank]; decide⟩
  rw [hlines, hfilter]
  clear hlines hfilter
  induction rows with
  | nil => rfl
  | cons row rows ih =>
    rw [List.map_cons, List.mapM_cons, (h row List.mem_cons_self).read,
      ih fun row' hrow' => h row' (List.mem_cons_of_mem _ hrow')]
    rfl

theorem optionalQuery_eq_some {α : Type} {parse : List Char → Except ParseIntError α}
    {text : List Char} {a : α} (hempty : parse [] = .error .empty) (h : parse text = .ok a) :
    optionalQuery parse (some text) = some (some a) := by
  cases text with
  | nil =>
    rw [hempty] at h
    cases h
  | cons c cs =>
    rw [optionalQuery, h]
    · rfl
    · rintro ⟨⟩

/-- **The server reads the query the client wrote.** -/
theorem parse_exportQuery (huser : ∀ id ∈ userId, i32Min ≤ id ∧ id ≤ i32Max)
    (hafter : i32Min ≤ afterId ∧ afterId ≤ i32Max) (hlimit : limit ≤ u64Max) :
    ExportQuery.parse (serializeQuery (exportQuery userId afterId limit)) =
      some ⟨userId, afterId, some limit⟩ := by
  have hascii : ∀ p ∈ exportQuery userId afterId limit, AsciiPair p := by
    intro p hp
    rcases List.mem_append.1 hp with hp | hp
    · rcases List.mem_cons.1 hp with rfl | hp
      · exact ⟨ascii_of_all rfl,
          fun c hc => toNat_lt_of_mem_toString hc⟩
      · rw [List.mem_singleton.1 hp]
        exact ⟨ascii_of_all rfl, fun c hc =>
          toNat_lt_of_mem_toString (show c ∈ (toString (Int.ofNat limit)).toList from hc)⟩
    · obtain ⟨id, -, rfl⟩ := List.mem_map.1 hp
      exact ⟨ascii_of_all rfl,
        fun c hc => toNat_lt_of_mem_toString hc⟩
  have hafterField : queryField (exportQuery userId afterId limit) "after_id" =
      some (some (toString afterId).toList) := by
    cases userId <;> rfl
  have hlimitField : queryField (exportQuery userId afterId limit) "limit" =
      some (some (toString limit).toList) := by
    cases userId <;> rfl
  have huserField : queryField (exportQuery userId afterId limit) "user_id" =
      some (userId.map fun id => (toString id).toList) := by
    cases userId <;> rfl
  have hlimitValue : optionalQuery parseU64 (some (toString limit).toList) = some (some limit) :=
    optionalQuery_eq_some rfl (parseU64_toString hlimit)
  have huserValue : optionalQuery parseI32 (userId.map fun id => (toString id).toList) =
      some userId := by
    cases userId with
    | none => rfl
    | some id =>
      exact optionalQuery_eq_some rfl (parseI32_toString_int (huser id rfl).1 (huser id rfl).2)
  unfold ExportQuery.parse
  rw [parseQuery_serializeQuery hascii]
  simp only [hafterField, hlimitField, huserField, Option.bind_some, Option.bind_eq_bind,
    hlimitValue, huserValue, parseI32_toString_int hafter.1 hafter.2]
  rfl

/-- **One request brings one page.** -/
theorem clientExportEntities_eq_ok (h : tables.Consistent) (hadmin : context.isAdmin = true)
    (hjson : ∀ e ∈ tables.knowledgeEntities, json.RoundTrips (tables.infoRow e))
    (huser : ∀ id ∈ userId, i32Min ≤ id ∧ id ≤ i32Max)
    (hafter : i32Min ≤ afterId ∧ afterId ≤ i32Max) (hpos : 0 < limit)
    (hmax : limit ≤ exportMaxLimit) :
    clientExportEntities json (getExportEntities json tables context) userId afterId limit =
      .ok ((Keyset.page KnowledgeEntityModel.id (tables.selected userId) afterId limit).map
          tables.infoRow,
        Keyset.nextAfter KnowledgeEntityModel.id (Keyset.page KnowledgeEntityModel.id
          (tables.selected userId) afterId limit) limit) := by
  have hmem : ∀ e ∈ Keyset.page KnowledgeEntityModel.id (tables.selected userId) afterId limit,
      e ∈ tables.knowledgeEntities := fun e he =>
    (mem_selected.1 (List.mem_of_mem_filter (List.mem_of_mem_take he))).1
  have hrows : ∀ row ∈ (Keyset.page KnowledgeEntityModel.id (tables.selected userId) afterId
      limit).map tables.infoRow, json.RoundTrips row := by
    intro row hrow
    obtain ⟨e, he, rfl⟩ := List.mem_map.1 hrow
    exact hjson e (hmem e he)
  have hlimit : limit ≤ u64Max := hmax.trans (by decide)
  have hsend : getExportEntities json tables context
      (serializeQuery (exportQuery userId afterId limit)) =
      ⟨200, (Keyset.nextAfter KnowledgeEntityModel.id (Keyset.page KnowledgeEntityModel.id
          (tables.selected userId) afterId limit) limit).map fun next => (toString next).toList,
        ndjson json ((Keyset.page KnowledgeEntityModel.id (tables.selected userId) afterId
          limit).map tables.infoRow)⟩ := by
    unfold getExportEntities
    rw [parse_exportQuery huser hafter hlimit]
    simp only [Option.getD_some]
    rw [exportEntities_eq_ok h hadmin (by exact hpos) (by exact hmax)]
  have hnext : ((Keyset.nextAfter KnowledgeEntityModel.id (Keyset.page KnowledgeEntityModel.id
      (tables.selected userId) afterId limit) limit).map fun next => (toString next).toList).bind
        (fun value => (parseI32 value).toOption) =
      Keyset.nextAfter KnowledgeEntityModel.id (Keyset.page KnowledgeEntityModel.id
        (tables.selected userId) afterId limit) limit := by
    cases hcursor : Keyset.nextAfter KnowledgeEntityModel.id (Keyset.page KnowledgeEntityModel.id
        (tables.selected userId) afterId limit) limit with
    | none => rfl
    | some next =>
      obtain ⟨-, e, he, rfl⟩ := Keyset.mem_of_nextAfter hcursor
      obtain ⟨hserial, hserialMax⟩ := h.serial e (hmem e he)
      rw [Option.map_some, Option.bind_some, parseI32_toString_int (by unfold i32Min; omega)
        hserialMax]
      rfl
  unfold clientExportEntities parseNdjsonResponse
  rw [hsend]
  simp only [hnext, mapM_lines_ndjson hrows]
  rfl

/-! ## The whole export -/

/-- What the loop has after some rows. -/
def exported (json : RowJson) (tables : ExportTables) (entities : List KnowledgeEntityModel) :
    Exported := ⟨ndjson json (entities.map tables.infoRow), entities.length⟩

/-- **The loop is the reader with a budget**, whose rows it writes. -/
theorem exportLoop_eq_drain (h : tables.Consistent) (hadmin : context.isAdmin = true)
    (hjson : ∀ e ∈ tables.knowledgeEntities, json.RoundTrips (tables.infoRow e))
    (huser : ∀ id ∈ args.userId, i32Min ≤ id ∧ id ≤ i32Max)
    (hmax : args.pageSize ≤ exportMaxLimit) (hafter : i32Min ≤ afterId ∧ afterId ≤ i32Max)
    (acc : List KnowledgeEntityModel) :
    exportLoop json (getExportEntities json tables context) args fuel afterId
        (exported json tables acc) =
      (Keyset.drain KnowledgeEntityModel.id (tables.selected args.userId) args.pageSize args.max
        fuel afterId acc).map fun entities => .ok (exported json tables entities) := by
  induction fuel generalizing afterId acc with
  | zero => rfl
  | succ fuel ih =>
    rw [exportLoop, Keyset.drain]
    change (if Keyset.nextLimit args.pageSize args.max acc.length = 0 then _ else _) = _
    by_cases hzero : Keyset.nextLimit args.pageSize args.max acc.length = 0
    · rw [if_pos hzero]
      simp only [if_pos hzero, Option.map_some]
    · rw [if_neg hzero]
      simp only [if_neg hzero]
      have hle : Keyset.nextLimit args.pageSize args.max acc.length ≤ exportMaxLimit :=
        (Nat.min_le_left _ _).trans hmax
      have hgot := clientExportEntities_eq_ok h hadmin hjson huser hafter
        (Nat.pos_of_ne_zero hzero) hle
      unfold Keyset.nextLimit at hgot ⊢
      simp only [exported] at hgot ⊢
      rw [hgot]
      have hdone : ∀ got : List KnowledgeEntityModel,
          (⟨ndjson json (acc.map tables.infoRow) ++ ndjson json (got.map tables.infoRow),
            acc.length + (got.map tables.infoRow).length⟩ : Exported) =
            exported json tables (acc ++ got) := by
        intro got
        rw [exported, List.map_append, ndjson_append, List.length_append, List.length_map]
      simp only [hdone]
      generalize hnext : Keyset.nextAfter KnowledgeEntityModel.id _ _ = cursor
      cases cursor with
      | some next =>
        obtain ⟨-, e, he, rfl⟩ := Keyset.mem_of_nextAfter hnext
        have hserial := h.serial e
          (mem_selected.1 (List.mem_of_mem_filter (List.mem_of_mem_take he))).1
        exact ih ⟨by unfold i32Min; omega, hserial.2⟩ _
      | none => rfl

/-- **The export covers the table.** With a page size the server serves, the
command ends, and its file is the first of the matching entities, as many as
`--max` allows, in the order of their ids and each on one line. -/
theorem export_covers (h : tables.Consistent) (hadmin : context.isAdmin = true)
    (hjson : ∀ e ∈ tables.knowledgeEntities, json.RoundTrips (tables.infoRow e))
    (huser : ∀ id ∈ args.userId, i32Min ≤ id ∧ id ≤ i32Max) (hsize : 0 < args.pageSize)
    (hmax : args.pageSize ≤ exportMaxLimit) :
    ∃ entities : List KnowledgeEntityModel,
      (entities.Pairwise fun a b => a.id < b.id) ∧
      (∀ e, e ∈ entities ↔ e ∈ tables.knowledgeEntities ∧ ∀ id ∈ args.userId, e.userId = id) ∧
      ∀ fuel, entities.length < fuel →
        runExport json (getExportEntities json tables context) args fuel =
          some (.ok (exported json tables
            (entities.take (args.max.getD entities.length)))) := by
  have hsorted := h.pairwise_selected args.userId
  refine ⟨tables.selected args.userId, hsorted, fun e => mem_selected, fun fuel hfuel => ?_⟩
  have hsplit : Keyset.Split KnowledgeEntityModel.id (tables.selected args.userId) 0 []
      (tables.selected args.userId) := by
    refine ⟨rfl, fun e he => absurd he List.not_mem_nil, fun e he => ?_⟩
    exact (h.serial e (mem_selected.1 he).1).1
  have hrun : runExport json (getExportEntities json tables context) args fuel =
      (Keyset.drain KnowledgeEntityModel.id (tables.selected args.userId) args.pageSize args.max
        fuel 0 []).map fun entities => .ok (exported json tables entities) :=
    exportLoop_eq_drain h hadmin hjson huser hmax (by decide) []
  rw [hrun, Keyset.drain_eq hsorted hsize hsplit hfuel, Option.map_some, List.nil_append,
    Keyset.withinBudget]
  cases args.max with
  | none => rfl
  | some max => rfl

/-! ### Two of three entities, on pages that are full -/

/-- A person who was found in a capture of the user. -/
def personEntity (id userId : ℤ) (name : String) : KnowledgeEntityModel where
  id := id
  userId := userId
  captureId := userId + 40
  illuminationId := 5
  position := 0
  name := name
  entityType := "person"
  description := none
  searchQuery := none
  platform := none
  platformHandle := none
  platformDisplayName := none

/-- Ada's user has one more entity than is asked for, and another user has
one in between. -/
def adaTables : ExportTables where
  knowledgeEntities :=
    [personEntity 4 7 "Kay", personEntity 1 7 "Ada", personEntity 2 8 "Bob", personEntity 3 7 "Eve"]
  captures :=
    [{ id := 47, userId := 7, createdAt := 0, archivedAt := none },
      { id := 48, userId := 8, createdAt := 0, archivedAt := none }]

/-- The line of its row. -/
def personText (row : ExportRow) : List Char :=
  "\x7b\"user_id\":".toList ++ (toString row.userId).toList ++ ",\"row\":\x7b\"id\":".toList ++
  (toString row.row.id).toList ++ ",\"capture_id\":".toList ++
  (toString row.row.captureId).toList ++ ",\"illumination_id\":5,\"name\":\"".toList ++
  row.row.name.toList ++ "\",\"type\":\"person\"\x7d\x7d".toList

/-- `serde_json` on these rows. -/
def personJson : RowJson where
  toString := personText
  fromStr text :=
    match (adaTables.knowledgeEntities.map adaTables.infoRow).find? (personText · == text) with
    | some row => .ok row
    | none => .error "expected value"

/-- Each line is visible ASCII. -/
theorem personText_visible : ∀ e ∈ adaTables.knowledgeEntities,
    ((personText (adaTables.infoRow e)).all fun c => 32 < c.toNat && c.toNat < 128) = true := by
  decide +kernel

/-- And reads back as its own row, for no two rows have the same line. -/
theorem personJson_fromStr : ∀ e ∈ adaTables.knowledgeEntities,
    personJson.fromStr (personText (adaTables.infoRow e)) = .ok (adaTables.infoRow e) := by
  decide +kernel

/-- So the rows survive the export. -/
theorem personJson_roundTrips (e : KnowledgeEntityModel) (he : e ∈ adaTables.knowledgeEntities) :
    personJson.RoundTrips (adaTables.infoRow e) := by
  have hwrite : personJson.toString (adaTables.infoRow e) = personText (adaTables.infoRow e) := by
    simp only [personJson]
  refine RowJson.roundTrips_of_visible hwrite (personJson_fromStr e he) (fun c hc => ?_) ?_
  · have hvisible := List.all_eq_true.1 (personText_visible e he) c hc
    rwa [Bool.and_eq_true, decide_eq_true_iff, decide_eq_true_iff] at hvisible
  · unfold personText
    exact List.append_ne_nil_of_right_ne_nil _ (by decide)

/-- `--page-size 1 --user-id 7 --max 2`. -/
def adaArgs : ExportEntitiesArgs := ⟨1, some 7, some 2⟩

/-- The caller. -/
def admin : Context := ⟨true, 1⟩

theorem export_covers_ada :
    ∃ entities : List KnowledgeEntityModel,
      (entities.Pairwise fun a b => a.id < b.id) ∧
      (∀ e, e ∈ entities ↔ e ∈ adaTables.knowledgeEntities ∧ ∀ id ∈ adaArgs.userId, e.userId = id) ∧
      ∀ fuel, entities.length < fuel →
        runExport personJson (getExportEntities personJson adaTables admin) adaArgs fuel =
          some (.ok (exported personJson adaTables
            (entities.take (adaArgs.max.getD entities.length)))) := by
  have hargs : ∀ id ∈ adaArgs.userId, i32Min ≤ id ∧ id ≤ i32Max := by
    intro id hid
    cases hid
    decide
  exact export_covers ⟨by decide, by decide, by decide⟩ (show admin.isAdmin = true from rfl)
    personJson_roundTrips hargs (by decide) (by decide)

end Dreamscroll
