import Dreamscroll.Common.ParseInt
import Dreamscroll.Webui.Content
/-!
# Searching captures

`CaptureSearcher` over a vector backend, and `UserApiClient` over it: the
object ids of a page of hits are parsed, those of other users are dropped,
the captures are loaded by their ids and put back in the order of the hits.

The backend may answer with any page. What is returned are the caller's own
captures that are hit and not archived, each once, in the order of its first
hit (`search_safe_and_complete`).
-/

namespace Dreamscroll

namespace Search

open Content

/-! ## Object ids -/

/-- `data_object_id`. -/
def dataObjectId (userId captureId : ℤ) : String :=
  "u" ++ toString userId ++ "-c" ++ toString captureId

/-- An id of this letter, `what` in the errors. -/
def parseField (letter : Char) (what : String) (text : List Char) : Except String ℤ :=
  match text with
  | [] => .error ("data_object_id " ++ what ++ " missing '" ++ letter.toString ++ "' prefix")
  | c :: digits =>
    if c = letter then
      match parseI32 digits with
      | .ok id => .ok id
      | .error _ => .error (what ++ " id is not an integer")
    else .error ("data_object_id " ++ what ++ " missing '" ++ letter.toString ++ "' prefix")

/-- `parse_fields`. -/
def parseFields (docId : String) : Except String (ℤ × ℤ) :=
  match docId.toList.splitOn '-' with
  | [] => .error "data_object_id missing user"
  | [_] => .error "data_object_id missing capture"
  | [user, capture] => do
    let userId ← parseField 'u' "user" user
    let captureId ← parseField 'c' "capture" capture
    return (userId, captureId)
  | _ => .error "unexpected extra doc_id segments"

/-! ## The backend -/

/-- An object the store found. -/
structure Hit where
  objectId : String
  deriving DecidableEq, Repr

/-- The parameters of a query. -/
structure QueryParams where
  userFilter : String
  limit : ℕ
  deriving DecidableEq, Repr

/-- What the embedder, the searcher and the store of vectors answer. -/
structure Backend (E : Type) where
  embedQuery : String → Except String E
  searchHybrid : String → E → QueryParams → Except String (List Hit)
  fetchObjectEmbedding : String → Except String (Option E)
  searchEmbedding : E → QueryParams → Except String (List Hit)

/-- Between 1 and 1000, 100 by default. -/
def clampLimit (limit : Option ℕ) : ℕ := min (max (limit.getD 100) 1) 1000

/-! ## The searches -/

/-- The loop over the hits: `skip` is the capture that is asked about, and
`seen` the ids that were collected. -/
def collectIds (userId : ℤ) (skip : Option ℤ) : List ℤ → List Hit → List ℤ
  | _, [] => []
  | seen, hit :: hits =>
    match parseFields hit.objectId with
    -- a malformed id drops the hit
    | .error _ => collectIds userId skip seen hits
    | .ok (hitUserId, captureId) =>
      if hitUserId ≠ userId then collectIds userId skip seen hits
      else if some captureId = skip then collectIds userId skip seen hits
      else if captureId ∈ seen then collectIds userId skip seen hits
      else captureId :: collectIds userId skip (captureId :: seen) hits

variable {E : Type} (backend : Backend E) (userId : ℤ)

/-- `CaptureSearcher::search`. -/
def captureSearch (query : String) (limit : Option ℕ) : Except ApiError (List ℤ) :=
  let query := trim query
  if query = "" then .ok []
  else
    match backend.embedQuery query with
    | .error e => .error (ApiError.internal e)
    | .ok embedding =>
      match backend.searchHybrid query embedding ⟨toString userId, clampLimit limit⟩ with
      | .error e => .error (ApiError.internal e)
      | .ok hits => .ok (collectIds userId none [] hits)

/-- `CaptureSearcher::search_similar`. -/
def captureSearchSimilar (queryCaptureId : ℤ) (limit : Option ℕ) : Except ApiError (List ℤ) :=
  match backend.fetchObjectEmbedding (dataObjectId userId queryCaptureId) with
  | .error e => .error (ApiError.internal e)
  | .ok none => .ok []
  | .ok (some embedding) =>
    match backend.searchEmbedding embedding ⟨toString userId, clampLimit limit⟩ with
    | .error e => .error (ApiError.internal e)
    | .ok hits => .ok (collectIds userId (some queryCaptureId) [] hits)

/-- The captures of these ids, as the reader sees them. -/
def captureInfos (maker : InfoMaker) (tables : FeedTables) (ids : List ℤ) :
    Except ApiError (List Schema.CaptureInfo) :=
  if ids = [] then .ok [] else (Content.getCaptures tables userId ids).map (List.map maker.makeCaptureInfo)

/-- **`UserApiClient::search`.** -/
def search (maker : InfoMaker) (tables : FeedTables) (query : String) (limit : Option ℕ) :
    Except ApiError (List Schema.CaptureInfo) :=
  (captureSearch backend userId query limit).bind (captureInfos userId maker tables)

/-- **`UserApiClient::search_similar`.** -/
def searchSimilar (maker : InfoMaker) (tables : FeedTables) (captureId : ℤ) (limit : Option ℕ) :
    Except ApiError (List Schema.CaptureInfo) :=
  (captureSearchSimilar backend userId captureId limit).bind (captureInfos userId maker tables)

/-! ## What is to be returned -/

/-- The hit is of this capture of this user. -/
def Hit.Names (userId captureId : ℤ) (hit : Hit) : Prop :=
  parseFields hit.objectId = .ok (userId, captureId)

instance (captureId : ℤ) : DecidablePred (Hit.Names userId captureId) := fun _ =>
  inferInstanceAs (Decidable (_ = _))

/-- The position of its first hit. -/
def firstHit (hits : List Hit) (captureId : ℤ) : ℕ := hits.findIdx (Hit.Names userId captureId ·)

/-- **Exactly the caller's own captures that are hit**, not archived and not
the one asked about, each once and in the order of their first hits. -/
structure Exact (tables : FeedTables) (skip : Option ℤ) (hits : List Hit)
    (captures : List CaptureModel) : Prop where
  nodup : (captures.map CaptureModel.id).Nodup
  mem_iff : ∀ c, c ∈ captures ↔ c ∈ tables.captures ∧ c.userId = userId ∧ c.archivedAt = none ∧
    some c.id ≠ skip ∧ ∃ hit ∈ hits, hit.Names userId c.id
  ordered : captures.Pairwise fun a b => firstHit userId hits a.id < firstHit userId hits b.id

variable {userId} {u c : ℤ} {skip : Option ℤ} {seen : List ℤ} {hits : List Hit}
  {tables : FeedTables}

/-! ## Reading an object id back -/

/-- A number has no dash inside. -/
theorem not_mem_toDigits_dash {n : ℕ} : '-' ∉ Nat.toDigits 10 n := fun h =>
  absurd (Nat.isDigit_of_mem_toDigits (by decide) (by decide) h) (by decide)

/-- The id of a data object, as characters. -/
theorem toList_dataObjectId : (dataObjectId u c).toList =
    'u' :: (toString u).toList ++ '-' :: 'c' :: (toString c).toList := by
  unfold dataObjectId
  rw [String.toList_append, String.toList_append, String.toList_append]
  simp

/-- The segments of a field, where more follows: a negative number has a dash
of its own. -/
theorem splitOn_field (letter : Char) (h : letter ≠ '-') (z : ℤ) (rest : List Char) :
    (0 ≤ z → (letter :: (toString z).toList ++ '-' :: rest).splitOn '-' =
      (letter :: (toString z).toList) :: rest.splitOn '-') ∧
    (z < 0 → ∃ digits, (letter :: (toString z).toList ++ '-' :: rest).splitOn '-' =
      [letter] :: digits :: rest.splitOn '-') := by
  cases z with
  | ofNat n =>
    refine ⟨fun _ => List.splitOn_append_cons_self_of_not_mem ?_ _, fun hneg => ?_⟩
    · rw [toList_toString_ofNat, List.mem_cons, not_or]
      exact ⟨h.symm, not_mem_toDigits_dash⟩
    · exact absurd hneg (by simp)
  | negSucc n =>
    refine ⟨fun hpos => absurd hpos (by simp), fun _ => ⟨Nat.toDigits 10 (n + 1), ?_⟩⟩
    rw [toList_toString_negSucc]
    have hletter : '-' ∉ [letter] := by
      rw [List.mem_singleton]
      exact h.symm
    refine (List.splitOn_append_cons_self_of_not_mem hletter _).trans ?_
    exact congrArg (List.cons [letter])
      (List.splitOn_append_cons_self_of_not_mem not_mem_toDigits_dash rest)

/-- The segments of a field at the end. -/
theorem splitOn_field_end (letter : Char) (h : letter ≠ '-') (z : ℤ) :
    (0 ≤ z → (letter :: (toString z).toList).splitOn '-' = [letter :: (toString z).toList]) ∧
    (z < 0 → ∃ digits, (letter :: (toString z).toList).splitOn '-' = [[letter], digits]) := by
  cases z with
  | ofNat n =>
    refine ⟨fun _ => List.splitOn_eq_singleton ?_, fun hneg => ?_⟩
    · rw [toList_toString_ofNat, List.mem_cons, not_or]
      exact ⟨h.symm, not_mem_toDigits_dash⟩
    · exact absurd hneg (by simp)
  | negSucc n =>
    refine ⟨fun hpos => absurd hpos (by simp), fun _ => ⟨Nat.toDigits 10 (n + 1), ?_⟩⟩
    rw [toList_toString_negSucc]
    have hletter : '-' ∉ [letter] := by
      rw [List.mem_singleton]
      exact h.symm
    refine (List.splitOn_append_cons_self_of_not_mem hletter _).trans ?_
    rw [List.splitOn_eq_singleton not_mem_toDigits_dash]

/-- A key in the range of the column is read back. -/
theorem parseField_toString {letter : Char} {what : String} {z : ℤ} (hmin : i32Min ≤ z)
    (hmax : z ≤ i32Max) : parseField letter what (letter :: (toString z).toList) = .ok z := by
  unfold parseField
  dsimp only
  rw [if_pos rfl, parseI32_toString_int hmin hmax]

/-- **`parse_fields` inverts `data_object_id`.** -/
theorem parseFields_dataObjectId (hu : 0 ≤ u ∧ u ≤ i32Max) (hc : 0 ≤ c ∧ c ≤ i32Max) :
    parseFields (dataObjectId u c) = .ok (u, c) := by
  have hmin : i32Min ≤ 0 := by decide
  unfold parseFields
  rw [toList_dataObjectId, (splitOn_field 'u' (by decide) u _).1 hu.1,
    (splitOn_field_end 'c' (by decide) c).1 hc.1]
  dsimp only
  rw [parseField_toString (hmin.trans hu.1) hu.2, parseField_toString (hmin.trans hc.1) hc.2]
  rfl

/-- **What is read off an object id is what it was made of**: an id with a
negative number is not read at all. -/
theorem eq_of_parseFields_dataObjectId (hu : u ≤ i32Max) (hc : c ≤ i32Max) {ids : ℤ × ℤ}
    (h : parseFields (dataObjectId u c) = .ok ids) : ids = (u, c) := by
  rcases lt_or_ge u 0 with hneg | hpos
  · obtain ⟨digits, hsplit⟩ :=
      (splitOn_field 'u' (by decide) u ('c' :: (toString c).toList)).2 hneg
    unfold parseFields at h
    rw [toList_dataObjectId, hsplit] at h
    obtain ⟨segment, segments, hsegments⟩ :=
      List.exists_cons_of_ne_nil (List.splitOn_ne_nil '-' ('c' :: (toString c).toList))
    rw [hsegments] at h
    cases h
  · rcases lt_or_ge c 0 with hcneg | hcpos
    · obtain ⟨digits, hsplit⟩ := (splitOn_field_end 'c' (by decide) c).2 hcneg
      unfold parseFields at h
      rw [toList_dataObjectId, (splitOn_field 'u' (by decide) u _).1 hpos, hsplit] at h
      cases h
    · rw [parseFields_dataObjectId ⟨hpos, hu⟩ ⟨hcpos, hc⟩] at h
      exact (Except.ok.inj h).symm

/-! ## The ids that are collected -/

/-- The loop goes on without the hit, or takes its capture. -/
theorem collectIds_cons (userId : ℤ) (skip : Option ℤ) (seen : List ℤ) (hit : Hit)
    (hits : List Hit) :
    (collectIds userId skip seen (hit :: hits) = collectIds userId skip seen hits ∧
      ∀ id, hit.Names userId id → some id = skip ∨ id ∈ seen) ∨
    ∃ id, collectIds userId skip seen (hit :: hits) =
        id :: collectIds userId skip (id :: seen) hits ∧
      hit.Names userId id ∧ some id ≠ skip ∧ id ∉ seen := by
  unfold Hit.Names
  rw [collectIds]
  cases hparse : parseFields hit.objectId with
  | error e => exact Or.inl ⟨rfl, fun id hid => by cases hid⟩
  | ok ids =>
    obtain ⟨hitUserId, captureId⟩ := ids
    dsimp only
    by_cases huser : hitUserId ≠ userId
    · rw [if_pos huser]
      refine Or.inl ⟨rfl, fun id hid => ?_⟩
      cases hid
      exact absurd rfl huser
    · rw [if_neg huser]
      rw [not_not] at huser
      subst huser
      by_cases hskip : some captureId = skip
      · rw [if_pos hskip]
        refine Or.inl ⟨rfl, fun id hid => ?_⟩
        cases hid
        exact Or.inl hskip
      · rw [if_neg hskip]
        by_cases hseen : captureId ∈ seen
        · rw [if_pos hseen]
          refine Or.inl ⟨rfl, fun id hid => ?_⟩
          cases hid
          exact Or.inr hseen
        · rw [if_neg hseen]
          exact Or.inr ⟨captureId, rfl, rfl, hskip, hseen⟩

/-- An id is collected when some hit names it, once, and it is not the one to
skip. -/
theorem mem_collectIds {id : ℤ} : id ∈ collectIds userId skip seen hits ↔
    some id ≠ skip ∧ id ∉ seen ∧ ∃ hit ∈ hits, hit.Names userId id := by
  induction hits generalizing seen with
  | nil =>
    constructor
    · intro h
      cases h
    · rintro ⟨-, -, hit, hmem, -⟩
      cases hmem
  | cons hit hits ih =>
    rcases collectIds_cons userId skip seen hit hits with ⟨heq, hnone⟩ | ⟨id', heq, hnames, hskip, hseen⟩
    · rw [heq, ih]
      constructor
      · rintro ⟨hskip, hseen, other, hmem, hnames⟩
        exact ⟨hskip, hseen, other, List.mem_cons_of_mem _ hmem, hnames⟩
      · rintro ⟨hskip, hseen, other, hmem, hnames⟩
        refine ⟨hskip, hseen, ?_⟩
        rcases List.mem_cons.1 hmem with rfl | hmem
        · rcases hnone id hnames with h | h
          · exact absurd h hskip
          · exact absurd h hseen
        · exact ⟨other, hmem, hnames⟩
    · rw [heq, List.mem_cons, ih, List.mem_cons, not_or]
      constructor
      · rintro (rfl | ⟨hskip', ⟨-, hseen'⟩, other, hmem, hnames'⟩)
        · exact ⟨hskip, hseen, hit, List.mem_cons_self, hnames⟩
        · exact ⟨hskip', hseen', other, List.mem_cons_of_mem _ hmem, hnames'⟩
      · rintro ⟨hskip', hseen', other, hmem, hnames'⟩
        by_cases heq' : id = id'
        · exact Or.inl heq'
        · refine Or.inr ⟨hskip', ⟨heq', hseen'⟩, ?_⟩
          rcases List.mem_cons.1 hmem with rfl | hmem
          · have hsame := Except.ok.inj (hnames.symm.trans hnames')
            exact absurd (Prod.ext_iff.1 hsame).2.symm heq'
          · exact ⟨other, hmem, hnames'⟩

/-- A capture that the first hit is not of is first hit later. -/
theorem firstHit_cons_of_not {hit : Hit} {id : ℤ} (h : ¬ hit.Names userId id) :
    firstHit userId (hit :: hits) id = firstHit userId hits id + 1 := by
  unfold firstHit
  rw [List.findIdx_cons, decide_eq_false h]
  rfl

/-- The first hit that names an id. -/
theorem firstHit_cons_self {hit : Hit} {id : ℤ} (h : hit.Names userId id) :
    firstHit userId (hit :: hits) id = 0 := by
  unfold firstHit
  rw [List.findIdx_cons, decide_eq_true h]
  rfl

/-- **They are in the order of their first hits.** -/
theorem pairwise_collectIds : (collectIds userId skip seen hits).Pairwise fun a b =>
    firstHit userId hits a < firstHit userId hits b := by
  induction hits generalizing seen with
  | nil => exact List.Pairwise.nil
  | cons hit hits ih =>
    rcases collectIds_cons userId skip seen hit hits with ⟨heq, hnone⟩ | ⟨id, heq, hnames, -, -⟩
    · rw [heq]
      have hnot : ∀ a ∈ collectIds userId skip seen hits, ¬ hit.Names userId a := by
        intro a ha hname
        obtain ⟨hskip, hseen, -⟩ := mem_collectIds.1 ha
        rcases hnone a hname with h | h
        · exact hskip h
        · exact hseen h
      refine ih.imp_of_mem fun {a b} ha hb hlt => ?_
      rw [firstHit_cons_of_not (hnot a ha), firstHit_cons_of_not (hnot b hb)]
      omega
    · rw [heq]
      have hnot : ∀ a ∈ collectIds userId skip (id :: seen) hits, ¬ hit.Names userId a := by
        intro a ha hname
        obtain ⟨-, hseen, -⟩ := mem_collectIds.1 ha
        have hsame := Except.ok.inj (hnames.symm.trans hname)
        have hid : id = a := (Prod.ext_iff.1 hsame).2
        exact hseen (hid ▸ List.mem_cons_self)
      refine List.Pairwise.cons (fun a ha => ?_) (ih.imp_of_mem fun {a b} ha hb hlt => ?_)
      · rw [firstHit_cons_self hnames, firstHit_cons_of_not (hnot a ha)]
        omega
      · rw [firstHit_cons_of_not (hnot a ha), firstHit_cons_of_not (hnot b hb)]
        omega

/-! ## The captures that are returned -/

variable {captures : List CaptureModelEx} {ids : List ℤ}

/-- No id is collected twice. -/
theorem nodup_collectIds : (collectIds userId skip seen hits).Nodup := by
  refine pairwise_collectIds.imp fun {a b} hlt heq => ?_
  rw [heq] at hlt
  omega

/-- `order_captures` takes the capture of each id. -/
theorem orderCaptures_eq (h : ids.Nodup) :
    orderCaptures captures ids = ids.filterMap fun id => captures.find? fun c => c.id = id := by
  induction ids generalizing captures with
  | nil => rfl
  | cons id ids ih =>
    obtain ⟨hnew, hrest⟩ := List.nodup_cons.1 h
    rw [List.filterMap_cons, orderCaptures]
    cases hfind : captures.find? fun c => c.id = id with
    | none => exact ih hrest
    | some c =>
      dsimp only
      rw [ih hrest]
      refine congrArg (List.cons c) (List.filterMap_congr fun id' hid' => ?_)
      rw [List.find?_filter]
      congr 1
      funext c'
      rw [Bool.eq_iff_iff]
      simp only [ne_eq, decide_not, Bool.not_eq_true', decide_eq_false_iff_not,
        decide_eq_true_eq, and_iff_right_iff_imp]
      rintro rfl heq
      exact hnew (heq ▸ hid')

/-- The rows a load is about. -/
def eligible (tables : FeedTables) (userId : ℤ) (ids : List ℤ) : List CaptureModel :=
  tables.captures.filter fun c => c.userId = userId && c.id ∈ ids && c.archivedAt.isNone

/-- **The rows of the captures that are returned.** -/
def results (tables : FeedTables) (userId : ℤ) (ids : List ℤ) : List CaptureModel :=
  ids.filterMap fun id => (eligible tables userId ids).find? fun c => c.id = id

/-- The captures found: the user's own, not archived, among the collected ids. -/
theorem mem_results (hkeys : (tables.captures.map CaptureModel.id).Nodup) {row : CaptureModel} :
    row ∈ results tables userId ids ↔
      row ∈ tables.captures ∧ row.userId = userId ∧ row.archivedAt = none ∧ row.id ∈ ids := by
  have heligible : ∀ row, row ∈ eligible tables userId ids ↔ row ∈ tables.captures ∧
      row.userId = userId ∧ row.archivedAt = none ∧ row.id ∈ ids := by
    intro row
    unfold eligible
    rw [List.mem_filter]
    simp only [Bool.and_eq_true, decide_eq_true_eq, Option.isNone_iff_eq_none]
    tauto
  rw [← heligible]
  unfold results
  rw [List.mem_filterMap]
  constructor
  · rintro ⟨id, -, hfind⟩
    exact List.mem_of_find?_eq_some hfind
  · intro hmem
    refine ⟨row.id, ((heligible row).1 hmem).2.2.2, ?_⟩
    cases hfind : (eligible tables userId ids).find? fun c => c.id = row.id with
    | none =>
      have hnone := List.find?_eq_none.1 hfind row hmem
      exact absurd (decide_eq_true rfl) hnone
    | some other =>
      have hother := List.mem_of_find?_eq_some hfind
      have hid : other.id = row.id := by simpa using List.find?_some hfind
      rw [List.inj_on_of_nodup_map hkeys ((heligible other).1 hother).1
        ((heligible row).1 hmem).1 hid]

/-- A capture is found under its id. -/
theorem id_of_mem_find {row : CaptureModel} {id : ℤ}
    (h : ((eligible tables userId ids).find? fun c => c.id = id) = some row) : row.id = id := by
  simpa using List.find?_some h

/-- **What is loaded for the ids is in their order.** -/
theorem captureInfos_eq (maker : InfoMaker) (h : ids.Nodup) :
    captureInfos userId maker tables ids =
      .ok ((results tables userId ids).map fun row => maker.makeCaptureInfo (tables.load row)) := by
  unfold captureInfos Content.getCaptures loadCaptures
  by_cases hempty : ids = []
  · rw [if_pos hempty, hempty]
    rfl
  · rw [if_neg hempty, if_neg hempty, orderCaptures_eq h]
    have hfind : ∀ id, ((eligible tables userId ids).map tables.load).find? (fun c => c.id = id) =
        ((eligible tables userId ids).find? fun c => c.id = id).map tables.load := fun id =>
      List.find?_map
    have hload : (ids.filterMap fun id => ((eligible tables userId ids).map tables.load).find?
        fun c => c.id = id) = (results tables userId ids).map tables.load := by
      unfold results
      rw [List.map_filterMap]
      exact List.filterMap_congr fun id _ => hfind id
    exact congrArg Except.ok ((congrArg (List.map maker.makeCaptureInfo) hload).trans
      List.map_map)

/-- The results are exactly what the hits name, in their order. -/
theorem exact_results (hkeys : (tables.captures.map CaptureModel.id).Nodup) :
    Exact userId tables skip hits (results tables userId (collectIds userId skip [] hits)) := by
  have hordered : (results tables userId (collectIds userId skip [] hits)).Pairwise fun a b =>
      firstHit userId hits a.id < firstHit userId hits b.id := by
    refine List.Pairwise.filterMap _ (fun a a' hlt b hb b' hb' => ?_) pairwise_collectIds
    rw [id_of_mem_find hb, id_of_mem_find hb']
    exact hlt
  refine ⟨List.pairwise_map.2 (hordered.imp fun {a b} hlt heq => ?_), fun c => ?_, hordered⟩
  · rw [heq] at hlt
    omega
  · rw [mem_results hkeys, mem_collectIds]
    simp only [List.not_mem_nil, not_false_eq_true, true_and]

/-- **Search results are safe and complete**: whatever page of hits the
backend answers, a search and a search for similar captures return exactly
the caller's own captures that are hit. `parse_fields` recognises them, and
no object id of another user is taken for one of the caller's. -/
theorem search_safe_and_complete {E : Type} (backend : Backend E) (userId : ℤ) (maker : InfoMaker)
    (tables : FeedTables) (hkeys : (tables.captures.map CaptureModel.id).Nodup)
    (query : String) (queryCaptureId : ℤ) (limit : Option ℕ) :
    (∀ embedding hits, trim query ≠ "" → backend.embedQuery (trim query) = .ok embedding →
      backend.searchHybrid (trim query) embedding ⟨toString userId, clampLimit limit⟩ = .ok hits →
      ∃ captures, Exact userId tables none hits captures ∧
        search backend userId maker tables query limit =
          .ok (captures.map fun c => maker.makeCaptureInfo (tables.load c))) ∧
    (∀ embedding hits,
      backend.fetchObjectEmbedding (dataObjectId userId queryCaptureId) = .ok (some embedding) →
      backend.searchEmbedding embedding ⟨toString userId, clampLimit limit⟩ = .ok hits →
      ∃ captures, Exact userId tables (some queryCaptureId) hits captures ∧
        searchSimilar backend userId maker tables queryCaptureId limit =
          .ok (captures.map fun c => maker.makeCaptureInfo (tables.load c))) ∧
    (∀ u c, 0 ≤ u ∧ u ≤ i32Max → 0 ≤ c ∧ c ≤ i32Max →
      parseFields (dataObjectId u c) = .ok (u, c)) ∧
    (∀ u c c', u ≤ i32Max → c ≤ i32Max → u ≠ userId →
      parseFields (dataObjectId u c) ≠ .ok (userId, c')) := by
  refine ⟨fun embedding hits hquery hembed hpage => ?_, fun embedding hits hfetch hpage => ?_,
    fun u c => parseFields_dataObjectId, fun u c c' hu hc hne hparse => ?_⟩
  · refine ⟨_, exact_results hkeys, ?_⟩
    unfold search captureSearch
    simp only [if_neg hquery, hembed, hpage]
    exact captureInfos_eq maker nodup_collectIds
  · refine ⟨_, exact_results hkeys, ?_⟩
    unfold searchSimilar captureSearchSimilar
    simp only [hfetch, hpage]
    exact captureInfos_eq maker nodup_collectIds
  · have hids := eq_of_parseFields_dataObjectId hu hc hparse
    exact hne (Prod.ext_iff.1 hids).1.symm

/-! ## A page with everything on it -/

/-- A capture of user 7, an archived one, and one of user 8. -/
def threeCaptures : FeedTables where
  captures := [⟨1, 7, 10, none⟩, ⟨2, 7, 20, some 25⟩, ⟨3, 8, 30, none⟩, ⟨4, 7, 40, none⟩]
  serial := by simp [i32Max]
  projections := ⟨[], [], []⟩
  medias _ := []
  annotations _ := []
  sparks := []

/-- Hits of all of them, a repeat, and one that is malformed. -/
def page : List Hit := [⟨"u7-c4"⟩, ⟨"u8-c3"⟩, ⟨"cat"⟩, ⟨"u7-c2"⟩, ⟨"u7-c1"⟩, ⟨"u7-c4"⟩, ⟨"u7-c3"⟩]

/-- A backend that finds the page, whatever it is asked. -/
def pageBackend : Backend Unit where
  embedQuery _ := .ok ()
  searchHybrid _ _ _ := .ok page
  fetchObjectEmbedding _ := .ok (some ())
  searchEmbedding _ _ := .ok page

/-- A page of hits with a stranger's capture, a duplicate and a text that is
no id. -/
theorem search_page :
    (∃ captures, Exact 7 threeCaptures none page captures ∧
      search pageBackend 7 ⟨fun _ => "", fun _ => ""⟩ threeCaptures "cats" none =
        .ok (captures.map fun c => InfoMaker.makeCaptureInfo ⟨fun _ => "", fun _ => ""⟩
          (threeCaptures.load c))) ∧
    (∃ captures, Exact 7 threeCaptures (some 4) page captures ∧
      searchSimilar pageBackend 7 ⟨fun _ => "", fun _ => ""⟩ threeCaptures 4 none =
        .ok (captures.map fun c => InfoMaker.makeCaptureInfo ⟨fun _ => "", fun _ => ""⟩
          (threeCaptures.load c))) ∧
    parseFields (dataObjectId 7 4) = .ok (7, 4) ∧ parseFields (dataObjectId 8 3) ≠ .ok (7, 3) := by
  obtain ⟨hsearch, hsimilar, hinverse, hother⟩ := search_safe_and_complete pageBackend 7
    ⟨fun _ => "", fun _ => ""⟩ threeCaptures (by decide) "cats" 4 none
  exact ⟨hsearch () page (by decide) rfl rfl, hsimilar () page rfl rfl,
    hinverse 7 4 (by decide) (by decide), hother 8 3 3 (by decide) (by decide) (by decide)⟩

/-- What they come to. -/
example : (results threeCaptures 7 (collectIds 7 none [] page)).map CaptureModel.id = [4, 1] ∧
    (results threeCaptures 7 (collectIds 7 (some 4) [] page)).map CaptureModel.id = [1] := by
  decide

end Search

end Dreamscroll
