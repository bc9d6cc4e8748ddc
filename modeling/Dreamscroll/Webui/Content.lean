import Dreamscroll.Common.ByKey
import Dreamscroll.Common.FormUrl
import Dreamscroll.Common.Whitespace
import Dreamscroll.Service.ReadBack
import Dreamscroll.Webui.Page
import Mathlib.Data.List.Dedup
import Mathlib.Data.List.ReduceOption
/-!
# The pages of the feed and their catch-up

`content.rs` and the two routes that render a list of cards: the timeline
or a search at `/`, and the archived captures. A page opens its event source
with the captures it shows without an illumination, and the route accepts
at most 200 of them, while the limit of a page is whatever its query string
says (`page_request_accepted`).
-/

namespace Dreamscroll

namespace Content

/-! ## The query of a page -/

/-- What a feed shows: captures, sparks, or both. -/
inductive FeedContent
  | blend
  | captures
  | sparks
  deriving DecidableEq, Repr

/-- What the query string of a feed page asks for. -/
structure ContentSpec where
  query : String
  limit : Option ℕ
  content : Option FeedContent
  deriving DecidableEq, Repr

namespace ContentSpec

/-- The search text, trimmed. -/
def searchQuery (spec : ContentSpec) : String := trim spec.query

/-- The page is a search: what is left of its text is not empty. -/
def isSearch (spec : ContentSpec) : Bool := spec.searchQuery ≠ ""

/-- `ContentSpec::limit`. -/
def limitOr50 (spec : ContentSpec) : ℕ := spec.limit.getD 50

/-- Both kinds, if the query names none. -/
def contentMode (spec : ContentSpec) : FeedContent := spec.content.getD .blend

end ContentSpec

/-! ## What is stored -/

/-- A row of `sparks`, as far as the feed reads it. -/
structure SparkRow where
  id : ℤ
  userId : ℤ
  createdAt : Timestamp
  deriving DecidableEq, Repr

/-- The tables behind a page. The key of a capture is a serial `integer`. -/
structure FeedTables where
  captures : List CaptureModel
  serial : ∀ c ∈ captures, 0 < c.id ∧ c.id ≤ i32Max
  projections : ProjectionTables
  medias : ℤ → List MediaModel
  annotations : ℤ → List AnnotationModel
  sparks : List SparkRow

/-- The capture as a loader returns it. -/
def FeedTables.load (tables : FeedTables) (capture : CaptureModel) : CaptureModelEx :=
  tables.projections.loadCapture capture (tables.medias capture.id)
    (tables.annotations capture.id)

/-- `order_captures`: each id takes its capture once. -/
def orderCaptures : List CaptureModelEx → List ℤ → List CaptureModelEx
  | _, [] => []
  | captures, id :: ids =>
    match captures.find? fun c => c.id = id with
    | some c => c :: orderCaptures (captures.filter fun c => c.id ≠ id) ids
    | none => orderCaptures captures ids

/-- The captures of the user with these ids, in the order of the ids. No ids
is a bad request. -/
def loadCaptures (tables : FeedTables) (userId : ℤ) (ids : List ℤ) (includeArchived : Bool) :
    Except ApiError (List CaptureModelEx) :=
  if ids = [] then
    .error (ApiError.badRequest "capture_ids must contain at least one capture ID")
  else .ok (orderCaptures ((tables.captures.filter fun c => c.userId = userId && c.id ∈ ids &&
    (includeArchived || c.archivedAt.isNone)).map tables.load) ids)

/-- `get_captures` of the user API. -/
def getCaptures (tables : FeedTables) (userId : ℤ) (ids : List ℤ) :
    Except ApiError (List CaptureModelEx) := loadCaptures tables userId ids false

/-- `get_timeline_captures`: the newest captures that are not archived. -/
def getTimelineCaptures (tables : FeedTables) (userId : ℤ) (limit : ℕ) :
    Except ApiError (List CaptureModelEx) :=
  if limit = 0 then .ok [] else
  let ids := ((sortByKey (fun c => -c.createdAt) (tables.captures.filter fun c =>
    c.userId = userId && c.archivedAt.isNone)).take limit).map CaptureModel.id
  if ids = [] then .ok [] else getCaptures tables userId ids

/-- `get_captures_archived`: the most recently archived captures. -/
def getCapturesArchived (tables : FeedTables) (userId : ℤ) (limit : ℕ) :
    Except ApiError (List CaptureModelEx) :=
  if limit = 0 then .ok [] else
  let byId := sortByKey (fun c => -c.id) (tables.captures.filter fun c =>
    c.userId = userId && c.archivedAt.isSome)
  let ids := ((sortByKey (fun c => -(c.archivedAt.getD 0)) byId).take limit).map CaptureModel.id
  if ids = [] then .ok [] else loadCaptures tables userId ids true

/-- `get_timeline_sparks`: the newest sparks. -/
def getTimelineSparks (tables : FeedTables) (userId : ℤ) (limit : ℕ) : List SparkRow :=
  (sortByKey (fun s => -s.createdAt) (tables.sparks.filter fun s => s.userId = userId)).take limit

/-! ## The cards -/

/-- A card of a feed. -/
inductive Card
  | capture (info : Schema.CaptureInfo)
  | spark (row : SparkRow)

/-- What a blended feed is sorted by. -/
def Card.createdAt : Card → Timestamp
  | .capture info => info.createdAt
  | .spark row => row.createdAt

/-- By creation, the newest first. -/
def blend (captureCards sparkCards : List Card) : List Card :=
  sortByKey (fun card => -card.createdAt) (captureCards ++ sparkCards)

variable (maker : InfoMaker) (tables : FeedTables) (userId : ℤ)

/-- Every capture as a card. -/
def cardsFromCaptures (captures : List CaptureModelEx) : List Card :=
  captures.map fun c => .capture (maker.makeCaptureInfo c)

/-- The cards of a feed without a search, the newest first. -/
def renderTimeline (feedMix : FeedContent) (limit : ℕ) : Except ApiError (List Card) :=
  match feedMix with
  | .sparks => .ok ((getTimelineSparks tables userId limit).map .spark)
  | .captures => (getTimelineCaptures tables userId limit).map (cardsFromCaptures maker)
  | .blend => (getTimelineCaptures tables userId limit).map fun captures =>
      blend (cardsFromCaptures maker captures)
        ((getTimelineSparks tables userId limit).map .spark)

/-- The ids `CaptureSearcher::search` finds, or its error. -/
abbrev Searcher := String → ℕ → Except ApiError (List ℤ)

/-- `UserApiClient::search`, and its cards. -/
def renderSearch (searcher : Searcher) (query : String) (limit : ℕ) :
    Except ApiError (List Card) :=
  (searcher query limit).bind fun ids =>
    if ids = [] then .ok [] else (getCaptures tables userId ids).map (cardsFromCaptures maker)

/-- The cards of a feed page: those found, or the timeline. -/
def renderContent (searcher : Searcher) (spec : ContentSpec) : Except ApiError (List Card) :=
  if spec.isSearch then renderSearch maker tables userId searcher spec.searchQuery spec.limitOr50
  else renderTimeline maker tables userId spec.contentMode spec.limitOr50

/-- `ARCHIVED_LIMIT`. -/
def archivedLimit : ℕ := 100

/-- A page of cards: `/` with its query, or `/archived`. -/
inductive FeedPage
  | feed (spec : ContentSpec)
  | archived
  deriving DecidableEq, Repr

/-- The cards of any page that shows captures. -/
def FeedPage.render (searcher : Searcher) : FeedPage → Except ApiError (List Card)
  | feed spec => renderContent maker tables userId searcher spec
  | archived => (getCapturesArchived tables userId archivedLimit).map (cardsFromCaptures maker)

/-! ## The cards in the page -/

/-- The key of the capture of a card is one of the table's. -/
def Card.Serial : Card → Prop
  | .capture info => 0 < info.id ∧ info.id ≤ i32Max
  | .spark _ => True

/-- The element a card is rendered to: that of a spark has no capture id. -/
def Card.element : (card : Card) → card.Serial → Option Dreamscroll.Card
  | .capture info, h => some ⟨⟨info.id, h⟩, !info.illuminations.isEmpty⟩
  | .spark _, _ => none

/-- The elements with a `data-capture-id`, in the order of the page. -/
def elements (cards : List Card) (h : ∀ card ∈ cards, card.Serial) : List Dreamscroll.Card :=
  (cards.pmap Card.element h).reduceOption

end Content

/-! ## The URL of the catch-up -/

/-- **`eventsUrlForConnection`.** -/
def EventSource.url (source : EventSource) : List Char :=
  if source.captureIds = [] then "/events".toList
  else "/events?".toList ++ serializeQuery [("capture_ids".toList, joinIds source.captureIds)]

/-- `Query<CatchupParams>` of a request. -/
def catchupParam (url : List Char) : Option String :=
  ((parseQuery ((url.dropWhile (· ≠ '?')).drop 1)).lookup "capture_ids".toList).map String.ofList

/-- What an intercalated list holds comes from the separator or from one of
the lists. -/
theorem mem_intercalate {α : Type} {sep : List α} {ls : List (List α)} {a : α}
    (h : a ∈ sep.intercalate ls) : a ∈ sep ∨ ∃ l ∈ ls, a ∈ l := by
  induction ls with
  | nil => cases h
  | cons l ls ih =>
    cases ls with
    | nil =>
      rw [List.intercalate_singleton] at h
      exact Or.inr ⟨l, List.mem_cons_self, h⟩
    | cons l' ls =>
      rw [List.intercalate_cons_cons, List.mem_append, List.mem_append] at h
      rcases h with (h | h) | h
      · exact Or.inr ⟨l, List.mem_cons_self, h⟩
      · exact Or.inl h
      · rcases ih h with h | ⟨l'', hl'', h⟩
        · exact Or.inl h
        · exact Or.inr ⟨l'', List.mem_cons_of_mem _ hl'', h⟩

/-- The joined ids are plain ASCII. -/
theorem ascii_joinIds {ids : List CaptureId} : ∀ c ∈ joinIds ids, c.toNat < 128 := by
  intro c hc
  rcases mem_intercalate hc with hc | ⟨l, hl, hc⟩
  · rw [List.mem_singleton.1 hc]
    decide
  · obtain ⟨id, -, rfl⟩ := List.mem_map.1 hl
    exact toNat_lt_of_mem_toString hc

/-- **The server is asked for what the page put into the URL.** -/
theorem catchupParam_url (source : EventSource) : catchupParam source.url = source.param := by
  unfold EventSource.url EventSource.param catchupParam
  split_ifs with hids
  · rfl
  · have hquery : (("/events?".toList ++ serializeQuery
        [("capture_ids".toList, joinIds source.captureIds)]).dropWhile (· ≠ '?')).drop 1 =
          serializeQuery [("capture_ids".toList, joinIds source.captureIds)] := by
      rw [show "/events?".toList = "/events".toList ++ ['?'] from by decide, List.append_assoc,
        List.dropWhile_append_of_pos (List.all_eq_true.1 (by decide)), List.singleton_append,
        List.dropWhile_cons_of_neg (by decide), List.drop_succ_cons, List.drop_zero]
    rw [hquery, parseQuery_serializeQuery]
    · rw [List.lookup_cons, beq_self_eq_true]
      rfl
    · intro p hp
      rw [List.mem_singleton.1 hp]
      exact ⟨ascii_of_all rfl, ascii_joinIds⟩

/-! ## What the route makes of it -/

/-- **The loop accepts distinct ids up to its cap.** -/
theorem parseIds_of_nodup {acc : List ℤ} {ids : List CaptureId}
    (h : (acc ++ ids.map Subtype.val).Nodup) (hacc : acc.length ≤ maxCatchupEntities) :
    parseIds acc (ids.map fun id => (toString id.val).toList) =
      if acc.length + ids.length ≤ maxCatchupEntities then .ok (acc ++ ids.map Subtype.val)
      else .error .tooMany := by
  induction ids generalizing acc with
  | nil => simp [parseIds, hacc]
  | cons id ids ih =>
    have hnew : id.val ∉ acc := by
      intro hmem
      exact (List.nodup_append.1 h).2.2 _ hmem _ List.mem_cons_self rfl
    have hadd : addId acc id.val = acc ++ [id.val] := if_neg hnew
    have hlength : (acc ++ [id.val]).length = acc.length + 1 := List.length_append
    have hpos : ¬ id.val ≤ 0 := not_le.2 id.property.1
    rw [List.map_cons, parseIds, parseI32_captureId]
    simp only [hpos, if_false, hadd, hlength]
    by_cases hroom : maxCatchupEntities < acc.length + 1
    · have hmany : ¬ acc.length + (id :: ids).length ≤ maxCatchupEntities := by
        rw [List.length_cons]
        omega
      rw [if_pos hroom, if_neg hmany]
    · have hnodup : ((acc ++ [id.val]) ++ ids.map Subtype.val).Nodup := by
        rw [List.append_assoc]
        exact h
      rw [if_neg hroom, ih hnodup (by omega), hlength, List.length_cons, List.append_assoc]
      simp only [show acc.length + 1 + ids.length = acc.length + (ids.length + 1) by omega,
        List.singleton_append, List.map_cons]

namespace Content

/-- The id the script asks for when it connects: that of a capture with no
illumination. -/
def Card.bareId : Card → Option ℤ
  | .capture info => if info.illuminations.isEmpty then some info.id else none
  | .spark _ => none

/-- The captures a page shows without an illumination. -/
def bareIds (cards : List Card) : List ℤ := cards.filterMap Card.bareId

/-- **The route accepts the request**, and reads the un-illuminated captures
of the page from it, each once. -/
def Accepted (cards : List Card) (url : List Char) : Prop :=
  ∃ ids, parseCaptureIds (catchupParam url) = .ok ids ∧ ids.Nodup ∧
    ∀ id, id ∈ ids ↔ id ∈ bareIds cards

variable {cards : List Card} {maker : InfoMaker} {tables : FeedTables} {userId : ℤ}
variable {searcher : Searcher} {page : FeedPage} {captures : List CaptureModelEx} {ids : List ℤ}
variable {c : CaptureModelEx}

/-- The cards without an illumination are the same on the page and in the
script. -/
theorem bareIds_eq (h : ∀ card ∈ cards, card.Serial) :
    (((elements cards h).filter fun card => !card.hasIllumination).map
      fun card => card.captureId.val) = bareIds cards := by
  unfold elements bareIds
  induction cards with
  | nil => rfl
  | cons card cards ih =>
    have hrest := ih fun card hcard => h card (List.mem_cons_of_mem _ hcard)
    rw [List.pmap]
    cases card with
    | spark row =>
      rw [List.filterMap_cons_none rfl]
      exact hrest
    | capture info =>
      have hcons : Option.some (Dreamscroll.Card.mk ⟨info.id, h _ List.mem_cons_self⟩
          (!info.illuminations.isEmpty)) = (Card.capture info).element (h _ List.mem_cons_self) :=
        rfl
      rw [← hcons, List.reduceOption_cons_of_some]
      by_cases hbare : info.illuminations.isEmpty = true
      · have hid : (Card.capture info).bareId = some info.id := if_pos hbare
        rw [List.filter_cons_of_pos (by simp [hbare]), List.map_cons, hrest,
          List.filterMap_cons_some hid]
      · have hid : (Card.capture info).bareId = none := if_neg hbare
        rw [List.filter_cons_of_neg (by simp [hbare]), hrest, List.filterMap_cons_none hid]

/-- The script asks for exactly the cards without an illumination. -/
theorem mem_captureIdsForCatchup_iff {shown : List Dreamscroll.Card} {x : CaptureId} :
    x ∈ captureIdsForCatchup shown ↔
      x ∈ (shown.filter fun card => !card.hasIllumination).map Dreamscroll.Card.captureId := by
  constructor
  · intro hmem
    obtain ⟨l₁, l₂, hl, -, -⟩ := mem_distinctOn.1 hmem
    rw [hl]
    exact List.mem_append_right _ List.mem_cons_self
  · intro hmem
    obtain ⟨x', hx', heq⟩ := exists_mem_distinctOn id hmem List.not_mem_nil
    exact (show x' = x from heq) ▸ hx'

/-- The ids the script reads off the rendered elements are those of the bare
cards. -/
theorem mem_captureIdsForCatchup_elements (h : ∀ card ∈ cards, card.Serial) {n : ℤ} :
    n ∈ (captureIdsForCatchup (elements cards h)).map Subtype.val ↔ n ∈ bareIds cards := by
  rw [← bareIds_eq h]
  simp only [List.mem_map, mem_captureIdsForCatchup_iff]
  constructor
  · rintro ⟨x, ⟨card, hcard, rfl⟩, rfl⟩
    exact ⟨card, hcard, rfl⟩
  · rintro ⟨card, hcard, rfl⟩
    exact ⟨_, ⟨card, hcard, rfl⟩, rfl⟩

/-- The script asks for no id twice. -/
theorem nodup_captureIdsForCatchup {shown : List Dreamscroll.Card} :
    ((captureIdsForCatchup shown).map Subtype.val).Nodup := by
  have hnodup : ((captureIdsForCatchup shown).map id).Nodup := nodup_distinctOn
  rw [List.map_id] at hnodup
  exact hnodup.map Subtype.val_injective

/-- What the route answers to the request of a page. -/
theorem parse_page (h : ∀ card ∈ cards, card.Serial) :
    parseCaptureIds (catchupParam (EventSource.url ⟨captureIdsForCatchup (elements cards h)⟩)) =
      if (bareIds cards).dedup.length ≤ maxCatchupEntities then
        .ok ((captureIdsForCatchup (elements cards h)).map Subtype.val)
      else .error .tooMany := by
  have hnodup : ((captureIdsForCatchup (elements cards h)).map Subtype.val).Nodup :=
    nodup_captureIdsForCatchup
  have hperm : (bareIds cards).dedup.Perm
      ((captureIdsForCatchup (elements cards h)).map Subtype.val) := by
    rw [List.perm_ext_iff_of_nodup (List.nodup_dedup _) hnodup]
    intro n
    rw [List.mem_dedup, mem_captureIdsForCatchup_elements h]
  have hcard : (bareIds cards).dedup.length = (captureIdsForCatchup (elements cards h)).length := by
    rw [hperm.length_eq, List.length_map]
  rw [catchupParam_url, parseCaptureIds_param, parseIds_of_nodup (by simpa using hnodup) (by decide),
    hcard]
  simp only [List.length_nil, Nat.zero_add, List.nil_append]

/-! ### The cards of a page -/

/-- Ordering the captures adds none. -/
theorem mem_orderCaptures (h : c ∈ orderCaptures captures ids) : c ∈ captures := by
  induction ids generalizing captures with
  | nil => cases h
  | cons id ids ih =>
    unfold orderCaptures at h
    split at h
    · rename_i c' hfind
      rcases List.mem_cons.1 h with rfl | h
      · exact List.mem_of_find?_eq_some hfind
      · exact List.mem_of_mem_filter (ih h)
    · exact ih h

/-- The captures are those of the table. -/
def FromTable (tables : FeedTables) (captures : List CaptureModelEx) : Prop :=
  ∀ c ∈ captures, ∃ row ∈ tables.captures, c.id = row.id

/-- What is loaded comes from the table. -/
theorem fromTable_of_loadCaptures {includeArchived : Bool}
    (h : loadCaptures tables userId ids includeArchived = .ok captures) :
    FromTable tables captures := by
  unfold loadCaptures at h
  split_ifs at h
  cases h
  intro c hc
  obtain ⟨row, hrow, rfl⟩ := List.mem_map.1 (mem_orderCaptures hc)
  exact ⟨row, List.mem_of_mem_filter hrow, rfl⟩

/-- The timeline comes from the table. -/
theorem fromTable_of_timeline {limit : ℕ}
    (h : getTimelineCaptures tables userId limit = .ok captures) : FromTable tables captures := by
  unfold getTimelineCaptures at h
  split_ifs at h
  · cases h
    exact List.forall_mem_nil _
  · simp only at h
    split_ifs at h
    · cases h
      exact List.forall_mem_nil _
    · exact fromTable_of_loadCaptures h

/-- The archive comes from the table. -/
theorem fromTable_of_archived {limit : ℕ}
    (h : getCapturesArchived tables userId limit = .ok captures) : FromTable tables captures := by
  unfold getCapturesArchived at h
  split_ifs at h
  · cases h
    exact List.forall_mem_nil _
  · simp only at h
    split_ifs at h
    · cases h
      exact List.forall_mem_nil _
    · exact fromTable_of_loadCaptures h

/-- The ids of the rendered captures are keys of a serial column. -/
theorem serial_of_fromTable (h : FromTable tables captures) :
    ∀ card ∈ cardsFromCaptures maker captures, card.Serial := by
  intro card hcard
  obtain ⟨c, hc, rfl⟩ := List.mem_map.1 hcard
  obtain ⟨row, hrow, hid⟩ := h c hc
  show 0 < c.id ∧ c.id ≤ i32Max
  rw [hid]
  exact tables.serial row hrow

/-- A spark's card asks for nothing. -/
theorem serial_sparks {rows : List SparkRow} : ∀ card ∈ rows.map Card.spark, card.Serial := by
  intro card hcard
  obtain ⟨row, -, rfl⟩ := List.mem_map.1 hcard
  trivial

/-- A mapped result that is there comes from a result. -/
theorem except_map_eq_ok {α β : Type} {f : α → β} {x : Except ApiError α} {b : β}
    (h : x.map f = .ok b) : ∃ a, x = .ok a ∧ f a = b := by
  cases x with
  | error e => cases h
  | ok a => exact ⟨a, rfl, Except.ok.inj h⟩

/-- **Every capture card of a page has a serial key.** -/
theorem serial_of_render (h : page.render maker tables userId searcher = .ok cards) :
    ∀ card ∈ cards, card.Serial := by
  cases page with
  | archived =>
    change (getCapturesArchived tables userId archivedLimit).map (cardsFromCaptures maker) = _ at h
    obtain ⟨captures, hcaptures, rfl⟩ := except_map_eq_ok h
    exact serial_of_fromTable (fromTable_of_archived hcaptures)
  | feed spec =>
    simp only [FeedPage.render, renderContent] at h
    split_ifs at h
    · unfold renderSearch at h
      cases hfound : searcher spec.searchQuery spec.limitOr50 with
      | error e =>
        rw [hfound] at h
        cases h
      | ok ids =>
        rw [hfound] at h
        simp only [Except.bind] at h
        split_ifs at h
        · cases h
          exact List.forall_mem_nil _
        · obtain ⟨captures, hcaptures, rfl⟩ := except_map_eq_ok h
          exact serial_of_fromTable (fromTable_of_loadCaptures hcaptures)
    · unfold renderTimeline at h
      split at h
      · cases h
        exact serial_sparks
      · obtain ⟨captures, hcaptures, rfl⟩ := except_map_eq_ok h
        exact serial_of_fromTable (fromTable_of_timeline hcaptures)
      · obtain ⟨captures, hcaptures, rfl⟩ := except_map_eq_ok h
        intro card hcard
        unfold blend sortByKey at hcard
        rw [List.mem_insertionSort, List.mem_append] at hcard
        rcases hcard with hcard | hcard
        · exact serial_of_fromTable (fromTable_of_timeline hcaptures) card hcard
        · exact serial_sparks card hcard

/-- **The request a page opens is accepted** exactly where the page shows at
most 200 captures without an illumination. -/
theorem page_request_accepted (h : page.render maker tables userId searcher = .ok cards) :
    Accepted cards (EventSource.url
      ⟨captureIdsForCatchup (elements cards (serial_of_render h))⟩) ↔
      (bareIds cards).dedup.length ≤ maxCatchupEntities := by
  have hserial := serial_of_render h
  unfold Accepted
  rw [parse_page hserial]
  split_ifs with hcard
  · refine ⟨fun _ => hcard, fun _ => ⟨_, rfl, nodup_captureIdsForCatchup, fun id => ?_⟩⟩
    exact mem_captureIdsForCatchup_elements hserial
  · refine ⟨?_, fun hle => absurd hle hcard⟩
    rintro ⟨ids, hids, -⟩
    cases hids

/-! ### A page of many captures -/

/-- An account of user 1 with `n` captures, the newest first, and nothing
else. -/
def bareCaptures (n : ℕ) : List CaptureModel :=
  (List.range n).map fun i : ℕ => ⟨i + 1, 1, -i, none⟩

/-- A user with `n` captures, none of them illuminated. -/
def bareTables (n : ℕ) (h : (n : ℤ) ≤ i32Max) : FeedTables where
  captures := bareCaptures n
  serial := by
    intro c hc
    obtain ⟨i, hi, rfl⟩ := List.mem_map.1 hc
    have hlt := List.mem_range.1 hi
    show (0 : ℤ) < i + 1 ∧ (i : ℤ) + 1 ≤ i32Max
    omega
  projections := ⟨[], [], []⟩
  medias _ := []
  annotations _ := []
  sparks := []

/-- The captures at `/`, with this limit. -/
def capturesPage (limit : ℕ) : FeedPage := .feed ⟨"", some limit, some .captures⟩

/-- The page of that user, where a search finds nothing. -/
def FeedPage.renderBare (page : FeedPage) (n : ℕ) (h : (n : ℤ) ≤ i32Max) :
    Except ApiError (List Card) :=
  page.render ⟨fun _ => "", fun _ => ""⟩ (bareTables n h) 1 fun _ _ => .ok []

/-- Captures already in order stay as they are. -/
theorem orderCaptures_self (h : (captures.map fun c => c.id).Nodup) :
    orderCaptures captures (captures.map fun c => c.id) = captures := by
  induction captures with
  | nil => rfl
  | cons c captures ih =>
    obtain ⟨hnew, hrest⟩ := List.nodup_cons.1 h
    have hfind : (c :: captures).find? (fun c' => c'.id = c.id) = some c :=
      List.find?_cons_of_pos (by simp)
    have hfilter : (c :: captures).filter (fun c' => c'.id ≠ c.id) = captures := by
      rw [List.filter_cons_of_neg (by simp), List.filter_eq_self]
      intro c' hc'
      rw [decide_eq_true_eq]
      intro heq
      exact hnew (List.mem_map.2 ⟨c', hc', heq⟩)
    rw [List.map_cons, orderCaptures, hfind]
    simp only [hfilter]
    rw [ih hrest]

/-- **A limit that is long enough shows every capture.** -/
theorem timeline_bareTables {n limit : ℕ} {h : (n : ℤ) ≤ i32Max} (hlimit : n ≤ limit)
    (hpos : 0 < n) : getTimelineCaptures (bareTables n h) 1 limit =
      .ok ((bareCaptures n).map (bareTables n h).load) := by
  have hmem : ∀ c ∈ bareCaptures n, ∃ i < n, c = ⟨(i : ℤ) + 1, 1, -(i : ℤ), none⟩ := by
    intro c hc
    obtain ⟨i, hi, rfl⟩ := List.mem_map.1 hc
    exact ⟨i, List.mem_range.1 hi, rfl⟩
  have hfeed : (bareCaptures n).filter (fun c => c.userId = 1 && c.archivedAt.isNone) =
      bareCaptures n := by
    rw [List.filter_eq_self]
    intro c hc
    obtain ⟨i, -, rfl⟩ := hmem c hc
    rfl
  have hsorted : sortByKey (fun c => -c.createdAt) (bareCaptures n) = bareCaptures n := by
    refine sortByKey_eq_self ?_
    unfold bareCaptures
    rw [List.pairwise_map]
    refine List.pairwise_lt_range.imp fun hlt => ?_
    simp only [neg_neg]
    omega
  have htake : (bareCaptures n).take limit = bareCaptures n := by
    refine List.take_of_length_le ?_
    unfold bareCaptures
    rw [List.length_map, List.length_range]
    exact hlimit
  have hids : (bareCaptures n).map CaptureModel.id ≠ [] := by
    unfold bareCaptures
    simp only [ne_eq, List.map_eq_nil_iff, List.range_eq_nil]
    omega
  have hload : (bareCaptures n).filter (fun c => c.userId = 1 &&
      c.id ∈ (bareCaptures n).map CaptureModel.id && (false || c.archivedAt.isNone)) =
        bareCaptures n := by
    rw [List.filter_eq_self]
    intro c hc
    have hin : c.id ∈ (bareCaptures n).map CaptureModel.id := List.mem_map_of_mem hc
    obtain ⟨i, -, rfl⟩ := hmem c hc
    simp [hin]
  have hnodup : (((bareCaptures n).map (bareTables n h).load).map fun c => c.id).Nodup := by
    unfold bareCaptures
    rw [List.map_map, List.map_map]
    refine List.nodup_range.map fun i j hij => ?_
    have heq : (i : ℤ) + 1 = j + 1 := hij
    omega
  have hsame : (bareCaptures n).map CaptureModel.id =
      ((bareCaptures n).map (bareTables n h).load).map fun c => c.id := by
    rw [List.map_map]
    rfl
  have horder := orderCaptures_self hnodup
  rw [← hsame] at horder
  have hcaptures : (bareTables n h).captures = bareCaptures n := rfl
  unfold getTimelineCaptures getCaptures loadCaptures
  rw [if_neg (by omega)]
  simp only [hcaptures, hfeed, hsorted, htake, if_neg hids, hload, horder]

/-- A page of captures without illuminations renders one bare card for each. -/
theorem renderBare_captures {n limit : ℕ} {h : (n : ℤ) ≤ i32Max} (hlimit : n ≤ limit)
    (hpos : 0 < n) : (capturesPage limit).renderBare n h = .ok
      (cardsFromCaptures ⟨fun _ => "", fun _ => ""⟩
        ((bareCaptures n).map (bareTables n h).load)) := by
  have hpage : (capturesPage limit).renderBare n h =
      (getTimelineCaptures (bareTables n h) 1 limit).map
        (cardsFromCaptures ⟨fun _ => "", fun _ => ""⟩) := rfl
  rw [hpage, timeline_bareTables hlimit hpos]
  rfl

/-- And asks for it. -/
theorem bareIds_bareTables {n : ℕ} {h : (n : ℤ) ≤ i32Max} :
    (bareIds (cardsFromCaptures maker ((bareCaptures n).map (bareTables n h).load))).dedup.length =
      n := by
  have hids : bareIds (cardsFromCaptures maker ((bareCaptures n).map (bareTables n h).load)) =
      (List.range n).map fun i : ℕ => (i : ℤ) + 1 := by
    unfold bareIds cardsFromCaptures bareCaptures
    rw [List.map_map, List.map_map, List.filterMap_map]
    show (List.range n).filterMap (some ∘ fun i : ℕ => (i : ℤ) + 1) = _
    rw [List.filterMap_eq_map]
  have hnodup : ((List.range n).map fun i : ℕ => (i : ℤ) + 1).Nodup :=
    List.nodup_range.map fun i j hij => by
      have heq : (i : ℤ) + 1 = j + 1 := hij
      omega
  rw [hids, List.dedup_eq_self.2 hnodup, List.length_map, List.length_range]

/-- A page of two bare captures: its request stays under the limit. -/
theorem page_request_accepted_two :
    ∃ cards, ∃ h : (capturesPage 50).renderBare 2 (by decide) = .ok cards,
      Accepted cards (EventSource.url
        ⟨captureIdsForCatchup (elements cards (serial_of_render h))⟩) ↔
        (bareIds cards).dedup.length ≤ maxCatchupEntities :=
  ⟨_, rfl, page_request_accepted
    (show (capturesPage 50).render ⟨fun _ => "", fun _ => ""⟩ (bareTables 2 (by decide)) 1
      (fun _ _ => .ok []) = .ok _ from rfl)⟩

/-- **A page may ask for more than the route accepts**: with a limit of 500
it shows 201 captures, and its request is refused. -/
theorem long_page_refused :
    ∃ cards, ∃ h : (capturesPage 500).renderBare 201 (by decide) = .ok cards,
      ¬ Accepted cards (EventSource.url
        ⟨captureIdsForCatchup (elements cards (serial_of_render h))⟩) := by
  refine ⟨_, renderBare_captures (by omega) (by omega), ?_⟩
  rintro ⟨ids, hids, -⟩
  rw [parse_page, bareIds_bareTables, if_neg (by decide)] at hids
  cases hids

end Content

end Dreamscroll
