import Dreamscroll.Webui.Feed
/-!
# The page and its event source

`webui-v2.js` over the route: the page computes the capture ids of its
catch-up from the cards it shows when it creates an `EventSource`, and the
browser reconnects that `EventSource` to the URL it was created with. The
cards change by uploads and feed reloads meanwhile.
-/

namespace Dreamscroll

/-- The id of a capture, a positive `i32`. -/
abbrev CaptureId := { id : ℤ // 0 < id ∧ id ≤ i32Max }

/-- A capture card the page shows. -/
structure Card where
  captureId : CaptureId
  hasIllumination : Bool
  deriving DecidableEq

/-- `captureIdsForCatchup`: the set of the un-illuminated captures. -/
def captureIdsForCatchup (cards : List Card) : List CaptureId :=
  distinctOn id [] ((cards.filter fun card => !card.hasIllumination).map Card.captureId)

/-- An `EventSource`, as far as its URL says: the ids it was created with. -/
structure EventSource where
  captureIds : List CaptureId
  deriving DecidableEq

/-- `captureIds.join(',')`. -/
def joinIds (ids : List CaptureId) : List Char :=
  [','].intercalate (ids.map fun id => (toString id.val).toList)

/-- The `capture_ids` parameter of the URL, absent where there are none. -/
def EventSource.param (source : EventSource) : Option String :=
  if source.captureIds = [] then none else some (String.ofList (joinIds source.captureIds))

variable {χ T : Type}

/-- The server, and the page that is connected to it. -/
structure PageState (χ : Type) where
  /-- The server side of the page's connection. -/
  server : EventsState χ
  cards : List Card
  source : Option EventSource
  /-- How much of what the connection yielded has arrived. -/
  delivered : ℕ
  /-- Every event the page has received. -/
  received : List TaskStatusUpdate

/-- What happens on either side. -/
inductive PageEv (T : Type)
  /-- Anything on the server but a request and the loss of the
  connection. -/
  | server (e : EventsEv T)
  /-- An upload or a feed reload changes the cards. -/
  | show (cards : List Card)
  | connectNow
  /-- The browser reconnects the event source. -/
  | reconnect
  /-- An event arrives. -/
  | deliver
  /-- The connection is lost. -/
  | lose
  /-- The page closes its event source. -/
  | closeSource

namespace PageState

/-- A page that has just been rendered. -/
def start (cards : List Card) : PageState χ := ⟨.start, cards, none, 0, []⟩

variable [Task T]

/-- The event source requests its URL. A refused request closes it. -/
def request (T : Type) [Task T] (B : Broadcast TaskStatusUpdate χ) (userId : ℤ) (s : PageState χ)
    (source : EventSource) : Option (PageState χ) :=
  (s.server.step B userId (.get source.param : EventsEv T)).map fun server =>
    { s with
      server := server
      source := if server.conn.isOpen then some source else none
      delivered := 0 }

/-- What an event does. -/
def step (B : Broadcast TaskStatusUpdate χ) (userId : ℤ) (s : PageState χ) :
    PageEv T → Option (PageState χ)
  | .server (.get _) => none
  | .server .hangUp => none
  | .server e => (s.server.step B userId e).map fun server => { s with server := server }
  | .show cards => some { s with cards := cards }
  | .connectNow =>
    match s.source with
    | some _ => none
    | none => s.request T B userId ⟨captureIdsForCatchup s.cards⟩
  | .reconnect => s.source.bind fun source => s.request T B userId source
  | .deliver => (s.server.yielded[s.delivered]?).map fun ev =>
      { s with delivered := s.delivered + 1, received := s.received ++ [ev] }
  | .lose => some { s with server := { s.server with conn := .closed }, delivered := 0 }
  | .closeSource =>
    some { s with server := { s.server with conn := .closed }, source := none, delivered := 0 }

/-- The page as a transition system. -/
def system (T : Type) [Task T] (B : Broadcast TaskStatusUpdate χ) (userId : ℤ) :
    System (PageState χ) (PageEv T) := ⟨step B userId⟩

end PageState

/-! ## The URL is read back -/

theorem not_comma_mem_toString {id : CaptureId} : ',' ∉ (toString id.val).toList := by
  intro h
  obtain ⟨n, hn⟩ := Int.eq_ofNat_of_zero_le id.property.1.le
  rw [hn] at h
  change ',' ∈ (toString (Int.ofNat n)).toList at h
  rw [toList_toString_ofNat] at h
  have hdigit := Nat.isDigit_of_mem_toDigits (by decide) (by decide) h
  cases hdigit

theorem parseI32_captureId (id : CaptureId) : parseI32 (toString id.val).toList = .ok id.val := by
  obtain ⟨n, hn⟩ := Int.eq_ofNat_of_zero_le id.property.1.le
  have hmax := id.property.2
  rw [hn] at hmax ⊢
  exact parseI32_toString hmax

/-- The loop keeps the ids so far and adds every one it is given. -/
theorem mem_of_parseIds {ids : List CaptureId} {acc out : List ℤ}
    (h : parseIds acc (ids.map fun id => (toString id.val).toList) = .ok out) :
    (∀ x ∈ acc, x ∈ out) ∧ ∀ id ∈ ids, id.val ∈ out := by
  induction ids generalizing acc with
  | nil =>
    cases h
    exact ⟨fun _ hx => hx, nofun⟩
  | cons id ids ih =>
    rw [List.map_cons, parseIds, parseI32_captureId] at h
    have hpos : ¬ id.val ≤ 0 := not_le.2 id.property.1
    simp only [hpos, if_false] at h
    split at h
    · cases h
    · obtain ⟨hacc, hids⟩ := ih h
      refine ⟨fun x hx => hacc x (mem_addId.2 (Or.inl hx)), fun id' hid' => ?_⟩
      rcases List.mem_cons.1 hid' with rfl | hid'
      · exact hacc _ (mem_addId.2 (Or.inr rfl))
      · exact hids id' hid'

theorem splitOn_joinIds {ids : List CaptureId} (h : ids ≠ []) :
    (joinIds ids).splitOn ',' = ids.map fun id => (toString id.val).toList := by
  refine List.splitOn_intercalate ',' ?_ ?_
  · intro l hl
    obtain ⟨id, -, rfl⟩ := List.mem_map.1 hl
    exact not_comma_mem_toString
  · rw [Ne, List.map_eq_nil_iff]
    exact h

/-- No id is written as nothing. -/
theorem joinIds_ne_empty {ids : List CaptureId} (h : ids ≠ []) :
    String.ofList (joinIds ids) ≠ "" := by
  intro hempty
  have hnil : joinIds ids = [] := by
    rw [← String.toList_ofList (l := joinIds ids), hempty, String.toList_empty]
  have hsplit := splitOn_joinIds h
  rw [hnil, List.splitOn_nil] at hsplit
  -- the empty text is one piece
  obtain ⟨id, hid⟩ := List.exists_mem_of_ne_nil ids h
  have hpiece : (toString id.val).toList ∈ [([] : List Char)] := by
    rw [hsplit]
    exact List.mem_map.2 ⟨id, hid, rfl⟩
  have hparse := parseI32_captureId id
  rw [List.mem_singleton.1 hpiece] at hparse
  cases hparse

/-- What the server parses is what the page joined. -/
theorem parseCaptureIds_param (source : EventSource) : parseCaptureIds source.param =
    parseIds [] (source.captureIds.map fun id => (toString id.val).toList) := by
  unfold EventSource.param
  split_ifs with hids
  · rw [hids]
    rfl
  · rw [parseCaptureIds, if_neg (joinIds_ne_empty hids), String.toList_ofList,
      splitOn_joinIds hids]

/-- **The server reads every id the page wrote.** -/
theorem mem_of_parse_param {source : EventSource} {ids : List ℤ}
    (h : parseCaptureIds source.param = .ok ids) : ∀ id ∈ source.captureIds, id.val ∈ ids := by
  rw [parseCaptureIds_param] at h
  exact (mem_of_parseIds h).2

theorem mem_captureIdsForCatchup {cards : List Card} {card : Card} (h : card ∈ cards)
    (hbare : card.hasIllumination = false) : card.captureId ∈ captureIdsForCatchup cards := by
  have hmem : card.captureId ∈
      (cards.filter fun card => !card.hasIllumination).map Card.captureId :=
    List.mem_map.2 ⟨card, List.mem_filter.2 ⟨h, by rw [hbare]; rfl⟩, rfl⟩
  obtain ⟨id, hid, heq⟩ := exists_mem_distinctOn id hmem List.not_mem_nil
  exact (show id = card.captureId from heq) ▸ hid

end Dreamscroll
