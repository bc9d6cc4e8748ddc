import Dreamscroll.Webui.Converge
import Dreamscroll.Webui.Page
/-!
# Statuses across stream ends

What changed while no stream was open is in the catch-up of the next
connection, for the captures its URL names. An `EventSource` that
reconnects asks for the captures it was created with: a card that was added
since is told only what is published while the stream is open.
-/

namespace Dreamscroll

variable {χ T : Type} {B : Broadcast TaskStatusUpdate χ} {userId : ℤ}

/-! ## What the catch-up was read from -/

/-- The catch-up was read from `snap`, and `later` was committed since. -/
structure ReadFrom (userId : ℤ) (s : EventsState χ) (ids : List ℤ) (events : List TaskStatusUpdate)
    (snap : List TaskRunModel) (later : List Commit) : Prop where
  runIds : (snap.map TaskRunModel.runId).Nodup
  known : ∀ row ∈ snap, ∃ st, row.HasStatus st
  events_eq : ∃ estimates, events = StatusCatchup.events snap estimates userId "capture" ids
  commits_eq : ∃ earlier, s.commits = earlier ++ later
  grown : ∀ r ∈ snap, ∃ r' ∈ s.rows, r'.identity = r.identity
  unchanged : ∀ row ∈ s.rows, row ∈ snap ∨ ∃ c ∈ later, c.row.runId = row.runId

/-- What is known of a connection that has not ended. -/
def SnapInv (B : Broadcast TaskStatusUpdate χ) (userId : ℤ) (s : EventsState χ) : Conn χ → Prop
  | .streaming ids catchup st => StreamInv B userId (catchup.getD []) st ∧
      (st.stream.phase ≠ .ended → ∀ events, catchup = some events →
        ∃ snap later, ReadFrom userId s ids events snap later ∧ ∀ c ∈ later, c.streamOpen = true)
  | _ => True

variable {s s' : EventsState χ} {ids : List ℤ} {events : List TaskStatusUpdate}
variable {snap rows : List TaskRunModel} {later : List Commit} {row : TaskRunModel}

/-- A commit behind the snapshot comes later than it. -/
theorem ReadFrom.commit [Task T] {e : EventsEv T} (h : ReadFrom userId s ids events snap later)
    (hrows : FeedRows s) (hc : Commits s e rows row) :
    ReadFrom userId (s.commit rows row) ids events snap (later ++ [⟨row, s.conn.isOpen⟩]) := by
  obtain ⟨hmem, hkeep, hback⟩ := mem_of_commits hrows hc
  refine { h with commits_eq := ?_, grown := fun r hr => ?_, unchanged := fun r hr => ?_ }
  · obtain ⟨earlier, hcommits⟩ := h.commits_eq
    refine ⟨earlier, ?_⟩
    change s.commits ++ [_] = _
    rw [hcommits, List.append_assoc]
  · obtain ⟨r', hr', hsame⟩ := h.grown r hr
    by_cases hid : r'.runId = row.runId
    · rcases identity_of_commits hc with hfresh | ⟨r₀, hr₀, hid₀, hsame₀⟩
      · exact absurd hid (hfresh r' hr')
      · rw [hrows.eq_of_runId hr₀ hr' (hid₀.trans hid.symm)] at hsame₀
        exact ⟨row, hmem, hsame₀.symm.trans hsame⟩
    · exact ⟨r', hkeep r' hr' hid, hsame⟩
  · rcases hback r hr with rfl | ⟨hr, -⟩
    · exact Or.inr ⟨_, List.mem_append_right _ List.mem_cons_self, rfl⟩
    · rcases h.unchanged r hr with hin | ⟨c, hc, hid⟩
      · exact Or.inl hin
      · exact Or.inr ⟨c, List.mem_append_left _ hc, hid⟩

/-- A new connection does not change what was read. -/
theorem ReadFrom.reconnect (h : ReadFrom userId s ids events snap later)
    {outbox : List TaskRunModel} {conn : Conn χ} :
    ReadFrom userId { s with outbox := outbox, conn := conn } ids events snap later :=
  { h with }

/-- The catch-up is read from the table as it is. -/
theorem readFrom_readCatchup (hrows : FeedRows s)
    {estimates : Option (String → Option TaskTimingEstimate)}
    (h : s.readCatchup userId ids estimates = some events) :
    ReadFrom userId s ids events s.rows [] where
  runIds := hrows.runIds
  known := hrows.known
  events_eq := by
    unfold EventsState.readCatchup at h
    split at h
    · cases h
    · obtain ⟨estimates, -, rfl⟩ := Option.map_eq_some_iff.1 h
      exact ⟨estimates, rfl⟩
  commits_eq := ⟨s.commits, (List.append_nil _).symm⟩
  grown r hr := ⟨r, hr, rfl⟩
  unchanged _ hr := Or.inl hr

/-- Every event keeps the snapshot of the connection true. -/
theorem snapInv_move [Task T] {e : EventsEv T} (hrows : FeedRows s) (h : SnapInv B userId s s.conn)
    (hm : FeedMove B userId s e s') : SnapInv B userId s' s'.conn := by
  cases hm with
  | @commits rows row hc =>
    change SnapInv B userId (s.commit rows row) s.conn
    cases hconn : s.conn with
    | closed => trivial
    | subscribed ids rx => trivial
    | streaming ids catchup st =>
      rw [hconn] at h
      refine ⟨h.1, fun hlive events hread => ?_⟩
      obtain ⟨snap, later, hfrom, hopen⟩ := h.2 hlive events hread
      refine ⟨snap, _, hfrom.commit hrows hc, fun c hc => ?_⟩
      rcases List.mem_append.1 hc with hc | hc
      · exact hopen c hc
      · rw [List.mem_singleton.1 hc, hconn]
        simpa [Conn.isOpen] using hlive
  | @publishes i row estimate event he hrow hev =>
    change SnapInv B userId _ (s.conn.broadcast B event)
    cases hconn : s.conn with
    | closed => trivial
    | subscribed ids rx => trivial
    | streaming ids catchup st =>
      rw [hconn] at h
      refine ⟨streamInv_step h.1 (step_send st event), fun hlive events hread => ?_⟩
      obtain ⟨snap, later, hfrom, hopen⟩ := h.2 hlive events hread
      exact ⟨snap, later, hfrom.reconnect, hopen⟩
  | withholds he hrow hev =>
    change SnapInv B userId _ s.conn
    cases hconn : s.conn with
    | closed => trivial
    | subscribed ids rx => trivial
    | streaming ids catchup st =>
      rw [hconn] at h
      refine ⟨h.1, fun hlive events hread => ?_⟩
      obtain ⟨snap, later, hfrom, hopen⟩ := h.2 hlive events hread
      exact ⟨snap, later, hfrom.reconnect, hopen⟩
  | connects hconn =>
    cases hconn with
    | keeps => exact h
    | closes he => trivial
    | subscribes he hfree hids => trivial
    | @reads ids rx estimates shutdown deadline heartbeatInterval now hsub =>
      refine ⟨streamInv_start (makeSseStream userId (s.readCatchup userId ids estimates) rx shutdown
        deadline heartbeatInterval now) rfl now, fun _ events hread => ?_⟩
      -- the catch-up is read here: the snapshot is the table as it is
      exact ⟨s.rows, [], (readFrom_readCatchup hrows hread).reconnect,
        fun _ hc => absurd hc List.not_mem_nil⟩
    | streams hst hstep hsame =>
      rw [hst] at h
      refine ⟨streamInv_step h.1 hstep, fun hlive events hread => ?_⟩
      have hbefore := fun hended => hlive (ended_step hended hstep).1
      obtain ⟨snap, later, hfrom, hopen⟩ := h.2 hbefore events hread
      exact ⟨snap, later, hfrom.reconnect, hopen⟩

/-- **What did not change since the catch-up is in it.** -/
theorem ReadFrom.exists_event (h : ReadFrom userId s ids events snap later)
    (hlatest : IsLatest s.rows row) (howner : row.entityOwnerId = userId)
    (htype : row.entityType = "capture") (hids : row.entityId ∈ ids)
    (hold : ∀ c ∈ later, c.row.runId ≠ row.runId) : ∃ ev ∈ events, Announces row ev := by
  have hsnap : row ∈ snap := by
    rcases h.unchanged row hlatest.1 with hin | ⟨c, hc, hid⟩
    · exact hin
    · exact absurd hid (hold c hc)
  have hlatest' : IsLatest snap row := by
    refine ⟨hsnap, fun r hr hkey => ?_⟩
    obtain ⟨r', hr', hsame⟩ := h.grown r hr
    rcases hlatest.2 r' hr' ((statusKey_eq_of_identity hsame).trans hkey) with rfl | hlt
    · exact Or.inl (List.inj_on_of_nodup_map h.runIds hr hsnap
        (congrArg RunIdentity.runId hsame).symm)
    · have hnumber : r'.runNumber = r.runNumber := congrArg RunIdentity.runNumber hsame
      rw [← hnumber]
      exact Or.inr hlt
  obtain ⟨st, hst⟩ := h.known row hsnap
  obtain ⟨estimates, rfl⟩ := h.events_eq
  obtain ⟨ev, hev, hfilter⟩ := events_of_isLatest estimates hlatest' hst hids
  have hmem : ev ∈ [ev] := List.mem_cons_self
  rw [← hfilter] at hmem
  rw [← howner, ← htype]
  exact ⟨ev, (List.mem_filter.1 hmem).1, hev⟩

/-- A run whose last commit found no stream open has no later one. -/
theorem not_mem_later {earlier : List Commit} {runId : String} {c : Commit}
    (hcommits : s.commits = earlier ++ later) (hopen : ∀ c ∈ later, c.streamOpen = true)
    (hlast : (s.commits.filter fun c => c.row.runId = runId).getLast? = some c)
    (hoff : c.streamOpen = false) : ∀ c' ∈ later, c'.row.runId ≠ runId := by
  intro c' hc' hid
  have hne : later.filter (fun c => c.row.runId = runId) ≠ [] :=
    List.ne_nil_of_mem (List.mem_filter.2 ⟨hc', by simpa using hid⟩)
  rw [hcommits, List.filter_append, List.getLast?_append_of_ne_nil _ hne] at hlast
  have hc := hopen c (List.mem_filter.1 (List.mem_of_getLast? hlast)).1
  rw [hoff] at hc
  cases hc

/-! ## The page -/

/-- The ids the connection was asked for. -/
def Conn.captureIds : Conn χ → Option (List ℤ)
  | .closed => none
  | .subscribed ids _ => some ids
  | .streaming ids _ _ => some ids

/-- **What is known of the page**: its connection was asked for the ids of
its event source, and what is delivered has been received. -/
structure PageInv (B : Broadcast TaskStatusUpdate χ) (userId : ℤ) (s : PageState χ) : Prop where
  rows : FeedRows s.server
  snap : SnapInv B userId s.server s.server.conn
  asked : ∀ source ids, s.source = some source → s.server.conn.captureIds = some ids →
    ∀ id ∈ source.captureIds, id.val ∈ ids
  delivered_le : s.delivered ≤ s.server.yielded.length
  received : ∀ ev ∈ s.server.yielded.take s.delivered, ev ∈ s.received

/-- An un-illuminated capture on the page whose latest illuminate run
changed its status while no stream was open. -/
structure Missed (userId : ℤ) (s : PageState χ) (card : Card) (row : TaskRunModel) : Prop where
  shown : card ∈ s.cards
  bare : card.hasIllumination = false
  latest : IsLatest s.server.rows row
  about : row.statusKey = ⟨userId, "capture", card.captureId, "illuminate"⟩
  offline : ∃ c ∈ (s.server.commits.filter fun c => c.row.runId = row.runId).getLast?,
    c.streamOpen = false

/-- The stream is open, its catch-up was read, and `delivered` events cover
it. -/
def Conn.CaughtUp (delivered : ℕ) : Conn χ → Prop
  | .streaming _ (some events) st =>
    st.stream.phase ≠ .ended ∧ st.stream.catchup = [] ∧ events.length ≤ delivered
  | _ => False

instance (delivered : ℕ) : ∀ conn : Conn χ, Decidable (conn.CaughtUp delivered)
  | .streaming _ (some _) _ => inferInstanceAs (Decidable (_ ∧ _ ∧ _))
  | .streaming _ none _ => isFalse id
  | .subscribed .. => isFalse id
  | .closed => isFalse id

/-- A connection that has caught up is streaming. -/
theorem Conn.CaughtUp.streaming {delivered : ℕ} {conn : Conn χ} (h : conn.CaughtUp delivered) :
    ∃ ids events st, conn = .streaming ids (some events) st ∧ st.stream.phase ≠ .ended ∧
      st.stream.catchup = [] ∧ events.length ≤ delivered := by
  unfold Conn.CaughtUp at h
  split at h
  · rename_i ids events st
    exact ⟨ids, events, st, rfl, h⟩
  · exact h.elim

/-- The connection is established, and its catch-up has arrived. -/
def Reestablished (s : PageState χ) : Prop := s.server.conn.CaughtUp s.delivered

instance (s : PageState χ) : Decidable (Reestablished s) :=
  inferInstanceAs (Decidable (s.server.conn.CaughtUp s.delivered))

variable {p p' : PageState χ}

/-- **What was missed is caught up with**, for the captures of the event
source. -/
theorem received_of_inv (h : PageInv B userId p) (hre : Reestablished p) {source : EventSource}
    (hsource : p.source = some source) {card : Card} (hm : Missed userId p card row)
    (hlisted : card.captureId ∈ source.captureIds) :
    ∃ ev ∈ p.received, row.HasStatus ev.payload.status ∧ ev.payload.runId = row.runId := by
  obtain ⟨ids, events, st, hconn, hlive, hcatchup, hdelivered⟩ := hre.streaming
  have hsnap := h.snap
  rw [hconn] at hsnap
  obtain ⟨snap, later, hfrom, hopen⟩ := hsnap.2 hlive events rfl
  obtain ⟨earlier, hcommits⟩ := hfrom.commits_eq
  obtain ⟨c, hlast, hoff⟩ := hm.offline
  have hkey := hm.about
  simp only [TaskRunModel.statusKey, StatusKey.mk.injEq] at hkey
  obtain ⟨howner, htype, hentity, -⟩ := hkey
  have hids : row.entityId ∈ ids := by
    rw [hentity]
    exact h.asked source ids hsource (by rw [hconn]; rfl) card.captureId hlisted
  obtain ⟨ev, hev, hann⟩ := hfrom.exists_event hm.latest howner htype hids
    (not_mem_later hcommits hopen hlast hoff)
  refine ⟨ev, h.received ev ?_, hann.hasStatus, hann.runId⟩
  -- the catch-up comes first in what was yielded, and all of it has arrived
  obtain ⟨done, live, received, hf⟩ := hsnap.1
  have hdone : events = done := by
    have heq := hf.catchup_eq
    rw [hcatchup, List.append_nil, Option.getD_some] at heq
    exact heq
  have hyielded : p.server.yielded = events ++ statuses live := by
    unfold EventsState.yielded
    rw [hconn]
    change statuses st.items = _
    rw [hf.items_eq, statuses_append, statuses_map_taskStatus, hdone]
  rw [hyielded, List.take_append, List.take_of_length_le hdelivered]
  exact List.mem_append_left _ hev

/-! ## Its steps -/

/-- A stream takes back nothing it yielded. -/
theorem items_prefix_of_step {st st' : StreamState χ} {ev : StreamEv}
    (h : (StreamState.system B).step st ev = some st') : st.items <+: st'.items := by
  simp only [StreamState.system] at h
  cases ev with
  | next =>
    obtain ⟨p, -, rfl⟩ := Option.map_eq_some_iff.1 h
    exact List.prefix_append ..
  | wake branch =>
    simp only [StreamState.step, Option.ite_none_right_eq_some, Option.map_eq_some_iff] at h
    obtain ⟨-, p, -, rfl⟩ := h
    exact List.prefix_append ..
  | _ => cases h; exact List.prefix_refl _

section Steps

variable [Task T] {e : EventsEv T} {pe : PageEv T}

/-- Short of a request or a loss, the connection stays what it is for the
page. -/
theorem conn_of_move (hm : FeedMove B userId s e s') (hget : ∀ raw, e ≠ .get raw)
    (hup : e ≠ .hangUp) :
    s'.conn.captureIds = s.conn.captureIds ∧ s.yielded <+: s'.yielded := by
  cases hm with
  | commits hc => exact ⟨rfl, List.prefix_refl _⟩
  | @publishes i row estimate event he hrow hev =>
    unfold EventsState.yielded
    cases hconn : s.conn <;> exact ⟨rfl, List.prefix_refl _⟩
  | withholds he hrow hev => exact ⟨rfl, List.prefix_refl _⟩
  | connects hconn =>
    cases hconn with
    | keeps => exact ⟨rfl, List.prefix_refl _⟩
    | closes he =>
      rcases he with ⟨raw, rfl⟩ | rfl
      · exact absurd rfl (hget raw)
      · exact absurd rfl hup
    | @subscribes raw ids he hfree hids => exact absurd he (hget raw)
    | reads hsub =>
      unfold EventsState.yielded
      rw [hsub]
      exact ⟨rfl, List.prefix_refl _⟩
    | streams hst hstep hsame =>
      unfold EventsState.yielded
      rw [hst]
      exact ⟨rfl, (items_prefix_of_step hstep).filterMap _⟩

/-- An event of the server alone keeps the page's invariant. -/
theorem pageInv_server (h : PageInv B userId p) {server : EventsState χ}
    (hstep : p.server.step B userId e = some server) (hget : ∀ raw, e ≠ .get raw)
    (hup : e ≠ .hangUp) : PageInv B userId { p with server := server } := by
  have hm : FeedMove B userId p.server e server := feedMove_of_step hstep
  obtain ⟨hids, hyield⟩ := conn_of_move hm hget hup
  refine ⟨feedRows_move h.rows hm, snapInv_move h.rows h.snap hm, ?_, ?_, ?_⟩
  · intro source ids hsource hasked
    exact h.asked source ids hsource (hids ▸ hasked)
  · exact h.delivered_le.trans hyield.length_le
  · obtain ⟨rest, hrest⟩ := hyield
    rw [← hrest, List.take_append_of_le_length h.delivered_le]
    exact h.received

/-- A request of the page keeps the invariant. -/
theorem pageInv_request (h : PageInv B userId p) {source : EventSource}
    (hstep : p.request T B userId source = some p') : PageInv B userId p' := by
  obtain ⟨server, hserver, rfl⟩ := Option.map_eq_some_iff.1 hstep
  have hm : FeedMove B userId p.server (.get source.param : EventsEv T) server :=
    feedMove_of_step hserver
  refine ⟨feedRows_move h.rows hm, snapInv_move h.rows h.snap hm, ?_, Nat.zero_le _, ?_⟩
  · intro source' ids hsource hasked
    simp only [EventsState.step] at hserver
    split at hserver
    · cases hserver
    · split at hserver
      · rename_i ids' hparse
        cases hserver
        cases hasked
        simp only [Conn.isOpen, if_true, Option.some.injEq] at hsource
        rw [← hsource]
        exact mem_of_parse_param hparse
      · cases hserver
        cases hasked
  · rw [List.take_zero]
    exact fun _ hev => absurd hev List.not_mem_nil

/-- A closed connection keeps the invariant: nothing is received on it. -/
theorem pageInv_closed (h : PageInv B userId p) (source : Option EventSource) :
    PageInv B userId
      { p with server := { p.server with conn := .closed }, source := source, delivered := 0 } where
  rows := { h.rows with }
  snap := trivial
  asked _ _ _ hasked := by cases hasked
  delivered_le := Nat.zero_le _
  received _ hev := absurd hev List.not_mem_nil

/-- **What is known of the page is kept by every step.** -/
theorem pageInv_step (h : PageInv B userId p)
    (hstep : (PageState.system T B userId).step p pe = some p') : PageInv B userId p' := by
  simp only [PageState.system] at hstep
  cases pe with
  | server e =>
    cases e with
    | get raw => cases hstep
    | hangUp => cases hstep
    | _ =>
      obtain ⟨server, hserver, rfl⟩ := Option.map_eq_some_iff.1 hstep
      exact pageInv_server h hserver (fun _ => by nofun) (by nofun)
  | «show» cards =>
    cases hstep
    exact { h with }
  | connectNow =>
    simp only [PageState.step] at hstep
    split at hstep
    · cases hstep
    · exact pageInv_request h hstep
  | reconnect =>
    obtain ⟨source, -, hrequest⟩ := Option.bind_eq_some_iff.1 hstep
    exact pageInv_request h hrequest
  | deliver =>
    obtain ⟨ev, hev, rfl⟩ := Option.map_eq_some_iff.1 hstep
    obtain ⟨hlt, hget⟩ := List.getElem?_eq_some_iff.1 hev
    refine { h with delivered_le := hlt, received := fun x hx => ?_ }
    rw [List.take_succ_eq_append_getElem hlt, hget] at hx
    rcases List.mem_append.1 hx with hx | hx
    · exact List.mem_append_left _ (h.received x hx)
    · exact List.mem_append_right _ hx
  | lose =>
    cases hstep
    exact pageInv_closed h p.source
  | closeSource =>
    cases hstep
    exact pageInv_closed h none

/-- A page that has just been rendered. -/
theorem pageInv_start (cards : List Card) : PageInv B userId (.start cards) where
  rows := feedRows_start
  snap := trivial
  asked _ _ hsource := by cases hsource
  delivered_le := Nat.zero_le _
  received _ hev := absurd hev List.not_mem_nil

/-- The invariant holds along every run of the page. -/
theorem pageInv_run {cards : List Card} {es : List (PageEv T)}
    (h : (PageState.system T B userId).run (.start cards) es = some p) : PageInv B userId p :=
  System.run_inv (fun _ _ _ => pageInv_step) (pageInv_start cards) h

end Steps

/-! ## What is promised -/

/-- **A status is not lost across stream ends, for the captures of the
event source.** Once a connection is re-established and its catch-up has
arrived, an un-illuminated capture the page already showed as such when it
created the event source, and whose latest illuminate run changed its
status while no stream was open, has had an event with that status. -/
theorem no_status_lost [Task T] (B : Broadcast TaskStatusUpdate χ) (userId : ℤ) {cards : List Card}
    {es : List (PageEv T)} {p : PageState χ}
    (h : (PageState.system T B userId).run (.start cards) es = some p) (hre : Reestablished p)
    {source : EventSource} (hsource : p.source = some source) {card : Card} {row : TaskRunModel}
    (hm : Missed userId p card row) (hlisted : card.captureId ∈ source.captureIds) :
    ∃ ev ∈ p.received, row.HasStatus ev.payload.status ∧ ev.payload.runId = row.runId :=
  received_of_inv (pageInv_run h) hre hsource hm hlisted

/-- So an event source that was just created misses nothing. -/
theorem received_of_fresh (h : PageInv B userId p) (hre : Reestablished p)
    (hsource : p.source = some ⟨captureIdsForCatchup p.cards⟩) {card : Card}
    (hm : Missed userId p card row) :
    ∃ ev ∈ p.received, row.HasStatus ev.payload.status ∧ ev.payload.runId = row.runId :=
  received_of_inv h hre hsource hm (mem_captureIdsForCatchup hm.shown hm.bare)

/-- Capture 42, shown without an illumination. -/
def bareCard : Card := ⟨⟨42, by decide⟩, false⟩

/-- And capture 1, which has no run. -/
def otherCard : Card := ⟨⟨1, by decide⟩, false⟩

/-- A stream reaches its deadline, the run completes meanwhile, and the
event source reconnects. -/
def missedCompletion : List (PageEv AnyTask) :=
  [.server (.stream .next), .server (.stream (.elapse 180)),
    .server (.stream (.wake .deadline)), .server (.write (markInProgress illuminateRun 1 5)),
    .server (.publish 0 none), .server (.write (recordOutcome illuminateRun .completeSuccess 1 none 9)),
    .server (.publish 0 none), .reconnect,
    .server (.catchup (some fun _ => none) ⟨false, false, false⟩ 180 20 0),
    .server (.stream .next)]

/-- The row the run is left with. -/
def completedRow : TaskRunModel :=
  (recordOutcome illuminateRun .completeSuccess 1 none 9).update
    ((markInProgress illuminateRun 1 5).update (queuedRow illuminateRun 0))

/-- A page that showed the capture when it connected. -/
def listedPage : PageState (Ring TaskStatusUpdate) :=
  ((PageState.system AnyTask (ring _ 128) 7).run (.start [bareCard])
    ([.server (.insert illuminateRun 0), .server (.publish 0 none), .connectNow,
      .server (.catchup (some fun _ => none) ⟨false, false, false⟩ 180 20 0),
      .server (.stream .next)] ++ missedCompletion ++ [.server (.stream .next), .deliver])).get
    (by decide)

/-- A listed capture whose completion was missed. -/
theorem missed_listedPage : Missed 7 listedPage bareCard completedRow where
  shown := by decide
  bare := rfl
  latest := ⟨List.mem_cons_self, fun r hr _ => Or.inl (List.mem_singleton.1 hr)⟩
  about := rfl
  offline := by decide

/-- It is told that the run completed. -/
theorem no_status_lost_listed :
    ∃ ev ∈ listedPage.received,
      completedRow.HasStatus ev.payload.status ∧ ev.payload.runId = completedRow.runId :=
  no_status_lost (ring TaskStatusUpdate 128) 7 (Option.some_get _).symm (by decide) rfl
    missed_listedPage (by decide)

/-- A page to which the capture was uploaded after it had connected. -/
def uploadedPage : PageState (Ring TaskStatusUpdate) :=
  ((PageState.system AnyTask (ring _ 128) 7).run (.start [otherCard])
    ([.connectNow, .server (.catchup (some fun _ => none) ⟨false, false, false⟩ 180 20 0),
      .server (.stream .next), .server (.insert illuminateRun 0), .server (.publish 0 none),
      .show [otherCard, bareCard], .server (.stream (.wake .received)),
      .deliver] ++ missedCompletion)).get (by decide)

/-- A capture uploaded on the page whose completion was missed. -/
theorem missed_uploadedPage : Missed 7 uploadedPage bareCard completedRow where
  shown := by decide
  bare := rfl
  latest := ⟨List.mem_cons_self, fun r hr _ => Or.inl (List.mem_singleton.1 hr)⟩
  about := rfl
  offline := by decide

/-- The event source reconnects to the URL it was created with: the page is
never told that the uploaded capture's run completed. -/
theorem status_lost_after_upload :
    ¬ ∀ (cards : List Card) (es : List (PageEv AnyTask)) (p : PageState (Ring TaskStatusUpdate))
        (card : Card) (row : TaskRunModel),
      (PageState.system AnyTask (ring _ 128) 7).run (.start cards) es = some p →
      Reestablished p → Missed 7 p card row →
      ∃ ev ∈ p.received, row.HasStatus ev.payload.status ∧ ev.payload.runId = row.runId := by
  intro hclaim
  have htold := hclaim _ _ uploadedPage bareCard completedRow (Option.some_get _).symm (by decide)
    missed_uploadedPage
  revert htold
  decide

end Dreamscroll
