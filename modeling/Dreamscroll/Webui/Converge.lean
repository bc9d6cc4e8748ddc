import Dreamscroll.Logic.Tasks
import Dreamscroll.Webui.Feed
/-!
# A status stream converges

The handler subscribes before it reads the catch-up, so every commit is
either in the snapshot it read or published after the subscription. What
the stream has yielded once it has forwarded everything therefore ends, for
each entity and task type, with the last status committed. With the two
steps swapped a status published between them is lost.
-/

namespace Dreamscroll

variable {χ T : Type} {B : Broadcast TaskStatusUpdate χ} {userId : ℤ}

/-! ## What a connection has been sent -/

/-- **Published since the subscription**: the commits of a key are those
published before, those whose events the receiver was sent, and those not
published yet. -/
structure SentSince (k : StatusKey) (s : EventsState χ) (events : List TaskStatusUpdate)
    (before pubs : List TaskRunModel) : Prop where
  commits_eq : s.commitsOf k = before ++ pubs ++ s.unpublished k
  announced : List.Forall₂ Announces pubs (events.filter fun ev => ev.Concerns k)

/-- The catch-up replays the last of the commits it saw. -/
structure Replays (k : StatusKey) (seen : List TaskRunModel) (catchup : List TaskStatusUpdate) :
    Prop where
  last : ∀ row, seen.getLast? = some row →
    ∃ ev, Announces row ev ∧ catchup.filter (fun ev => ev.Concerns k) = [ev]
  none : seen = [] → catchup.filter (fun ev => ev.Concerns k) = []

/-- What is known of a connection. -/
def ConnInv (B : Broadcast TaskStatusUpdate χ) (userId : ℤ) (k : StatusKey) (s : EventsState χ) :
    Conn χ → Prop
  | .closed => True
  | .subscribed _ rx => ∃ before pubs, SentSince k s (B.unread rx) before pubs
  | .streaming ids catchup st => StreamInv B userId (catchup.getD []) st ∧
      ∃ before pubs seen, SentSince k s st.sent before pubs ∧ before <+: seen ∧
        seen <+: s.commitsOf k ∧
        ∀ events, catchup = some events → k.entityId ∈ ids → Replays k seen events

variable {k : StatusKey} {s s' : EventsState χ} {events : List TaskStatusUpdate}
variable {before pubs seen : List TaskRunModel} {row : TaskRunModel} {rows : List TaskRunModel}

theorem SentSince.commit (h : SentSince k s events before pubs) :
    SentSince k (s.commit rows row) events before pubs where
  commits_eq := by
    rw [commitsOf_commit, unpublished_commit, h.commits_eq, List.append_assoc]
  announced := h.announced

theorem SentSince.reconnect (h : SentSince k s events before pubs) {conn : Conn χ} :
    SentSince k { s with conn := conn } events before pubs :=
  ⟨h.commits_eq, h.announced⟩

/-- A commit reaches no connection. -/
theorem ConnInv.commit {conn : Conn χ} (h : ConnInv B userId k s conn) :
    ConnInv B userId k (s.commit rows row) conn := by
  cases conn with
  | closed => trivial
  | subscribed ids rx =>
    obtain ⟨before, pubs, hsent⟩ := h
    exact ⟨before, pubs, hsent.commit⟩
  | streaming ids catchup st =>
    obtain ⟨hstream, before, pubs, seen, hsent, hbefore, hseen, hreplay⟩ := h
    refine ⟨hstream, before, pubs, seen, hsent.commit, hbefore, ?_, hreplay⟩
    rw [commitsOf_commit]
    exact hseen.trans (List.prefix_append ..)

theorem SentSince.publish (h : SentSince k s events before pubs) {event : TaskStatusUpdate}
    {outbox : List TaskRunModel} {conn : Conn χ} (hev : Announces row event)
    (hout : s.unpublished k = ofKey k row ++ outbox.filter fun row => row.statusKey = k) :
    SentSince k { s with outbox := outbox, conn := conn } (events ++ [event]) before
      (pubs ++ ofKey k row) where
  commits_eq := by
    change s.commitsOf k = _ ++ outbox.filter _
    rw [h.commits_eq, hout, List.append_assoc, List.append_assoc, List.append_assoc]
  announced := by
    rw [List.filter_append]
    refine List.rel_append h.announced ?_
    unfold ofKey
    by_cases hk : row.statusKey = k
    · rw [if_pos hk, List.filter_cons_of_pos (by simpa using hev.concerns.2 hk)]
      exact .cons hev .nil
    · rw [if_neg hk, List.filter_cons_of_neg (by simpa using fun hc => hk (hev.concerns.1 hc))]
      exact .nil

/-- **A publication reaches the connection.** -/
theorem ConnInv.publish {conn : Conn χ} (h : ConnInv B userId k s conn) {event : TaskStatusUpdate}
    {outbox : List TaskRunModel} {conn' : Conn χ} (hev : Announces row event)
    (hout : s.unpublished k = ofKey k row ++ outbox.filter fun row => row.statusKey = k) :
    ConnInv B userId k { s with outbox := outbox, conn := conn' } (conn.broadcast B event) := by
  cases conn with
  | closed => trivial
  | subscribed ids rx =>
    obtain ⟨before, pubs, hsent⟩ := h
    refine ⟨before, pubs ++ ofKey k row, ?_⟩
    rw [B.unread_send]
    exact hsent.publish hev hout
  | streaming ids catchup st =>
    obtain ⟨hstream, before, pubs, seen, hsent, hbefore, hseen, hreplay⟩ := h
    exact ⟨streamInv_step hstream (step_send st event), before, pubs ++ ofKey k row, seen,
      hsent.publish hev hout, hbefore, hseen, hreplay⟩

/-- The catch-up sees every commit so far. -/
theorem replays_readCatchup (h : FeedInv k s) (howner : k.entityOwnerId = userId)
    (htype : k.entityType = "capture") {ids : List ℤ}
    {estimates : Option (String → Option TaskTimingEstimate)}
    (hread : s.readCatchup userId ids estimates = some events) (hids : k.entityId ∈ ids) :
    Replays k (s.commitsOf k) events := by
  unfold EventsState.readCatchup at hread
  rw [if_neg (List.ne_nil_of_mem hids)] at hread
  obtain ⟨estimates, -, rfl⟩ := Option.map_eq_some_iff.1 hread
  constructor
  · intro row hrow
    have hlatest := h.latest row hrow
    have hk := statusKey_of_mem_commitsOf (List.mem_of_getLast? hrow)
    obtain ⟨st, hst⟩ := h.known row hlatest.1
    have hid : row.entityId ∈ ids := by
      rw [← hk] at hids
      exact hids
    obtain ⟨ev, hev, hfilter⟩ := events_of_isLatest estimates hlatest hst hid
    refine ⟨ev, hev, ?_⟩
    rw [← howner, ← htype, ← hk]
    exact hfilter
  · intro hnil
    exact events_of_no_rows (h.none hnil)

section Steps

variable [Task T] {e : EventsEv T}

/-- **What is known of a connection is kept by every step in sequence.** -/
theorem connInv_move (hfeed : FeedInv k s) (howner : k.entityOwnerId = userId)
    (htype : k.entityType = "capture") (h : ConnInv B userId k s s.conn)
    (hm : FeedMove B userId s e s') (hseq : EventsState.Sequenced k s e s') :
    ConnInv B userId k s' s'.conn := by
  cases hm with
  | commits hc => exact h.commit
  | @publishes i row estimate event he hrow hev =>
    subst he
    exact h.publish ⟨estimate, hev⟩ (unpublished_publish hrow hseq)
  | @withholds i row estimate he hrow hev =>
    obtain ⟨st, hst⟩ := hfeed.outbox_known row (List.mem_of_getElem? hrow)
    obtain ⟨ev, hsome⟩ := exists_fromRow hst estimate
    rw [hev] at hsome
    cases hsome
  | connects hconn =>
    cases hconn with
    | keeps => exact h
    | closes he => trivial
    | subscribes he hfree hids =>
      obtain ⟨published, hpub⟩ := hfeed.pending
      refine ⟨published, [], ?_, ?_⟩
      · rw [List.append_nil]
        exact hpub
      · rw [B.unread_subscribe]
        exact .nil
    | @reads ids rx estimates shutdown deadline heartbeatInterval now hsub =>
      rw [hsub] at h
      obtain ⟨before, pubs, hsent⟩ := h
      refine ⟨streamInv_start (makeSseStream userId (s.readCatchup userId ids estimates) rx shutdown
        deadline heartbeatInterval now) rfl now, before, pubs, s.commitsOf k, hsent.reconnect, ?_,
        List.prefix_refl _, fun events hread hids =>
          replays_readCatchup hfeed howner htype hread hids⟩
      rw [hsent.commits_eq, List.append_assoc]
      exact List.prefix_append ..
    | streams hst hstep hsame =>
      rw [hst] at h
      obtain ⟨hstream, before, pubs, seen, hsent, hrest⟩ := h
      refine ⟨streamInv_step hstream hstep, before, pubs, seen, ?_, hrest⟩
      rw [hsame]
      exact hsent.reconnect

theorem connInv_run (howner : k.entityOwnerId = userId) (htype : k.entityType = "capture")
    {es : List (EventsEv T)} (h : (EventsState.system T B userId).run .start es = some s)
    (hd : (EventsState.system T B userId).Along (EventsState.Sequenced k) .start es) :
    FeedInv k s ∧ ConnInv B userId k s s.conn :=
  System.run_inv_along (I := fun s => FeedInv k s ∧ ConnInv B userId k s s.conn)
    (fun _ _ _ hI hstep hseq => by
      have hm := feedMove_of_step hstep
      exact ⟨feedInv_move hI.1 hm hseq, connInv_move hI.1 howner htype hI.2 hm hseq⟩)
    ⟨feedInv_start k, trivial⟩ h hd

end Steps

/-! ## Convergence -/

theorem getLast?_of_forall₂ {α β : Type} {R : α → β → Prop} {l : List α} {l' : List β} {a : α}
    (h : List.Forall₂ R l l') (ha : l.getLast? = some a) : ∃ b, l'.getLast? = some b ∧ R a b := by
  induction h with
  | nil => cases ha
  | @cons x y l l' hxy hl ih =>
    cases hl with
    | nil =>
      cases ha
      exact ⟨y, rfl, hxy⟩
    | cons hxy' hl' =>
      rw [List.getLast?_cons_cons] at ha
      obtain ⟨b, hb, hR⟩ := ih ha
      exact ⟨b, by rw [List.getLast?_cons_cons]; exact hb, hR⟩

/-- Every event of the key is one of the user's. -/
theorem filter_concerns_ownEvents (howner : k.entityOwnerId = userId) :
    (ownEvents userId events).filter (fun ev => ev.Concerns k) =
      events.filter fun ev => ev.Concerns k := by
  unfold ownEvents
  rw [List.filter_filter]
  refine List.filter_congr fun ev _ => ?_
  rw [Bool.and_eq_left_iff_imp]
  intro hc
  rw [decide_eq_true_eq] at hc ⊢
  rw [← howner]
  exact hc.1

/-- What a stream that has forwarded everything has yielded. -/
theorem statuses_of_drained {catchup : List TaskStatusUpdate} {st : StreamState χ}
    (h : StreamInv B userId catchup st) (hlive : st.stream.phase ≠ .ended)
    (hcatchup : st.stream.catchup = []) (hunread : B.unread st.stream.rx = []) :
    statuses st.items = catchup ++ ownEvents userId st.sent := by
  obtain ⟨done, live, received, hf⟩ := h
  have hdone : catchup = done := by rw [hf.catchup_eq, hcatchup, List.append_nil]
  have hall : st.sent = received := by rw [hf.unread_eq hlive, hunread, List.append_nil]
  rw [hf.items_eq, statuses_append, statuses_map_taskStatus, hf.statuses_eq, hdone, hall]

/-- **The stream has converged** on the last committed status of the key:
where its catch-up was read and included the entity, everything of the key
is published, and it has not ended and has forwarded everything, the last
event it yielded for the key carries the last committed status. -/
def Converged (B : Broadcast TaskStatusUpdate χ) (k : StatusKey) (s : EventsState χ) : Prop :=
  ∀ ids events st row, s.conn = .streaming ids (some events) st → k.entityId ∈ ids →
    s.unpublished k = [] → st.stream.phase ≠ .ended → st.stream.catchup = [] →
    B.unread st.stream.rx = [] → (s.commitsOf k).getLast? = some row →
    ∃ ev, ((statuses st.items).filter fun ev => ev.Concerns k).getLast? = some ev ∧
      row.HasStatus ev.payload.status ∧ ev.payload.runId = row.runId ∧
      ev.payload.attempts = row.attempts

theorem converged_of_inv (howner : k.entityOwnerId = userId)
    (h : ConnInv B userId k s s.conn) : Converged B k s := by
  intro ids events st row hconn hids hout hlive hcatchup hunread hlast
  rw [hconn] at h
  obtain ⟨hstream, before, pubs, seen, hsent, hbefore, hseen, hreplay⟩ := h
  have hitems := statuses_of_drained hstream hlive hcatchup hunread
  have hcommits := hsent.commits_eq
  rw [hout, List.append_nil] at hcommits
  obtain ⟨ev, hev, hyield⟩ : ∃ ev, Announces row ev ∧
      ((statuses st.items).filter fun ev => ev.Concerns k).getLast? = some ev := by
    rw [hitems, Option.getD_some, List.filter_append, filter_concerns_ownEvents howner]
    by_cases hpubs : pubs = []
    · -- nothing was published since: the catch-up saw the last commit
      have hall : seen = s.commitsOf k := by
        rw [hpubs, List.append_nil] at hcommits
        exact hseen.eq_of_length_le (hcommits ▸ hbefore.length_le)
      obtain ⟨ev, hev, hfilter⟩ := (hreplay events rfl hids).last row (hall ▸ hlast)
      have hnone : st.sent.filter (fun ev => ev.Concerns k) = [] := by
        have hannounced := hsent.announced
        rw [hpubs] at hannounced
        exact List.forall₂_nil_left_iff.1 hannounced
      refine ⟨ev, hev, ?_⟩
      rw [hfilter, hnone]
      rfl
    · have hlast' : pubs.getLast? = some row := by
        rw [hcommits, List.getLast?_append_of_ne_nil _ hpubs] at hlast
        exact hlast
      obtain ⟨ev, hev, hann⟩ := getLast?_of_forall₂ hsent.announced hlast'
      refine ⟨ev, hann, ?_⟩
      rw [List.getLast?_append, hev]
      rfl
  exact ⟨ev, hyield, hev.hasStatus, hev.runId, hev.attempts⟩

/-! ## The two steps swapped -/

/-- The handler as it is not: the catch-up is read first. -/
structure CatchupFirst (χ : Type) where
  base : EventsState χ
  /-- The catch-up of a request that has not subscribed yet. -/
  read : Option (List ℤ × Option (List TaskStatusUpdate))

/-- What happens to a handler that reads before it subscribes. -/
inductive CatchupFirstEv (T : Type)
  /-- Whatever is not the handler: commits, publications, the stream. -/
  | feed (e : EventsEv T)
  | get (captureIds : Option String) (estimates : Option (String → Option TaskTimingEstimate))
  | subscribe (shutdown : Watch) (deadline : Instant) (heartbeatInterval : ℕ) (now : Instant)

namespace CatchupFirst

/-- Nothing has happened yet. -/
def start : CatchupFirst χ := ⟨.start, none⟩

variable [Task T]

/-- What an event does. -/
def step (B : Broadcast TaskStatusUpdate χ) (userId : ℤ) (s : CatchupFirst χ) :
    CatchupFirstEv T → Option (CatchupFirst χ)
  | .feed (.get _) => none
  | .feed (.catchup ..) => none
  | .feed e => (s.base.step B userId e).map fun base => { s with base := base }
  | .get captureIds estimates =>
    if s.base.conn.isOpen then none
    else match parseCaptureIds captureIds with
      | .ok ids => some { s with read := some (ids, s.base.readCatchup userId ids estimates) }
      | .error _ => some s
  | .subscribe shutdown deadline heartbeatInterval now => s.read.map fun read =>
      { base := { s.base with conn := .streaming read.1 read.2 (.start B now
          (makeSseStream userId read.2 B.subscribe shutdown deadline heartbeatInterval now)) }
        read := none }

/-- That handler with its server. -/
def system (T : Type) [Task T] (B : Broadcast TaskStatusUpdate χ) (userId : ℤ) :
    System (CatchupFirst χ) (CatchupFirstEv T) := ⟨step B userId⟩

/-- The runs of the key are delivered sequentially here as well. -/
def Sequenced (k : StatusKey) (s : CatchupFirst χ) : CatchupFirstEv T → CatchupFirst χ → Prop
  | .feed e, s' => EventsState.Sequenced k s.base e s'.base
  | _, _ => True

instance (k : StatusKey) (s : CatchupFirst χ) :
    ∀ (e : CatchupFirstEv T) (s' : CatchupFirst χ), Decidable (Sequenced k s e s')
  | .feed e, s' => inferInstanceAs (Decidable (EventsState.Sequenced k s.base e s'.base))
  | .get .., _ => isTrue trivial
  | .subscribe .., _ => isTrue trivial

end CatchupFirst

/-- The illuminate run of capture 42 of user 7. -/
def illuminateRun : TaskRun AnyTask :=
  TaskRun.new (.illuminate ⟨42, 7, "model", .v2, none, true⟩) 1 "a"

/-- What its statuses are about. -/
def illuminateKey : StatusKey := ⟨7, "capture", 42, "illuminate"⟩

/-- A status published after the catch-up was read and before the
subscription reaches nobody. -/
def lostStatus : List (CatchupFirstEv AnyTask) :=
  [.feed (.insert illuminateRun 0), .feed (.publish 0 none),
    .get (some "42") (some fun _ => none), .feed (.write (markInProgress illuminateRun 1 5)),
    .feed (.publish 0 none), .subscribe ⟨false, false, false⟩ 180 20 0, .feed (.stream .next),
    .feed (.stream .next)]

theorem catchup_first_loses_status :
    ∃ es t, (CatchupFirst.system AnyTask (ring TaskStatusUpdate 128) 7).run .start es = some t ∧
      (CatchupFirst.system AnyTask (ring TaskStatusUpdate 128) 7).Along
        (CatchupFirst.Sequenced illuminateKey) .start es ∧
      ¬ Converged (ring TaskStatusUpdate 128) illuminateKey t.base := by
  refine ⟨lostStatus, _, (Option.some_get (by decide)).symm, by decide, fun hconv => ?_⟩
  obtain ⟨ev, hev, hstatus, -⟩ := hconv _ _ _ _ rfl (by decide) (by decide) (by decide)
    (by decide) (by decide) rfl
  -- the stream yielded `Queued` last, the row is `InProgress`
  have hlast := congrArg (Option.map fun ev => ev.payload.status) hev
  have hqueued : some ev.payload.status = some .queued := hlast.symm.trans (by decide)
  rw [Option.some.inj hqueued] at hstatus
  exact absurd hstatus (by decide)

/-- **A status stream converges.** In every run in which the runs of a
requested capture of the user are delivered sequentially, a stream that has
forwarded everything has yielded the last committed status last. With the
catch-up read before the subscription this fails. -/
theorem status_stream_converges [Task T] (B : Broadcast TaskStatusUpdate χ) (userId : ℤ)
    (k : StatusKey) (howner : k.entityOwnerId = userId) (htype : k.entityType = "capture")
    {es : List (EventsEv T)} {s : EventsState χ}
    (h : (EventsState.system T B userId).run .start es = some s)
    (hd : (EventsState.system T B userId).Along (EventsState.Sequenced k) .start es) :
    Converged B k s ∧
      ∃ es' t, (CatchupFirst.system AnyTask (ring TaskStatusUpdate 128) 7).run .start es' =
          some t ∧
        (CatchupFirst.system AnyTask (ring TaskStatusUpdate 128) 7).Along
          (CatchupFirst.Sequenced illuminateKey) .start es' ∧
        ¬ Converged (ring TaskStatusUpdate 128) illuminateKey t.base :=
  ⟨converged_of_inv howner (connInv_run howner htype h hd).2, catchup_first_loses_status⟩

/-- A status written between the subscription and the snapshot is yielded
twice, and stays the last. -/
theorem status_stream_converges_handoff :
    let es : List (EventsEv AnyTask) := [.insert illuminateRun 0, .publish 0 none,
      .get (some "42"), .write (markInProgress illuminateRun 1 5),
      .catchup (some fun _ => none) ⟨false, false, false⟩ 180 20 0, .publish 0 none,
      .stream .next, .stream .next, .stream (.wake .received)]
    let s := ((EventsState.system AnyTask (ring _ 128) 7).run .start es).get (by decide)
    s.yielded.map (fun ev => ev.payload.status) = [.inProgress, .inProgress] ∧
      Converged (ring _ 128) illuminateKey s :=
  ⟨by decide, (status_stream_converges (ring TaskStatusUpdate 128) 7 illuminateKey rfl rfl
    (Option.some_get _).symm (by decide)).1⟩

end Dreamscroll
