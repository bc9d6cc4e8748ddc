import Dreamscroll.Sse.Stream
import Dreamscroll.Webui.Events
/-!
# The feed behind a stream

What the commits, the table and the outbox have to do with one another, for
the statuses of one key. Where the runs of the key are delivered
sequentially, its publications come in the order of its commits, and its
last commit is the row of its latest run.
-/

namespace Dreamscroll

variable {χ T : Type}

namespace EventsState

/-- The committed rows of a key, oldest first. -/
def commitsOf (s : EventsState χ) (k : StatusKey) : List TaskRunModel :=
  (s.commits.map Commit.row).filter fun row => row.statusKey = k

/-- What the current connection has yielded. -/
def yielded (s : EventsState χ) : List TaskStatusUpdate :=
  match s.conn with
  | .streaming _ _ st => statuses st.items
  | _ => []

/-- The commits of a key that are not published yet. -/
def unpublished (s : EventsState χ) (k : StatusKey) : List TaskRunModel :=
  s.outbox.filter fun row => row.statusKey = k

variable [Task T]

/-- **The runs of a key are delivered sequentially**: a run is inserted
after every earlier one is published, the latest alone is written, and its
rows are published in the order they were committed. -/
def Sequenced (k : StatusKey) (s : EventsState χ) : EventsEv T → EventsState χ → Prop
  | .insert run now, _ => (queuedRow run now).statusKey = k →
      (∀ row ∈ s.outbox, row.statusKey ≠ k) ∧
      ∀ row ∈ s.rows, row.statusKey = k → row.runNumber < run.runNumber
  | .write w, _ => ∀ row ∈ s.rows, row.runId = w.runId → row.statusKey = k →
      ∀ r ∈ s.rows, r.statusKey = k → r.runNumber ≤ row.runNumber
  | .publish i _, _ => ∀ row ∈ s.outbox[i]?, row.statusKey = k →
      ∀ r ∈ s.outbox.take i, r.statusKey ≠ k
  | _, _ => True

instance (k : StatusKey) (s : EventsState χ) :
    ∀ (e : EventsEv T) (s' : EventsState χ), Decidable (Sequenced k s e s')
  | .insert .., _ => inferInstanceAs (Decidable (_ → _))
  | .write _, _ => inferInstanceAs (Decidable (∀ row ∈ s.rows, _))
  | .publish .., _ => inferInstanceAs (Decidable (∀ row ∈ (_ : Option _), _))
  | .get _, _ => isTrue trivial
  | .catchup .., _ => isTrue trivial
  | .stream _, _ => isTrue trivial
  | .hangUp, _ => isTrue trivial

end EventsState

/-! ## What a step does to the feed -/

/-- The step commits `row`, leaving the table as `rows`. -/
inductive Commits [Task T] (s : EventsState χ) : EventsEv T → List TaskRunModel → TaskRunModel → Prop
  | insert {run : TaskRun T} {now : Timestamp} :
      violatedKeys s.rows (queuedRow run now) = [] →
      Commits s (.insert run now) (s.rows ++ [queuedRow run now]) (queuedRow run now)
  | write {w : StatusWrite} {row : TaskRunModel} : row ∈ s.rows → row.runId = w.runId →
      Commits s (.write w) (w.apply s.rows) (w.update row)

/-- What a step can make of the connection, the feed unchanged. -/
inductive ConnMove (B : Broadcast TaskStatusUpdate χ) (userId : ℤ) (s : EventsState χ)
    (e : EventsEv T) : Conn χ → Prop
  | keeps : ConnMove B userId s e s.conn
  | closes : ((∃ raw, e = .get raw) ∨ e = .hangUp) → ConnMove B userId s e .closed
  | subscribes {raw : Option String} {ids : List ℤ} : e = .get raw → s.conn.isOpen = false →
      parseCaptureIds raw = .ok ids → ConnMove B userId s e (.subscribed ids B.subscribe)
  | reads {ids : List ℤ} {rx : χ} {estimates : Option (String → Option TaskTimingEstimate)}
      {shutdown : Watch} {deadline : Instant} {heartbeatInterval : ℕ} {now : Instant} :
      s.conn = .subscribed ids rx →
      ConnMove B userId s e (.streaming ids (s.readCatchup userId ids estimates) (.start B now
        (makeSseStream userId (s.readCatchup userId ids estimates) rx shutdown deadline
          heartbeatInterval now)))
  | streams {ids : List ℤ} {catchup : Option (List TaskStatusUpdate)} {st st' : StreamState χ}
      {ev : StreamEv} : s.conn = .streaming ids catchup st →
      (StreamState.system B).step st ev = some st' → st'.sent = st.sent →
      ConnMove B userId s e (.streaming ids catchup st')

/-- **What a step can do**: commit a row, publish one, or move the
connection alone. -/
inductive FeedMove [Task T] (B : Broadcast TaskStatusUpdate χ) (userId : ℤ) (s : EventsState χ)
    (e : EventsEv T) : EventsState χ → Prop
  | commits {rows : List TaskRunModel} {row : TaskRunModel} : Commits s e rows row →
      FeedMove B userId s e (s.commit rows row)
  | publishes {i : ℕ} {row : TaskRunModel} {estimate : Option TaskTimingEstimate}
      {event : TaskStatusUpdate} : e = .publish i estimate → s.outbox[i]? = some row →
      TaskStatusUpdate.fromRow row estimate = some event →
      FeedMove B userId s e
        { s with outbox := s.outbox.eraseIdx i, conn := s.conn.broadcast B event }
  /-- A row of an unknown status is not published. -/
  | withholds {i : ℕ} {row : TaskRunModel} {estimate : Option TaskTimingEstimate} :
      e = .publish i estimate → s.outbox[i]? = some row →
      TaskStatusUpdate.fromRow row estimate = none →
      FeedMove B userId s e { s with outbox := s.outbox.eraseIdx i }
  | connects {conn : Conn χ} : ConnMove B userId s e conn →
      FeedMove B userId s e { s with conn := conn }

/-- Only a broadcast is a broadcast. -/
theorem sent_of_step {B : Broadcast TaskStatusUpdate χ} {st st' : StreamState χ} {ev : StreamEv}
    (hev : ∀ event, ev ≠ .send event) (h : (StreamState.system B).step st ev = some st') :
    st'.sent = st.sent := by
  simp only [StreamState.system] at h
  cases ev with
  | send event => exact absurd rfl (hev event)
  | next =>
    obtain ⟨p, -, rfl⟩ := Option.map_eq_some_iff.1 h
    rfl
  | wake branch =>
    simp only [StreamState.step, Option.ite_none_right_eq_some, Option.map_eq_some_iff] at h
    obtain ⟨-, p, -, rfl⟩ := h
    rfl
  | _ => cases h; rfl

section Moves

variable [Task T] {B : Broadcast TaskStatusUpdate χ} {userId : ℤ} {s s' : EventsState χ}
variable {e : EventsEv T}

/-- What an event does to the feed: a commit, a publication, a hint withheld,
or a move of the connection. -/
theorem feedMove_of_step (h : (EventsState.system T B userId).step s e = some s') :
    FeedMove B userId s e s' := by
  simp only [EventsState.system] at h
  cases e with
  | insert run now =>
    simp only [EventsState.step, Option.ite_none_right_eq_some, Option.some.injEq] at h
    rw [← h.2]
    exact .commits (.insert h.1)
  | write w =>
    simp only [EventsState.step] at h
    split at h
    · rename_i row hrow
      cases h
      obtain ⟨r, hr, rfl⟩ := Option.map_eq_some_iff.1 hrow
      have hid := List.find?_some hr
      exact .commits (.write (List.mem_of_find?_eq_some hr) (by simpa using hid))
    · cases h
      exact .connects .keeps
  | publish i estimate =>
    simp only [EventsState.step, Option.map_eq_some_iff] at h
    obtain ⟨row, hrow, rfl⟩ := h
    split
    · rename_i event hev
      exact .publishes rfl hrow hev
    · rename_i hev
      exact .withholds rfl hrow hev
  | get captureIds =>
    simp only [EventsState.step] at h
    split at h
    · cases h
    · rename_i hfree
      split at h
      · rename_i ids hids
        cases h
        exact .connects (.subscribes rfl (by simpa using hfree) hids)
      · cases h
        exact .connects (.closes (Or.inl ⟨_, rfl⟩))
  | catchup estimates shutdown deadline heartbeatInterval now =>
    simp only [EventsState.step] at h
    split at h
    · rename_i ids rx hconn
      cases h
      exact .connects (.reads hconn)
    · cases h
  | stream ev =>
    simp only [EventsState.step] at h
    split at h
    · cases h
    · rename_i ids catchup st hev hconn
      obtain ⟨st', hst, rfl⟩ := Option.map_eq_some_iff.1 h
      exact .connects (.streams hconn hst (sent_of_step hev hst))
    · cases h
  | hangUp =>
    simp only [EventsState.step, Option.some.injEq] at h
    rw [← h]
    exact .connects (.closes (Or.inr rfl))

end Moves

/-! ## The table -/

/-- Run ids are unique, and every status is a known one. -/
structure FeedRows (s : EventsState χ) : Prop where
  runIds : (s.rows.map TaskRunModel.runId).Nodup
  known : ∀ row ∈ s.rows, ∃ st, row.HasStatus st
  outbox_known : ∀ row ∈ s.outbox, ∃ st, row.HasStatus st

section Table

variable [Task T] {B : Broadcast TaskStatusUpdate χ} {userId : ℤ} {s s' : EventsState χ}
variable {e : EventsEv T} {rows : List TaskRunModel} {row r : TaskRunModel} {k : StatusKey}

/-- No row at the start. -/
theorem feedRows_start : FeedRows (EventsState.start : EventsState χ) :=
  ⟨List.nodup_nil, fun _ hr => absurd hr List.not_mem_nil, fun _ hr => absurd hr List.not_mem_nil⟩

/-- A run has one row. -/
theorem FeedRows.eq_of_runId (h : FeedRows s) (hr : r ∈ s.rows) (hrow : row ∈ s.rows)
    (heq : r.runId = row.runId) : r = row :=
  List.inj_on_of_nodup_map h.runIds hr hrow heq

/-- The committed row is in the table, and so are the rows of other runs. -/
theorem mem_of_commits (h : FeedRows s) (hc : Commits s e rows row) : row ∈ rows ∧
    (∀ r ∈ s.rows, r.runId ≠ row.runId → r ∈ rows) ∧
    ∀ r ∈ rows, r = row ∨ r ∈ s.rows ∧ r.runId ≠ row.runId := by
  cases hc with
  | @insert run now hkeys =>
    refine ⟨List.mem_append_right _ List.mem_cons_self,
      fun r hr _ => List.mem_append_left _ hr, fun r hr => ?_⟩
    rcases List.mem_append.1 hr with hr | hr
    · exact Or.inr ⟨hr, (violatedKeys_eq_nil.1 hkeys r hr).2.2⟩
    · exact Or.inl (List.mem_singleton.1 hr)
  | @write w row hrow hid =>
    have hupd : w.update row ∈ w.apply s.rows := StatusWrite.update_mem_apply hrow hid
    refine ⟨hupd, fun r hr hne => ?_, fun r hr => ?_⟩
    · rw [StatusWrite.update_runId, hid] at hne
      exact StatusWrite.mem_apply_of_ne hr hne
    · obtain ⟨r₀, hr₀, -, ⟨hne, rfl⟩ | ⟨heq, rfl⟩⟩ := StatusWrite.mem_apply hr
      · rw [StatusWrite.update_runId, hid]
        exact Or.inr ⟨hr₀, hne⟩
      · rw [h.eq_of_runId hr₀ hrow (heq.trans hid.symm)]
        exact Or.inl rfl

/-- A commit is of a new run, or of a run in the table with the same
identity. -/
theorem identity_of_commits (hc : Commits s e rows row) :
    (∀ r ∈ s.rows, r.runId ≠ row.runId) ∨
      ∃ r ∈ s.rows, r.runId = row.runId ∧ r.identity = row.identity := by
  cases hc with
  | insert hkeys => exact Or.inl fun r hr => (violatedKeys_eq_nil.1 hkeys r hr).2.2
  | write hrow hid =>
    exact Or.inr ⟨_, hrow, StatusWrite.update_runId.symm, StatusWrite.update_identity.symm⟩

/-- A committed row has a status. -/
theorem hasStatus_of_commits (hc : Commits s e rows row) : ∃ st, row.HasStatus st := by
  cases hc with
  | insert hkeys => exact ⟨.queued, rfl⟩
  | @write w row hrow hid => exact ⟨w.status, StatusWrite.update_statusCode⟩

/-- A commit keeps the rows in order. -/
theorem feedRows_commits (h : FeedRows s) (hc : Commits s e rows row) :
    FeedRows (s.commit rows row) := by
  refine ⟨?_, fun r hr => ?_, fun r hr => ?_⟩
  · cases hc with
    | insert hkeys =>
      change ((s.rows ++ [_]).map TaskRunModel.runId).Nodup
      rw [List.map_append, List.nodup_append]
      refine ⟨h.runIds, List.nodup_singleton _, ?_⟩
      intro id hid id' hid' heq
      obtain ⟨r, hr, rfl⟩ := List.mem_map.1 hid
      rw [List.map_singleton, List.mem_singleton] at hid'
      exact (violatedKeys_eq_nil.1 hkeys r hr).2.2 (heq.trans hid')
    | write hrow hid =>
      change ((StatusWrite.apply _ s.rows).map TaskRunModel.runId).Nodup
      rw [StatusWrite.map_runId_apply]
      exact h.runIds
  · rcases (mem_of_commits h hc).2.2 r hr with rfl | ⟨hr, -⟩
    · exact hasStatus_of_commits hc
    · exact h.known r hr
  · rcases List.mem_append.1 hr with hr | hr
    · exact h.outbox_known r hr
    · rw [List.mem_singleton.1 hr]
      exact hasStatus_of_commits hc

/-- Every event keeps the rows in order. -/
theorem feedRows_move (h : FeedRows s) (hm : FeedMove B userId s e s') : FeedRows s' := by
  cases hm with
  | commits hc => exact feedRows_commits h hc
  | publishes he hrow hev =>
    exact { h with outbox_known := fun r hr => h.outbox_known r (List.mem_of_mem_eraseIdx hr) }
  | withholds he hrow hev =>
    exact { h with outbox_known := fun r hr => h.outbox_known r (List.mem_of_mem_eraseIdx hr) }
  | connects hconn => exact { h with }

/-- What a status is about is read off the identity columns. -/
theorem statusKey_eq_of_identity (h : r.identity = row.identity) : r.statusKey = row.statusKey :=
  congrArg (fun i : RunIdentity => StatusKey.mk i.entityOwnerId i.entityType i.entityId i.taskType) h

/-- A status write does not change what the row is about. -/
theorem statusKey_update {w : StatusWrite} : (w.update row).statusKey = row.statusKey :=
  statusKey_eq_of_identity StatusWrite.update_identity

/-! ## The feed of one key -/

/-- **The feed of a key**: what is unpublished are its last commits, and
its last commit is the row of its latest run. -/
structure FeedInv (k : StatusKey) (s : EventsState χ) : Prop extends FeedRows s where
  pending : ∃ published, s.commitsOf k = published ++ s.unpublished k
  latest : ∀ row, (s.commitsOf k).getLast? = some row → IsLatest s.rows row
  none : s.commitsOf k = [] → ∀ r ∈ s.rows, r.statusKey ≠ k

/-- Nothing is pending at the start. -/
theorem feedInv_start (k : StatusKey) : FeedInv k (EventsState.start : EventsState χ) where
  toFeedRows := feedRows_start
  pending := ⟨[], rfl⟩
  latest _ hrow := absurd hrow (Option.some_ne_none _).symm
  none _ _ hr := absurd hr List.not_mem_nil

/-- The row of a commit, if it is of this key. -/
def ofKey (k : StatusKey) (row : TaskRunModel) : List TaskRunModel :=
  if row.statusKey = k then [row] else []

/-- The commits of a key, with one more. -/
theorem commitsOf_commit :
    (s.commit rows row).commitsOf k = s.commitsOf k ++ ofKey k row := by
  unfold EventsState.commitsOf ofKey
  change ((s.commits ++ [_]).map Commit.row).filter _ = _
  rw [List.map_append, List.filter_append]
  by_cases hk : row.statusKey = k
  · simp only [List.map_cons, List.map_nil, hk, decide_true, List.filter_cons_of_pos,
      List.filter_nil, if_true]
  · simp only [List.map_cons, List.map_nil, hk, decide_false, Bool.false_eq_true,
      not_false_eq_true, List.filter_cons_of_neg, List.filter_nil, if_false]

/-- What is to be published of a key, with one more commit. -/
theorem unpublished_commit :
    (s.commit rows row).unpublished k = s.unpublished k ++ ofKey k row := by
  unfold EventsState.unpublished ofKey
  change (s.outbox ++ [row]).filter _ = _
  rw [List.filter_append]
  by_cases hk : row.statusKey = k
  · simp only [hk, decide_true, List.filter_cons_of_pos, List.filter_nil, if_true]
  · simp only [hk, decide_false, Bool.false_eq_true, not_false_eq_true, List.filter_cons_of_neg,
      List.filter_nil, if_false]

/-- **A key's next publication is its first unpublished commit.** -/
theorem unpublished_publish {i : ℕ} {estimate : Option TaskTimingEstimate}
    (hrow : s.outbox[i]? = some row)
    (hseq : EventsState.Sequenced k s (.publish i estimate : EventsEv T) s') :
    s.unpublished k =
      ofKey k row ++ (s.outbox.eraseIdx i).filter fun row => row.statusKey = k := by
  obtain ⟨hi, hget⟩ := List.getElem?_eq_some_iff.1 hrow
  have hsplit : s.outbox = s.outbox.take i ++ row :: s.outbox.drop (i + 1) := by
    rw [← hget, ← List.drop_eq_getElem_cons hi, List.take_append_drop]
  unfold EventsState.unpublished ofKey
  rw [List.eraseIdx_eq_take_drop_succ, List.filter_append]
  conv_lhs => rw [hsplit, List.filter_append]
  by_cases hk : row.statusKey = k
  · have hnone : (s.outbox.take i).filter (fun row => row.statusKey = k) = [] :=
      List.filter_eq_nil_iff.2 fun r hr => by simpa using hseq row hrow hk r hr
    rw [hnone, if_pos hk, List.filter_cons_of_pos (by simpa using hk)]
    rfl
  · rw [if_neg hk, List.filter_cons_of_neg (by simpa using hk), List.nil_append]

/-- A commit of a key is about it. -/
theorem statusKey_of_mem_commitsOf (h : row ∈ s.commitsOf k) : row.statusKey = k := by
  simpa using (List.mem_filter.1 h).2

/-- A key that has a row has a latest one, its last commit. -/
theorem FeedInv.exists_latest (h : FeedInv k s) (hr : r ∈ s.rows) (hk : r.statusKey = k) :
    ∃ top, (s.commitsOf k).getLast? = some top ∧ IsLatest s.rows top := by
  cases hlast : (s.commitsOf k).getLast? with
  | none => exact absurd hk (h.none (List.getLast?_eq_none_iff.1 hlast) r hr)
  | some top => exact ⟨top, rfl, h.latest top hlast⟩

/-- **A row that is committed in sequence is the latest of its key.** -/
theorem lt_of_commits (h : FeedInv k s) (hc : Commits s e rows row)
    (hseq : EventsState.Sequenced k s e s') (hk : row.statusKey = k) (hr : r ∈ s.rows)
    (hrk : r.statusKey = k) (hne : r.runId ≠ row.runId) : r.runNumber < row.runNumber := by
  cases hc with
  | insert hkeys => exact (hseq hk).2 r hr hrk
  | @write w row hrow hid =>
    have hrowk : row.statusKey = k := (statusKey_update ▸ hk : row.statusKey = k)
    have hbelow := hseq row hrow hid hrowk
    obtain ⟨top, hlast, htop, hmax⟩ := h.exists_latest hrow hrowk
    have htopk := statusKey_of_mem_commitsOf (List.mem_of_getLast? hlast)
    have heq : row = top := by
      rcases hmax row hrow (hrowk.trans htopk.symm) with heq | hlt
      · exact heq
      · exact absurd (hbelow top htop htopk) (Nat.not_le.2 hlt)
    rw [StatusWrite.update_runId] at hne
    rw [StatusWrite.update_runNumber]
    rcases hmax r hr (hrk.trans htopk.symm) with rfl | hlt
    · exact absurd (congrArg TaskRunModel.runId heq.symm) hne
    · rw [heq]
      exact hlt

/-- A commit of another key leaves the latest row of this one. -/
theorem isLatest_of_commits_ne (h : FeedRows s) (hc : Commits s e rows row)
    (htop : IsLatest s.rows r) (hne : row.statusKey ≠ r.statusKey) : IsLatest rows r := by
  obtain ⟨-, hkeep, hback⟩ := mem_of_commits h hc
  have hid : r.runId ≠ row.runId := by
    intro heq
    rcases identity_of_commits hc with hfresh | ⟨r₀, hr₀, hid₀, hsame⟩
    · exact hfresh r htop.1 heq
    · rw [h.eq_of_runId hr₀ htop.1 (hid₀.trans heq.symm)] at hsame
      exact hne (statusKey_eq_of_identity hsame).symm
  refine ⟨hkeep r htop.1 hid, fun r' hr' hkey => ?_⟩
  rcases hback r' hr' with rfl | ⟨hr', -⟩
  · exact absurd hkey hne
  · exact htop.2 r' hr' hkey

/-- A commit adds to what is pending, behind everything of the same key. -/
theorem feedInv_commits (h : FeedInv k s) (hc : Commits s e rows row)
    (hseq : EventsState.Sequenced k s e s') : FeedInv k (s.commit rows row) := by
  obtain ⟨hmem, -, hback⟩ := mem_of_commits h.toFeedRows hc
  refine ⟨feedRows_commits h.toFeedRows hc, ?_, ?_, ?_⟩
  · obtain ⟨published, hpub⟩ := h.pending
    refine ⟨published, ?_⟩
    rw [commitsOf_commit, unpublished_commit, hpub, List.append_assoc]
  · intro last hlast
    rw [commitsOf_commit] at hlast
    unfold ofKey at hlast
    by_cases hk : row.statusKey = k
    · rw [if_pos hk, List.getLast?_concat, Option.some.injEq] at hlast
      rw [← hlast]
      refine ⟨hmem, fun r hr hsame => ?_⟩
      rcases hback r hr with rfl | ⟨hr, hne⟩
      · exact Or.inl rfl
      · exact Or.inr (lt_of_commits h hc hseq hk hr (hsame.trans hk) hne)
    · rw [if_neg hk, List.append_nil] at hlast
      have hlastk := statusKey_of_mem_commitsOf (List.mem_of_getLast? hlast)
      exact isLatest_of_commits_ne h.toFeedRows hc (h.latest last hlast) (hlastk ▸ hk)
  · intro hnil r hr
    rw [commitsOf_commit] at hnil
    obtain ⟨hold, hnew⟩ := List.append_eq_nil_iff.1 hnil
    rcases hback r hr with rfl | ⟨hr, -⟩
    · intro hk
      unfold ofKey at hnew
      rw [if_pos hk] at hnew
      cases hnew
    · exact h.none hold r hr

/-- **The feed of a key is kept by every step in sequence.** -/
theorem feedInv_move (h : FeedInv k s) (hm : FeedMove B userId s e s')
    (hseq : EventsState.Sequenced k s e s') : FeedInv k s' := by
  have htable := feedRows_move h.toFeedRows hm
  have hrest : ∀ {i : ℕ} {row : TaskRunModel} {estimate : Option TaskTimingEstimate},
      e = .publish i estimate → s.outbox[i]? = some row → ∃ published, s.commitsOf k =
        published ++ (s.outbox.eraseIdx i).filter fun row => row.statusKey = k := by
    rintro i row estimate rfl hrow
    obtain ⟨published, hpub⟩ := h.pending
    refine ⟨published ++ ofKey k row, ?_⟩
    rw [hpub, unpublished_publish hrow hseq, List.append_assoc]
  cases hm with
  | commits hc => exact feedInv_commits h hc hseq
  | publishes he hrow hev => exact ⟨htable, hrest he hrow, h.latest, h.none⟩
  | withholds he hrow hev => exact ⟨htable, hrest he hrow, h.latest, h.none⟩
  | connects hconn => exact ⟨htable, h.pending, h.latest, h.none⟩

end Table

end Dreamscroll
