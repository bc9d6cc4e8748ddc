import Dreamscroll.Sse.Http
/-!
# What a stream yields

First the catch-up events, then the user's own events in the order they
were broadcast, with none left out and none twice, and heartbeats among
them. A stream that observes a lag, the end of the channel, its deadline or
a shutdown ends there, so what it has yielded is always gapless.

The branches of the `select!` are not ordered: a deadline that has passed
ends the stream when its branch is taken, and an event that is ready may
still be taken before it.
-/

namespace Dreamscroll

variable {χ : Type} {B : Broadcast TaskStatusUpdate χ}

/-! ## Frames -/

/-- Somewhere in the value, an object has this key. -/
inductive Json.HasKey (key : String) : Json → Prop
  | field {fields : List (String × Json)} {value : Json} :
      (key, value) ∈ fields → HasKey key (.obj fields)
  | inField {fields : List (String × Json)} {name : String} {value : Json} :
      (name, value) ∈ fields → HasKey key value → HasKey key (.obj fields)
  | inItem {items : List Json} {value : Json} :
      value ∈ items → HasKey key value → HasKey key (.arr items)

variable {key : String}

/-- The keys of an object are those of its fields, and those inside them. -/
theorem Json.hasKey_obj {fields : List (String × Json)} :
    (Json.obj fields).HasKey key ↔ ∃ field ∈ fields, field.1 = key ∨ field.2.HasKey key := by
  constructor
  · intro h
    cases h with
    | field hmem => exact ⟨_, hmem, Or.inl rfl⟩
    | inField hmem h => exact ⟨_, hmem, Or.inr h⟩
  · rintro ⟨⟨name, value⟩, hmem, rfl | h⟩
    · exact .field hmem
    · exact .inField hmem h

@[simp] theorem Json.not_hasKey_int (n : ℤ) : ¬ (Json.int n).HasKey key := nofun

@[simp] theorem Json.not_hasKey_str (s : String) : ¬ (Json.str s).HasKey key := nofun

variable (rfc3339 : Timestamp → String)

/-- A payload says nothing of the owner. -/
theorem TaskStatusPayload.not_hasKey_owner (payload : TaskStatusPayload) :
    ¬ (payload.toJson rfc3339).HasKey "entity_owner_id" := by
  unfold TaskStatusPayload.toJson TaskRunStatus.toJson
  cases payload.processingStartedAt <;> cases payload.estimatedDurationMsP50 <;>
    simp [Json.hasKey_obj]

/-- **No frame tells the owner.** -/
theorem HttpStreamItem.not_hasKey_owner (item : HttpStreamItem) :
    ¬ (item.frame rfc3339).data.HasKey "entity_owner_id" := by
  cases item with
  | heartbeat => exact Json.not_hasKey_int 1
  | taskStatus update =>
    have hpayload := update.payload.not_hasKey_owner rfc3339
    simp [HttpStreamItem.frame, filteredJson, TaskStatusUpdate.toJson, Json.hasKey_obj, hpayload]

/-! ## What has been forwarded -/

/-- The event of an item, none of a heartbeat. -/
def HttpStreamItem.update? : HttpStreamItem → Option TaskStatusUpdate
  | .heartbeat => none
  | .taskStatus update => some update

/-- The events of a list of items, heartbeats ignored. -/
def statuses (items : List HttpStreamItem) : List TaskStatusUpdate :=
  items.filterMap HttpStreamItem.update?

/-- The events of one user's entities. -/
def ownEvents (userId : ℤ) (events : List TaskStatusUpdate) : List TaskStatusUpdate :=
  events.filter fun event => event.entityOwnerId = some userId

variable {userId : ℤ} {items items' : List HttpStreamItem} {events events' : List TaskStatusUpdate}

/-- The statuses of two stretches of a stream. -/
@[simp] theorem statuses_append : statuses (items ++ items') = statuses items ++ statuses items' :=
  List.filterMap_append

/-- Statuses sent as items are read back. -/
@[simp] theorem statuses_map_taskStatus :
    statuses (events.map HttpStreamItem.taskStatus) = events := by
  unfold statuses
  rw [List.filterMap_map]
  exact List.filterMap_some

/-- The events of a user, in two stretches. -/
@[simp] theorem ownEvents_append :
    ownEvents userId (events ++ events') = ownEvents userId events ++ ownEvents userId events' :=
  List.filter_append ..

/-! ## One poll -/

/-- **What a poll can do.** -/
inductive Polled (B : Broadcast TaskStatusUpdate χ) (now : Instant) (st : SseStream χ) :
    SseStream χ × Option HttpStreamItem → Prop
  | catchup {update : TaskStatusUpdate} {rest : List TaskStatusUpdate} : st.phase = .check →
      st.catchup = update :: rest →
      Polled B now st ({ st with catchup := rest }, some (.taskStatus update))
  | waits : st.phase = .check → st.catchup = [] → st.shutdown.value = false →
      Polled B now st ({ st with phase := .select }, none)
  | ends : st.phase ≠ .ended → (st.phase = .check → st.catchup = []) →
      Polled B now st (st.ended, none)
  | beats : st.phase = .select → st.nextHeartbeat ≤ now →
      Polled B now st
        ({ st with nextHeartbeat := now + st.heartbeatInterval, phase := .check }, some .heartbeat)
  | looks {shutdown : Watch} : st.phase = .select →
      Polled B now st ({ st with shutdown := shutdown, phase := .check }, none)
  | forwards {event : TaskStatusUpdate} {rx : χ} : st.phase = .select →
      B.recv st.rx = some (.ok event, rx) → event.entityOwnerId = some st.userId →
      Polled B now st ({ st with rx := rx, phase := .check }, some (.taskStatus event))
  | skips {event : TaskStatusUpdate} {rx : χ} : st.phase = .select →
      B.recv st.rx = some (.ok event, rx) → event.entityOwnerId ≠ some st.userId →
      Polled B now st ({ st with rx := rx, phase := .check }, none)

variable {now : Instant} {st : SseStream χ} {p : SseStream χ × Option HttpStreamItem} {branch : Wake}

/-- A poll that finds something to send at once. -/
theorem polled_of_next (h : st.next = some p) : Polled B now st p := by
  unfold SseStream.next at h
  split at h
  · rename_i update rest hphase hcatchup
    cases h
    exact .catchup hphase hcatchup
  · rename_i hphase hcatchup
    split at h
    · cases h
      exact .ends (by rw [hphase]; nofun) fun _ => hcatchup
    · rename_i hshutdown
      cases h
      exact .waits hphase hcatchup (by simpa using hshutdown)
  · cases h

/-- A poll that is woken while it selects. -/
theorem polled_of_wake (hphase : st.phase = .select) (h : st.wake B now branch = some p) :
    Polled B now st p := by
  have hends : Polled B now st (st.ended, none) :=
    .ends (by rw [hphase]; nofun) (by rw [hphase]; nofun)
  cases branch with
  | deadline =>
    simp only [SseStream.wake, Option.ite_none_right_eq_some, Option.some.injEq] at h
    rw [← h.2]
    exact hends
  | heartbeat =>
    simp only [SseStream.wake, Option.ite_none_right_eq_some, Option.some.injEq] at h
    rw [← h.2]
    exact .beats hphase h.1
  | shutdown =>
    simp only [SseStream.wake] at h
    split at h
    · cases h
    · cases h
      exact hends
    · split at h
      · cases h
        exact hends
      · cases h
        exact .looks hphase
  | received =>
    simp only [SseStream.wake] at h
    split at h
    · cases h
    · rename_i event rx hrecv
      split at h
      · rename_i hown
        cases h
        exact .forwards hphase hrecv hown
      · rename_i hown
        cases h
        exact .skips hphase hrecv hown
    all_goals
      cases h
      exact hends

/-! ## A whole run -/

/-- What a stream has done: the catch-up events it has yielded, the items
that followed them, and the broadcast events it has received. -/
structure Forwards (B : Broadcast TaskStatusUpdate χ) (userId : ℤ) (catchup : List TaskStatusUpdate)
    (s : StreamState χ) (done : List TaskStatusUpdate) (live : List HttpStreamItem)
    (received : List TaskStatusUpdate) : Prop where
  user : s.stream.userId = userId
  catchup_eq : catchup = done ++ s.stream.catchup
  items_eq : s.items = done.map .taskStatus ++ live
  catchup_first : s.stream.catchup ≠ [] → live = []
  check_first : s.stream.phase = .select → s.stream.catchup = []
  statuses_eq : statuses live = ownEvents userId received
  received_prefix : received <+: s.sent
  unread_eq : s.stream.phase ≠ .ended → s.sent = received ++ B.unread s.stream.rx

/-- The stream has forwarded what it received. -/
def StreamInv (B : Broadcast TaskStatusUpdate χ) (userId : ℤ) (catchup : List TaskStatusUpdate)
    (s : StreamState χ) : Prop :=
  ∃ done live received, Forwards B userId catchup s done live received

variable {catchup : List TaskStatusUpdate} {s s' : StreamState χ} {e : StreamEv}

/-- The invariant of a stream that has just been opened. -/
theorem streamInv_start (st : SseStream χ) (hphase : st.phase = .check) (now : Instant) :
    StreamInv B st.userId st.catchup (.start B now st) :=
  ⟨[], [], [], {
    user := rfl
    catchup_eq := rfl
    items_eq := rfl
    catchup_first := fun _ => rfl
    check_first := fun h => by rw [StreamState.start, hphase] at h; cases h
    statuses_eq := rfl
    received_prefix := List.nil_prefix
    unread_eq := fun _ => rfl }⟩

/-- **A poll forwards what it receives.** -/
theorem streamInv_polled (hI : StreamInv B userId catchup s)
    (hp : Polled B s.now s.stream p) : StreamInv B userId catchup (s.yielded p) := by
  obtain ⟨done, live, received, h⟩ := hI
  cases hp with
  | @catchup update rest hphase hcatchup =>
    -- nothing live is sent while catch-up is left
    have hlive : live = [] := h.catchup_first (by rw [hcatchup]; nofun)
    refine ⟨done ++ [update], [], received, { h with
      catchup_eq := ?_, items_eq := ?_, catchup_first := fun _ => rfl
      check_first := fun hsel => ?_, statuses_eq := ?_ }⟩
    · rw [h.catchup_eq, hcatchup, List.append_assoc, List.singleton_append]
      rfl
    · simp only [StreamState.yielded, h.items_eq, hlive, Option.toList_some, List.append_nil,
        List.map_append, List.map_cons, List.map_nil]
    · rw [StreamState.yielded, hphase] at hsel
      cases hsel
    · rw [← hlive]
      exact h.statuses_eq
  | waits hphase hcatchup hshutdown =>
    refine ⟨done, live, received, { h with
      items_eq := ?_, check_first := fun _ => hcatchup, unread_eq := fun _ => ?_ }⟩
    · simp only [StreamState.yielded, Option.toList_none, List.append_nil, h.items_eq]
    · exact h.unread_eq (by rw [hphase]; nofun)
  | ends hphase hcatchup =>
    refine ⟨done, live, received, { h with
      items_eq := ?_, check_first := nofun, unread_eq := fun hne => absurd rfl hne }⟩
    simp only [StreamState.yielded, Option.toList_none, List.append_nil, h.items_eq]
  | beats hphase hdue =>
    have hcatchup := h.check_first hphase
    refine ⟨done, live ++ [.heartbeat], received, { h with
      items_eq := ?_, catchup_first := fun hne => absurd hcatchup hne, check_first := nofun
      statuses_eq := ?_, unread_eq := fun _ => ?_ }⟩
    · simp only [StreamState.yielded, Option.toList_some, h.items_eq, List.append_assoc]
    · rw [statuses_append, h.statuses_eq]
      exact List.append_nil _
    · exact h.unread_eq (by rw [hphase]; nofun)
  | looks hphase =>
    refine ⟨done, live, received, { h with
      items_eq := ?_, check_first := nofun, unread_eq := fun _ => ?_ }⟩
    · simp only [StreamState.yielded, Option.toList_none, List.append_nil, h.items_eq]
    · exact h.unread_eq (by rw [hphase]; nofun)
  | @forwards event rx hphase hrecv hown =>
    have hcatchup := h.check_first hphase
    have hsent : s.sent = received ++ [event] ++ B.unread rx := by
      rw [h.unread_eq (by rw [hphase]; nofun), B.recv_ok _ _ _ hrecv, List.append_assoc,
        List.singleton_append]
    refine ⟨done, live ++ [.taskStatus event], received ++ [event], { h with
      items_eq := ?_, catchup_first := fun hne => absurd hcatchup hne, check_first := nofun
      statuses_eq := ?_, received_prefix := ⟨_, hsent.symm⟩, unread_eq := fun _ => hsent }⟩
    · simp only [StreamState.yielded, Option.toList_some, h.items_eq, List.append_assoc]
    · have hmine : ownEvents userId [event] = [event] := by
        rw [← h.user]
        exact List.filter_eq_self.2 (by simpa using hown)
      rw [statuses_append, h.statuses_eq, ownEvents_append, hmine]
      rfl
  | @skips event rx hphase hrecv hother =>
    -- another user's event is read off the channel and not sent
    have hsent : s.sent = received ++ [event] ++ B.unread rx := by
      rw [h.unread_eq (by rw [hphase]; nofun), B.recv_ok _ _ _ hrecv, List.append_assoc,
        List.singleton_append]
    refine ⟨done, live, received ++ [event], { h with
      items_eq := ?_, check_first := nofun, statuses_eq := ?_
      received_prefix := ⟨_, hsent.symm⟩, unread_eq := fun _ => hsent }⟩
    · simp only [StreamState.yielded, Option.toList_none, List.append_nil, h.items_eq]
    · have hnone : ownEvents userId [event] = [] := by
        rw [← h.user]
        exact List.filter_eq_nil_iff.2 (by simpa using hother)
      rw [h.statuses_eq, ownEvents_append, hnone, List.append_nil]

/-- One event of the schedule keeps the invariant of the stream. -/
theorem streamInv_step (hI : StreamInv B userId catchup s)
    (h : (StreamState.system B).step s e = some s') : StreamInv B userId catchup s' := by
  simp only [StreamState.system] at h
  cases e with
  | send event =>
    cases h
    obtain ⟨done, live, received, hf⟩ := hI
    refine ⟨done, live, received, { hf with
      received_prefix := hf.received_prefix.trans (List.prefix_append ..)
      unread_eq := fun hne => ?_ }⟩
    simp only [StreamState.broadcast, B.unread_send, hf.unread_eq hne, List.append_assoc]
  | close =>
    cases h
    obtain ⟨done, live, received, hf⟩ := hI
    refine ⟨done, live, received, { hf with unread_eq := fun hne => ?_ }⟩
    simp only [B.unread_close, hf.unread_eq hne]
  | setShutdown value =>
    cases h
    obtain ⟨done, live, received, hf⟩ := hI
    exact ⟨done, live, received, { hf with }⟩
  | dropShutdown =>
    cases h
    obtain ⟨done, live, received, hf⟩ := hI
    exact ⟨done, live, received, { hf with }⟩
  | elapse ticks =>
    cases h
    obtain ⟨done, live, received, hf⟩ := hI
    exact ⟨done, live, received, { hf with }⟩
  | next =>
    simp only [StreamState.step, Option.map_eq_some_iff] at h
    obtain ⟨p, hp, rfl⟩ := h
    exact streamInv_polled hI (polled_of_next hp)
  | wake branch =>
    simp only [StreamState.step, Option.ite_none_right_eq_some, Option.map_eq_some_iff] at h
    obtain ⟨hphase, p, hp, rfl⟩ := h
    exact streamInv_polled hI (polled_of_wake hphase hp)

/-- A sent event goes to the broadcast. -/
theorem step_send (st : StreamState χ) (event : TaskStatusUpdate) :
    (StreamState.system B).step st (.send event) = some (st.broadcast B event) := rfl

/-! ## The end of a stream -/

/-- What makes the stream end, where it looks at it: the shutdown flag
before the `select!`, and in it a branch that finds the deadline passed,
the shutdown flag set or its sender gone, the receiver overrun or the
channel closed. -/
def SseStream.Observes (B : Broadcast TaskStatusUpdate χ) (st : SseStream χ) : StreamEv → Prop
  | .next => st.catchup = [] ∧ st.shutdown.value = true
  | .wake .deadline => True
  | .wake .shutdown =>
    ∃ answer shutdown, st.shutdown.changed = some (answer, shutdown) ∧
      (answer = .error () ∨ shutdown.value = true)
  | .wake .received =>
    ∃ answer rx, B.recv st.rx = some (answer, rx) ∧ (answer = .closed ∨ ∃ n, answer = .lagged n)
  | _ => False

/-- **A stream that observes its end yields nothing there, and ends.** -/
theorem ended_of_observes (h : (StreamState.system B).step s e = some s')
    (ho : s.stream.Observes B e) : s'.stream.phase = .ended ∧ s'.items = s.items := by
  have hend : (s.yielded (s.stream.ended, none)).stream.phase = .ended ∧
      (s.yielded (s.stream.ended, none)).items = s.items := ⟨rfl, List.append_nil _⟩
  simp only [StreamState.system] at h
  cases e with
  | next =>
    obtain ⟨hcatchup, hvalue⟩ := ho
    simp only [StreamState.step, SseStream.next, hcatchup, hvalue, Option.map_eq_some_iff] at h
    obtain ⟨p, hp, rfl⟩ := h
    split at hp
    · rename_i hcons
      cases hcons
    · cases hp
      exact hend
    · cases hp
  | wake branch =>
    simp only [StreamState.step, Option.ite_none_right_eq_some, Option.map_eq_some_iff] at h
    obtain ⟨-, p, hp, rfl⟩ := h
    cases branch with
    | deadline =>
      simp only [SseStream.wake, Option.ite_none_right_eq_some, Option.some.injEq] at hp
      rw [← hp.2]
      exact hend
    | heartbeat => exact ho.elim
    | shutdown =>
      obtain ⟨answer, shutdown, hchanged, hanswer⟩ := ho
      simp only [SseStream.wake, hchanged] at hp
      rcases hanswer with rfl | hvalue
      · cases hp
        exact hend
      · cases answer with
        | error _ => cases hp; exact hend
        | ok _ =>
          simp only [hvalue, if_true, Option.some.injEq] at hp
          rw [← hp]
          exact hend
    | received =>
      obtain ⟨answer, rx, hrecv, hanswer⟩ := ho
      simp only [SseStream.wake, hrecv] at hp
      rcases hanswer with rfl | ⟨n, rfl⟩
      · cases hp
        exact hend
      · cases hp
        exact hend
  | _ => exact ho.elim

/-- A stream that has ended stays so, and sends nothing more. -/
theorem ended_step (hs : s.stream.phase = .ended)
    (h : (StreamState.system B).step s e = some s') :
    s'.stream.phase = .ended ∧ s'.items = s.items := by
  simp only [StreamState.system] at h
  cases e with
  | next =>
    simp only [StreamState.step, SseStream.next, hs, Option.map_none] at h
    cases h
  | wake branch =>
    simp only [StreamState.step, hs, Option.ite_none_right_eq_some] at h
    exact absurd h.1 (by decide)
  | _ => cases h; exact ⟨hs, rfl⟩

/-- Nothing follows the end. -/
theorem ended_run {es : List StreamEv} (hs : s.stream.phase = .ended)
    (h : (StreamState.system B).run s es = some s') : s'.items = s.items := by
  have hI : s'.stream.phase = .ended ∧ s'.items = s.items :=
    System.run_inv (I := fun t => t.stream.phase = .ended ∧ t.items = s.items)
      (fun t e t' ht hstep => by
        obtain ⟨hphase, hitems⟩ := ended_step ht.1 hstep
        exact ⟨hphase, hitems.trans ht.2⟩) ⟨hs, rfl⟩ h
  exact hI.2

/-- What the invariant says of the items. -/
theorem streamInv_items (hI : StreamInv B userId catchup s) :
    (∃ n, s.items = (catchup.take n).map .taskStatus) ∨
      ∃ live, s.items = catchup.map .taskStatus ++ live ∧
        statuses live <+: ownEvents userId s.sent := by
  obtain ⟨done, live, received, h⟩ := hI
  by_cases hrest : s.stream.catchup = []
  · refine Or.inr ⟨live, ?_, ?_⟩
    · rw [h.items_eq, h.catchup_eq, hrest, List.append_nil]
    · obtain ⟨rest, hsent⟩ := h.received_prefix
      rw [h.statuses_eq, ← hsent, ownEvents_append]
      exact List.prefix_append ..
  · refine Or.inl ⟨done.length, ?_⟩
    rw [h.items_eq, h.catchup_first hrest, List.append_nil, h.catchup_eq, List.take_left]

/-- **A stream forwards exactly its user's events with no gap**: first the
catch-up events, then, heartbeats ignored, a prefix of the user's own
events in broadcast order. Once it observes a lag, the end of the channel,
its deadline or a shutdown, it yields nothing more. No frame tells the
owner. -/
theorem stream_forwards_own_events (B : Broadcast TaskStatusUpdate χ) (userId : ℤ)
    (catchup : Option (List TaskStatusUpdate)) (rx : χ) (shutdown : Watch) (deadline : Instant)
    (heartbeatInterval : ℕ) (now : Instant) {es : List StreamEv} {s : StreamState χ}
    (h : (StreamState.system B).run (.start B now
      (makeSseStream userId catchup rx shutdown deadline heartbeatInterval now)) es = some s) :
    ((∃ n, s.items = ((catchup.getD []).take n).map .taskStatus) ∨
      ∃ live, s.items = (catchup.getD []).map .taskStatus ++ live ∧
        statuses live <+: ownEvents userId s.sent) ∧
    (∀ e t, (StreamState.system B).step s e = some t → s.stream.Observes B e →
      ∀ es' t', (StreamState.system B).run t es' = some t' → t'.items = s.items) ∧
    ∀ rfc3339 : Timestamp → String, ∀ item ∈ s.items,
      ¬ (item.frame rfc3339).data.HasKey "entity_owner_id" := by
  have hI : StreamInv B userId (catchup.getD []) s :=
    System.run_inv (fun _ _ _ => streamInv_step)
      (streamInv_start (makeSseStream userId catchup rx shutdown deadline heartbeatInterval now)
        rfl now) h
  refine ⟨streamInv_items hI, ?_, fun rfc3339 item _ => item.not_hasKey_owner rfc3339⟩
  intro e t hstep hobs es' t' hrun
  obtain ⟨hphase, hitems⟩ := ended_of_observes hstep hobs
  exact (ended_run hphase hrun).trans hitems

/-- A status event of a user's capture. -/
def captureEvent (owner captureId : ℤ) (status : TaskRunStatus) (runId : String) :
    TaskStatusUpdate where
  schemaVersion := currentSchemaVersion
  timestamp := 0
  entityType := "capture"
  entityId := captureId
  entityOwnerId := some owner
  payload := ⟨"illuminate", status, "", runId, 1, 1, none, none⟩

/-- A stream of user 7 on a channel of 128, to end at 10. -/
def freshStream : StreamState (Ring TaskStatusUpdate) :=
  let B := ring TaskStatusUpdate 128
  .start B 0 (makeSseStream 7 (some [captureEvent 7 1 .queued "a"]) B.subscribe
    ⟨false, false, false⟩ 10 20 0)

/-- Another user's event is left out, the user's own follows the catch-up. -/
theorem stream_forwards_own_events_catchup :
    let es : List StreamEv := [.send (captureEvent 8 2 .queued "b"),
      .send (captureEvent 7 1 .inProgress "a"), .next, .next, .wake .received, .next,
      .wake .received, .elapse 20, .next, .wake .heartbeat]
    let s := ((StreamState.system (ring _ 128)).run freshStream es).get (by decide)
    s.items = [.taskStatus (captureEvent 7 1 .queued "a"),
      .taskStatus (captureEvent 7 1 .inProgress "a"), .heartbeat] ∧
    ((∃ n, s.items = ([captureEvent 7 1 .queued "a"].take n).map .taskStatus) ∨
      ∃ live, s.items = [captureEvent 7 1 .queued "a"].map .taskStatus ++ live ∧
        statuses live <+: ownEvents 7 s.sent) :=
  ⟨by decide, (stream_forwards_own_events (ring TaskStatusUpdate 128) 7 _ _ _ _ _ _
    (Option.some_get _).symm).1⟩

/-- The branches of the `select!` are not ordered: past the deadline an
event that is ready may still be yielded. -/
theorem stream_yields_past_deadline :
    ¬ ∀ es es' s s', (StreamState.system (ring _ 128)).run freshStream es = some s →
      s.stream.deadline ≤ s.now → (StreamState.system (ring _ 128)).run s es' = some s' →
      s'.items = s.items := by
  intro hclaim
  have hitems := hclaim
    [.next, .next, .send (captureEvent 7 1 .inProgress "a"), .elapse 11] [.wake .received]
    (((StreamState.system (ring _ 128)).run freshStream
      [.next, .next, .send (captureEvent 7 1 .inProgress "a"), .elapse 11]).get (by decide))
    (((StreamState.system (ring _ 128)).run freshStream
      [.next, .next, .send (captureEvent 7 1 .inProgress "a"), .elapse 11, .wake .received]).get
        (by decide))
    (Option.some_get _).symm (by decide) rfl
  revert hitems
  decide

end Dreamscroll
