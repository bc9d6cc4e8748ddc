import Dreamscroll.Common.ProcessTable
import Dreamscroll.Task.Moves
import Mathlib.Data.List.Nodup
import Mathlib.Data.List.Pairwise
/-!
# What every step keeps

The three readings of `Move` the invariants are proved from: what an event
does to the table (`tableMove_of_move`), to a call (`call_of_move`) and to
a delivery (`delivery_of_move`). Over them, the invariant of the table:
the unique keys hold, and a call about to insert holds a number that is
free exactly when it is the one above the highest.
-/

namespace Dreamscroll

variable {T : Type}

/-! ## The state after a step -/

namespace TaskState

variable (s : TaskState T) (fx : List (Effect T)) (c d : ℕ) (call : Call T)
variable (delivery : Delivery T)

theorem perform_rows : (s.perform fx).rows = fx.foldl Effect.apply s.rows := rfl
@[simp] theorem perform_calls : (s.perform fx).calls = s.calls := rfl
@[simp] theorem perform_deliveries : (s.perform fx).deliveries = s.deliveries := rfl
@[simp] theorem perform_accepted : (s.perform fx).accepted = s.accepted := rfl
@[simp] theorem perform_log : (s.perform fx).log = s.log ++ fx := rfl

@[simp] theorem setCall_rows : (s.setCall c call).rows = s.rows := rfl
@[simp] theorem setCall_calls : (s.setCall c call).calls = s.calls.set c call := rfl
@[simp] theorem setCall_deliveries : (s.setCall c call).deliveries = s.deliveries := rfl
@[simp] theorem setCall_accepted : (s.setCall c call).accepted = s.accepted := rfl
@[simp] theorem setCall_log : (s.setCall c call).log = s.log := rfl

@[simp] theorem setDelivery_rows : (s.setDelivery d delivery).rows = s.rows := rfl
@[simp] theorem setDelivery_calls : (s.setDelivery d delivery).calls = s.calls := rfl
@[simp] theorem setDelivery_deliveries :
    (s.setDelivery d delivery).deliveries = s.deliveries.set d delivery := rfl
@[simp] theorem setDelivery_accepted : (s.setDelivery d delivery).accepted = s.accepted := rfl
@[simp] theorem setDelivery_log : (s.setDelivery d delivery).log = s.log := rfl

end TaskState

namespace TaskMaster

variable {m : TaskMaster} {rows : List TaskRunModel} {row : TaskRunModel}
variable {estimate : Option TaskTimingEstimate} {fx : List (Effect T)} {f : Effect T}

/-- Publishing before other effects leaves the rows to those. -/
theorem foldl_publishEffects_append :
    (m.publishEffects row estimate ++ fx).foldl Effect.apply rows =
      fx.foldl Effect.apply rows := by
  rw [List.foldl_append, publishEffects]
  cases m.publish row estimate <;> rfl

/-- Publishing a status changes no row. -/
theorem foldl_publishEffects :
    (m.publishEffects (T := T) row estimate).foldl Effect.apply rows = rows := by
  rw [publishEffects]
  cases m.publish row estimate <;> rfl

end TaskMaster

variable [WebhookTask T]

/-- The columns of its row that say which work a run is. -/
def TaskRun.identity (run : TaskRun T) : RunIdentity where
  logicalId := run.logicalId
  runId := run.runId
  runNumber := run.runNumber
  backfillId := run.backfillId
  taskType := Task.taskType run.task
  entityOwnerId := Task.entityOwnerId run.task
  entityType := Task.entityType run.task
  entityId := Task.entityId run.task
  taskPayload := some (Task.toJson run.task)

/-! ## What an event does to the table -/

namespace TaskMaster

variable {m : TaskMaster} {s s' : TaskState T} {e : Ev T} {c d : ℕ}
variable {call call' : Call T} {delivery delivery' : Delivery T} {choice : Choice}
variable {pc : SubmitPc T} {dpc : DeliveryPc} {fx : List (Effect T)}

/-- The status write a statement makes, if it is one. -/
def writeOf (m : TaskMaster) (s : TaskState T) : Ev T → Option StatusWrite
  | .call c (.write now) =>
    (s.calls[c]?).bind fun call =>
      match call.pc with
      | .failWrite run err => some (setStatus run .submissionFailed 0 (some err) now)
      | _ => none
  | .delivery d (.write now) =>
    (s.deliveries[d]?).bind fun delivery =>
      match delivery.pc with
      | .beginWrite attempt => some (markInProgress delivery.run attempt now)
      | _ => none
  | .delivery d (.finish result now) =>
    (s.deliveries[d]?).bind fun delivery =>
      match delivery.pc with
      | .running attempt => some (m.finishWrite delivery.run attempt result now)
      | _ => none
  | _ => none

/-- **Who writes a status**: a submission whose hand-over failed, or an
attempt at its start or its end. -/
inductive Writer (m : TaskMaster) (s : TaskState T) : Ev T → StatusWrite → Prop
  | submission {c : ℕ} {call : Call T} {run : TaskRun T} {err : ApiError} {now : Timestamp} :
      s.calls[c]? = some call → call.pc = .failWrite run err →
      Writer m s (.call c (.write now)) (setStatus run .submissionFailed 0 (some err) now)
  | start {d : ℕ} {delivery : Delivery T} {attempt : ℕ} {now : Timestamp} :
      s.deliveries[d]? = some delivery → delivery.pc = .beginWrite attempt →
      Writer m s (.delivery d (.write now)) (markInProgress delivery.run attempt now)
  | finish {d : ℕ} {delivery : Delivery T} {attempt : ℕ} {result : Except ApiError Unit}
      {now : Timestamp} :
      s.deliveries[d]? = some delivery → delivery.pc = .running attempt →
      Writer m s (.delivery d (.finish result now))
        (m.finishWrite delivery.run attempt result now)

omit [WebhookTask T] in
/-- Every status write belongs to a statement: the `SubmissionFailed` of a
call, or the begin or finish of a delivery. -/
theorem writer_of_writeOf {w : StatusWrite} (h : m.writeOf s e = some w) : Writer m s e w := by
  cases e with
  | call c choice =>
    cases choice with
    | write now =>
      simp only [writeOf, Option.bind_eq_some_iff] at h
      obtain ⟨call, hc, h⟩ := h
      split at h
      · rename_i hpc
        cases h
        exact .submission hc hpc
      · cases h
    | _ => simp [writeOf] at h
  | delivery d choice =>
    cases choice with
    | write now =>
      simp only [writeOf, Option.bind_eq_some_iff] at h
      obtain ⟨delivery, hd, h⟩ := h
      split at h
      · rename_i hpc
        cases h
        exact .start hd hpc
      · cases h
    | finish result now =>
      simp only [writeOf, Option.bind_eq_some_iff] at h
      obtain ⟨delivery, hd, h⟩ := h
      split at h
      · rename_i hpc
        cases h
        exact .finish hd hpc
      · cases h
    | _ => simp [writeOf] at h
  | _ => simp [writeOf] at h

/-- **The table after an event**: the same, after one status write, or
with one row more, inserted by a call that stood at its insert. -/
inductive TableMove (m : TaskMaster) (s : TaskState T) : Ev T → List TaskRunModel → Prop
  | same {e : Ev T} : m.writeOf s e = none → TableMove m s e s.rows
  | wrote {e : Ev T} {w : StatusWrite} : m.writeOf s e = some w →
      TableMove m s e (w.apply s.rows)
  | inserted {c : ℕ} {call : Call T} {run : TaskRun T} {now : Timestamp} {reported : String} :
      s.calls[c]? = some call → call.pc = .insert run →
      violatedKeys s.rows (queuedRow run now) = [] →
      TableMove m s (.call c (.insert now reported)) (s.rows ++ [queuedRow run now])

/-- What a statement of a submission does to the table: nothing, one
insertion, or one status write. -/
theorem tableMove_of_submitMove (hc : s.calls[c]? = some call)
    (h : SubmitMove m s.rows c call choice pc fx) :
    TableMove m s (.call c choice) (fx.foldl Effect.apply s.rows) := by
  cases h with
  | inserted hpc hv => exact .inserted hc hpc hv
  | failWrote hpc => exact .wrote (by simp [writeOf, hc, hpc])
  | failMissed hpc => exact .wrote (by simp [writeOf, hc, hpc])
  | published => rw [foldl_publishEffects_append]; exact .same rfl
  | failPublished => rw [foldl_publishEffects_append]; exact .same rfl
  | _ => exact .same rfl

/-- What a statement of a delivery does to the table: nothing, or one status
write. -/
theorem tableMove_of_deliveryMove (hd : s.deliveries[d]? = some delivery)
    (h : DeliveryMove m s.rows delivery choice dpc fx) :
    TableMove m s (.delivery d choice) (fx.foldl Effect.apply s.rows) := by
  cases h with
  | began hpc => exact .wrote (by simp [writeOf, hd, hpc])
  | beganMissing hpc => exact .wrote (by simp [writeOf, hd, hpc])
  | finished hpc => exact .wrote (by simp [writeOf, hd, hpc])
  | finishedMissing hpc => exact .wrote (by simp [writeOf, hd, hpc])
  | publishedBegin => rw [foldl_publishEffects]; exact .same rfl
  | publishedFinish => rw [foldl_publishEffects]; exact .same rfl
  | _ => exact .same rfl

/-- **Every event moves the table one of three ways.** -/
theorem tableMove_of_move (h : Move m s e s') : TableMove m s e s'.rows := by
  cases h with
  | submit => exact .same rfl
  | call hc hm => exact tableMove_of_submitMove hc hm
  | accept => exact .same rfl
  | deliver => exact .same rfl
  | delivery hd hm => exact tableMove_of_deliveryMove hd hm

/-! ## What an event does to a process -/

/-- **A call of the next state** was there, starts, or took a step. -/
theorem call_of_move (h : Move m s e s') (hc : s'.calls[c]? = some call') :
    (s.calls[c]? = some call' ∧ ∀ choice, e ≠ .call c choice) ∨
    (c = s.calls.length ∧ ∃ task backfillId, e = .submit task backfillId ∧
      call' = ⟨task, backfillId, .dedup⟩) ∨
    ∃ choice call fx, e = .call c choice ∧ s.calls[c]? = some call ∧
      SubmitMove m s.rows c call choice call'.pc fx ∧ call' = { call with pc := call'.pc } ∧
      s' = (s.setCall c call').perform fx := by
  cases h with
  | @submit task backfillId =>
    rcases getElem?_concat_eq_some hc with ⟨rfl, rfl⟩ | hc
    · exact Or.inr (Or.inl ⟨rfl, task, backfillId, rfl, rfl⟩)
    · exact Or.inl ⟨hc, fun _ => nofun⟩
  | @call c₁ choice call pc fx hc₁ hm =>
    rcases getElem?_set_eq_some hc with ⟨rfl, rfl⟩ | ⟨hne, hc⟩
    · exact Or.inr (Or.inr ⟨choice, call, fx, rfl, hc₁, hm, rfl, rfl⟩)
    · exact Or.inl ⟨hc, fun _ heq => hne (by cases heq; rfl)⟩
  | accept => exact Or.inl ⟨hc, fun _ => nofun⟩
  | deliver => exact Or.inl ⟨hc, fun _ => nofun⟩
  | delivery => exact Or.inl ⟨hc, fun _ => nofun⟩

/-- **A call after an event** is where it was, or took a step. -/
theorem call_step (h : Move m s e s') (hc : s.calls[c]? = some call) :
    ∃ pc, s'.calls[c]? = some { call with pc := pc } ∧
      (pc = call.pc ∨ ∃ choice fx, e = .call c choice ∧
        SubmitMove m s.rows c call choice pc fx) := by
  cases h with
  | submit => exact ⟨_, getElem?_concat_of_some hc, Or.inl rfl⟩
  | @call c₁ choice call₁ pc fx hc₁ hm =>
    by_cases hcc : c = c₁
    · subst hcc
      rw [hc] at hc₁
      cases hc₁
      exact ⟨pc, getElem?_set_of_some hc, Or.inr ⟨choice, fx, rfl, hm⟩⟩
    · refine ⟨_, ?_, Or.inl rfl⟩
      rw [TaskState.perform_calls, TaskState.setCall_calls, getElem?_set_of_ne hcc]
      exact hc
  | accept => exact ⟨_, hc, Or.inl rfl⟩
  | deliver => exact ⟨_, hc, Or.inl rfl⟩
  | delivery => exact ⟨_, hc, Or.inl rfl⟩

/-- **A delivery of the next state** was there, starts, or took a step. -/
theorem delivery_of_move (h : Move m s e s') (hd : s'.deliveries[d]? = some delivery') :
    (s.deliveries[d]? = some delivery' ∧ ∀ choice, e ≠ .delivery d choice) ∨
    (d = s.deliveries.length ∧ ∃ i run, e = .deliver i ∧ s.accepted[i]? = some run ∧
      delivery' = ⟨run, .beginRead⟩) ∨
    ∃ choice delivery fx, e = .delivery d choice ∧ s.deliveries[d]? = some delivery ∧
      DeliveryMove m s.rows delivery choice delivery'.pc fx ∧
      delivery' = { delivery with pc := delivery'.pc } ∧
      s' = (s.setDelivery d delivery').perform fx := by
  cases h with
  | submit => exact Or.inl ⟨hd, fun _ => nofun⟩
  | call => exact Or.inl ⟨hd, fun _ => nofun⟩
  | accept => exact Or.inl ⟨hd, fun _ => nofun⟩
  | @deliver i run hi =>
    rcases getElem?_concat_eq_some hd with ⟨rfl, rfl⟩ | hd
    · exact Or.inr (Or.inl ⟨rfl, i, run, rfl, hi, rfl⟩)
    · exact Or.inl ⟨hd, fun _ => nofun⟩
  | @delivery d₁ choice delivery pc fx hd₁ hm =>
    rcases getElem?_set_eq_some hd with ⟨rfl, rfl⟩ | ⟨hne, hd⟩
    · exact Or.inr (Or.inr ⟨choice, delivery, fx, rfl, hd₁, hm, rfl, rfl⟩)
    · exact Or.inl ⟨hd, fun _ heq => hne (by cases heq; rfl)⟩

/-- **A delivery after an event** is where it was, or took a step. -/
theorem delivery_step (h : Move m s e s') (hd : s.deliveries[d]? = some delivery) :
    ∃ pc, s'.deliveries[d]? = some { delivery with pc := pc } ∧
      (pc = delivery.pc ∧ (∀ choice, e ≠ .delivery d choice) ∨
        ∃ choice fx, e = .delivery d choice ∧
          DeliveryMove m s.rows delivery choice pc fx) := by
  cases h with
  | submit => exact ⟨_, hd, Or.inl ⟨rfl, by simp⟩⟩
  | call => exact ⟨_, hd, Or.inl ⟨rfl, by simp⟩⟩
  | accept => exact ⟨_, hd, Or.inl ⟨rfl, by simp⟩⟩
  | deliver => exact ⟨_, getElem?_concat_of_some hd, Or.inl ⟨rfl, by simp⟩⟩
  | @delivery d₁ choice delivery₁ pc fx hd₁ hm =>
    by_cases hdd : d = d₁
    · subst hdd
      rw [hd] at hd₁
      cases hd₁
      exact ⟨pc, getElem?_set_of_some hd, Or.inr ⟨choice, fx, rfl, hm⟩⟩
    · refine ⟨_, ?_, Or.inl ⟨rfl, ?_⟩⟩
      · rw [TaskState.perform_deliveries, TaskState.setDelivery_deliveries,
          getElem?_set_of_ne hdd]
        exact hd
      · intro choice₁ heq
        cases heq
        exact hdd rfl

/-- The log only grows. -/
theorem log_of_move (h : Move m s e s') : ∃ fx, s'.log = s.log ++ fx := by
  cases h with
  | submit => exact ⟨_, rfl⟩
  | call => exact ⟨_, rfl⟩
  | accept => exact ⟨[], (List.append_nil _).symm⟩
  | deliver => exact ⟨[], (List.append_nil _).symm⟩
  | delivery => exact ⟨_, rfl⟩

end TaskMaster

/-! ## The unique keys -/

/-- Two rows the unique keys admit together. -/
def RunIdentity.Compatible (i j : RunIdentity) : Prop :=
  ¬ (i.logicalId = j.logicalId ∧ i.runNumber = j.runNumber) ∧
  ¬ (i.backfillId = j.backfillId ∧ i.logicalId = j.logicalId ∧ j.backfillId.isSome) ∧
  i.runId ≠ j.runId

/-- **The three unique keys hold of a table.** -/
def UniqueKeys (rows : List TaskRunModel) : Prop :=
  (rows.map TaskRunModel.identity).Pairwise RunIdentity.Compatible

/-- The run number is the one above the highest, or it was when its call
read the table and the numbers up to it have been taken since. -/
def Pending (rows : List TaskRunModel) (L : String) (n : ℕ) : Prop :=
  n ≤ topRun rows L + 1 ∧ (n ≤ topRun rows L → n ∈ runNumbers rows L)

/-- The stored run numbers of every logical task are `1 … n`. -/
def Numbered (rows : List TaskRunModel) : Prop :=
  ∀ L, runNumbers rows L = List.range' 1 (topRun rows L)

/-- **The invariant of the table.** -/
structure TableInv (s : TaskState T) : Prop where
  unique : UniqueKeys s.rows
  pending : ∀ (c : ℕ) (call : Call T) (run : TaskRun T), s.calls[c]? = some call →
    call.pc = .insert run →
    run = call.newRun run.runNumber run.runId ∧ Pending s.rows call.logicalId run.runNumber

variable {m : TaskMaster} {s s' : TaskState T} {e : Ev T} {c n : ℕ} {L : String}
variable {call : Call T} {run : TaskRun T} {now : Timestamp}
variable {rows rows' : List TaskRunModel} {row r r' : TaskRunModel}

/-- An empty table violates no unique index. -/
theorem uniqueKeys_nil : UniqueKeys [] := List.Pairwise.nil

/-- A row that violates no index can be added. -/
theorem uniqueKeys_append (h : UniqueKeys rows) (hv : violatedKeys rows row = []) :
    UniqueKeys (rows ++ [row]) := by
  rw [UniqueKeys, List.map_append, List.pairwise_append]
  refine ⟨h, List.pairwise_singleton _ _, ?_⟩
  intro i hi j hj
  obtain ⟨r, hr, rfl⟩ := List.mem_map.1 hi
  rw [List.map_singleton, List.mem_singleton] at hj
  rw [hj]
  exact violatedKeys_eq_nil.1 hv r hr

/-- A status write touches no indexed column. -/
theorem uniqueKeys_apply {w : StatusWrite} (h : UniqueKeys rows) : UniqueKeys (w.apply rows) := by
  rw [UniqueKeys, StatusWrite.map_identity_apply]
  exact h

/-- The run ids of the rows are different. -/
theorem UniqueKeys.nodup_runId (h : UniqueKeys rows) :
    (rows.map TaskRunModel.runId).Nodup := by
  have hmap : rows.map TaskRunModel.runId =
      (rows.map TaskRunModel.identity).map RunIdentity.runId := by
    rw [List.map_map]; rfl
  rw [hmap, List.Nodup, List.pairwise_map]
  exact h.imp fun hc => hc.2.2

/-- **A run has one row.** -/
theorem UniqueKeys.eq_of_runId (h : UniqueKeys rows) (hr : r ∈ rows) (hr' : r' ∈ rows)
    (heq : r.runId = r'.runId) : r = r' :=
  List.inj_on_of_nodup_map h.nodup_runId hr hr' heq

/-- Which of two rows came first does not matter to the indexes. -/
theorem RunIdentity.Compatible.symm {i j : RunIdentity} (h : i.Compatible j) :
    j.Compatible i := by
  refine ⟨fun hk => h.1 ⟨hk.1.symm, hk.2.symm⟩, fun hk => h.2.1 ?_, fun hk => h.2.2 hk.symm⟩
  exact ⟨hk.1.symm, hk.2.1.symm, by rw [hk.1]; exact hk.2.2⟩

/-- Two rows differ in every index. -/
theorem UniqueKeys.compatible (h : UniqueKeys rows) (hr : r ∈ rows) (hr' : r' ∈ rows)
    (hne : r ≠ r') : r.identity.Compatible r'.identity := by
  have : Std.Symm fun a b : TaskRunModel => a.identity.Compatible b.identity :=
    ⟨fun _ _ hc => hc.symm⟩
  exact (List.pairwise_map.1 h).forall hr hr' hne

/-- **A backfill claims a logical task once.** -/
theorem UniqueKeys.eq_of_backfillId (h : UniqueKeys rows) (hr : r ∈ rows) (hr' : r' ∈ rows)
    (hsome : r.backfillId.isSome) (hb : r.backfillId = r'.backfillId)
    (hL : r.logicalId = r'.logicalId) : r = r' := by
  by_contra hne
  have hsome' : r'.backfillId.isSome := by rw [← hb]; exact hsome
  exact (h.compatible hr hr' hne).2.1 ⟨hb, hL, hsome'⟩

/-! ## The step lemmas -/

/-- Whether a number is still to be taken depends on the identities of the
rows alone. -/
theorem Pending.congr (hp : Pending rows L n)
    (h : rows.map TaskRunModel.identity = rows'.map TaskRunModel.identity) :
    Pending rows' L n := by
  rw [Pending, ← topRun_congr h, ← runNumbers_congr h]
  exact hp

/-- A number stays the next one or is taken, when rows are only added on top. -/
theorem Pending.append (hp : Pending rows L n)
    (hrow : row.logicalId = L → row.runNumber = topRun rows L + 1) :
    Pending (rows ++ [row]) L n := by
  rw [Pending, topRun_append_singleton, runNumbers_append, runNumbers_singleton]
  by_cases hL : row.logicalId = L
  · rw [if_pos hL, if_pos hL, hrow hL, List.mem_append, List.mem_singleton]
    refine ⟨by have := hp.1; omega, fun hn => ?_⟩
    rcases Nat.lt_or_ge (topRun rows L) n with h | h
    · exact Or.inr (by have := hp.1; omega)
    · exact Or.inl (hp.2 h)
  · rw [if_neg hL, if_neg hL, List.append_nil]
    exact hp

/-- **A successful insert extends the highest run number by one.** A
number at or below it is taken, so the key would have refused. -/
theorem TableInv.inserted_runNumber (hi : TableInv s) (hc : s.calls[c]? = some call)
    (hpc : call.pc = .insert run) (hv : violatedKeys s.rows (queuedRow run now) = []) :
    run.runNumber = topRun s.rows run.logicalId + 1 := by
  obtain ⟨hrun, hp⟩ := hi.pending c call run hc hpc
  have hL : run.logicalId = call.logicalId := by rw [hrun]; rfl
  rw [hL]
  rcases Nat.lt_or_ge (topRun s.rows call.logicalId) run.runNumber with h | h
  · have := hp.1
    omega
  · obtain ⟨r, hr, hrL, hrn⟩ := mem_runNumbers.1 (hp.2 h)
    exact absurd ⟨hrL.trans hL.symm, hrn⟩ (violatedKeys_eq_nil.1 hv r hr).1

namespace TaskMaster

/-- What a call has read of the run numbers stays usable, or the index will
refuse its insertion. -/
theorem pending_of_tableMove (hi : TableInv s) (h : TableMove m s e rows')
    (hp : Pending s.rows L n) : Pending rows' L n := by
  cases h with
  | same => exact hp
  | wrote => exact hp.congr StatusWrite.map_identity_apply.symm
  | @inserted c call run now reported hc hpc hv =>
    refine hp.append fun hL => ?_
    have hn := hi.inserted_runNumber hc hpc hv
    rw [show run.logicalId = L from hL] at hn
    exact hn

/-- A call stands at an insert that would succeed. -/
def Inserts (s : TaskState T) (run : TaskRun T) (now : Timestamp) : Prop :=
  ∃ (c : ℕ) (call : Call T), s.calls[c]? = some call ∧ call.pc = .insert run ∧
    violatedKeys s.rows (queuedRow run now) = []

/-- An inserted run is the next one of its task. -/
theorem Inserts.runNumber {run : TaskRun T} {now : Timestamp} (h : Inserts s run now)
    (hi : TableInv s) : run.runNumber = topRun s.rows run.logicalId + 1 := by
  obtain ⟨c, call, hc, hpc, hv⟩ := h
  exact hi.inserted_runNumber hc hpc hv

/-- An inserted run has a run id of its own. -/
theorem Inserts.runId_ne {run : TaskRun T} {now : Timestamp} (h : Inserts s run now)
    (hr : r ∈ s.rows) : r.runId ≠ run.runId := by
  obtain ⟨c, call, hc, hpc, hv⟩ := h
  exact (violatedKeys_eq_nil.1 hv r hr).2.2

/-- The row after an event was there, was written, or was inserted. -/
theorem row_of_tableMove (h : TableMove m s e rows') (hr' : r' ∈ rows') :
    (r' ∈ s.rows) ∨
    (∃ w r, m.writeOf s e = some w ∧ r ∈ s.rows ∧ r.runId = w.runId ∧ r' = w.update r) ∨
    ∃ run now, Inserts s run now ∧ r' = queuedRow run now := by
  cases h with
  | same => exact Or.inl hr'
  | @wrote _ w hw =>
    obtain ⟨r, hr, -, ⟨-, rfl⟩ | ⟨hid, rfl⟩⟩ := StatusWrite.mem_apply hr'
    · exact Or.inl hr
    · exact Or.inr (Or.inl ⟨w, r, hw, hr, hid, rfl⟩)
  | @inserted c call run now _ hc hpc hv =>
    rcases List.mem_append.1 hr' with hr' | hr'
    · exact Or.inl hr'
    · exact Or.inr (Or.inr ⟨run, now, ⟨c, call, hc, hpc, hv⟩, List.mem_singleton.1 hr'⟩)

/-- A statement keeps the highest run number of a task, or inserts the next
run. -/
theorem topRun_of_tableMove (hi : TableInv s) (h : TableMove m s e rows') (L : String) :
    topRun rows' L = topRun s.rows L ∨
      ∃ run now, Inserts s run now ∧ run.logicalId = L ∧
        topRun rows' L = topRun s.rows L + 1 := by
  cases h with
  | same => exact Or.inl rfl
  | wrote => exact Or.inl topRun_apply
  | @inserted c call run now _ hc hpc hv =>
    rw [topRun_append_singleton]
    by_cases hL : (queuedRow run now).logicalId = L
    · have hn : run.runNumber = topRun s.rows L + 1 := hL ▸ hi.inserted_runNumber hc hpc hv
      refine Or.inr ⟨run, now, ⟨c, call, hc, hpc, hv⟩, hL, ?_⟩
      rw [if_pos hL, show (queuedRow run now).runNumber = run.runNumber from rfl, hn]
      omega
    · exact Or.inl (if_neg hL)

/-- **Every event keeps the invariant of the table.** -/
theorem tableInv_of_move (h : Move m s e s') (hi : TableInv s) : TableInv s' where
  unique := by
    have ht := tableMove_of_move h
    generalize s'.rows = rows' at ht ⊢
    cases ht with
    | same => exact hi.unique
    | wrote => exact uniqueKeys_apply hi.unique
    | inserted _ _ hv => exact uniqueKeys_append hi.unique hv
  pending c call' run hc' hpc' := by
    have ht := tableMove_of_move h
    rcases call_of_move h hc' with ⟨hc, -⟩ | ⟨-, task, b, -, rfl⟩ |
      ⟨choice, call, fx, rfl, hc, hm, hcall, hs'⟩
    · obtain ⟨hrun, hp⟩ := hi.pending c call' run hc hpc'
      exact ⟨hrun, pending_of_tableMove hi ht hp⟩
    · cases hpc'
    · -- only the decision leads to an insert, and it changes no row
      rw [hpc'] at hm
      cases hm with
      | @decided n runId _ hn =>
        have hL : call'.logicalId = call.logicalId := by rw [hcall]; rfl
        have hrows : s'.rows = s.rows := by rw [hs']; rfl
        have htop := decideNextRun_eq_some hn
        rw [hrows, hL]
        refine ⟨by rw [hcall]; rfl, ?_, fun hle => ?_⟩
        · exact htop.le
        · have hlt : n ≤ topRun s.rows call.logicalId := hle
          omega

/-- The table after a status write. -/
theorem rows_of_write {w : StatusWrite} (h : TableMove m s e rows')
    (hw : m.writeOf s e = some w) : rows' = w.apply s.rows := by
  cases h with
  | same hnone => rw [hw] at hnone; cases hnone
  | wrote hw' => rw [hw] at hw'; cases hw'; rfl
  | inserted => cases hw

/-- A row of another run, or with no write, is where it was. -/
theorem mem_of_tableMove {rows' : List TaskRunModel} (h : TableMove m s e rows')
    (hr : row ∈ s.rows) (hne : ∀ w, m.writeOf s e = some w → w.runId ≠ row.runId) :
    row ∈ rows' := by
  cases h with
  | same => exact hr
  | wrote hw => exact StatusWrite.mem_apply_of_ne hr (hne _ hw).symm
  | inserted => exact List.mem_append_left _ hr

/-- The rows of a table, less what a status write changes, are a prefix of
the rows after an event. -/
theorem prefix_identity (h : TableMove m s e rows') :
    s.rows.map TaskRunModel.identity <+: rows'.map TaskRunModel.identity := by
  cases h with
  | same => exact List.prefix_rfl
  | wrote => exact StatusWrite.map_identity_apply.symm ▸ List.prefix_rfl
  | inserted => rw [List.map_append]; exact List.prefix_append _ _

/-- **No gap opens**: an insert takes the number above the highest. -/
theorem numbered_of_tableMove (hi : TableInv s) (h : TableMove m s e rows')
    (hn : Numbered s.rows) : Numbered rows' := by
  intro L
  cases h with
  | same => exact hn L
  | wrote =>
    rw [runNumbers_apply, topRun_apply]
    exact hn L
  | @inserted c call run now reported hc hpc hv =>
    rw [runNumbers_append, runNumbers_singleton, topRun_append_singleton, hn L]
    by_cases hL : (queuedRow run now).logicalId = L
    · have hnum : (queuedRow run now).runNumber = topRun s.rows L + 1 :=
        hL ▸ hi.inserted_runNumber hc hpc hv
      have hmax : max (topRun s.rows L) (topRun s.rows L + 1) = topRun s.rows L + 1 := by omega
      rw [if_pos hL, if_pos hL, hnum, hmax, List.range'_concat, Nat.one_mul, Nat.add_comm 1]
    · rw [if_neg hL, if_neg hL, List.append_nil]

/-! ## The invariant of a run -/

variable {evs : List (Ev T)} {rows₀ : List TaskRunModel} {accepted₀ : List (TaskRun T)}

/-- The invariant holds of any table within its indexes. -/
theorem tableInv_start (h : UniqueKeys rows₀) : TableInv (TaskState.start rows₀ accepted₀) :=
  ⟨h, fun _ _ _ hc => nomatch hc⟩

/-- The invariant holds of the empty table. -/
theorem tableInv_empty : TableInv (TaskState.start [] accepted₀) :=
  tableInv_start uniqueKeys_nil

/-- The invariant holds along every run. -/
theorem tableInv_of_run (hi : TableInv s) (h : (system T m).run s evs = some s') :
    TableInv s' :=
  System.run_inv (fun _ _ _ hi hs => tableInv_of_move (move_of_system hs) hi) hi h

/-- The numbering from one on lasts along every run. -/
theorem numbered_of_run (hi : TableInv s) (hn : Numbered s.rows)
    (h : (system T m).run s evs = some s') : Numbered s'.rows := by
  refine (System.run_inv (I := fun s => TableInv s ∧ Numbered s.rows) ?_ ⟨hi, hn⟩ h).2
  rintro s e s' ⟨hi, hn⟩ hs
  have hm := move_of_system hs
  exact ⟨tableInv_of_move hm hi, numbered_of_tableMove hi (tableMove_of_move hm) hn⟩

/-- Rows are never taken away and never change who they are. -/
theorem prefix_identity_of_run (h : (system T m).run s evs = some s') :
    s.rows.map TaskRunModel.identity <+: s'.rows.map TaskRunModel.identity := by
  refine System.run_inv (I := fun t => s.rows.map TaskRunModel.identity <+:
    t.rows.map TaskRunModel.identity) ?_ List.prefix_rfl h
  intro t e t' hpre hs
  exact hpre.trans (prefix_identity (tableMove_of_move (move_of_system hs)))

end TaskMaster

end Dreamscroll
