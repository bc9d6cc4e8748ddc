import Dreamscroll.Common.Linearizable
import Dreamscroll.Task.InFlight
/-!
# Submission is linearizable

The specification is an atomic object of its own: what a submission reads
and writes of one logical task, `AtomicSubmit`, exposed to the status
writes. Every run of the machine in which no statement fails and no settled
run is put back in flight linearizes against it.

The point of an insert is the insert. A call answered with an earlier run
takes effect at its read. A refused call takes effect where it saw the
latest run in flight, or, having lost a race, right after the insert that
won it; both are behind it when it learns its answer, so where a call
stands is read off the end of the run (`fate`).
-/

namespace Dreamscroll

/-! ## The specification -/

/-- What a submission sees of a row. -/
structure RunEntry where
  runId : String
  runNumber : ℕ
  backfillId : Option String
  statusCode : ℤ
  deriving DecidableEq

namespace RunEntry

/-- Queued, running, or awaiting another retry. -/
def InFlight (entry : RunEntry) : Prop :=
  entry.statusCode = TaskRunStatus.queued.asI32 ∨
    entry.statusCode = TaskRunStatus.inProgress.asI32 ∨
    entry.statusCode = TaskRunStatus.errorWillRetry.asI32

/-- The entry of a row. -/
def ofRow (row : TaskRunModel) : RunEntry where
  runId := row.runId
  runNumber := row.runNumber
  backfillId := row.backfillId
  statusCode := row.statusCode

/-- The entry has the highest run number. -/
def IsLatest (entry : RunEntry) (entries : List RunEntry) : Prop :=
  entry ∈ entries ∧ ∀ other ∈ entries, other.runNumber ≤ entry.runNumber

end RunEntry

/-- The highest run number, `0` before the first run. -/
def highestRun (entries : List RunEntry) : ℕ :=
  (entries.map RunEntry.runNumber).foldr max 0

/-- The backfill has already claimed the logical task. -/
def Claimed (entries : List RunEntry) (backfillId : Option String) : Prop :=
  backfillId.isSome ∧ ∃ entry ∈ entries, entry.backfillId = backfillId

/-- What a submission answers. -/
abbrev SubmitAnswer := Except SubmitError SubmitOutcome

/-- **The atomic submission.** A backfill that has already claimed the task
is answered with its run; a task whose latest run is in flight refuses;
otherwise the next run is inserted, and its hand-over may fail. -/
inductive AtomicSubmit (entries : List RunEntry) (backfillId : Option String) :
    SubmitAnswer → List RunEntry → Prop
  | already {entry : RunEntry} : backfillId.isSome → entry ∈ entries →
      entry.backfillId = backfillId →
      AtomicSubmit entries backfillId
        (.ok (.alreadySubmittedBackfill entry.runId entry.runNumber)) entries
  | refused {latest : RunEntry} : ¬ Claimed entries backfillId → latest.IsLatest entries →
      latest.InFlight → AtomicSubmit entries backfillId (.ok .refusedAlreadyInFlight) entries
  | inserted {runId : String} {answer : SubmitAnswer} : ¬ Claimed entries backfillId →
      (∀ latest : RunEntry, latest.IsLatest entries → ¬ latest.InFlight) →
      (answer = .ok (.enqueued runId (highestRun entries + 1)) ∨
        ∃ err, answer = .error (.enqueue err)) →
      AtomicSubmit entries backfillId answer
        (entries ++ [⟨runId, highestRun entries + 1, backfillId, TaskRunStatus.queued.asI32⟩])

/-- A status write, as the entries see it. -/
def entryWrite (entries : List RunEntry) (w : StatusWrite) : List RunEntry :=
  entries.map fun entry =>
    if entry.runId = w.runId then { entry with statusCode := w.status.asI32 } else entry

/-- **The object submissions operate**: the runs of one logical task. -/
def submission :
    AtomicObject (List RunEntry) (Option String) SubmitAnswer StatusWrite where
  answers := AtomicSubmit
  env := entryWrite

/-! ## What the code makes of it -/

/-- The entries of a logical task in the table. -/
def entriesOf (rows : List TaskRunModel) (L : String) : List RunEntry :=
  (runsOf rows L).map RunEntry.ofRow

variable {T : Type}

/-- The item of the history a logged effect is. -/
def submissionItem (L : String) :
    Effect T → Option (HistoryItem (Option String) SubmitAnswer StatusWrite)
  | .invoke c L' backfillId => if L' = L then some (.invoke c backfillId) else none
  | .respond c L' answer => if L' = L then some (.respond c answer) else none
  | .write w => some (.env w)
  | .insert .. | .hand .. | .publish .. => none

/-- **The history of a logical task's submissions**: invocations and
answers, and the status writes between them. -/
def submissionHistory (L : String) (log : List (Effect T)) :
    List (HistoryItem (Option String) SubmitAnswer StatusWrite) :=
  log.filterMap (submissionItem L)

/-- The answer a call is bound to give, once nothing but its own
statements can change it. -/
def SubmitPc.answer : SubmitPc T → Option SubmitAnswer
  | .returned answer => some answer
  | .failWrite _ err | .publishFailed _ err => some (.error (.enqueue err))
  | .publishQueued run _ | .enqueue run => some (.ok (.enqueued run.runId run.runNumber))
  | _ => none

/-- A statement of the call has failed. -/
def SubmitPc.dbFailed : SubmitPc T → Bool
  | .returned (.error (.db _)) => true
  | _ => false

/-- The answer of a call, seen from the end of the run. -/
def fate (F : TaskState T) (c : ℕ) : Option SubmitAnswer :=
  (F.calls[c]?).bind fun call => call.pc.answer

variable {rows rows' : List TaskRunModel} {row r : TaskRunModel} {L : String}
variable {w : StatusWrite} {backfillId : Option String}

/-! ## The table as entries -/

/-- The entries of a task are its rows, as the abstract object sees them. -/
theorem mem_entriesOf {entry : RunEntry} :
    entry ∈ entriesOf rows L ↔ ∃ r ∈ rows, r.logicalId = L ∧ RunEntry.ofRow r = entry := by
  simp [entriesOf, mem_runsOf, and_assoc]

/-- An entry is in flight exactly when its row is. -/
theorem inFlight_ofRow : (RunEntry.ofRow row).InFlight ↔ row.inFlight = true := by
  rw [TaskRunModel.inFlight]
  constructor
  · intro h
    rcases h with h | h | h
    all_goals
      rw [show row.statusCode = _ from h, TaskRunStatus.fromI32_asI32]
      rfl
  · intro h
    split at h
    · rename_i status hst
      have hcode := TaskRunStatus.fromI32_eq_ok.1 hst
      cases status with
      | queued => exact Or.inl hcode.symm
      | inProgress => exact Or.inr (Or.inl hcode.symm)
      | errorWillRetry => exact Or.inr (Or.inr hcode.symm)
      | submissionFailed => cases h
      | completeSuccess => cases h
      | completeFailure => cases h
    · cases h

/-- The highest run number is the same on both sides. -/
theorem highestRun_entriesOf : highestRun (entriesOf rows L) = topRun rows L := by
  rw [highestRun, entriesOf, List.map_map]
  rfl

/-- An update of the rows updates the rows of each task. -/
theorem runsOf_apply : runsOf (w.apply rows) L = w.apply (runsOf rows L) := by
  rw [runsOf, StatusWrite.apply, List.filter_map, runsOf, StatusWrite.apply]
  congr 1
  refine List.filter_congr fun r _ => ?_
  simp only [Function.comp_apply]
  split_ifs <;> simp

/-- **A status write is the entries' write.** -/
theorem entriesOf_apply : entriesOf (w.apply rows) L = entryWrite (entriesOf rows L) w := by
  rw [entriesOf, runsOf_apply, StatusWrite.apply, entryWrite, entriesOf, List.map_map,
    List.map_map]
  refine List.map_congr_left fun r _ => ?_
  have hid : (RunEntry.ofRow r).runId = r.runId := rfl
  simp only [Function.comp_apply, hid]
  split_ifs
  · simp [RunEntry.ofRow]
  · rfl

/-- A new row is an entry of its own task and of no other. -/
theorem entriesOf_append :
    entriesOf (rows ++ [row]) L =
      entriesOf rows L ++ if row.logicalId = L then [RunEntry.ofRow row] else [] := by
  simp only [entriesOf, runsOf, List.filter_append, List.map_append, List.filter_cons,
    List.filter_nil, decide_eq_true_eq]
  split_ifs <;> rfl

/-! ## What the reads establish -/

/-- A found run is the answer of the specification. -/
theorem atomicSubmit_of_alreadySubmitted {outcome : SubmitOutcome}
    (h : alreadySubmitted rows backfillId L = some outcome) :
    AtomicSubmit (entriesOf rows L) backfillId (.ok outcome) (entriesOf rows L) := by
  cases backfillId with
  | none => cases h
  | some b =>
    simp only [alreadySubmitted, Option.map_eq_some_iff] at h
    obtain ⟨r, hr, rfl⟩ := h
    have hmem := List.mem_of_find?_eq_some hr
    have hkey := List.find?_some hr
    simp only [Bool.and_eq_true, decide_eq_true_eq] at hkey
    have hentry : RunEntry.ofRow r ∈ entriesOf rows L :=
      mem_entriesOf.2 ⟨r, hmem, hkey.2, rfl⟩
    exact AtomicSubmit.already rfl hentry hkey.1

/-- The backfill check finds nothing exactly when the backfill is unclaimed. -/
theorem alreadySubmitted_eq_none :
    alreadySubmitted rows backfillId L = none ↔ ¬ Claimed (entriesOf rows L) backfillId := by
  cases backfillId with
  | none => simp [alreadySubmitted, Claimed]
  | some b =>
    simp only [alreadySubmitted, Option.map_eq_none_iff, queryBackfillRun, List.find?_eq_none,
      Bool.and_eq_true, decide_eq_true_eq, Claimed, Option.isSome_some, true_and, not_exists,
      not_and]
    constructor
    · intro h entry hentry hb
      obtain ⟨r, hr, hL, rfl⟩ := mem_entriesOf.1 hentry
      exact h r hr hb hL
    · intro h r hr hb hL
      exact h _ (mem_entriesOf.2 ⟨r, hr, hL, rfl⟩) hb

/-- The backfill check never answers that a run is in flight. -/
theorem alreadySubmitted_ne_refused :
    alreadySubmitted rows backfillId L ≠ some .refusedAlreadyInFlight := by
  cases backfillId with
  | none => exact nofun
  | some b => simp [alreadySubmitted]

/-- A claim is never lost: identities are kept and rows only added. -/
theorem not_claimed_mono
    (hpre : rows.map TaskRunModel.identity <+: rows'.map TaskRunModel.identity)
    (h : ¬ Claimed (entriesOf rows' L) backfillId) :
    ¬ Claimed (entriesOf rows L) backfillId := by
  rintro ⟨hsome, entry, hentry, hb⟩
  obtain ⟨r, hr, hL, rfl⟩ := mem_entriesOf.1 hentry
  obtain ⟨r', hr', hid⟩ := List.mem_map.1 (hpre.subset (List.mem_map.2 ⟨r, hr, rfl⟩))
  refine h ⟨hsome, _, mem_entriesOf.2 ⟨r', hr', ?_, rfl⟩, ?_⟩
  · exact (congrArg RunIdentity.logicalId hid).trans hL
  · exact (congrArg RunIdentity.backfillId hid).trans hb

/-- A refusal is the answer of the specification where the latest run is in
flight and the task is not claimed. -/
theorem atomicSubmit_refused (hr : r ∈ rows) (hL : r.logicalId = L)
    (htop : r.runNumber = topRun rows L) (hfl : r.inFlight = true)
    (hclaim : ¬ Claimed (entriesOf rows L) backfillId) :
    AtomicSubmit (entriesOf rows L) backfillId (.ok .refusedAlreadyInFlight)
      (entriesOf rows L) := by
  have hentry : RunEntry.ofRow r ∈ entriesOf rows L := mem_entriesOf.2 ⟨r, hr, hL, rfl⟩
  refine AtomicSubmit.refused hclaim ⟨hentry, ?_⟩ (inFlight_ofRow.2 hfl)
  intro other hother
  obtain ⟨r', hr', hL', rfl⟩ := mem_entriesOf.1 hother
  have hle := runNumber_le_topRun hr' hL'
  rw [← htop] at hle
  exact hle

/-! ## How a call ends -/

/-- A call that has inserted `run` answers with it, or with the error of
its hand-over. -/
def SubmitPc.BoundTo (run : TaskRun T) : SubmitPc T → Prop
  | .publishQueued run' _ | .enqueue run' => run' = run
  | .failWrite .. | .publishFailed .. => True
  | .returned (.ok (.enqueued runId runNumber)) => runId = run.runId ∧ runNumber = run.runNumber
  | .returned (.error (.enqueue _)) => True
  | _ => False

variable [WebhookTask T]

namespace TaskMaster

variable {m : TaskMaster} {s s' F : TaskState T} {e : Ev T} {es : List (Ev T)} {c : ℕ}
variable {call : Call T} {choice : Choice} {pc : SubmitPc T} {fx : List (Effect T)}
variable {run : TaskRun T} {answer : SubmitAnswer}

/-- A call that has decided on a run keeps to that run. -/
theorem boundTo_of_submitMove (h : SubmitMove m rows c call choice pc fx)
    (hb : call.pc.BoundTo run) : pc.BoundTo run := by
  cases h with
  | found hpc => rcases hpc with h | h | h <;> simp [h, SubmitPc.BoundTo] at hb
  | refused hpc => rcases hpc with h | h <;> simp [h, SubmitPc.BoundTo] at hb
  | published hpc => simpa [hpc, SubmitPc.BoundTo] using hb
  | enqueued hpc =>
    simp only [hpc, SubmitPc.BoundTo] at hb
    rw [hb]
    exact ⟨rfl, rfl⟩
  | enqueueFailed => trivial
  | failWrote => trivial
  | failMissed => trivial
  | failPublished => trivial
  | _ hpc => simp [hpc, SubmitPc.BoundTo] at hb

/-- What every statement of a call preserves holds of the call at the end of a
run as well. -/
theorem exists_call_of_run {I : SubmitPc T → Prop}
    (hstep : ∀ rows call choice pc fx, SubmitMove m rows c call choice pc fx → I call.pc → I pc)
    (hc : s.calls[c]? = some call) (hI : I call.pc) (h : (system T m).run s es = some F) :
    ∃ call', F.calls[c]? = some call' ∧ I call'.pc := by
  refine System.run_inv
    (I := fun t : TaskState T => ∃ call', t.calls[c]? = some call' ∧ I call'.pc) ?_
    ⟨call, hc, hI⟩ h
  rintro s e s' ⟨call, hc, hI⟩ hs
  obtain ⟨pc, hc', rfl | ⟨choice, fx, -, hm⟩⟩ := call_step (move_of_system hs) hc
  · exact ⟨_, hc', hI⟩
  · exact ⟨_, hc', hstep _ _ _ _ _ hm hI⟩

/-- **An inserted run is what its call answers with**, or the error of its
hand-over. -/
theorem fate_of_boundTo (hc : s.calls[c]? = some call) (hb : call.pc.BoundTo run)
    (h : (system T m).run s es = some F) :
    ∃ answer, fate F c = some answer ∧
      (answer = .ok (.enqueued run.runId run.runNumber) ∨
        ∃ err, answer = .error (.enqueue err)) := by
  obtain ⟨call', hc', hb'⟩ := exists_call_of_run
    (fun _ _ _ _ _ => boundTo_of_submitMove) hc hb h
  obtain ⟨task, b, pc⟩ := call'
  rw [fate, hc', Option.bind_some]
  cases pc with
  | publishQueued run' => exact ⟨_, rfl, Or.inl (by rw [show run' = run from hb'])⟩
  | enqueue run' => exact ⟨_, rfl, Or.inl (by rw [show run' = run from hb'])⟩
  | failWrite _ err => exact ⟨_, rfl, Or.inr ⟨err, rfl⟩⟩
  | publishFailed _ err => exact ⟨_, rfl, Or.inr ⟨err, rfl⟩⟩
  | returned answer =>
    refine ⟨answer, rfl, ?_⟩
    match answer, hb' with
    | .ok (.enqueued id n), hb' => exact Or.inl (by rw [hb'.1, hb'.2])
    | .error (.enqueue err), _ => exact Or.inr ⟨err, rfl⟩
  | _ => exact absurd hb' id

/-- An answered call keeps its answer. -/
theorem fate_of_returned (hc : s.calls[c]? = some call) (hpc : call.pc = .returned answer)
    (h : (system T m).run s es = some F) :
    fate F c = some answer ∧ ∃ call', F.calls[c]? = some call' ∧ call'.pc = .returned answer := by
  obtain ⟨call', hc', hpc'⟩ := exists_call_of_run (I := fun pc => pc = .returned answer)
    (fun rows call choice pc fx hm hpc => by
      cases hm with
      | found h => rcases h with h | h | h <;> rw [hpc] at h <;> cases h
      | refused h => rcases h with h | h <;> rw [hpc] at h <;> cases h
      | _ h => rw [hpc] at h; cases h) hc hpc h
  exact ⟨by rw [fate, hc', Option.bind_some, hpc']; rfl, call', hc', hpc'⟩

/-- **A call that will be refused is of an unclaimed task**, at every state
before: it found none at its last read, and a claim is never lost. -/
theorem not_claimed_of_fate (hc : s.calls[c]? = some call)
    (hpc : ∀ answer, call.pc ≠ .returned answer)
    (hfate : fate F c = some (.ok .refusedAlreadyInFlight))
    (h : (system T m).run s es = some F) :
    ¬ Claimed (entriesOf s.rows call.logicalId) call.backfillId := by
  induction es generalizing s call with
  | nil =>
    cases h
    rw [fate, hc, Option.bind_some] at hfate
    obtain ⟨task, b, pc⟩ := call
    cases pc with
    | returned answer => exact absurd rfl (hpc answer)
    | _ => cases hfate
  | cons e es ih =>
    obtain ⟨t, ht, hrest⟩ := System.run_cons_eq_some.1 h
    have hmove := move_of_system ht
    have hpre := prefix_identity (tableMove_of_move hmove)
    obtain ⟨pc, hc', rfl | ⟨choice, fx, rfl, hm⟩⟩ := call_step hmove hc
    · exact not_claimed_mono hpre (ih hc' hpc hrest)
    · by_cases hret : ∀ answer, pc ≠ .returned answer
      · have hnot := ih hc' hret hrest
        exact not_claimed_mono hpre hnot
      · obtain ⟨answer, hret⟩ := not_forall_not.1 hret
        have hans := (fate_of_returned hc' hret hrest).1
        rw [hfate] at hans
        cases hans
        -- the answer is the refusal of a re-check that found no earlier run
        rw [hret] at hm
        cases hm with
        | refused _ hnone => exact alreadySubmitted_eq_none.1 hnone
        | found _ hsome => exact absurd hsome alreadySubmitted_ne_refused

end TaskMaster

/-! ## Where the calls stand -/

/-- Where a call stands, given the answer it is bound for. -/
def Call.standing (rows : List TaskRunModel) (fate : Option SubmitAnswer) (call : Call T) :
    Standing (Option String) SubmitAnswer :=
  match call.pc with
  | .returned _ => .idle
  | .dedup | .latest => .invoked call.backfillId
  | .recheckInFlight | .recheckConflict =>
    if fate = some (.ok .refusedAlreadyInFlight) then .answered (.ok .refusedAlreadyInFlight)
    else .invoked call.backfillId
  | .insert run =>
    -- who has lost the race for a number is refused from its insert on
    if fate = some (.ok .refusedAlreadyInFlight) ∧ run.runNumber ≤ topRun rows call.logicalId
    then .answered (.ok .refusedAlreadyInFlight) else .invoked call.backfillId
  | .publishQueued .. | .enqueue _ | .failWrite .. | .publishFailed .. =>
    match fate with
    | some answer => .answered answer
    | none => .invoked call.backfillId

/-- Where the calls of a logical task stand in a state of a run that ends
in `F`. -/
def standingIn (F : TaskState T) (L : String) (s : TaskState T) (c : ℕ) :
    Standing (Option String) SubmitAnswer :=
  match s.calls[c]? with
  | none => .idle
  | some call => if call.logicalId = L then call.standing s.rows (fate F c) else .idle

/-- What a step owes the linearization of the runs of `L`. -/
def SimulatesIn (F : TaskState T) (L : String) (s s' : TaskState T) : Prop :=
  ∃ ms, Exec submission (entriesOf s.rows L) (standingIn F L s) ms (entriesOf s'.rows L)
      (standingIn F L s') ∧
    submissionHistory L s'.log = submissionHistory L s.log ++ itemsOf ms

/-- Effects that only write, as far as the runs of `L` go. -/
def OnlyWrites (L : String) (rows : List TaskRunModel) (fx : List (Effect T)) : Prop :=
  (submissionHistory L fx = [] ∧ entriesOf (fx.foldl Effect.apply rows) L = entriesOf rows L) ∨
  ∃ w, submissionHistory L fx = [.env w] ∧ fx.foldl Effect.apply rows = w.apply rows

omit [WebhookTask T] in
/-- Writes that add no row of a task leave its highest run number. -/
theorem OnlyWrites.topRun {fx : List (Effect T)} (h : OnlyWrites L rows fx) :
    topRun (fx.foldl Effect.apply rows) L = Dreamscroll.topRun rows L := by
  rcases h with ⟨-, hsame⟩ | ⟨w, -, happly⟩
  · rw [← highestRun_entriesOf, hsame, highestRun_entriesOf]
  · rw [happly, topRun_apply]

namespace TaskMaster

variable {m : TaskMaster} {s s' F : TaskState T} {e : Ev T} {es : List (Ev T)} {c k d : ℕ}
variable {call call' : Call T} {choice : Choice} {pc : SubmitPc T} {fx log : List (Effect T)}
variable {run : TaskRun T} {answer : SubmitAnswer} {delivery : Delivery T} {dpc : DeliveryPc}
variable {estimate : Option TaskTimingEstimate}

omit [WebhookTask T] in
/-- The history of two logs, one after the other. -/
@[simp] theorem submissionHistory_append :
    submissionHistory L (log ++ fx) = submissionHistory L log ++ submissionHistory L fx :=
  List.filterMap_append

omit [WebhookTask T] in
/-- A published status is no event of the history. -/
@[simp] theorem submissionHistory_publishEffects :
    submissionHistory L (m.publishEffects (T := T) row estimate) = [] := by
  rw [publishEffects]
  cases m.publish row estimate <;> rfl

/-- Where a call to this task stands. -/
theorem standingIn_of_call (hc : s.calls[c]? = some call) (hL : call.logicalId = L) :
    standingIn F L s c = call.standing s.rows (fate F c) := by
  simp only [standingIn, hc, if_pos hL]

/-- The other calls stand where they did while no run of theirs is inserted. -/
theorem standingIn_congr (hc : s'.calls[k]? = s.calls[k]?)
    (htop : topRun s'.rows L = topRun s.rows L) : standingIn F L s' k = standingIn F L s k := by
  simp only [standingIn, hc]
  cases s.calls[k]? with
  | none => rfl
  | some call =>
    by_cases hL : call.logicalId = L
    · simp only [Call.standing, hL, htop]
    · simp only [if_neg hL]

/-- When one call moves and the highest run number stays, the standing of that
call alone changes. -/
theorem standingIn_update (hcalls : s'.calls = s.calls.set c call')
    (hc : s.calls[c]? = some call) (hL : call'.logicalId = L)
    (htop : topRun s'.rows L = topRun s.rows L) :
    standingIn F L s' =
      Function.update (standingIn F L s) c (call'.standing s'.rows (fate F c)) := by
  funext k
  by_cases hk : k = c
  · subst hk
    rw [Function.update_self]
    exact standingIn_of_call (by rw [hcalls]; exact getElem?_set_of_some hc) hL
  · rw [Function.update_of_ne hk]
    exact standingIn_congr (by rw [hcalls]; exact getElem?_set_of_ne hk) htop

/-- Where no call changes its standing, the writes are the whole step. -/
theorem simulates_of_onlyWrites (hst : standingIn F L s' = standingIn F L s)
    (hrows : s'.rows = fx.foldl Effect.apply s.rows) (hlog : s'.log = s.log ++ fx)
    (h : OnlyWrites L s.rows fx) : SimulatesIn F L s s' := by
  rcases h with ⟨hnil, hsame⟩ | ⟨w, hw, happly⟩
  · refine ⟨[], ?_, ?_⟩
    · rw [hst, hrows, hsame]
      exact .nil
    · rw [hlog, submissionHistory_append, hnil]
      rfl
  · refine ⟨[.item (.env w)], ?_, ?_⟩
    · rw [hst, hrows, happly, entriesOf_apply]
      exact .env .nil
    · rw [hlog, submissionHistory_append, hw]
      rfl

/-- A delivery adds no row. -/
theorem onlyWrites_of_deliveryMove (h : DeliveryMove m rows delivery choice dpc fx) :
    OnlyWrites L rows fx := by
  cases h with
  | rejected => exact Or.inl ⟨rfl, rfl⟩
  | attempt => exact Or.inl ⟨rfl, rfl⟩
  | ignored => exact Or.inl ⟨rfl, rfl⟩
  | began => exact Or.inr ⟨_, rfl, rfl⟩
  | beganMissing => exact Or.inr ⟨_, rfl, rfl⟩
  | publishedBegin =>
    exact Or.inl ⟨submissionHistory_publishEffects, by rw [foldl_publishEffects]⟩
  | finished => exact Or.inr ⟨_, rfl, rfl⟩
  | finishedMissing => exact Or.inr ⟨_, rfl, rfl⟩
  | publishedFinish =>
    exact Or.inl ⟨submissionHistory_publishEffects, by rw [foldl_publishEffects]⟩

/-- A call of another logical task only writes. -/
theorem onlyWrites_of_ne (h : SubmitMove m rows c call choice pc fx) (hne : call.logicalId ≠ L)
    (hrun : ∀ run, call.pc = .insert run → run.logicalId = call.logicalId) :
    OnlyWrites L rows fx := by
  cases h with
  | found => exact Or.inl ⟨by simp [submissionHistory, submissionItem, hne], rfl⟩
  | fresh => exact Or.inl ⟨rfl, rfl⟩
  | decided => exact Or.inl ⟨rfl, rfl⟩
  | sawInFlight => exact Or.inl ⟨rfl, rfl⟩
  | refused => exact Or.inl ⟨by simp [submissionHistory, submissionItem, hne], rfl⟩
  | @inserted run now _ hpc =>
    refine Or.inl ⟨rfl, ?_⟩
    have hL : (queuedRow run now).logicalId ≠ L := by
      have hlog := hrun run hpc
      rwa [← hlog] at hne
    rw [List.foldl_cons, List.foldl_nil, Effect.apply, entriesOf_append, if_neg hL,
      List.append_nil]
  | conflict => exact Or.inl ⟨rfl, rfl⟩
  | insertFailed => exact Or.inl ⟨by simp [submissionHistory, submissionItem, hne], rfl⟩
  | published =>
    refine Or.inl ⟨?_, by rw [foldl_publishEffects_append]; rfl⟩
    rw [submissionHistory_append, submissionHistory_publishEffects]
    rfl
  | enqueued => exact Or.inl ⟨by simp [submissionHistory, submissionItem, hne], rfl⟩
  | enqueueFailed => exact Or.inl ⟨rfl, rfl⟩
  | failWrote => exact Or.inr ⟨_, rfl, rfl⟩
  | failMissed =>
    refine Or.inr ⟨_, ?_, rfl⟩
    simp [submissionHistory, submissionItem, hne]
  | failPublished =>
    refine Or.inl ⟨?_, by rw [foldl_publishEffects_append]; rfl⟩
    rw [submissionHistory_append, submissionHistory_publishEffects]
    simp [submissionHistory, submissionItem, hne]

/-! ## The steps of a call -/

section Steps

variable (hc : s.calls[c]? = some call) (hL : call.logicalId = L)
variable (hs' : s' = (s.setCall c { call with pc := pc }).perform fx)
include hc hL hs'

/-- One statement of one call, read through the standings. -/
theorem standingIn_step (htop : topRun (fx.foldl Effect.apply s.rows) L = topRun s.rows L) :
    standingIn F L s' = Function.update (standingIn F L s) c
      (Call.standing s'.rows (fate F c) { call with pc := pc }) := by
  subst hs'
  exact standingIn_update rfl hc hL htop

/-- The call's standing is unchanged: its writes are the whole step. -/
theorem simulates_quiet (htop : topRun (fx.foldl Effect.apply s.rows) L = topRun s.rows L)
    (hsame : Call.standing s'.rows (fate F c) { call with pc := pc } =
      call.standing s.rows (fate F c))
    (hfx : OnlyWrites L s.rows fx) : SimulatesIn F L s s' := by
  have hst : standingIn F L s' = standingIn F L s := by
    rw [standingIn_step hc hL hs' htop, hsame, ← standingIn_of_call hc hL,
      Function.update_eq_self]
  exact simulates_of_onlyWrites hst (by rw [hs']; rfl) (by rw [hs']; rfl) hfx

/-- The call takes effect here, and is answered later. -/
theorem simulates_point (hrows : fx.foldl Effect.apply s.rows = s.rows)
    (hfx : submissionHistory L fx = [])
    (hst : call.standing s.rows (fate F c) = .invoked call.backfillId)
    (hst' : Call.standing s'.rows (fate F c) { call with pc := pc } = .answered answer)
    (ha : AtomicSubmit (entriesOf s.rows L) call.backfillId answer (entriesOf s.rows L)) :
    SimulatesIn F L s s' := by
  have hup := standingIn_step (F := F) hc hL hs' (by rw [hrows])
  have hrows' : s'.rows = s.rows := by rw [hs', TaskState.perform_rows]; exact hrows
  refine ⟨[.point c answer], ?_, ?_⟩
  · rw [hrows', hup, hst']
    exact .point (by rw [standingIn_of_call hc hL, hst]) ha .nil
  · rw [hs', TaskState.perform_log, submissionHistory_append, hfx]
    rfl

/-- The call is answered, having taken effect before. -/
theorem simulates_respond (hrows : fx.foldl Effect.apply s.rows = s.rows)
    (hfx : submissionHistory L fx = [.respond c answer])
    (hst : call.standing s.rows (fate F c) = .answered answer)
    (hpc : pc = .returned answer) : SimulatesIn F L s s' := by
  have hup := standingIn_step (F := F) hc hL hs' (by rw [hrows])
  have hrows' : s'.rows = s.rows := by rw [hs', TaskState.perform_rows]; exact hrows
  subst hpc
  refine ⟨[.item (.respond c answer)], ?_, ?_⟩
  · rw [hrows', hup]
    exact .respond (by rw [standingIn_of_call hc hL, hst]) .nil
  · rw [hs', TaskState.perform_log, submissionHistory_append, hfx]
    rfl

/-- The call takes effect at the read that answers it. -/
theorem simulates_point_respond (hrows : fx.foldl Effect.apply s.rows = s.rows)
    (hfx : submissionHistory L fx = [.respond c answer])
    (hst : call.standing s.rows (fate F c) = .invoked call.backfillId)
    (hpc : pc = .returned answer)
    (ha : AtomicSubmit (entriesOf s.rows L) call.backfillId answer (entriesOf s.rows L)) :
    SimulatesIn F L s s' := by
  have hup := standingIn_step (F := F) hc hL hs' (by rw [hrows])
  have hrows' : s'.rows = s.rows := by rw [hs', TaskState.perform_rows]; exact hrows
  subst hpc
  refine ⟨[.point c answer, .item (.respond c answer)], ?_, ?_⟩
  · refine .point (by rw [standingIn_of_call hc hL, hst]) ha ?_
    refine .respond (Function.update_self ..) ?_
    rw [Function.update_idem, hrows', hup]
    exact .nil
  · rw [hs', TaskState.perform_log, submissionHistory_append, hfx]
    rfl

end Steps

/-! ## A won insert -/

section Insert

variable {now : Timestamp} (hi : TableInv s) (hc : s.calls[c]? = some call)
variable (hL : call.logicalId = L) (hpc : call.pc = .insert run)
include hi hc hL hpc

/-- The row is a row of this task. -/
theorem logicalId_insert : run.logicalId = L := by
  rw [(hi.pending c call run hc hpc).1]
  exact hL

omit hL in
/-- The row carries the backfill of the call. -/
theorem backfillId_insert : run.backfillId = call.backfillId := by
  rw [(hi.pending c call run hc hpc).1]
  rfl

variable (hv : violatedKeys s.rows (queuedRow run now) = [])
include hv

/-- The row takes the next run number: between the read and the insertion no
one has added a row, or the unique index would refuse it. -/
theorem runNumber_insert : run.runNumber = topRun s.rows L + 1 :=
  logicalId_insert hi hc hL hpc ▸ hi.inserted_runNumber hc hpc hv

/-- The insertion raises the highest run number by one. -/
theorem topRun_insert : topRun (s.rows ++ [queuedRow run now]) L = topRun s.rows L + 1 := by
  have hlogical : (queuedRow run now).logicalId = L := logicalId_insert hi hc hL hpc
  have hnum : (queuedRow run now).runNumber = topRun s.rows L + 1 :=
    runNumber_insert hi hc hL hpc hv
  rw [topRun_append_singleton, if_pos hlogical, hnum]
  omega

/-- The insert adds the entry of its run. -/
theorem entriesOf_insert : entriesOf (s.rows ++ [queuedRow run now]) L = entriesOf s.rows L ++
    [⟨run.runId, topRun s.rows L + 1, call.backfillId, TaskRunStatus.queued.asI32⟩] := by
  have hlogical : (queuedRow run now).logicalId = L := logicalId_insert hi hc hL hpc
  rw [entriesOf_append, if_pos hlogical, ← runNumber_insert hi hc hL hpc hv,
    ← backfillId_insert hi hc hpc]
  rfl

/-- **The call takes effect here**: its backfill was not claimed, and the
runs before this one are settled. -/
theorem atomicSubmit_insert (hw : Waiting (fun _ => False) s)
    (hanswer : answer = .ok (.enqueued run.runId run.runNumber) ∨
      ∃ err, answer = .error (.enqueue err)) :
    AtomicSubmit (entriesOf s.rows L) call.backfillId answer
      (entriesOf (s.rows ++ [queuedRow run now]) L) := by
  have hrunL := logicalId_insert hi hc hL hpc
  have hrunB := backfillId_insert hi hc hpc
  have hnum := runNumber_insert hi hc hL hpc hv
  rw [entriesOf_insert hi hc hL hpc hv, ← highestRun_entriesOf]
  refine .inserted ?_ ?_ ?_
  · rintro ⟨hsome, entry, hentry, hb⟩
    obtain ⟨r, hr, hrL, rfl⟩ := mem_entriesOf.1 hentry
    refine (violatedKeys_eq_nil.1 hv r hr).2.1 ⟨?_, hrL.trans hrunL.symm, ?_⟩
    · exact hb.trans hrunB.symm
    · rw [show (queuedRow run now).backfillId = call.backfillId from hrunB]
      exact hsome
  · intro latest hlatest hfl
    obtain ⟨r, hr, hrL, rfl⟩ := mem_entriesOf.1 hlatest.1
    have hge : topRun s.rows L ≤ r.runNumber := by
      refine foldr_max_le fun n hn => ?_
      obtain ⟨r', hr', hrL', rfl⟩ := mem_runNumbers.1 hn
      exact hlatest.2 _ (mem_entriesOf.2 ⟨r', hr', hrL', rfl⟩)
    refine hw c call run hc hpc (hL ▸ hnum) r hr (hrL.trans hL.symm) ?_ (inFlight_ofRow.1 hfl)
    rw [hL]
    exact le_antisymm (runNumber_le_topRun hr hrL) hge
  · rw [highestRun_entriesOf, ← hnum]
    exact hanswer

/-- **So does every call that lost the race** for the number and will be
refused; nobody else's standing changes. -/
theorem losers_insert {k : ℕ} (hrows : s'.rows = s.rows ++ [queuedRow run now])
    (hk' : s'.calls[k]? = s.calls[k]?) (hrun : (system T m).run s' es = some F)
    (hk : standingIn F L s k ≠ standingIn F L s' k) : k < s.calls.length ∧ ∃ op r,
      standingIn F L s k = .invoked op ∧ standingIn F L s' k = .answered r ∧
      submission.answers (entriesOf s'.rows L) op r (entriesOf s'.rows L) := by
  have htop : topRun s'.rows L = topRun s.rows L + 1 := by
    rw [hrows, topRun_insert hi hc hL hpc hv]
  simp only [standingIn, hk'] at hk ⊢
  cases hcall : s.calls[k]? with
  | none => simp [hcall] at hk
  | some call₁ =>
    refine ⟨(List.getElem?_eq_some_iff.1 hcall).1, call₁.backfillId,
      .ok .refusedAlreadyInFlight, ?_⟩
    simp only [hcall] at hk ⊢
    by_cases hL₁ : call₁.logicalId = L
    · rw [if_pos hL₁, if_pos hL₁] at hk ⊢
      have hcall' : s'.calls[k]? = some call₁ := by rw [hk', hcall]
      cases hpc₁ : call₁.pc with
      | insert run₁ =>
        simp only [Call.standing, hpc₁, hL₁, htop] at hk ⊢
        by_cases hf : fate F k = some (.ok .refusedAlreadyInFlight)
        · have hold : ¬ run₁.runNumber ≤ topRun s.rows L := by
            intro hle
            rw [if_pos ⟨hf, hle⟩, if_pos ⟨hf, Nat.le_succ_of_le hle⟩] at hk
            exact hk rfl
          have hnew₁ : run₁.runNumber ≤ topRun s.rows L + 1 := by
            have hp := (hi.pending k call₁ run₁ hcall hpc₁).2.1
            rwa [hL₁] at hp
          refine ⟨if_neg fun h => hold h.2, if_pos ⟨hf, hnew₁⟩, ?_⟩
          have hclaim := not_claimed_of_fate hcall' (by simp [hpc₁]) hf hrun
          rw [hL₁] at hclaim
          refine atomicSubmit_refused (r := queuedRow run now) ?_
            (logicalId_insert hi hc hL hpc) ?_ rfl hclaim
          · rw [hrows]
            exact List.mem_append_right _ (List.mem_singleton_self _)
          · rw [htop]
            exact runNumber_insert hi hc hL hpc hv
        · rw [if_neg (fun h => hf h.1), if_neg (fun h => hf h.1)] at hk
          exact absurd rfl hk
      | _ =>
        simp only [Call.standing, hpc₁] at hk
        exact absurd rfl hk
    · rw [if_neg hL₁, if_neg hL₁] at hk
      exact absurd rfl hk

/-- **A won insert**: the call takes effect, and so does every call that
lost the race for the number and will be refused. -/
theorem simulates_insert (hw : Waiting (fun _ => False) s)
    (hs' : s' = (s.setCall c { call with pc := .publishQueued run (queuedRow run now) }).perform
      [.insert c (queuedRow run now)])
    (hrun : (system T m).run s' es = some F) : SimulatesIn F L s s' := by
  have hrows : s'.rows = s.rows ++ [queuedRow run now] := by rw [hs']; rfl
  have hcalls : s'.calls =
      s.calls.set c { call with pc := .publishQueued run (queuedRow run now) } := by
    rw [hs']; rfl
  have hc' : s'.calls[c]? =
      some { call with pc := .publishQueued run (queuedRow run now) } := by
    rw [hcalls]; exact getElem?_set_of_some hc
  have hbound : (SubmitPc.publishQueued run (queuedRow run now)).BoundTo run := rfl
  obtain ⟨answer, hfate, hanswer⟩ := fate_of_boundTo hc' hbound hrun
  have hne : fate F c ≠ some (.ok .refusedAlreadyInFlight) := by
    rw [hfate]
    rcases hanswer with rfl | ⟨err, rfl⟩ <;> simp
  have hst : standingIn F L s c = .invoked call.backfillId := by
    rw [standingIn_of_call hc hL]
    simp only [Call.standing, hpc]
    exact if_neg fun h => hne h.1
  have hatomic := atomicSubmit_insert hi hc hL hpc hv hw hanswer
  rw [← hrows] at hatomic
  have hlosers : ∀ k, Function.update (standingIn F L s) c (.answered answer) k ≠
      standingIn F L s' k → k < s.calls.length ∧ ∃ op r,
        Function.update (standingIn F L s) c (.answered answer) k = .invoked op ∧
        standingIn F L s' k = .answered r ∧
        submission.answers (entriesOf s'.rows L) op r (entriesOf s'.rows L) := by
    intro k hk
    have hkc : k ≠ c := by
      rintro rfl
      rw [Function.update_self, standingIn_of_call hc' hL] at hk
      simp only [Call.standing, hfate, ne_eq, not_true] at hk
    rw [Function.update_of_ne hkc] at hk ⊢
    have hk' : s'.calls[k]? = s.calls[k]? := by rw [hcalls]; exact getElem?_set_of_ne hkc
    exact losers_insert hi hc hL hpc hv hrows hk' hrun hk
  obtain ⟨ms, hms, hitems⟩ := Exec.points s.calls.length _ hlosers
  refine ⟨.point c answer :: ms, .point hst hatomic hms, ?_⟩
  rw [hs', TaskState.perform_log, submissionHistory_append, itemsOf_point, hitems]
  rfl

end Insert

/-! ## Every other statement -/

section Statements

variable (hc : s.calls[c]? = some call) (hL : call.logicalId = L)
include hc hL

omit hc in
/-- An answer is one event of the history. -/
theorem submissionHistory_respond :
    submissionHistory L [Effect.respond (T := T) c call.logicalId answer] =
      [.respond c answer] := by
  simp [submissionHistory, submissionItem, hL]

/-- A call that will be refused finds its backfill unclaimed. -/
theorem unclaimed_of_refused (hpc : ∀ answer, call.pc ≠ .returned answer)
    (hrun : (system T m).run s es = some F) (hf : fate F c = some (.ok .refusedAlreadyInFlight)) :
    ¬ Claimed (entriesOf s.rows L) call.backfillId := by
  have hclaim := not_claimed_of_fate hc hpc hf hrun
  rwa [hL] at hclaim

/-- **A call that finds its backfill** takes effect there. -/
theorem simulates_found {outcome : SubmitOutcome}
    (hpc : call.pc = .dedup ∨ call.pc = .recheckInFlight ∨ call.pc = .recheckConflict)
    (hsome : alreadySubmitted s.rows call.backfillId call.logicalId = some outcome)
    (hs' : s' = (s.setCall c { call with pc := .returned (.ok outcome) }).perform
      [.respond c call.logicalId (.ok outcome)])
    (hf : fate F c = some (.ok outcome)) : SimulatesIn F L s s' := by
  have hne : fate F c ≠ some (.ok .refusedAlreadyInFlight) := by
    rw [hf]
    intro heq
    cases heq
    exact alreadySubmitted_ne_refused hsome
  refine simulates_point_respond hc hL hs' rfl (submissionHistory_respond hL) ?_ rfl ?_
  · rcases hpc with hpc | hpc | hpc
    · simp only [Call.standing, hpc]
    · simp only [Call.standing, hpc, if_neg hne]
    · simp only [Call.standing, hpc, if_neg hne]
  · rw [hL] at hsome
    exact atomicSubmit_of_alreadySubmitted hsome

/-- **A call that decides on a number** takes effect at its insert, or when
it is beaten to the number. -/
theorem simulates_decided {n : ℕ} {runId : String} (hpc : call.pc = .latest)
    (hn : decideNextRun (queryRunStatus s.rows call.logicalId none none) = some n)
    (hs' : s' = (s.setCall c { call with pc := .insert (call.newRun n runId) }).perform []) :
    SimulatesIn F L s s' := by
  have hrows : s'.rows = s.rows := by rw [hs']; rfl
  have htop : ¬ n ≤ topRun s.rows call.logicalId := by
    have := decideNextRun_eq_some hn
    omega
  refine simulates_quiet hc hL hs' rfl ?_ (Or.inl ⟨rfl, rfl⟩)
  rw [hrows]
  simp only [Call.standing, hpc]
  exact if_neg fun h => htop h.2

/-- **A call that sees a run in flight** takes effect there if it will be
refused. -/
theorem simulates_sawInFlight (hpc : call.pc = .latest)
    (hnone : decideNextRun (queryRunStatus s.rows call.logicalId none none) = none)
    (hs' : s' = (s.setCall c { call with pc := .recheckInFlight }).perform [])
    (hrun : (system T m).run s es = some F) : SimulatesIn F L s s' := by
  by_cases hf : fate F c = some (.ok .refusedAlreadyInFlight)
  · obtain ⟨r, hq, hfl⟩ := decideNextRun_eq_none hnone
    obtain ⟨hr, hrL, htop⟩ := queryRunStatus_eq_some hq
    have hunclaimed := unclaimed_of_refused hc hL (by simp [hpc]) hrun hf
    refine simulates_point hc hL hs' rfl rfl ?_ ?_
      (atomicSubmit_refused hr (hrL.trans hL) ?_ hfl hunclaimed)
    · simp only [Call.standing, hpc]
    · simp only [Call.standing, if_pos hf]
    · rw [htop, hL]
  · refine simulates_quiet hc hL hs' rfl ?_ (Or.inl ⟨rfl, rfl⟩)
    simp only [Call.standing, hpc, if_neg hf]

/-- **A call that lost the race for its insert** took effect when the number
went, if it will be refused: it finds no claim, so what it lost is its
number. -/
theorem simulates_conflict (hi : TableInv s) (hpc : call.pc = .insert run)
    (hconflict : (∃ r ∈ s.rows, r.logicalId = run.logicalId ∧ r.runNumber = run.runNumber) ∨
      ∃ r ∈ s.rows, r.backfillId = run.backfillId ∧ r.logicalId = run.logicalId ∧
        run.backfillId.isSome)
    (hs' : s' = (s.setCall c { call with pc := .recheckConflict }).perform [])
    (hrun : (system T m).run s es = some F) : SimulatesIn F L s s' := by
  have hrunL : run.logicalId = L := logicalId_insert hi hc hL hpc
  have hrunB : run.backfillId = call.backfillId := backfillId_insert hi hc hpc
  refine simulates_quiet hc hL hs' rfl ?_ (Or.inl ⟨rfl, rfl⟩)
  simp only [Call.standing, hpc]
  by_cases hf : fate F c = some (.ok .refusedAlreadyInFlight)
  · have hle : run.runNumber ≤ topRun s.rows call.logicalId := by
      rw [hL]
      rcases hconflict with ⟨r, hr, hrL, hrn⟩ | ⟨r, hr, hb, hrL, hsome⟩
      · rw [← hrn]
        exact runNumber_le_topRun hr (hrL.trans hrunL)
      · have hunclaimed := unclaimed_of_refused hc hL (by simp [hpc]) hrun hf
        refine absurd ⟨?_, RunEntry.ofRow r, mem_entriesOf.2 ⟨r, hr, hrL.trans hrunL, rfl⟩, ?_⟩
          hunclaimed
        · rw [← hrunB]
          exact hsome
        · exact hb.trans hrunB
    rw [if_pos hf]
    exact (if_pos ⟨hf, hle⟩).symm
  · rw [if_neg hf]
    exact (if_neg fun h => hf h.1).symm

/-- The hint and the hand-over are no business of the table. -/
theorem simulates_published (hpc : call.pc = .publishQueued run row)
    (hs' : s' = (s.setCall c { call with pc := .enqueue run }).perform
      (m.publishEffects row estimate ++ [.hand c run])) : SimulatesIn F L s s' := by
  have hrows : ∀ rows : List TaskRunModel,
      (m.publishEffects row estimate ++ [Effect.hand c run]).foldl Effect.apply rows = rows := by
    intro rows
    rw [foldl_publishEffects_append]
    rfl
  refine simulates_quiet hc hL hs' (by rw [hrows]) ?_ (Or.inl ⟨?_, by rw [hrows]⟩)
  · simp only [Call.standing, hpc]
  · rw [submissionHistory_append, submissionHistory_publishEffects]
    rfl

/-- **A failure that is written nowhere** is answered at once. -/
theorem simulates_failMissed {err : ApiError} {now : Timestamp} (hpc : call.pc = .failWrite run err)
    (hs' : s' = (s.setCall c { call with pc := .returned (.error (.enqueue err)) }).perform
      [.write (setStatus run .submissionFailed 0 (some err) now),
        .respond c call.logicalId (.error (.enqueue err))])
    (hf : fate F c = some (.error (.enqueue err))) : SimulatesIn F L s s' := by
  have hup := standingIn_step (F := F) hc hL hs' topRun_apply
  have hrows : entriesOf s'.rows L =
      entryWrite (entriesOf s.rows L) (setStatus run .submissionFailed 0 (some err) now) := by
    rw [hs']
    exact entriesOf_apply
  refine ⟨[.item (.env (setStatus run .submissionFailed 0 (some err) now)),
    .item (.respond c (.error (.enqueue err)))], ?_, ?_⟩
  · refine .env (.respond ?_ ?_)
    · rw [standingIn_of_call hc hL]
      simp only [Call.standing, hpc, hf]
    · rw [hup, hrows]
      exact .nil
  · rw [hs', TaskState.perform_log, submissionHistory_append]
    simp [submissionHistory, submissionItem, hL]

/-- A failure that was written is answered after its hint. -/
theorem simulates_failPublished {err : ApiError} (hpc : call.pc = .publishFailed row err)
    (hs' : s' = (s.setCall c { call with pc := .returned (.error (.enqueue err)) }).perform
      (m.publishEffects row estimate ++ [.respond c call.logicalId (.error (.enqueue err))]))
    (hf : fate F c = some (.error (.enqueue err))) : SimulatesIn F L s s' := by
  refine simulates_respond hc hL hs' ?_ ?_ ?_ rfl
  · rw [foldl_publishEffects_append]
    rfl
  · rw [submissionHistory_append, submissionHistory_publishEffects]
    exact submissionHistory_respond hL
  · simp only [Call.standing, hpc, hf]

end Statements

/-- **Every statement of a call is matched by the specification.** -/
theorem simulates_of_submitMove (hi : TableInv s) (hw : Waiting (fun _ => False) s)
    (hc : s.calls[c]? = some call) (hL : call.logicalId = L)
    (hm : SubmitMove m s.rows c call choice pc fx)
    (hs' : s' = (s.setCall c { call with pc := pc }).perform fx)
    (hstep : (system T m).step s (.call c choice) = some s')
    (hrun : (system T m).run s' es = some F)
    (hdb : ∀ call ∈ F.calls, call.pc.dbFailed = false) : SimulatesIn F L s s' := by
  have hc' : s'.calls[c]? = some { call with pc := pc } := by
    rw [hs']; exact getElem?_set_of_some hc
  have hrunS : (system T m).run s (.call c choice :: es) = some F :=
    System.run_cons_eq_some.2 ⟨s', hstep, hrun⟩
  have hreturned : ∀ answer, pc = .returned answer → fate F c = some answer :=
    fun answer hpc' => (fate_of_returned hc' hpc' hrun).1
  cases hm with
  | found hpc hsome => exact simulates_found hc hL hpc hsome hs' (hreturned _ rfl)
  | fresh hpc =>
    refine simulates_quiet hc hL hs' rfl ?_ (Or.inl ⟨rfl, rfl⟩)
    simp only [Call.standing, hpc]
  | decided hpc hn => exact simulates_decided hc hL hpc hn hs'
  | sawInFlight hpc hnone => exact simulates_sawInFlight hc hL hpc hnone hs' hrunS
  | refused hpc =>
    refine simulates_respond hc hL hs' rfl (submissionHistory_respond hL) ?_ rfl
    rcases hpc with hpc | hpc <;> simp only [Call.standing, hpc, if_pos (hreturned _ rfl)]
  | inserted hpc hv => exact simulates_insert hi hc hL hpc hv hw hs' hrun
  | conflict hpc hconflict => exact simulates_conflict hc hL hi hpc hconflict hs' hrunS
  | insertFailed =>
    -- the database fails no call of this run
    obtain ⟨-, call', hcF, hpcF⟩ := fate_of_returned hc' rfl hrun
    have hfail := hdb call' (List.mem_of_getElem? hcF)
    rw [hpcF] at hfail
    cases hfail
  | published hpc => exact simulates_published hc hL hpc hs'
  | enqueued hpc =>
    refine simulates_respond hc hL hs' rfl (submissionHistory_respond hL) ?_ rfl
    simp only [Call.standing, hpc, hreturned _ rfl]
  | enqueueFailed hpc =>
    refine simulates_quiet hc hL hs' rfl ?_ (Or.inl ⟨rfl, rfl⟩)
    simp only [Call.standing, hpc]
  | failWrote hpc =>
    refine simulates_quiet hc hL hs' topRun_apply ?_ (Or.inr ⟨_, rfl, rfl⟩)
    simp only [Call.standing, hpc]
  | failMissed hpc => exact simulates_failMissed hc hL hpc hs' (hreturned _ rfl)
  | failPublished hpc => exact simulates_failPublished hc hL hpc hs' (hreturned _ rfl)

/-- The call comes in: the object sees an invocation. -/
theorem simulates_of_submit {task : T} {b : Option String} :
    SimulatesIn F L s (TaskState.perform { s with calls := s.calls ++ [⟨task, b, .dedup⟩] }
      [.invoke s.calls.length (TaskRun.makeLogicalId task) b]) := by
  set s' := TaskState.perform { s with calls := s.calls ++ [⟨task, b, .dedup⟩] }
    [.invoke s.calls.length (TaskRun.makeLogicalId task) b] with hs'
  have hnew : s'.calls[s.calls.length]? = some ⟨task, b, .dedup⟩ := by simp [hs']
  have hidle : standingIn F L s s.calls.length = .idle := by simp [standingIn]
  have hothers : ∀ k ≠ s.calls.length, standingIn F L s' k = standingIn F L s k := by
    intro k hk
    refine standingIn_congr ?_ rfl
    rcases Nat.lt_or_gt_of_ne hk with hlt | hgt
    · exact List.getElem?_append_left hlt
    · rw [List.getElem?_eq_none hgt.le]
      exact List.getElem?_eq_none (by simp [hs']; omega)
  by_cases hL : TaskRun.makeLogicalId task = L
  · refine ⟨[.item (.invoke s.calls.length b)], ?_, ?_⟩
    · have hst : standingIn F L s' =
          Function.update (standingIn F L s) s.calls.length (.invoked b) := by
        funext k
        by_cases hk : k = s.calls.length
        · rw [hk, Function.update_self, standingIn_of_call hnew hL]
          rfl
        · rw [Function.update_of_ne hk, hothers k hk]
      rw [hst]
      exact .invoke hidle .nil
    · simp [hs', submissionHistory, submissionItem, hL]
  · have hst : standingIn F L s' = standingIn F L s := by
      funext k
      by_cases hk : k = s.calls.length
      · rw [hk, hidle, standingIn, hnew]
        exact if_neg hL
      · exact hothers k hk
    refine simulates_of_onlyWrites hst rfl rfl (Or.inl ⟨?_, rfl⟩)
    simp [submissionHistory, submissionItem, hL]

/-- **Every step of the machine is.** -/
theorem simulates_of_step (hi : TableInv s) (hw : Waiting (fun _ => False) s)
    (hstep : (system T m).step s e = some s') (hrun : (system T m).run s' es = some F)
    (hdb : ∀ call ∈ F.calls, call.pc.dbFailed = false) : SimulatesIn F L s s' := by
  cases move_of_system hstep with
  | submit => exact simulates_of_submit
  | @call c choice call pc fx hc hm =>
    by_cases hL : call.logicalId = L
    · exact simulates_of_submitMove hi hw hc hL hm rfl hstep hrun hdb
    · -- a call of another task: the runs of this one are out of its reach
      have honly := onlyWrites_of_ne hm hL fun run hpc => by
        rw [(hi.pending c call run hc hpc).1]; rfl
      refine simulates_of_onlyWrites ?_ rfl rfl honly
      funext k
      by_cases hk : k = c
      · subst hk
        have hc' : ((s.setCall k { call with pc := pc }).perform fx).calls[k]? =
            some { call with pc := pc } := getElem?_set_of_some hc
        simp only [standingIn, hc', hc]
        rw [if_neg hL]
        exact if_neg hL
      · exact standingIn_congr (getElem?_set_of_ne hk) honly.topRun
  | accept => exact ⟨[], .nil, (List.append_nil _).symm⟩
  | deliver => exact ⟨[], .nil, (List.append_nil _).symm⟩
  | @delivery d choice delivery pc fx hd hm =>
    have honly := onlyWrites_of_deliveryMove (L := L) hm
    refine simulates_of_onlyWrites ?_ rfl rfl honly
    funext k
    exact standingIn_congr rfl honly.topRun

/-- **Submission is linearizable.** In every run in which no statement fails
and no settled row is in flight again, the submissions of every logical
task take effect atomically, each at one point between its invocation and
its answer. -/
theorem submit_linearizable {rows₀ : List TaskRunModel} {accepted₀ : List (TaskRun T)}
    {evs : List (Ev T)} (hkeys : UniqueKeys rows₀)
    (hrun : (system T m).run (TaskState.start rows₀ accepted₀) evs = some F)
    (hdb : ∀ call ∈ F.calls, call.pc.dbFailed = false)
    (hsettled : (system T m).Along StaysSettled (TaskState.start rows₀ accepted₀) evs)
    (L : String) :
    Linearizable submission (entriesOf rows₀ L) (submissionHistory L F.log) := by
  refine linearizable_of_simulation (fun s => entriesOf s.rows L) (standingIn F L)
    (fun s => submissionHistory L s.log) (P := StaysSettled)
    (I := fun s => TableInv s ∧ Waiting (fun _ => False) s) ?_ ?_
    ⟨tableInv_start hkeys, waiting_start⟩ rfl rfl hrun hsettled
  · rintro s e s' ⟨hi, hw⟩ hs hP
    have hm := move_of_system hs
    exact ⟨tableInv_of_move hm hi, waiting_of_move hm hi (fun _ hr => hP.not_revives hr) hw⟩
  · rintro s e s' es ⟨hi, hw⟩ hs - hrest
    exact simulates_of_step hi hw hs hrest hdb

/-- Two calls race for the first run, a worker completes it, and a third
call, tagged, submits the second. -/
def raceSchedule : List (Ev SearchIndexTask) :=
  [.submit ⟨7, 1⟩ none, .submit ⟨7, 1⟩ (some "backfill"), .call 0 .read, .call 1 .read,
    .call 0 (.latest "run-1"), .call 1 (.latest "run-2"), .call 0 (.insert 0 taskRunKey),
    .call 1 (.insert 0 taskRunKey), .call 0 (.publish none), .call 1 .read,
    .call 0 .enqueued, .accept 0] ++
    Ev.attempt 0 0 (.ok ()) 10 ++ Ev.submission 2 ⟨7, 1⟩ (some "backfill") "run-3" 20

/-- Two calls that race for the same run number, one of which loses at the
unique index. -/
theorem submit_linearizable_race :
    Linearizable submission (entriesOf [] (TaskRun.makeLogicalId (⟨7, 1⟩ : SearchIndexTask)))
      (submissionHistory (TaskRun.makeLogicalId (⟨7, 1⟩ : SearchIndexTask))
        (((system SearchIndexTask ⟨3, true⟩).run (TaskState.start [] []) raceSchedule).get
          (by decide)).log) :=
  submit_linearizable uniqueKeys_nil (Option.some_get _).symm (by decide)
    (by decide) _

end TaskMaster

end Dreamscroll
