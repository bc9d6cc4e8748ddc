import Dreamscroll.Common.Chronology
import Dreamscroll.Task.Invariants
/-!
# The history of the runs

What any interleaving leaves in `task_runs`, from the empty table on: the
run numbers of every logical task are `1 … n`, a backfill claims a task
once, no identity column ever changes, a status write touches its own row
only, and every row is handed to the queue at most once, by the call that
inserted it.
-/

namespace Dreamscroll

variable {T : Type}

/-! ## Reading the log -/

/-- The inserts of a log, each with the call that made it. -/
def insertsOf (log : List (Effect T)) : List (ℕ × TaskRunModel) :=
  log.filterMap fun
    | .insert c row => some (c, row)
    | _ => none

/-- The hand-overs of a log, each with the call that made it. -/
def handsOf (log : List (Effect T)) : List (ℕ × TaskRun T) :=
  log.filterMap fun
    | .hand c run => some (c, run)
    | _ => none

variable {fx log : List (Effect T)} {rows : List TaskRunModel}

theorem TaskState.handed_eq (s : TaskState T) : s.handed = handsOf s.log := rfl

/-- The insertions of two logs. -/
@[simp] theorem insertsOf_append : insertsOf (log ++ fx) = insertsOf log ++ insertsOf fx :=
  List.filterMap_append

/-- The hand-overs of two logs. -/
@[simp] theorem handsOf_append : handsOf (log ++ fx) = handsOf log ++ handsOf fx :=
  List.filterMap_append

/-- **The rows are the inserted ones**, as far as their identity goes: a
status write changes no identity column. -/
theorem map_identity_foldl :
    (fx.foldl Effect.apply rows).map TaskRunModel.identity =
      rows.map TaskRunModel.identity ++ (insertsOf fx).map fun p => p.2.identity := by
  induction fx generalizing rows with
  | nil => simp [insertsOf]
  | cons f fx ih =>
    rw [List.foldl_cons, ih]
    cases f with
    | insert c row => simp [Effect.apply, insertsOf]
    | write w => simp [Effect.apply, insertsOf]
    | _ => rfl

/-! ## What a move adds to the history -/

/-- How far past its insert a call is: it has inserted its row, has handed
its run over, or has answered. -/
def SubmitPc.stage : SubmitPc T → ℕ
  | .dedup | .latest | .recheckInFlight | .insert _ | .recheckConflict => 0
  | .publishQueued .. => 1
  | .enqueue _ | .failWrite .. | .publishFailed .. => 2
  | .returned _ => 3

/-- The run a call has inserted and not settled itself. -/
def SubmitPc.handing : SubmitPc T → Option (TaskRun T)
  | .publishQueued run _ | .enqueue run | .failWrite run _ => some run
  | _ => none

namespace TaskMaster

variable {m : TaskMaster} {s s' : TaskState T} {e : Ev T} {c d : ℕ} {call : Call T}
variable {delivery : Delivery T} {choice : Choice} {pc : SubmitPc T} {dpc : DeliveryPc}
variable {row : TaskRunModel} {estimate : Option TaskTimingEstimate} {evs : List (Ev T)}
variable {runId : String} {n : ℕ}
variable {rows₀ : List TaskRunModel} {accepted₀ : List (TaskRun T)}

/-- A hint inserts nothing. -/
@[simp] theorem insertsOf_publishEffects :
    insertsOf (m.publishEffects (T := T) row estimate) = [] := by
  rw [publishEffects]
  cases m.publish row estimate <;> rfl

/-- A hint hands nothing over. -/
@[simp] theorem handsOf_publishEffects :
    handsOf (m.publishEffects (T := T) row estimate) = [] := by
  rw [publishEffects]
  cases m.publish row estimate <;> rfl

/-- An insertion is in the log. -/
theorem mem_insertsOf : (c, row) ∈ insertsOf log ↔ Effect.insert c row ∈ log := by
  simp only [insertsOf, List.mem_filterMap]
  constructor
  · rintro ⟨f, hf, heq⟩
    cases f <;> cases heq
    exact hf
  · exact fun h => ⟨_, h, rfl⟩

variable [WebhookTask T]

/-- A call inserts, or hands its run over, or does neither. -/
theorem history_of_submitMove (h : SubmitMove m rows c call choice pc fx) :
    call.pc.stage ≤ pc.stage ∧
    ((insertsOf fx = [] ∧ handsOf fx = [] ∧
        ∀ run, pc.handing = some run → call.pc.handing = some run) ∨
      (∃ run now, pc = .publishQueued run (queuedRow run now) ∧
        insertsOf fx = [(c, queuedRow run now)] ∧ handsOf fx = []) ∨
      ∃ run row, call.pc = .publishQueued run row ∧ pc = .enqueue run ∧
        insertsOf fx = [] ∧ handsOf fx = [(c, run)]) := by
  cases h with
  | @inserted run now reported hpc =>
    refine ⟨by simp [hpc, SubmitPc.stage], Or.inr (Or.inl ⟨run, now, rfl, ?_, ?_⟩)⟩
    · simp [insertsOf]
    · simp [handsOf]
  | @published run row estimate hpc =>
    refine ⟨by simp [hpc, SubmitPc.stage], Or.inr (Or.inr ⟨run, row, hpc, rfl, ?_, ?_⟩)⟩
    · rw [insertsOf_append, insertsOf_publishEffects]
      simp [insertsOf]
    · rw [handsOf_append, handsOf_publishEffects]
      simp [handsOf]
  | found hpc =>
    refine ⟨?_, Or.inl ⟨by simp [insertsOf], by simp [handsOf], by simp [SubmitPc.handing]⟩⟩
    rcases hpc with h | h | h <;> simp [h, SubmitPc.stage]
  | refused hpc =>
    refine ⟨?_, Or.inl ⟨by simp [insertsOf], by simp [handsOf], by simp [SubmitPc.handing]⟩⟩
    rcases hpc with h | h <;> simp [h, SubmitPc.stage]
  | failPublished hpc =>
    refine ⟨by simp [hpc, SubmitPc.stage], Or.inl ⟨?_, ?_, by simp [SubmitPc.handing]⟩⟩
    · rw [insertsOf_append, insertsOf_publishEffects]
      simp [insertsOf]
    · rw [handsOf_append, handsOf_publishEffects]
      simp [handsOf]
  | _ hpc =>
    refine ⟨by simp [hpc, SubmitPc.stage], Or.inl ⟨by simp [insertsOf], by simp [handsOf], ?_⟩⟩
    simp [hpc, SubmitPc.handing]

/-- A delivery inserts no run and hands none over. -/
theorem history_of_deliveryMove (h : DeliveryMove m rows delivery choice dpc fx) :
    insertsOf fx = [] ∧ handsOf fx = [] := by
  cases h with
  | publishedBegin => exact ⟨insertsOf_publishEffects, handsOf_publishEffects⟩
  | publishedFinish => exact ⟨insertsOf_publishEffects, handsOf_publishEffects⟩
  | _ => exact ⟨rfl, rfl⟩

/-- No call goes back. -/
theorem stage_of_move (h : Move m s e s') (hc : s.calls[c]? = some call) :
    ∃ call', s'.calls[c]? = some call' ∧ call.pc.stage ≤ call'.pc.stage := by
  obtain ⟨pc, hc', rfl | ⟨choice, fx, -, hm⟩⟩ := call_step h hc
  · exact ⟨_, hc', le_rfl⟩
  · exact ⟨_, hc', (history_of_submitMove hm).1⟩

/-- The inserts only grow. -/
theorem mem_insertsOf_of_move (h : Move m s e s') {p : ℕ × TaskRunModel}
    (hp : p ∈ insertsOf s.log) : p ∈ insertsOf s'.log := by
  obtain ⟨fx, hfx⟩ := log_of_move h
  rw [hfx, insertsOf_append]
  exact List.mem_append_left _ hp

/-- A step hands nothing over, or the run of a call that published it. -/
theorem handed_of_move (h : Move m s e s') :
    s'.handed = s.handed ∨
    ∃ (c : ℕ) (call : Call T) (run : TaskRun T) (row : TaskRunModel),
      s.calls[c]? = some call ∧ call.pc = .publishQueued run row ∧
      s'.calls[c]? = some { call with pc := .enqueue run } ∧
      s'.handed = s.handed ++ [(c, run)] := by
  simp only [TaskState.handed_eq]
  cases h with
  | submit => exact Or.inl (by simp [handsOf])
  | @call c choice call pc fx hc hm =>
    rcases (history_of_submitMove hm).2 with ⟨-, hhand, -⟩ | ⟨run, now, -, -, hhand⟩ |
      ⟨run, row, hpc, rfl, -, hhand⟩
    · exact Or.inl (by simp [hhand])
    · exact Or.inl (by simp [hhand])
    · exact Or.inr ⟨c, call, run, row, hc, hpc, getElem?_set_of_some hc, by simp [hhand]⟩
  | accept => exact Or.inl rfl
  | deliver => exact Or.inl rfl
  | delivery _ hm => exact Or.inl (by simp [(history_of_deliveryMove hm).2])

/-- A hand-over stays in the log. -/
theorem mem_handed_of_move (h : Move m s e s') {p : ℕ × TaskRun T} (hp : p ∈ s.handed) :
    p ∈ s'.handed := by
  obtain ⟨fx, hfx⟩ := log_of_move h
  rw [TaskState.handed_eq, hfx, handsOf_append]
  exact List.mem_append_left _ hp

/-! ## The hand-overs -/

/-- **The invariant of the hand-overs**: a call hands over the run whose
row it inserted, and once. -/
structure HandInv (s : TaskState T) : Prop where
  handing : ∀ (c : ℕ) (call : Call T) (run : TaskRun T), s.calls[c]? = some call →
    call.pc.handing = some run → ∃ row, (c, row) ∈ insertsOf s.log ∧ row.identity = run.identity
  inserted : ∀ h ∈ s.handed, ∃ row, (h.1, row) ∈ insertsOf s.log ∧ row.identity = h.2.identity
  handed : ∀ h ∈ s.handed, ∃ call, s.calls[h.1]? = some call ∧ 2 ≤ call.pc.stage
  once : (s.handed.map Prod.fst).Nodup

/-- A call that is about to hand a run over has inserted its row. -/
theorem handing_of_move (h : Move m s e s') (hi : HandInv s) {run : TaskRun T}
    (hc : s'.calls[c]? = some call) (hrun : call.pc.handing = some run) :
    ∃ row, (c, row) ∈ insertsOf s'.log ∧ row.identity = run.identity := by
  have hold : ∀ call₀ : Call T, s.calls[c]? = some call₀ → call₀.pc.handing = some run →
      ∃ row, (c, row) ∈ insertsOf s'.log ∧ row.identity = run.identity := by
    intro call₀ hc₀ hrun₀
    obtain ⟨row, hin, hid⟩ := hi.handing c call₀ run hc₀ hrun₀
    exact ⟨row, mem_insertsOf_of_move h hin, hid⟩
  rcases call_of_move h hc with ⟨hc₀, -⟩ | ⟨-, task, b, -, rfl⟩ |
    ⟨choice, call₀, fx, rfl, hc₀, hm, -, hs'⟩
  · exact hold call hc₀ hrun
  · cases hrun
  · rcases (history_of_submitMove hm).2 with ⟨-, -, hsame⟩ | ⟨run', now, hpc, hins, -⟩ |
      ⟨run', row, hpc₀, hpc, -, -⟩
    · exact hold call₀ hc₀ (hsame run hrun)
    · rw [hpc] at hrun
      cases hrun
      exact ⟨queuedRow run now, by rw [hs']; simp [hins], rfl⟩
    · rw [hpc] at hrun
      cases hrun
      exact hold call₀ hc₀ (by rw [hpc₀]; rfl)

/-- **Every event keeps the invariant of the hand-overs.** -/
theorem handInv_of_move (h : Move m s e s') (hi : HandInv s) : HandInv s' := by
  have hold : ∀ p ∈ s.handed, (∃ row, (p.1, row) ∈ insertsOf s'.log ∧
      row.identity = p.2.identity) ∧ ∃ call, s'.calls[p.1]? = some call ∧ 2 ≤ call.pc.stage := by
    intro p hp
    obtain ⟨row, hin, hid⟩ := hi.inserted p hp
    obtain ⟨call, hc, h2⟩ := hi.handed p hp
    obtain ⟨call', hc', hle⟩ := stage_of_move h hc
    exact ⟨⟨row, mem_insertsOf_of_move h hin, hid⟩, call', hc', h2.trans hle⟩
  rcases handed_of_move h with hsame | ⟨c, call, run, row, hc, hpc, hc', hnew⟩
  · refine ⟨fun c call run => handing_of_move h hi, ?_, ?_, ?_⟩
    · exact fun p hp => (hold p (hsame ▸ hp)).1
    · exact fun p hp => (hold p (hsame ▸ hp)).2
    · rw [hsame]
      exact hi.once
  · refine ⟨fun c call run => handing_of_move h hi, ?_, ?_, ?_⟩
    · intro p hp
      rw [hnew, List.mem_append, List.mem_singleton] at hp
      rcases hp with hp | rfl
      · exact (hold p hp).1
      · obtain ⟨row', hin, hid⟩ := hi.handing c call run hc (by rw [hpc]; rfl)
        exact ⟨row', mem_insertsOf_of_move h hin, hid⟩
    · intro p hp
      rw [hnew, List.mem_append, List.mem_singleton] at hp
      rcases hp with hp | rfl
      · exact (hold p hp).2
      · exact ⟨_, hc', le_rfl⟩
    · -- no earlier hand-over was by this call, which was not past it
      rw [hnew, List.map_append, List.map_singleton, List.nodup_append]
      refine ⟨hi.once, List.nodup_singleton _, ?_⟩
      intro k hk k' hk' heq
      obtain ⟨p, hp, rfl⟩ := List.mem_map.1 hk
      rw [List.mem_singleton] at hk'
      obtain ⟨call₀, hc₀, h2⟩ := hi.handed p hp
      rw [heq, hk', hc] at hc₀
      cases hc₀
      rw [hpc] at h2
      exact absurd h2 (by simp [SubmitPc.stage])

/-- At the start nothing has been handed over. -/
theorem handInv_start : HandInv (TaskState.start rows₀ accepted₀) where
  handing _ _ _ hc := nomatch hc
  inserted _ hh := nomatch hh
  handed _ hh := nomatch hh
  once := List.nodup_nil

/-- The invariant holds along every run. -/
theorem handInv_of_run (h : (system T m).run (TaskState.start rows₀ accepted₀) evs = some s) :
    HandInv s :=
  System.run_inv (fun _ _ _ hi hs => handInv_of_move (move_of_system hs) hi) handInv_start h

/-- **The table of a run is its start and its inserts**, less what status
writes change. -/
theorem map_identity_of_run
    (h : (system T m).run (TaskState.start rows₀ accepted₀) evs = some s) :
    s.rows.map TaskRunModel.identity =
      rows₀.map TaskRunModel.identity ++ (insertsOf s.log).map fun p => p.2.identity := by
  refine System.run_inv (I := fun s => s.rows.map TaskRunModel.identity =
    rows₀.map TaskRunModel.identity ++ (insertsOf s.log).map fun p => p.2.identity) ?_
    (by simp [TaskState.start, insertsOf]) h
  intro s e s' hi hs
  cases move_of_system hs with
  | submit =>
    rw [TaskState.perform_rows, map_identity_foldl, TaskState.perform_log, insertsOf_append,
      hi, List.map_append, List.append_assoc]
  | call => simp [TaskState.perform_rows, map_identity_foldl, hi]
  | accept => exact hi
  | deliver => exact hi
  | delivery => simp [TaskState.perform_rows, map_identity_foldl, hi]

/-! ## Runs from the empty table -/

section FromEmpty

variable (h : (system T m).run (TaskState.start [] []) evs = some s)
include h

/-- From an empty table on, the rows are those that were inserted. -/
theorem map_identity_inserts :
    s.rows.map TaskRunModel.identity = (insertsOf s.log).map fun p => p.2.identity :=
  (map_identity_of_run h).trans (List.nil_append _)

/-- A row that was inserted is in the table. -/
theorem row_of_insert {p : ℕ × TaskRunModel} (hp : p ∈ insertsOf s.log) :
    ∃ row ∈ s.rows, row.identity = p.2.identity :=
  List.mem_map.1 (map_identity_inserts h ▸ List.mem_map.2 ⟨p, hp, rfl⟩)

/-- A run id names one insert. -/
theorem insert_eq_of_runId {p q : ℕ × TaskRunModel} (hp : p ∈ insertsOf s.log)
    (hq : q ∈ insertsOf s.log) (heq : p.2.runId = q.2.runId) : p = q := by
  have hn := (tableInv_of_run tableInv_empty h).unique.nodup_runId
  have hids : s.rows.map TaskRunModel.runId =
      (insertsOf s.log).map fun p => p.2.runId := by
    have hmap := congrArg (List.map RunIdentity.runId) (map_identity_inserts h)
    rwa [List.map_map, List.map_map] at hmap
  rw [hids] at hn
  exact List.inj_on_of_nodup_map hn hp hq heq

/-- And a call hands over once, so it names one hand-over. -/
theorem hand_eq_of_runId {p q : ℕ × TaskRun T} (hp : p ∈ s.handed) (hq : q ∈ s.handed)
    (heq : p.2.runId = q.2.runId) : p = q := by
  have hhand := handInv_of_run h
  obtain ⟨row, hin, hid⟩ := hhand.inserted p hp
  obtain ⟨row', hin', hid'⟩ := hhand.inserted q hq
  have hrun : row.runId = row'.runId :=
    (congrArg RunIdentity.runId hid).trans (heq.trans (congrArg RunIdentity.runId hid').symm)
  have hc : p.1 = q.1 := (Prod.mk.inj (insert_eq_of_runId h hin hin' hrun)).1
  exact List.inj_on_of_nodup_map hhand.once hp hq hc

/-- A run handed over has its row. -/
theorem row_of_hand {p : ℕ × TaskRun T} (hp : p ∈ s.handed) :
    ∃ row ∈ s.rows, row.identity = p.2.identity := by
  obtain ⟨row, hin, hid⟩ := (handInv_of_run h).inserted p hp
  obtain ⟨r, hr, hrid⟩ := row_of_insert h hin
  exact ⟨r, hr, hrid.trans hid⟩

end FromEmpty

/-! ## Backfills that were served before -/

/-- **The call was answered for a backfill that another submission served**:
it is tagged, and a call for the same logical task and backfill had inserted
the run it is answered with. -/
def ServedBefore (s : TaskState T) (c : ℕ) (call : Call T) (runId : String) (n : ℕ) : Prop :=
  call.backfillId.isSome ∧ ∃ c₀ call₀ now, c₀ ≠ c ∧ s.calls[c₀]? = some call₀ ∧
    call₀.logicalId = call.logicalId ∧ call₀.backfillId = call.backfillId ∧
    Before s.log (.insert c₀ (queuedRow (call₀.newRun n runId) now))
      (.respond c call.logicalId (.ok (.alreadySubmittedBackfill runId n)))

/-- **The invariant of the inserts**: each is the row of a call that is past
its insert, and an answer for a served backfill comes after one. -/
structure ServedInv (s : TaskState T) : Prop where
  inserted : ∀ c row, (c, row) ∈ insertsOf s.log → ∃ call now, s.calls[c]? = some call ∧
    1 ≤ call.pc.stage ∧ row = queuedRow (call.newRun row.runNumber row.runId) now
  served : ∀ (c : ℕ) (call : Call T) (runId : String) (n : ℕ), s.calls[c]? = some call →
    call.pc = .returned (.ok (.alreadySubmittedBackfill runId n)) →
    ServedBefore s c call runId n

/-- What a move inserts is the row its call decided on. -/
theorem inserted_of_move (h : Move m s e s') (hi : TableInv s)
    (hp : (c, row) ∈ insertsOf s'.log) :
    (c, row) ∈ insertsOf s.log ∨ ∃ call now, s'.calls[c]? = some call ∧
      1 ≤ call.pc.stage ∧ row = queuedRow (call.newRun row.runNumber row.runId) now := by
  cases h with
  | submit =>
    rw [TaskState.perform_log, insertsOf_append, List.mem_append] at hp
    exact hp.imp_right fun h => by simp [insertsOf] at h
  | @call c₁ choice call pc fx hc hm =>
    rw [TaskState.perform_log, insertsOf_append, List.mem_append] at hp
    refine hp.imp_right fun h => ?_
    rcases (history_of_submitMove hm).2 with ⟨hins, -⟩ | ⟨run, now, hpc, hins, -⟩ |
      ⟨run, row, -, -, hins, -⟩
    · rw [hins] at h
      cases h
    · rw [hins, List.mem_singleton] at h
      obtain ⟨rfl, rfl⟩ := Prod.mk.inj h
      have hrun : run = call.newRun run.runNumber run.runId := by
        cases hm with
        | inserted hpc' =>
          cases hpc
          exact (hi.pending c call run hc hpc').1
        | published => cases hpc
        | _ => cases hpc
      refine ⟨_, now, getElem?_set_of_some hc, ?_, ?_⟩
      · rw [hpc]
        exact le_rfl
      · exact congrArg (fun run => queuedRow run now) hrun
    · rw [hins] at h
      cases h
  | accept => exact Or.inl hp
  | deliver => exact Or.inl hp
  | delivery hd hm =>
    rw [TaskState.perform_log, insertsOf_append, (history_of_deliveryMove hm).1,
      List.append_nil] at hp
    exact Or.inl hp

/-- A call goes on under its own task and backfill. -/
theorem ServedBefore.move (hs : ServedBefore s c call runId n) (h : Move m s e s')
    (pc : SubmitPc T) : ServedBefore s' c { call with pc := pc } runId n := by
  obtain ⟨hsome, c₀, call₀, now, hne, hc₀, hL, hb, hbefore⟩ := hs
  obtain ⟨fx, hlog⟩ := log_of_move h
  obtain ⟨pc₀, hc₀', -⟩ := call_step h hc₀
  refine ⟨hsome, c₀, _, now, hne, hc₀', hL, hb, ?_⟩
  rw [hlog]
  exact hbefore.append

/-- At the start no backfill has been served. -/
theorem servedInv_start : ServedInv (TaskState.start [] [] : TaskState T) where
  inserted _ _ hp := nomatch hp
  served _ _ _ _ hc := nomatch hc

/-- **A row that is found was inserted**, and not by the call that finds it. -/
theorem served_of_found {outcome : SubmitOutcome} (hi : ServedInv s)
    (hmap : s.rows.map TaskRunModel.identity = (insertsOf s.log).map fun p => p.2.identity)
    (hc : s.calls[c]? = some call) (hstage : call.pc.stage = 0)
    (hfound : alreadySubmitted s.rows call.backfillId call.logicalId = some outcome) :
    ∃ runId n, outcome = .alreadySubmittedBackfill runId n ∧ call.backfillId.isSome ∧
      ∃ c₀ call₀ now, c₀ ≠ c ∧ s.calls[c₀]? = some call₀ ∧
        call₀.logicalId = call.logicalId ∧ call₀.backfillId = call.backfillId ∧
        (c₀, queuedRow (call₀.newRun n runId) now) ∈ insertsOf s.log := by
  cases hb : call.backfillId with
  | none =>
    rw [hb] at hfound
    cases hfound
  | some backfill =>
    rw [hb] at hfound
    obtain ⟨r, hr, hout⟩ := Option.map_eq_some_iff.1 hfound
    have hmatch : r.backfillId = some backfill ∧ r.logicalId = call.logicalId := by
      simpa using List.find?_some hr
    -- the row's identity is that of an insert
    obtain ⟨⟨c₀, row⟩, hp, hid⟩ :=
      List.mem_map.1 (hmap ▸ List.mem_map_of_mem (List.mem_of_find?_eq_some hr))
    have hid' : row.identity = r.identity := hid
    obtain ⟨call₀, now, hc₀, h1, hrow⟩ := hi.inserted c₀ row hp
    have hrunId : row.runId = r.runId := congrArg RunIdentity.runId hid'
    have hn : row.runNumber = r.runNumber := congrArg RunIdentity.runNumber hid'
    refine ⟨r.runId, r.runNumber, hout.symm, rfl, c₀, call₀, now, ?_, hc₀, ?_, ?_, ?_⟩
    · rintro rfl
      rw [hc] at hc₀
      cases hc₀
      omega
    · calc call₀.logicalId = row.logicalId := by rw [hrow]; rfl
        _ = r.logicalId := congrArg RunIdentity.logicalId hid'
        _ = call.logicalId := hmatch.2
    · calc call₀.backfillId = row.backfillId := by rw [hrow]; rfl
        _ = r.backfillId := congrArg RunIdentity.backfillId hid'
        _ = some backfill := hmatch.1
    · rw [← hrunId, ← hn, ← hrow]
      exact hp

/-- A call is answered that its backfill has been served only when an earlier
one inserted the row, tagged with that backfill. -/
theorem servedInv_of_move (h : Move m s e s') (ht : TableInv s)
    (hmap : s.rows.map TaskRunModel.identity = (insertsOf s.log).map fun p => p.2.identity)
    (hi : ServedInv s) : ServedInv s' where
  inserted c row hp := by
    rcases inserted_of_move h ht hp with hp | hnew
    · obtain ⟨call, now, hc, h1, hrow⟩ := hi.inserted c row hp
      obtain ⟨pc, hc', hpc⟩ := call_step h hc
      refine ⟨_, now, hc', ?_, hrow⟩
      rcases hpc with rfl | ⟨choice, fx, -, hm⟩
      · exact h1
      · exact h1.trans (history_of_submitMove hm).1
    · exact hnew
  served c call runId n hc hpc := by
    rcases call_of_move h hc with ⟨hc₀, -⟩ | ⟨-, task, b, -, rfl⟩ |
      ⟨choice, call₀, fx, rfl, hc₀, hm, heq, hs'⟩
    · exact (hi.served c call runId n hc₀ hpc).move h call.pc
    · cases hpc
    · rw [hpc] at hm heq
      cases hm with
      | found hat hfound =>
        have hstage : call₀.pc.stage = 0 := by
          rcases hat with hat | hat | hat <;> rw [hat] <;> rfl
        obtain ⟨runId', n', hout, hsome, c₁, call₁, now, hne, hc₁, hL, hb, hp⟩ :=
          served_of_found hi hmap hc₀ hstage hfound
        cases hout
        obtain ⟨pc₁, hc₁', -⟩ := call_step h hc₁
        rw [heq]
        refine ⟨hsome, c₁, _, now, hne, hc₁', hL, hb, ?_⟩
        rw [hs']
        exact before_last (mem_insertsOf.1 hp)

/-- **In every reachable state.** -/
theorem servedInv_of_run (h : (system T m).run (TaskState.start [] []) evs = some s) :
    ServedInv s := by
  refine (System.run_inv (I := fun s => (system T m).Reachable (TaskState.start [] []) s ∧
    ServedInv s) ?_ ⟨System.Reachable.refl, servedInv_start⟩ h).2
  rintro s e s' ⟨hreach, hi⟩ hs
  refine ⟨hreach.step hs, ?_⟩
  obtain ⟨es, hes⟩ := hreach
  exact servedInv_of_move (move_of_system hs) (tableInv_of_run tableInv_empty hes)
    (map_identity_inserts hes) hi

/-! ## The history -/

/-- **What the history of the runs guarantees in a state.** -/
structure RunHistory (m : TaskMaster) (s : TaskState T) : Prop where
  /-- The run numbers of every logical task are `1 … n`. -/
  numbered : ∀ L, ∃ n, runNumbers s.rows L = List.range' 1 n
  runIds : (s.rows.map TaskRunModel.runId).Nodup
  /-- A backfill has at most one row of a logical task, whatever its status. -/
  backfillOnce : ∀ r ∈ s.rows, ∀ r' ∈ s.rows, r.backfillId.isSome →
    r.backfillId = r'.backfillId → r.logicalId = r'.logicalId → r = r'
  /-- No identity column ever changes. -/
  identity : ∀ evs s', (system T m).run s evs = some s' →
    s.rows.map TaskRunModel.identity <+: s'.rows.map TaskRunModel.identity
  /-- A row changes by a status write for its own run, and no other way. -/
  frame : ∀ e s', (system T m).step s e = some s' →
    ∀ (i : ℕ) (row : TaskRunModel), s.rows[i]? = some row → s'.rows[i]? = some row ∨
      ∃ w, m.writeOf s e = some w ∧ w.runId = row.runId ∧ s'.rows[i]? = some (w.update row)
  handedOnce : (s.handed.map fun h => h.2.runId).Nodup
  /-- A run is handed over as its row says, by the call that inserted it. -/
  handedBy : ∀ h ∈ s.handed, (∃ row ∈ s.rows, row.identity = h.2.identity) ∧
    (∃ row, Effect.insert h.1 row ∈ s.log ∧ row.identity = h.2.identity) ∧
    ∀ c row, Effect.insert c row ∈ s.log → row.runId = h.2.runId → c = h.1
  /-- A target submitted for a backfill is not submitted for it again. -/
  backfillHandedOnce : ∀ h ∈ s.handed, ∀ h' ∈ s.handed, h.2.backfillId.isSome →
    h.2.backfillId = h'.2.backfillId → h.2.logicalId = h'.2.logicalId → h = h'

/-- A row after an event is as it was, or as the event's write leaves it. -/
theorem frame_of_tableMove {rows' : List TaskRunModel} {i : ℕ} {row : TaskRunModel}
    (h : TableMove m s e rows') (hr : s.rows[i]? = some row) :
    rows'[i]? = some row ∨
      ∃ w, m.writeOf s e = some w ∧ w.runId = row.runId ∧ rows'[i]? = some (w.update row) := by
  cases h with
  | same => exact Or.inl hr
  | @wrote _ w hw =>
    rw [StatusWrite.apply, List.getElem?_map, hr, Option.map_some]
    by_cases hrun : row.runId = w.runId
    · exact Or.inr ⟨w, hw, hrun.symm, by rw [if_pos hrun]⟩
    · exact Or.inl (by rw [if_neg hrun])
  | inserted => exact Or.inl (getElem?_concat_of_some hr)

/-- **The run history is well formed in every reachable state**, whatever
the interleaving: stale submitters, reruns, late writes, overlapping
deliveries and failed enqueues included. -/
theorem run_history (h : (system T m).run (TaskState.start [] []) evs = some s) :
    RunHistory m s := by
  have htable := tableInv_of_run tableInv_empty h
  have hhand := handInv_of_run h
  refine ⟨fun L => ⟨_, numbered_of_run tableInv_empty (fun _ => rfl) h L⟩,
    htable.unique.nodup_runId, fun r hr r' hr' => htable.unique.eq_of_backfillId hr hr',
    fun _ _ => prefix_identity_of_run, ?_, ?_, ?_, ?_⟩
  · intro e s' hs i row hr
    exact frame_of_tableMove (tableMove_of_move (move_of_system hs)) hr
  · exact hhand.once.of_map.map_on fun p hp q hq => hand_eq_of_runId h hp hq
  · intro p hp
    obtain ⟨row, hin, hid⟩ := hhand.inserted p hp
    refine ⟨row_of_hand h hp, ⟨row, mem_insertsOf.1 hin, hid⟩, ?_⟩
    intro c row' hin' heq
    have hrun : row'.runId = row.runId := heq.trans (congrArg RunIdentity.runId hid).symm
    exact congrArg Prod.fst (insert_eq_of_runId h (mem_insertsOf.2 hin') hin hrun)
  · intro p hp q hq hb hbq hL
    obtain ⟨r, hr, hrp⟩ := row_of_hand h hp
    obtain ⟨r', hr', hrq⟩ := row_of_hand h hq
    have hbp : r.backfillId = p.2.backfillId := congrArg RunIdentity.backfillId hrp
    have hbq' : r'.backfillId = q.2.backfillId := congrArg RunIdentity.backfillId hrq
    have hLp : r.logicalId = p.2.logicalId := congrArg RunIdentity.logicalId hrp
    have hLq : r'.logicalId = q.2.logicalId := congrArg RunIdentity.logicalId hrq
    have heq : r = r' := by
      refine htable.unique.eq_of_backfillId hr hr' ?_ ?_ ?_
      · rw [hbp]; exact hb
      · rw [hbp, hbq', hbq]
      · rw [hLp, hLq, hL]
    refine hand_eq_of_runId h hp hq ?_
    calc p.2.runId = r.runId := (congrArg RunIdentity.runId hrp).symm
      _ = r'.runId := by rw [heq]
      _ = q.2.runId := congrArg RunIdentity.runId hrq

/-- A backfill submission, its attempt, and a rerun. -/
def rerunSchedule : List (Ev SearchIndexTask) :=
  Ev.submission 0 ⟨7, 1⟩ (some "backfill") "run-1" 0 ++ [.accept 0] ++
    Ev.attempt 0 0 (.ok ()) 10 ++ Ev.submission 1 ⟨7, 1⟩ none "run-2" 20 ++ [.accept 1]

/-- A task that runs twice. -/
theorem run_history_rerun :
    RunHistory ⟨3, true⟩ (((system SearchIndexTask ⟨3, true⟩).run (.start [] [])
      rerunSchedule).get (by decide)) :=
  run_history (Option.some_get _).symm

end TaskMaster

end Dreamscroll
