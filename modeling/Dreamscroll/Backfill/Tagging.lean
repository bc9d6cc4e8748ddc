import Dreamscroll.Backfill.Moves
import Dreamscroll.Backfill.Select
/-!
# Tagged runs

What the task machine does to the runs of a backfill's targets while no
other submitter acts on them: a row of a target that is not tagged is as
it was, a tagged one stays, and a submission that answers leaves the
target tagged, whatever it answers.
-/

namespace Dreamscroll

namespace Backfill

variable (b : Backfill)

/-- The runs of a target that a submission would be answered with. -/
def taggedRuns (rows : List TaskRunModel) (target : BackfillTarget) : List TaskRunModel :=
  rows.filter fun row => b.Tags row target

/-- The targets of the relation that have none. -/
def untagged (rows : List TaskRunModel) (relation : List BackfillTarget) : List BackfillTarget :=
  relation.filter fun target => (b.taggedRuns rows target).isEmpty

/-- The logical task is one of a target. -/
def IsTarget (relation : List BackfillTarget) (L : String) : Prop :=
  L ∈ relation.map b.logicalId

instance (relation : List BackfillTarget) (L : String) : Decidable (b.IsTarget relation L) :=
  inferInstanceAs (Decidable (_ ∈ _))

/-- Some run of the target is tagged. -/
def Tagged (rows : List TaskRunModel) (target : BackfillTarget) : Prop :=
  ∃ row ∈ rows, b.Tags row target

end Backfill

/-- The call answered with the error of its insert. -/
def SubmitPc.insertFailed {T : Type} : SubmitPc T → Bool
  | .returned (.error (.db _)) => true
  | _ => false

/-- **Nobody else acts on the targets**: a call on one is tagged, and its
insert does not fail; a delivery of one is of a tagged run. -/
def Backfill.Quiet (b : Backfill) (relation : List BackfillTarget) (s : TaskState AnyTask)
    (e : Ev AnyTask) (s' : TaskState AnyTask) : Prop :=
  match e with
  | .call c _ => ∀ call ∈ s.calls[c]?, b.IsTarget relation call.logicalId →
      call.backfillId = some b.id ∧ ∀ call' ∈ s'.calls[c]?, call'.pc.insertFailed = false
  | .delivery d _ => ∀ delivery ∈ s.deliveries[d]?, b.IsTarget relation delivery.run.logicalId →
      delivery.run.backfillId = some b.id
  | .submit _ _ | .accept _ | .deliver _ => True

instance (b : Backfill) (relation : List BackfillTarget) (s s' : TaskState AnyTask)
    (e : Ev AnyTask) : Decidable (b.Quiet relation s e s') :=
  match e with
  | .call c _ => inferInstanceAs (Decidable (∀ call ∈ s.calls[c]?, _ → _))
  | .delivery d _ => inferInstanceAs (Decidable (∀ delivery ∈ s.deliveries[d]?, _ → _))
  | .submit _ _ => isTrue trivial
  | .accept _ => isTrue trivial
  | .deliver _ => isTrue trivial

namespace TaskMaster

variable {m : TaskMaster} {s s' : TaskState AnyTask} {e : Ev AnyTask} {b : Backfill} {c : ℕ}
variable {relation : List BackfillTarget} {target : BackfillTarget} {row r : TaskRunModel}
variable {call call' : Call AnyTask} {run : TaskRun AnyTask}

/-- A row of a run's identity and of its own run id is that run's. -/
theorem identity_of_runId {rows : List TaskRunModel} (hu : UniqueKeys rows) (hr : r ∈ rows)
    (hrow : row ∈ rows) (hid : row.identity = run.identity) (heq : r.runId = run.runId) :
    r.identity = run.identity := by
  have hrid : row.runId = run.runId := congrArg RunIdentity.runId hid
  rw [hu.eq_of_runId hr hrow (heq.trans hrid.symm)]
  exact hid

/-- **A row of a target that is not tagged is as it was.** -/
theorem tagged_or_mem (h : m.Reaches s) (hs : (system AnyTask m).step s e = some s')
    (hq : b.Quiet relation s e s') (hr : r ∈ s'.rows) (ht : target ∈ relation)
    (hL : r.logicalId = b.logicalId target) : r.backfillId = some b.id ∨ r ∈ s.rows := by
  have htarget : ∀ {L : String}, L = b.logicalId target → b.IsTarget relation L :=
    fun heq => heq ▸ List.mem_map_of_mem ht
  -- the run written to is the row's, so whoever writes acts on the target
  have hwrote : ∀ (run : TaskRun AnyTask) (row r₀ : TaskRunModel) (w : StatusWrite),
      row ∈ s.rows → row.identity = run.identity → r₀ ∈ s.rows → r₀.runId = run.runId →
      r = w.update r₀ → (b.IsTarget relation run.logicalId → run.backfillId = some b.id) →
      r.backfillId = some b.id := by
    intro run row r₀ w hrow hid hr₀ heq hupdate htag
    have hident : r.identity = run.identity := by
      rw [hupdate, StatusWrite.update_identity]
      exact identity_of_runId h.tableInv.unique hr₀ hrow hid heq
    have hLrun : run.logicalId = b.logicalId target :=
      (congrArg RunIdentity.logicalId hident).symm.trans hL
    exact (congrArg RunIdentity.backfillId hident).trans (htag (htarget hLrun))
  have hmove := tableMove_of_move (move_of_system hs)
  generalize s'.rows = rows' at hmove hr
  cases hmove with
  | same => exact Or.inr hr
  | @wrote _ w hw =>
    obtain ⟨r₀, hr₀, -, ⟨-, rfl⟩ | ⟨hid, rfl⟩⟩ := StatusWrite.mem_apply hr
    · exact Or.inr hr₀
    · left
      cases writer_of_writeOf hw with
      | @submission c call run err now hc hpc =>
        have hrun := h.run_eq_newRun hc (show call.pc.run = some run by rw [hpc]; rfl)
        obtain ⟨row, hrow, hrid⟩ :=
          h.row_of_handing hc (show call.pc.handing = some run by rw [hpc]; rfl)
        refine hwrote run row r₀ _ hrow hrid hr₀ hid rfl fun htag => ?_
        rw [hrun] at htag ⊢
        exact (hq call hc htag).1
      | @start d delivery attempt now hd hpc =>
        obtain ⟨row, hrow, hrid⟩ := h.row_of_delivery hd
        exact hwrote delivery.run row r₀ _ hrow hrid hr₀ hid rfl (hq delivery hd)
      | @finish d delivery attempt result now hd hpc =>
        obtain ⟨row, hrow, hrid⟩ := h.row_of_delivery hd
        exact hwrote delivery.run row r₀ _ hrow hrid hr₀ hid rfl (hq delivery hd)
  | @inserted c call run now reported hc hpc hv =>
    rcases List.mem_append.1 hr with hr | hr
    · exact Or.inr hr
    · left
      have hrun := h.run_eq_newRun hc (show call.pc.run = some run by rw [hpc]; rfl)
      rw [List.mem_singleton.1 hr, hrun] at hL ⊢
      exact (hq call hc (htarget hL)).1

/-- A tagged target stays tagged. -/
theorem tagged_of_step (hs : (system AnyTask m).step s e = some s')
    (ht : b.Tagged s.rows target) : b.Tagged s'.rows target := by
  obtain ⟨row, hr, hid, hL⟩ := ht
  have hpre := prefix_identity (tableMove_of_move (move_of_system hs))
  obtain ⟨row', hr', heq⟩ := List.mem_map.1 (hpre.subset (List.mem_map_of_mem hr))
  refine ⟨row', hr', ?_, ?_⟩
  · exact (congrArg RunIdentity.backfillId heq).trans hid
  · exact (congrArg RunIdentity.logicalId heq).trans hL

/-! ## A submission on a target -/

/-- **Where the submission of a target stands**: at its insert every row
from its ordinal on is tagged; once it has seen a rival, inserted or
answered, the target is. -/
def OnCourse (b : Backfill) (rows : List TaskRunModel) (target : BackfillTarget) :
    SubmitPc AnyTask → Prop
  | .dedup | .latest => True
  | .insert run => ∀ r ∈ rows, r.logicalId = b.logicalId target →
      run.runNumber ≤ r.runNumber → r.backfillId = some b.id
  | pc => pc.insertFailed = false ∧ b.Tagged rows target

/-- A call that submits the target for the backfill. -/
structure Submitting (b : Backfill) (rows : List TaskRunModel) (target : BackfillTarget)
    (call : Call AnyTask) : Prop where
  task : call.task = b.makeTask target
  backfillId : call.backfillId = some b.id
  onCourse : OnCourse b rows target call.pc

theorem Submitting.logicalId (h : Submitting b s.rows target call) :
    call.logicalId = b.logicalId target := by
  unfold Call.logicalId Backfill.logicalId
  rw [h.task]

/-- No other run of the target is in flight than tagged ones. -/
def SettledBut (b : Backfill) (rows : List TaskRunModel) (target : BackfillTarget) : Prop :=
  ∀ r ∈ rows, r.logicalId = b.logicalId target → r.backfillId ≠ some b.id → r.inFlight = false

theorem settledBut_of_step (h : m.Reaches s) (hs : (system AnyTask m).step s e = some s')
    (hq : b.Quiet relation s e s') (ht : target ∈ relation) (hset : SettledBut b s.rows target) :
    SettledBut b s'.rows target := by
  intro r hr hL hb
  rcases tagged_or_mem h hs hq hr ht hL with hid | hold
  · exact absurd hid hb
  · exact hset r hold hL hb

/-- What a call is on course for survives the steps of others. -/
theorem OnCourse.of_step {pc : SubmitPc AnyTask} (h : m.Reaches s)
    (hs : (system AnyTask m).step s e = some s') (hq : b.Quiet relation s e s')
    (ht : target ∈ relation) (hpc : OnCourse b s.rows target pc) :
    OnCourse b s'.rows target pc := by
  have hkeep : b.Tagged s.rows target → b.Tagged s'.rows target := tagged_of_step hs
  cases pc with
  | dedup => trivial
  | latest => trivial
  | insert run =>
    intro r hr hL hle
    rcases tagged_or_mem h hs hq hr ht hL with hid | hold
    · exact hid
    · exact hpc r hold hL hle
  | _ => exact ⟨hpc.1, hkeep hpc.2⟩

/-- An in-flight latest run of the target is tagged. -/
theorem SettledBut.tagged (hset : SettledBut b s.rows target)
    (hn : decideNextRun (queryRunStatus s.rows (b.logicalId target) none none) = none) :
    b.Tagged s.rows target := by
  obtain ⟨r, hq, hflight⟩ := decideNextRun_eq_none hn
  obtain ⟨hr, hL, -⟩ := queryRunStatus_eq_some hq
  refine ⟨r, hr, by_contra fun hb => ?_, hL⟩
  rw [hset r hr hL hb] at hflight
  cases hflight

/-- **A statement of the submission itself.** -/
theorem onCourse_of_submitMove {choice : Choice} {pc : SubmitPc AnyTask}
    {fx : List (Effect AnyTask)} (hm : SubmitMove m s.rows c call choice pc fx)
    (hsub : Submitting b s.rows target call) (hset : SettledBut b s.rows target)
    (hrun : ∀ run, call.pc.run = some run → run = call.newRun run.runNumber run.runId)
    (hfail : pc.insertFailed = false) (hkeep : b.Tagged s.rows target →
      b.Tagged (fx.foldl Effect.apply s.rows) target) :
    OnCourse b (fx.foldl Effect.apply s.rows) target pc := by
  have hL := hsub.logicalId
  have hon := hsub.onCourse
  cases hm with
  | found hpc hfound =>
    have hsome : (alreadySubmitted s.rows (some b.id) (b.logicalId target)).isSome := by
      rw [← hsub.backfillId, ← hL, hfound]
      rfl
    exact ⟨rfl, hkeep (Backfill.alreadySubmitted_isSome_iff.1 hsome)⟩
  | fresh => trivial
  | @decided n runId hpc hn =>
    rw [hL] at hn
    intro r hr hrL hle
    -- nothing holds a number above the highest
    have htop := runNumber_le_topRun hr hrL
    have hn' := decideNextRun_eq_some hn
    have hle' : n ≤ r.runNumber := hle
    change r.runNumber ≤ topRun s.rows (b.logicalId target) at htop
    omega
  | sawInFlight hpc hn =>
    rw [hL] at hn
    exact ⟨rfl, hkeep (hset.tagged hn)⟩
  | refused hpc =>
    refine ⟨rfl, hkeep ?_⟩
    rcases hpc with hpc | hpc
    · rw [hpc] at hon
      exact hon.2
    · rw [hpc] at hon
      exact hon.2
  | @inserted run now reported hpc hv =>
    have heq := hrun run (by rw [hpc]; rfl)
    refine ⟨rfl, queuedRow run now, List.mem_append_right _ (List.mem_singleton_self _), ?_, ?_⟩
    · rw [heq]
      exact hsub.backfillId
    · rw [heq]
      exact hL
  | @conflict run now reported hpc hrival =>
    have heq := hrun run (by rw [hpc]; rfl)
    rw [hpc] at hon
    have hrunL : run.logicalId = b.logicalId target := by
      rw [heq]
      exact hL
    refine ⟨rfl, hkeep ?_⟩
    rcases hrival with ⟨r, hr, hrL, hn⟩ | ⟨r, hr, hb, hrL, -⟩
    · exact ⟨r, hr, hon r hr (hrL.trans hrunL) hn.ge, hrL.trans hrunL⟩
    · refine ⟨r, hr, hb.trans ?_, hrL.trans hrunL⟩
      rw [heq]
      exact hsub.backfillId
  | insertFailed => cases hfail
  | _ hpc =>
    rw [hpc] at hon
    exact ⟨rfl, hkeep hon.2⟩

/-- **A step of the machine keeps a submission on course.** -/
theorem submitting_of_step (h : m.Reaches s) (hs : (system AnyTask m).step s e = some s')
    (hq : b.Quiet relation s e s') (ht : target ∈ relation) (hset : SettledBut b s.rows target)
    (hc : s.calls[c]? = some call) (hsub : Submitting b s.rows target call) :
    ∃ call', s'.calls[c]? = some call' ∧ Submitting b s'.rows target call' := by
  obtain ⟨pc, hc', -⟩ := call_step (move_of_system hs) hc
  refine ⟨_, hc', hsub.task, hsub.backfillId, ?_⟩
  rcases call_of_move (move_of_system hs) hc' with ⟨hold, -⟩ | ⟨hlen, -⟩ |
    ⟨choice, call₀, fx, rfl, hc₀, hm, -, hs'⟩
  · rw [hc] at hold
    have hpc : call.pc = pc := congrArg Call.pc (Option.some.inj hold)
    change OnCourse b s'.rows target pc
    rw [← hpc]
    exact hsub.onCourse.of_step h hs hq ht
  · have hlt := (List.getElem?_eq_some_iff.1 hc).1
    omega
  · rw [hc] at hc₀
    cases hc₀
    have hrows : s'.rows = fx.foldl Effect.apply s.rows := by
      rw [hs']
      rfl
    have htarget : b.IsTarget relation call.logicalId := by
      rw [hsub.logicalId]
      exact List.mem_map_of_mem ht
    rw [hrows]
    refine onCourse_of_submitMove hm hsub hset (fun run => h.run_eq_newRun hc)
      ((hq call hc htarget).2 _ hc') ?_
    rw [← hrows]
    exact tagged_of_step hs

/-- **A submission that has returned leaves its target tagged.** -/
theorem Submitting.tagged {outcome : Except SubmitError SubmitOutcome}
    (h : Submitting b s.rows target call) (hpc : call.pc = .returned outcome) :
    b.Tagged s.rows target := by
  have hon := h.onCourse
  rw [hpc] at hon
  exact hon.2

end TaskMaster

end Dreamscroll
