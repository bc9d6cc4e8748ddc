import Dreamscroll.Task.Deliveries
/-!
# Attempts

`begin_attempt` is a read and a later write, `finish_attempt` a write that
looks at nothing, and neither is fenced by the attempt it belongs to. What
holds of them holds where attempts of a run do not overlap; here it is
said what that takes, and what an overlap does.
-/

namespace Dreamscroll

variable {T : Type} [WebhookTask T]

/-! ## A completed run -/

/-- The step writes the run, and is an attempt's that was past its begin
read already in `s₀`, or the failed hand-over's. -/
def LateWrite (m : TaskMaster) (s₀ : TaskState T) (runId : String) (s : TaskState T) (e : Ev T)
    (_ : TaskState T) : Prop :=
  ∃ w, m.writeOf s e = some w ∧ w.runId = runId ∧
    (w.status = .submissionFailed ∨
      ∃ d choice delivery, e = .delivery d choice ∧ s₀.deliveries[d]? = some delivery ∧
        delivery.run.runId = runId ∧ delivery.pc.active)

variable {m : TaskMaster} {s s' F : TaskState T} {e : Ev T} {evs es : List (Ev T)}
variable {rows₀ : List TaskRunModel} {accepted₀ : List (TaskRun T)} {row r : TaskRunModel}
variable {runId : String} {d : ℕ} {delivery : Delivery T} {w : StatusWrite}

namespace TaskMaster

/-- The row is still there, and who could write it was past its read when
it completed. -/
structure Absorbed (s₀ : TaskState T) (row : TaskRunModel) (s : TaskState T) : Prop where
  table : TableInv s
  mem : row ∈ s.rows
  late : ∀ (d : ℕ) (delivery : Delivery T), s.deliveries[d]? = some delivery →
    delivery.run.runId = row.runId → delivery.pc.active = true →
    ∃ delivery₀, s₀.deliveries[d]? = some delivery₀ ∧ delivery₀.run.runId = row.runId ∧
      delivery₀.pc.active = true

theorem absorbed_of_step {s₀ : TaskState T} (hok : row.HasStatus .completeSuccess)
    (hi : Absorbed s₀ row s) (hs : (system T m).step s e = some s')
    (hlate : ¬ LateWrite m s₀ row.runId s e s') : Absorbed s₀ row s' := by
  have hm := move_of_system hs
  refine ⟨tableInv_of_move hm hi.table, ?_, ?_⟩
  · refine mem_of_tableMove (tableMove_of_move hm) hi.mem fun w hw hid => hlate ?_
    refine ⟨w, hw, hid, ?_⟩
    cases writer_of_writeOf hw with
    | submission => exact Or.inl rfl
    | start hd hpc =>
      obtain ⟨delivery₀, hd₀, hrun₀, hact₀⟩ := hi.late _ _ hd hid (by rw [hpc]; rfl)
      exact Or.inr ⟨_, _, delivery₀, rfl, hd₀, hrun₀, hact₀⟩
    | finish hd hpc =>
      obtain ⟨delivery₀, hd₀, hrun₀, hact₀⟩ := hi.late _ _ hd hid (by rw [hpc]; rfl)
      exact Or.inr ⟨_, _, delivery₀, rfl, hd₀, hrun₀, hact₀⟩
  · intro d delivery' hd' hrun hact
    rcases delivery_of_move hm hd' with ⟨hd, -⟩ | ⟨-, i, run, -, -, rfl⟩ |
      ⟨choice, delivery, fx, rfl, hd, hmove, heq, -⟩
    · exact hi.late d delivery' hd hrun hact
    · cases hact
    · have hrun₀ : delivery.run.runId = row.runId := by rw [heq] at hrun; exact hrun
      generalize delivery'.pc = pc at hmove hact
      cases hmove with
      | attempt _ hn =>
        -- a delivery that reads the completed row begins nothing
        rw [hrun₀, queryRunById_eq hi.table.unique hi.mem,
          decideNextAttempt_of_completeSuccess hok] at hn
        cases hn
      | began hpc => exact hi.late d delivery hd hrun₀ (by rw [hpc]; rfl)
      | beganMissing hpc => exact hi.late d delivery hd hrun₀ (by rw [hpc]; rfl)
      | publishedBegin hpc => exact hi.late d delivery hd hrun₀ (by rw [hpc]; rfl)
      | _ => cases hact

/-- **A completed run stays as it is**, unless an attempt that overlapped
its completion writes late. Deliveries that come after it change nothing. -/
theorem completeSuccess_absorbing (hkeys : UniqueKeys rows₀)
    (hrun : (system T m).run (TaskState.start rows₀ accepted₀) evs = some s)
    (hr : row ∈ s.rows) (hok : row.HasStatus .completeSuccess)
    (hrest : (system T m).run s es = some s') :
    row ∈ s'.rows ∨ (system T m).Occurs (LateWrite m s row.runId) s es := by
  by_cases hlate : (system T m).Occurs (LateWrite m s row.runId) s es
  · exact Or.inr hlate
  · refine Or.inl (System.run_inv_along (I := Absorbed s row) ?_ ?_ hrest
      (System.along_not_of_not_occurs hlate)).mem
    · exact fun s₁ e s₂ hi hs hne => absorbed_of_step hok hi hs hne
    · exact ⟨tableInv_of_run (tableInv_start hkeys) hrun, hr,
        fun d delivery hd hrun hact => ⟨delivery, hd, hrun, hact⟩⟩

/-- A run is completed. -/
def completeSchedule : List (Ev SearchIndexTask) :=
  Ev.submission 0 ⟨7, 1⟩ none "run-1" 0 ++ [.accept 0] ++ Ev.attempt 0 0 (.ok ()) 10

/-- The state after that. -/
def completedState : TaskState SearchIndexTask :=
  ((system SearchIndexTask ⟨3, true⟩).run (TaskState.start [] []) completeSchedule).get (by decide)

/-- It is delivered once more. -/
theorem completeSuccess_absorbing_redelivery :
    completedState.rows.head (by decide) ∈ (((system SearchIndexTask ⟨3, true⟩).run
        completedState [.deliver 0, .delivery 1 .read]).get (by decide)).rows ∨
      (system SearchIndexTask ⟨3, true⟩).Occurs
        (LateWrite ⟨3, true⟩ completedState (completedState.rows.head (by decide)).runId)
        completedState [.deliver 0, .delivery 1 .read] :=
  completeSuccess_absorbing uniqueKeys_nil (Option.some_get (by decide)).symm (List.head_mem _)
    (by decide) (Option.some_get _).symm

/-- Two deliveries of a run begin together, and the first completes it. -/
def overlapSchedule : List (Ev SearchIndexTask) :=
  Ev.submission 0 ⟨7, 1⟩ none "run-1" 0 ++ [.accept 0, .deliver 0, .deliver 0,
    .delivery 0 .read, .delivery 1 .read, .delivery 0 (.write 10), .delivery 0 (.publish none),
    .delivery 0 (.finish (.ok ()) 20)]

/-- **A stale start takes a completed run back to `InProgress`.** -/
theorem completeSuccess_overwritten :
    ¬ ∀ (evs : List (Ev SearchIndexTask)) (s : TaskState SearchIndexTask) e s',
      (system SearchIndexTask ⟨3, true⟩).run (TaskState.start [] []) evs = some s →
      (system SearchIndexTask ⟨3, true⟩).step s e = some s' →
      ∀ row ∈ s.rows, row.HasStatus .completeSuccess →
        ∃ row' ∈ s'.rows, row'.runId = row.runId ∧ row'.HasStatus .completeSuccess := by
  intro h
  have hkept := h overlapSchedule _ (.delivery 1 (.write 30)) _
    (Option.some_get (by decide)).symm (Option.some_get (by decide)).symm
  exact absurd hkept (by decide)

end TaskMaster

/-! ## The number of an attempt -/

/-- When a delivery of the run begins, the earlier attempts of the run have
been recorded, or their workers take no further step: none of them moves
before the run ends in `F`. -/
def Exclusive (F : TaskState T) (runId : String) (s : TaskState T) (e : Ev T)
    (_ : TaskState T) : Prop :=
  ∀ (d : ℕ) (delivery : Delivery T), e = .delivery d .read → s.deliveries[d]? = some delivery →
    delivery.run.runId = runId → ∀ (k : ℕ) (other : Delivery T), k ≠ d →
    s.deliveries[k]? = some other → other.run.runId = runId → other.pc.active = true →
    F.deliveries[k]? = some other

/-- The delivery whose begin read the event is. -/
def Ev.beginner : Ev T → Option ℕ
  | .delivery d .read => some d
  | _ => none

/-- When a delivery of the run begins, no other attempt of the run is
active. -/
def Alone (runId : String) (s : TaskState T) (e : Ev T) (_ : TaskState T) : Prop :=
  ∀ d ∈ e.beginner, ∀ k < s.deliveries.length, k ≠ d →
    ∀ other ∈ s.deliveries[k]?, other.run.runId = runId → other.pc.active = false

instance (s s' : TaskState T) (e : Ev T) : Decidable (Alone runId s e s') :=
  inferInstanceAs (Decidable (∀ _ ∈ _, _))

omit [WebhookTask T] in
theorem Alone.exclusive (h : Alone runId s e s') : Exclusive F runId s e s' := by
  intro d delivery he hd hrun k other hk hother horun hact
  subst he
  have hidle := h d rfl k (List.getElem?_eq_some_iff.1 hother).1 hk other hother horun
  rw [hact] at hidle
  cases hidle

/-- The step is not the `SubmissionFailed` write of the run. -/
def NoSubmissionFailure (m : TaskMaster) (runId : String) (s : TaskState T) (e : Ev T)
    (_ : TaskState T) : Prop :=
  ∀ w, m.writeOf s e = some w → w.runId = runId → w.status ≠ .submissionFailed

instance (s s' : TaskState T) (e : Ev T) : Decidable (NoSubmissionFailure m runId s e s') :=
  inferInstanceAs (Decidable (∀ w ∈ m.writeOf s e, w.runId = runId →
    w.status ≠ .submissionFailed))

/-- The `attempts` column of the run does not go back. -/
def AttemptsGrow (runId : String) (s : TaskState T) (_ : Ev T) (s' : TaskState T) : Prop :=
  ∀ row ∈ s.rows, ∀ row' ∈ s'.rows, row.runId = runId → row'.runId = runId →
    row.attempts ≤ row'.attempts

/-- The `attempts` an active delivery counts on. -/
def DeliveryPc.expects : DeliveryPc → ℕ → Prop
  | .beginWrite attempt, attempts => attempt = attempts + 1
  | .publishBegin attempt _, attempts | .running attempt, attempts => attempt = attempts
  | _, _ => True

/-- **The invariant of a run's attempts**, on the way to `F`: of the active
deliveries of the run at most one still moves, the row holds the number it
counts on, and the numbers begun so far are `1 … attempts`. -/
structure AttemptInv (m : TaskMaster) (F : TaskState T) (runId : String) (s : TaskState T) :
    Prop where
  reaches : m.Reaches s
  one : ∀ (d d' : ℕ) (delivery delivery' : Delivery T), s.deliveries[d]? = some delivery →
    s.deliveries[d']? = some delivery' → delivery.run.runId = runId →
    delivery'.run.runId = runId → delivery.pc.active = true → delivery'.pc.active = true →
    F.deliveries[d]? ≠ some delivery → F.deliveries[d']? ≠ some delivery' → d = d'
  expects : ∀ (d : ℕ) (delivery : Delivery T), s.deliveries[d]? = some delivery →
    delivery.run.runId = runId → F.deliveries[d]? ≠ some delivery →
    ∀ row ∈ s.rows, row.runId = runId → delivery.pc.expects row.attempts
  begun : ∀ row ∈ s.rows, row.runId = runId →
    (begunOf s runId).Perm (List.range' 1 row.attempts)

namespace TaskMaster

section Step

variable (hi : AttemptInv m F runId s) (hs : (system T m).step s e = some s')
variable (hrest : (system T m).run s' es = some F)
variable (hsub : NoSubmissionFailure m runId s e s')
include hi hs hrest hsub

/-- A write of the run is of an attempt that still moves: a start writes the
next number, and a finish the number the row holds. -/
theorem attempts_of_write (hw : m.writeOf s e = some w) (hid : w.runId = runId)
    (hr : row ∈ s.rows) (hrid : row.runId = runId) :
    ∃ d delivery choice, e = .delivery d choice ∧ s.deliveries[d]? = some delivery ∧
      delivery.run.runId = runId ∧ delivery.pc.active = true ∧
      (w.status = .inProgress ∧ w.attempts = row.attempts + 1 ∨
        w.status ≠ .inProgress ∧ w.attempts = row.attempts) := by
  cases writer_of_writeOf hw with
  | submission => exact absurd rfl (hsub _ hw hid)
  | @start d delivery attempt now hd hpc =>
    have hexp := hi.expects d delivery hd hid (delivery_ne_of_step hd hs hrest) row hr hrid
    rw [hpc] at hexp
    exact ⟨d, delivery, _, rfl, hd, hid, by rw [hpc]; rfl, Or.inl ⟨rfl, hexp⟩⟩
  | @finish d delivery attempt result now hd hpc =>
    have hexp := hi.expects d delivery hd hid (delivery_ne_of_step hd hs hrest) row hr hrid
    rw [hpc] at hexp
    exact ⟨d, delivery, _, rfl, hd, hid, by rw [hpc]; rfl,
      Or.inr ⟨outcomeStatus_ne_inProgress _ _ _, hexp⟩⟩

theorem attemptsGrow_of_step : AttemptsGrow runId s e s' := by
  intro row hr row' hr' hid hid'
  have htable := hi.reaches.tableInv
  rcases row_of_tableMove (tableMove_of_move (move_of_system hs)) hr' with hr₀ |
    ⟨w, row₀, hw, hr₀, hwid, rfl⟩ | ⟨run, now, hins, rfl⟩
  · rw [htable.unique.eq_of_runId hr hr₀ (hid.trans hid'.symm)]
  · have hrow : row = row₀ := by
      refine htable.unique.eq_of_runId hr hr₀ (hid.trans ?_)
      rw [← hid', StatusWrite.update_runId]
    have hw' : w.runId = runId := by rw [← hwid, ← hrow, hid]
    rw [StatusWrite.update_attempts]
    obtain ⟨-, -, -, -, -, -, -, ⟨-, h⟩ | ⟨-, h⟩⟩ :=
      attempts_of_write hi hs hrest hsub hw hw' hr hid
    · omega
    · omega
  · exact absurd (hid.trans hid'.symm) (hins.runId_ne hr)

theorem begun_of_step (hr' : r ∈ s'.rows) (hid' : r.runId = runId) :
    (begunOf s' runId).Perm (List.range' 1 r.attempts) := by
  have hm := move_of_system hs
  have ht := tableMove_of_move hm
  rcases row_of_tableMove ht hr' with hr₀ | ⟨w, row₀, hw, hr₀, hwid, rfl⟩ |
    ⟨run, now, hins, rfl⟩
  · rw [begunOf_of_not_start hm]
    · exact hi.begun r hr₀ hid'
    · -- a start would have changed the row
      intro w hw hid hst
      obtain ⟨-, -, -, -, -, -, -, ⟨-, h⟩ | ⟨h, -⟩⟩ :=
        attempts_of_write hi hs hrest hsub hw hid hr₀ hid'
      · have happly : r ∈ w.apply s.rows := by rw [← rows_of_write ht hw]; exact hr'
        obtain ⟨r₁, -, hrid, ⟨hne, rfl⟩ | ⟨-, rfl⟩⟩ := StatusWrite.mem_apply happly
        · exact hne (hid'.trans hid.symm)
        · rw [StatusWrite.update_attempts] at h
          omega
      · exact h hst
  · have hrid : row₀.runId = runId := by rw [← hid', StatusWrite.update_runId]
    have hw' : w.runId = runId := hwid.symm.trans hrid
    have hbegun := hi.begun row₀ hr₀ hrid
    rw [StatusWrite.update_attempts]
    obtain ⟨-, -, -, -, -, -, -, ⟨hst, h⟩ | ⟨hst, h⟩⟩ :=
      attempts_of_write hi hs hrest hsub hw hw' hr₀ hrid
    · have hperm := begunOf_of_start hm hw hst
      rw [hw'] at hperm
      refine hperm.trans ?_
      rw [h, List.range'_concat, Nat.one_mul, Nat.add_comm 1]
      exact (hbegun.cons _).trans (List.perm_append_singleton _ _).symm
    · rw [begunOf_of_not_start hm, h]
      · exact hbegun
      · intro w' hw'' _
        rw [hw] at hw''
        cases hw''
        exact hst
  · have hnil : begunOf s runId = [] :=
      begunOf_eq_nil hi.reaches fun r hr heq => hins.runId_ne hr (heq.trans hid'.symm)
    rw [begunOf_of_not_start hm, hnil]
    · exact List.Perm.refl _
    · intro w hw _ _
      have happly : queuedRow run now ∈ w.apply s.rows := by
        rw [← rows_of_write ht hw]; exact hr'
      obtain ⟨r₁, hr₁, hident, -⟩ := StatusWrite.mem_apply happly
      exact hins.runId_ne hr₁ (congrArg RunIdentity.runId hident)

theorem expects_of_step {delivery' : Delivery T} (hd' : s'.deliveries[d]? = some delivery')
    (hrun : delivery'.run.runId = runId) (halive : F.deliveries[d]? ≠ some delivery')
    (hr' : r ∈ s'.rows) (hid' : r.runId = runId) : delivery'.pc.expects r.attempts := by
  have hm := move_of_system hs
  have ht := tableMove_of_move hm
  have htable := hi.reaches.tableInv
  rcases delivery_of_move hm hd' with ⟨hd, hother⟩ | ⟨-, i, run, -, -, rfl⟩ |
    ⟨choice, delivery, fx, rfl, hd, hmove, heq, hs'⟩
  · -- the delivery stood still: its row may have been written by another
    have hold : ∀ row ∈ s.rows, row.runId = runId → delivery'.pc.expects row.attempts :=
      hi.expects d delivery' hd hrun halive
    rcases row_of_tableMove ht hr' with hr₀ | ⟨w, row₀, hw, hr₀, hwid, rfl⟩ |
      ⟨run, now, hins, rfl⟩
    · exact hold r hr₀ hid'
    · have hrid : row₀.runId = runId := by rw [← hid', StatusWrite.update_runId]
      obtain ⟨k, other, choice, he, hk, hkrun, hkact, ⟨-, h⟩ | ⟨-, h⟩⟩ :=
        attempts_of_write hi hs hrest hsub hw (hwid.symm.trans hrid) hr₀ hrid
      · -- a start by another delivery: this one, if active, takes no further step
        by_cases hact : delivery'.pc.active = true
        · subst he
          have hkalive := delivery_ne_of_step hk hs hrest
          have hdk := hi.one d k delivery' other hd hk hrun hkrun hact hkact halive hkalive
          exact absurd rfl (hdk ▸ hother choice)
        · generalize delivery'.pc = pc at hact
          cases pc with
          | beginWrite => exact absurd rfl hact
          | publishBegin => exact absurd rfl hact
          | running => exact absurd rfl hact
          | _ => trivial
      · rw [StatusWrite.update_attempts, h]
        exact hold row₀ hr₀ hrid
    · obtain ⟨row, hrow, hident⟩ := hi.reaches.row_of_delivery hd
      refine absurd ?_ (hins.runId_ne hrow)
      exact (congrArg RunIdentity.runId hident).trans (hrun.trans hid'.symm)
  · trivial
  · -- the delivery moved itself
    have hrun₀ : delivery.run.runId = runId := by rw [heq] at hrun; exact hrun
    have hkept : fx.foldl Effect.apply s.rows = s.rows → r ∈ s.rows := by
      intro hsame
      rw [hs', TaskState.perform_rows] at hr'
      rw [← hsame]
      exact hr'
    have hwritten : ∀ w, m.writeOf s (.delivery d choice) = some w → w.runId = runId →
        r.attempts = w.attempts := by
      intro w hw hid
      obtain ⟨r₁, -, hrid, ⟨hne, rfl⟩ | ⟨-, rfl⟩⟩ :=
        StatusWrite.mem_apply (rows_of_write ht hw ▸ hr')
      · exact absurd (hid'.trans hid.symm) hne
      · exact StatusWrite.update_attempts
    generalize delivery'.pc = pc at hmove
    cases hmove with
    | attempt _ hn =>
      have hr := hkept rfl
      rw [hrun₀, ← hid', queryRunById_eq htable.unique hr] at hn
      exact (decideNextAttempt_eq_some hn).1
    | @began attempt now row hpc =>
      have hw : m.writeOf s (.delivery d (.write now)) =
          some (markInProgress delivery.run attempt now) := by simp [writeOf, hd, hpc]
      exact (hwritten _ hw hrun₀).symm
    | @beganMissing attempt now hpc =>
      have hw : m.writeOf s (.delivery d (.write now)) =
          some (markInProgress delivery.run attempt now) := by simp [writeOf, hd, hpc]
      exact (hwritten _ hw hrun₀).symm
    | publishedBegin hpc =>
      have hexp := hi.expects d delivery hd hrun₀ (delivery_ne_of_step hd hs hrest) r
        (hkept foldl_publishEffects) hid'
      rw [hpc] at hexp
      exact hexp
    | _ => trivial

end Step

/-- A delivery becomes active by the read of `begin_attempt` only. -/
theorem active_of_deliveryMove {choice : Choice} {pc : DeliveryPc} {fx : List (Effect T)}
    {rows : List TaskRunModel} (h : DeliveryMove m rows delivery choice pc fx)
    (hact : pc.active = true) : delivery.pc.active = true ∨ choice = .read := by
  cases h with
  | attempt => exact Or.inr rfl
  | began hpc => exact Or.inl (by rw [hpc]; rfl)
  | beganMissing hpc => exact Or.inl (by rw [hpc]; rfl)
  | publishedBegin hpc => exact Or.inl (by rw [hpc]; rfl)
  | _ => cases hact

theorem one_of_step (hi : AttemptInv m F runId s) (hs : (system T m).step s e = some s')
    (hrest : (system T m).run s' es = some F) (hex : Exclusive F runId s e s')
    {d d' : ℕ} {delivery delivery' : Delivery T} (hd : s'.deliveries[d]? = some delivery)
    (hd' : s'.deliveries[d']? = some delivery') (hrun : delivery.run.runId = runId)
    (hrun' : delivery'.run.runId = runId) (hact : delivery.pc.active = true)
    (hact' : delivery'.pc.active = true) (halive : F.deliveries[d]? ≠ some delivery)
    (halive' : F.deliveries[d']? ≠ some delivery') : d = d' := by
  have hm := move_of_system hs
  -- a delivery that moved, beside one that did not
  have hmoved : ∀ (d d' : ℕ) (delivery delivery₀ delivery' : Delivery T) (choice : Choice)
      (pc : DeliveryPc) (fx : List (Effect T)), e = .delivery d choice →
      s.deliveries[d]? = some delivery₀ → DeliveryMove m s.rows delivery₀ choice pc fx →
      delivery₀.run.runId = runId → pc.active = true → s.deliveries[d']? = some delivery' →
      delivery'.run.runId = runId → delivery'.pc.active = true →
      F.deliveries[d']? ≠ some delivery' → d = d' := by
    intro d d' delivery delivery₀ delivery' choice pc fx he hd hmove hrun hact hd' hrun' hact'
      halive'
    subst he
    rcases active_of_deliveryMove hmove hact with hact₀ | rfl
    · exact hi.one d d' delivery₀ delivery' hd hd' hrun hrun' hact₀ hact'
        (delivery_ne_of_step hd hs hrest) halive'
    · by_contra hne
      exact halive' (hex d delivery₀ rfl hd hrun d' delivery' (fun h => hne h.symm) hd' hrun'
        hact')
  rcases delivery_of_move hm hd with ⟨hd₀, -⟩ | ⟨-, i, run, -, -, rfl⟩ |
    ⟨choice, delivery₀, fx, he, hd₀, hmove, heq, -⟩
  · rcases delivery_of_move hm hd' with ⟨hd₀', -⟩ | ⟨-, i, run, -, -, rfl⟩ |
      ⟨choice, delivery₀', fx, he, hd₀', hmove, heq, -⟩
    · exact hi.one d d' delivery delivery' hd₀ hd₀' hrun hrun' hact hact' halive halive'
    · cases hact'
    · have hrun₀ : delivery₀'.run.runId = runId := by rw [heq] at hrun'; exact hrun'
      exact (hmoved d' d delivery' delivery₀' delivery choice _ fx he hd₀' hmove hrun₀ hact' hd₀
        hrun hact halive).symm
  · cases hact
  · rcases delivery_of_move hm hd' with ⟨hd₀', -⟩ | ⟨-, i, run, -, -, rfl⟩ |
      ⟨choice', delivery₀', fx', he', -, -, -, -⟩
    · have hrun₀ : delivery₀.run.runId = runId := by rw [heq] at hrun; exact hrun
      exact hmoved d d' delivery delivery₀ delivery' choice _ fx he hd₀ hmove hrun₀ hact hd₀'
        hrun' hact' halive'
    · cases hact'
    · rw [he] at he'
      cases he'
      rfl

/-- **Every step keeps the invariant of a run's attempts.** -/
theorem attemptInv_of_step (hi : AttemptInv m F runId s)
    (hs : (system T m).step s e = some s') (hrest : (system T m).run s' es = some F)
    (hex : Exclusive F runId s e s') (hsub : NoSubmissionFailure m runId s e s') :
    AttemptInv m F runId s' where
  reaches := hi.reaches.step hs
  one _ _ _ _ hd hd' hrun hrun' hact hact' halive halive' :=
    one_of_step hi hs hrest hex hd hd' hrun hrun' hact hact' halive halive'
  expects _ _ hd hrun halive _ hr hid := expects_of_step hi hs hrest hsub hd hrun halive hr hid
  begun _ hr hid := begun_of_step hi hs hrest hsub hr hid

theorem attemptInv_start : AttemptInv m F runId (TaskState.start [] []) where
  reaches := System.Reachable.refl
  one _ _ _ _ hd := nomatch hd
  expects _ _ hd := nomatch hd
  begun _ hr := nomatch hr

theorem issued_eq_begun {pc : DeliveryPc} (h : pc.issued ≠ none ∨ pc.halfDone = false) :
    pc.issued = pc.begun := by
  cases pc with
  | publishBegin => rcases h with h | h <;> simp [DeliveryPc.issued, DeliveryPc.halfDone] at h
  | _ => rfl

/-- **Attempts of a run that do not overlap are numbered apart.** No two
`begin_attempt` calls return one number, the `attempts` column never goes
back, and while no `begin_attempt` is half done it counts them. -/
theorem attempts_sequential (h : (system T m).run (TaskState.start [] []) evs = some F)
    (hex : (system T m).Along (Exclusive F runId) (TaskState.start [] []) evs)
    (hsub : (system T m).Along (NoSubmissionFailure m runId) (TaskState.start [] []) evs) :
    (issuedOf F runId).Nodup ∧
    (system T m).Along (AttemptsGrow runId) (TaskState.start [] []) evs ∧
    ((∀ delivery ∈ F.deliveries, delivery.run.runId = runId → delivery.pc.halfDone = false) →
      ∀ row ∈ F.rows, row.runId = runId → row.attempts = (issuedOf F runId).length) := by
  obtain ⟨hinv, hgrow⟩ := System.run_inv_to (Q := AttemptsGrow runId)
    (P := fun s e s' => Exclusive F runId s e s' ∧ NoSubmissionFailure m runId s e s')
    (fun s e t es hi hs hrest hP => ⟨attemptInv_of_step hi hs hrest hP.1 hP.2,
      attemptsGrow_of_step hi hs hrest hP.2⟩)
    attemptInv_start h (System.along_and.2 ⟨hex, hsub⟩)
  have hsublist : (issuedOf F runId).Sublist (begunOf F runId) := by
    refine filterMap_sublist fun delivery _ => ?_
    by_cases hrun : delivery.run.runId = runId
    · simp only [if_pos hrun]
      by_cases hnone : delivery.pc.issued = none
      · exact Or.inl hnone
      · exact Or.inr (issued_eq_begun (Or.inl hnone))
    · exact Or.inl (if_neg hrun)
  refine ⟨hsublist.nodup ?_, hgrow, ?_⟩
  · by_cases hrow : ∃ row ∈ F.rows, row.runId = runId
    · obtain ⟨row, hr, hid⟩ := hrow
      exact (hinv.begun row hr hid).nodup_iff.2 List.nodup_range'
    · rw [begunOf_eq_nil hinv.reaches fun r hr hid => hrow ⟨r, hr, hid⟩]
      exact List.nodup_nil
  · intro hdone row hr hid
    have heq : issuedOf F runId = begunOf F runId := by
      refine List.filterMap_congr fun delivery hd => ?_
      by_cases hrun : delivery.run.runId = runId
      · simp only [if_pos hrun]
        exact issued_eq_begun (Or.inr (hdone delivery hd hrun))
      · simp only [if_neg hrun]
    rw [heq, (hinv.begun row hr hid).length_eq, List.length_range']

/-- A retried run: its first attempt fails, its second completes it. -/
def retrySchedule : List (Ev SearchIndexTask) :=
  Ev.submission 0 ⟨7, 1⟩ none "run-1" 0 ++ [.accept 0] ++
    Ev.attempt 0 0 (.error (ApiError.internal "model overloaded")) 10 ++
    Ev.attempt 0 1 (.ok ()) 20

theorem attempts_sequential_retry :
    (issuedOf (((system SearchIndexTask ⟨3, true⟩).run (TaskState.start [] [])
      retrySchedule).get (by decide)) "run-1").Nodup :=
  (attempts_sequential (Option.some_get _).symm
    (System.Along.imp (fun _ _ _ _ => Alone.exclusive) (by decide : (system SearchIndexTask
      ⟨3, true⟩).Along (Alone "run-1") (TaskState.start [] []) retrySchedule)) (by decide)).1

/-- **Two starts that overlap return one number.** -/
theorem attempts_not_unique :
    ¬ ∀ (evs : List (Ev SearchIndexTask)) (s : TaskState SearchIndexTask) (runId : String),
      (system SearchIndexTask ⟨3, true⟩).run (TaskState.start [] []) evs = some s →
      (issuedOf s runId).Nodup := by
  intro h
  have hnodup := h (Ev.submission 0 ⟨7, 1⟩ none "run-1" 0 ++ [.accept 0, .deliver 0, .deliver 0,
    .delivery 0 .read, .delivery 1 .read, .delivery 0 (.write 10), .delivery 0 (.publish none),
    .delivery 1 (.write 11), .delivery 1 (.publish none)]) _ "run-1"
    (Option.some_get (by decide)).symm
  exact absurd hnodup (by decide)

end TaskMaster

end Dreamscroll
