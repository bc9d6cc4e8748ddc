import Dreamscroll.Task.Deliveries
import Dreamscroll.Task.InFlight
/-!
# Sequential deliveries

What the attempts of one logical task look like when its runs are delivered
sequentially: a run is delivered again only when its earlier deliveries
move no more, never after it failed for good, and a hand-over that fails
delivers nothing. Then at most one delivery of a run still moves, the row
says where it stands, and only in-flight rows are written.
-/

namespace Dreamscroll

variable {T : Type}

/-- The delivery takes no further step before `F`: it has been answered, or
its worker crashed. -/
def Stopped (F : TaskState T) (d : ℕ) (delivery : Delivery T) : Prop :=
  ∃ delivery' ∈ F.deliveries[d]?, delivery'.pc.rank = delivery.pc.rank

instance (F : TaskState T) (d : ℕ) (delivery : Delivery T) : Decidable (Stopped F d delivery) :=
  match h : F.deliveries[d]? with
  | none => isFalse fun ⟨_, hmem, _⟩ => by rw [h] at hmem; cases hmem
  | some delivery' =>
    if hr : delivery'.pc.rank = delivery.pc.rank then isTrue ⟨delivery', h, hr⟩
    else isFalse fun ⟨_, hmem, heq⟩ => by rw [h] at hmem; cases hmem; exact hr heq

/-- **The runs of a logical task are delivered sequentially**, on the way
to `F`. -/
def Sequential (F : TaskState T) (L : String) (s : TaskState T) (e : Ev T) (_ : TaskState T) :
    Prop :=
  (∀ run ∈ e.delivered s, run.logicalId = L →
    (∀ d < s.deliveries.length, ∀ delivery ∈ s.deliveries[d]?,
      delivery.run.runId = run.runId → Stopped F d delivery) ∧
    ∀ row ∈ s.rows, row.runId = run.runId → ¬ row.HasStatus .completeFailure) ∧
  ∀ run ∈ e.failing s, run.logicalId = L → ∀ delivery ∈ s.deliveries,
    delivery.run.runId ≠ run.runId

instance (F s s' : TaskState T) (e : Ev T) (L : String) : Decidable (Sequential F L s e s') :=
  inferInstanceAs (Decidable (_ ∧ _))

/-- What a delivery that still moves and the row of its run say together. -/
def DeliveryPc.Fits (row : TaskRunModel) : DeliveryPc → Prop
  | .beginRead => ¬ row.HasStatus .completeFailure
  | .beginWrite attempt => row.inFlight = true ∧ attempt = row.attempts + 1
  | .publishBegin attempt r => r = row ∧ row.HasStatus .inProgress ∧ attempt = row.attempts
  | .running attempt => row.HasStatus .inProgress ∧ attempt = row.attempts
  | .publishFinish attempt status r => r = row ∧ row.HasStatus status ∧
    attempt = row.attempts ∧ status.isOutcome = true
  | .responded .. => True

variable [WebhookTask T]

namespace TaskMaster

/-- **The invariant of sequential deliveries**, on the way to `F`. -/
structure SequentialInv (m : TaskMaster) (F : TaskState T) (L : String) (s : TaskState T) :
    Prop where
  reaches : m.Reaches s
  one : ∀ (d d' : ℕ) (delivery delivery' : Delivery T), s.deliveries[d]? = some delivery →
    s.deliveries[d']? = some delivery' → delivery.run.runId = delivery'.run.runId →
    delivery.run.logicalId = L → ¬ Stopped F d delivery → ¬ Stopped F d' delivery' → d = d'
  fits : ∀ (d : ℕ) (delivery : Delivery T), s.deliveries[d]? = some delivery →
    delivery.run.logicalId = L → ¬ Stopped F d delivery →
    ∀ row ∈ s.rows, row.runId = delivery.run.runId → delivery.pc.Fits row
  /-- A run that is still handed over, and was not delivered yet, is queued. -/
  fresh : ∀ (c : ℕ) (call : Call T) (run : TaskRun T), s.calls[c]? = some call →
    call.pc.handing = some run → run.logicalId = L →
    (∀ delivery ∈ s.deliveries, delivery.run.runId ≠ run.runId) →
    ∀ row ∈ s.rows, row.runId = run.runId → row.HasStatus .queued ∧ row.attempts = 0

variable {m : TaskMaster} {s s' F : TaskState T} {e : Ev T} {es : List (Ev T)} {c d : ℕ}
variable {delivery : Delivery T} {choice : Choice} {pc : DeliveryPc} {fx : List (Effect T)}
variable {row r : TaskRunModel} {L : String} {run : TaskRun T} {w : StatusWrite} {call : Call T}

/-- **A delivery that takes a step has not stopped.** -/
theorem not_stopped_of_step (hd : s.deliveries[d]? = some delivery)
    (hs : (system T m).step s (.delivery d choice) = some s')
    (h : (system T m).run s' es = some F) : ¬ Stopped F d delivery := by
  obtain ⟨pc, hd', ⟨-, hne⟩ | ⟨choice', fx, -, hm⟩⟩ := delivery_step (move_of_system hs) hd
  · exact absurd rfl (hne choice)
  · obtain ⟨delivery', hF, -, hle⟩ := rank_le_of_run hd' h
    rintro ⟨delivery₁, hmem, hrank⟩
    rw [hF] at hmem
    cases hmem
    have hlt := rank_lt_of_deliveryMove hm
    have hle' : pc.rank ≤ delivery'.pc.rank := hle
    omega

/-- The row of a delivered run, as the run's deliveries address it. -/
theorem Reaches.row_of_delivery_ids (h : m.Reaches s) (hd : s.deliveries[d]? = some delivery) :
    ∃ row ∈ s.rows, row.runId = delivery.run.runId ∧ row.logicalId = delivery.run.logicalId := by
  obtain ⟨row, hr, hident⟩ := h.row_of_delivery hd
  exact ⟨row, hr, congrArg RunIdentity.runId hident, congrArg RunIdentity.logicalId hident⟩

section Step

variable (hi : SequentialInv m F L s) (hs : (system T m).step s e = some s')
variable (hrest : (system T m).run s' es = some F) (hseq : Sequential F L s e s')
include hi hs hrest hseq

/-- **Who writes a run of the task**: its delivery that still moves, or its
own submission while nothing was delivered. -/
theorem writer_of_sequential (hw : m.writeOf s e = some w) (hr : row ∈ s.rows)
    (hid : row.runId = w.runId) (hL : row.logicalId = L) :
    (∃ d choice delivery, e = .delivery d choice ∧ s.deliveries[d]? = some delivery ∧
      delivery.run.runId = row.runId ∧ delivery.run.logicalId = L ∧ ¬ Stopped F d delivery ∧
      delivery.pc.Fits row ∧ delivery.pc.active = true) ∨
    ∃ c choice call run err, e = .call c choice ∧ s.calls[c]? = some call ∧
      call.pc = .failWrite run err ∧ run.runId = row.runId ∧ run.logicalId = L ∧
      ∀ delivery ∈ s.deliveries, delivery.run.runId ≠ row.runId := by
  have hrunL : ∀ {d : ℕ} {delivery : Delivery T}, s.deliveries[d]? = some delivery →
      delivery.run.runId = w.runId → delivery.run.logicalId = L := by
    intro d delivery hd hrun
    obtain ⟨r, hr', hrid, hrL⟩ := hi.reaches.row_of_delivery_ids hd
    rw [← hrL, hi.reaches.tableInv.unique.eq_of_runId hr' hr (hrid.trans (hrun.trans hid.symm))]
    exact hL
  cases writer_of_writeOf hw with
  | @submission c call run err now hc hpc =>
    have hrun : call.pc.handing = some run := by rw [hpc]; rfl
    obtain ⟨row₁, hin, hrow₁⟩ := hi.reaches.handInv.handing c call run hc hrun
    obtain ⟨evs, hevs⟩ := hi.reaches
    obtain ⟨r₁, hr₁, hident⟩ := row_of_insert hevs hin
    have hident' : r₁.identity = run.identity := hident.trans hrow₁
    have heq : r₁ = row := hi.reaches.tableInv.unique.eq_of_runId hr₁ hr
      ((congrArg RunIdentity.runId hident').trans hid.symm)
    have hrunId : run.runId = row.runId := hid.symm
    have hrunL' : run.logicalId = L := by
      rw [← hL, ← heq]
      exact (congrArg RunIdentity.logicalId hident').symm
    refine Or.inr ⟨c, _, call, run, err, rfl, hc, hpc, hrunId, hrunL', ?_⟩
    rw [← hrunId]
    exact hseq.2 run (by simp [Ev.failing, hc, hpc]) hrunL'
  | @start d delivery attempt now hd hpc =>
    have hstop := not_stopped_of_step hd hs hrest
    refine Or.inl ⟨d, _, delivery, rfl, hd, hid.symm, hrunL hd rfl, hstop, ?_, by rw [hpc]; rfl⟩
    exact hi.fits d delivery hd (hrunL hd rfl) hstop row hr hid
  | @finish d delivery attempt result now hd hpc =>
    have hstop := not_stopped_of_step hd hs hrest
    refine Or.inl ⟨d, _, delivery, rfl, hd, hid.symm, hrunL hd rfl, hstop, ?_, by rw [hpc]; rfl⟩
    exact hi.fits d delivery hd (hrunL hd rfl) hstop row hr hid

/-- **Only in-flight runs are written.** -/
theorem inFlight_of_write (hw : m.writeOf s e = some w) (hr : row ∈ s.rows)
    (hid : row.runId = w.runId) (hL : row.logicalId = L) : row.inFlight = true := by
  rcases writer_of_sequential hi hs hrest hseq hw hr hid hL with
    ⟨d, choice, delivery, -, -, -, -, -, hfits, hact⟩ |
    ⟨c, choice, call, run, err, -, hc, hpc, hrid, hrL, hnone⟩
  · generalize delivery.pc = pc at hfits hact
    cases pc with
    | beginWrite => exact hfits.1
    | publishBegin => exact TaskRunModel.inFlight_eq_of_hasStatus hfits.2.1
    | running => exact TaskRunModel.inFlight_eq_of_hasStatus hfits.1
    | _ => cases hact
  · have hst := hi.fresh c call run hc (by rw [hpc]; rfl) hrL (by rw [hrid]; exact hnone) row hr
      hrid.symm
    exact TaskRunModel.inFlight_eq_of_hasStatus hst.1

omit hi hseq in
/-- A delivery that moves after the step moved before it, or starts. -/
theorem live_of_step (hd : s'.deliveries[d]? = some delivery) (hlive : ¬ Stopped F d delivery) :
    (∃ delivery₀, s.deliveries[d]? = some delivery₀ ∧ delivery₀.run = delivery.run ∧
      ¬ Stopped F d delivery₀) ∨
    d = s.deliveries.length ∧ delivery.run ∈ e.delivered s ∧ delivery.pc = .beginRead := by
  rcases delivery_of_move (move_of_system hs) hd with ⟨hd₀, -⟩ | ⟨hlen, i, run, rfl, hget, rfl⟩ |
    ⟨choice, delivery₀, fx, rfl, hd₀, -, heq, -⟩
  · exact Or.inl ⟨delivery, hd₀, rfl, hlive⟩
  · exact Or.inr ⟨hlen, hget, rfl⟩
  · exact Or.inl ⟨delivery₀, hd₀, by rw [heq], not_stopped_of_step hd₀ hs hrest⟩

theorem one_of_sequential {d' : ℕ} {delivery' : Delivery T}
    (hd : s'.deliveries[d]? = some delivery) (hd' : s'.deliveries[d']? = some delivery')
    (hrun : delivery.run.runId = delivery'.run.runId) (hL : delivery.run.logicalId = L)
    (hL' : delivery'.run.logicalId = L)
    (hlive : ¬ Stopped F d delivery) (hlive' : ¬ Stopped F d' delivery') : d = d' := by
  -- a delivery that starts finds the others stopped
  have hstart : ∀ {d : ℕ} {delivery delivery' : Delivery T}, s.deliveries[d]? = some delivery →
      delivery.run.runId = delivery'.run.runId → delivery'.run.logicalId = L →
      delivery'.run ∈ e.delivered s → Stopped F d delivery := by
    intro d delivery delivery' hd hrun hL hdel
    exact (hseq.1 _ hdel hL).1 d (List.getElem?_eq_some_iff.1 hd).1 delivery hd hrun
  rcases live_of_step hs hrest hd hlive with ⟨old, hold, horun, hstop⟩ | ⟨rfl, hdel, -⟩
  · rcases live_of_step hs hrest hd' hlive' with ⟨old', hold', horun', hstop'⟩ | ⟨rfl, hdel', -⟩
    · exact hi.one d d' old old' hold hold' (by rw [horun, horun', hrun]) (by rw [horun, hL])
        hstop hstop'
    · exact absurd (hstart hold (by rw [horun, hrun]) hL' hdel') hstop
  · rcases live_of_step hs hrest hd' hlive' with ⟨old', hold', horun', hstop'⟩ | ⟨rfl, -, -⟩
    · exact absurd (hstart hold' (by rw [horun', hrun]) hL hdel) hstop'
    · rfl

omit hi hrest hseq in
/-- A row of the task after the step was there, unwritten, or was written
by the delivery of its run that still moves, or by its submission. -/
theorem row_of_sequential (hr : row ∈ s'.rows) (hL : row.logicalId = L) :
    (row ∈ s.rows ∧ ∀ w, m.writeOf s e = some w → w.runId ≠ row.runId) ∨
    (∃ w r, m.writeOf s e = some w ∧ r ∈ s.rows ∧ r.runId = w.runId ∧ r.logicalId = L ∧
      row = w.update r) ∨
    ∃ run now, Inserts s run now ∧ row = queuedRow run now := by
  have ht := tableMove_of_move (move_of_system hs)
  rcases row_of_tableMove ht hr with hr₀ | ⟨w, r, hw, hr₀, hid, rfl⟩ | hins
  · by_cases hw : ∃ w, m.writeOf s e = some w ∧ w.runId = row.runId
    · obtain ⟨w, hw, hid⟩ := hw
      obtain ⟨r₁, hr₁, hident, ⟨hne, -⟩ | ⟨-, heq⟩⟩ :=
        StatusWrite.mem_apply (rows_of_write ht hw ▸ hr)
      · exact absurd ((congrArg RunIdentity.runId hident).trans hid.symm) hne
      · refine Or.inr (Or.inl ⟨w, r₁, hw, hr₁, ?_, ?_, heq⟩)
        · exact (congrArg RunIdentity.runId hident).trans hid.symm
        · exact (congrArg RunIdentity.logicalId hident).trans hL
    · exact Or.inl ⟨hr₀, fun w hw₁ hid => hw ⟨w, hw₁, hid⟩⟩
  · rw [StatusWrite.update_logicalId] at hL
    exact Or.inr (Or.inl ⟨w, r, hw, hr₀, hid, hL, rfl⟩)
  · exact Or.inr (Or.inr hins)

/-- A delivery that moves by the step fits the row it leaves. -/
theorem fits_of_deliveryMove {delivery₀ : Delivery T} (he : e = .delivery d choice)
    (hd : s.deliveries[d]? = some delivery₀) (hL : delivery₀.run.logicalId = L)
    (hm : DeliveryMove m s.rows delivery₀ choice pc fx)
    (hs' : s'.rows = fx.foldl Effect.apply s.rows) (hr : row ∈ s'.rows)
    (hid : row.runId = delivery₀.run.runId) : pc.Fits row := by
  subst he
  have hu := hi.reaches.tableInv.unique
  obtain ⟨r, hr₀, hrid, -⟩ := hi.reaches.row_of_delivery_ids hd
  have hfits := hi.fits d delivery₀ hd hL (not_stopped_of_step hd hs hrest) r hr₀ hrid
  have hquery : queryRunById s.rows delivery₀.run.runId none = some r := by
    rw [← hrid, queryRunById_eq hu hr₀]
  -- its row is the only one of the run
  have hsame : row ∈ s.rows → row = r := fun hmem => hu.eq_of_runId hmem hr₀ (hid.trans hrid.symm)
  have hwrote : ∀ w : StatusWrite, w.runId = delivery₀.run.runId → row ∈ w.apply s.rows →
      row = w.update r := by
    intro w hw hmem
    exact eq_update_of_mem_apply hu hr₀ (hrid.trans hw.symm) hmem (hid.trans hw.symm)
  rw [hs'] at hr
  cases hm with
  | rejected => trivial
  | ignored => trivial
  | attempt hpc hdec =>
    rw [hpc] at hfits
    rw [hquery] at hdec
    obtain ⟨rfl, hnok, hnsub⟩ := decideNextAttempt_eq_some hdec
    rw [hsame hr]
    obtain ⟨st, hst⟩ := hi.reaches.hasStatus hr₀
    refine ⟨?_, rfl⟩
    rw [TaskRunModel.inFlight_eq_of_hasStatus hst]
    cases st with
    | completeSuccess => exact absurd hst hnok
    | submissionFailed => exact absurd hst hnsub
    | completeFailure => exact absurd hst hfits
    | _ => rfl
  | began hpc hret =>
    rw [hpc] at hfits
    obtain ⟨-, rfl⟩ := hfits
    rw [returning_eq hu hr₀ hrid] at hret
    cases hret
    rw [hwrote _ rfl hr]
    exact ⟨rfl, StatusWrite.update_statusCode, by rw [StatusWrite.update_attempts]; rfl⟩
  | beganMissing _ hmiss => rw [returning_eq hu hr₀ hrid] at hmiss; cases hmiss
  | publishedBegin hpc =>
    rw [hpc] at hfits
    obtain ⟨-, hst, hatt⟩ := hfits
    rw [foldl_publishEffects] at hr
    rw [hsame hr]
    exact ⟨hst, hatt⟩
  | finished hpc hret =>
    rw [returning_eq hu hr₀ hrid] at hret
    cases hret
    rw [hwrote _ rfl hr]
    exact ⟨rfl, StatusWrite.update_statusCode, by rw [StatusWrite.update_attempts]; rfl,
      isOutcome_outcomeStatus _ _ _⟩
  | finishedMissing _ hmiss => rw [returning_eq hu hr₀ hrid] at hmiss; cases hmiss
  | publishedFinish => trivial

theorem fits_of_sequential (hd : s'.deliveries[d]? = some delivery)
    (hL : delivery.run.logicalId = L) (hlive : ¬ Stopped F d delivery) (hr : row ∈ s'.rows)
    (hid : row.runId = delivery.run.runId) : delivery.pc.Fits row := by
  have hm := move_of_system hs
  rcases delivery_of_move hm hd with ⟨hd₀, hother⟩ | ⟨-, i, run, rfl, hget, rfl⟩ |
    ⟨choice, delivery₀, fx, he, hd₀, hmove, heq, hs'⟩
  · obtain ⟨r₀, hr₀, hrid₀, hrL₀⟩ := hi.reaches.row_of_delivery_ids hd₀
    have hrowL : row.logicalId = L := by
      rcases row_of_tableMove (tableMove_of_move hm) hr with hmem | ⟨w, r, -, hmem, -, rfl⟩ |
        ⟨run, now, hins, rfl⟩
      · rw [hi.reaches.tableInv.unique.eq_of_runId hmem hr₀ (hid.trans hrid₀.symm), hrL₀, hL]
      · rw [StatusWrite.update_runId] at hid
        rw [StatusWrite.update_logicalId,
          hi.reaches.tableInv.unique.eq_of_runId hmem hr₀ (hid.trans hrid₀.symm), hrL₀, hL]
      · exact absurd (hrid₀.trans hid.symm) (hins.runId_ne hr₀)
    rcases row_of_sequential hs hr hrowL with ⟨hmem, -⟩ |
      ⟨w, r, hw, hmem, hwid, hrL, rfl⟩ | ⟨run, now, hins, rfl⟩
    · exact hi.fits d delivery hd₀ hL hlive row hmem hid
    · rw [StatusWrite.update_runId] at hid
      rcases writer_of_sequential hi hs hrest hseq hw hmem hwid hrL with
        ⟨d₁, choice, delivery₁, he, hd₁, hrun₁, hL₁, hstop₁, -, -⟩ |
        ⟨-, -, -, -, -, -, -, -, -, -, hnone⟩
      · have hdd := hi.one d₁ d delivery₁ delivery hd₁ hd₀ (hrun₁.trans hid) hL₁ hstop₁ hlive
        rw [hdd] at he
        exact absurd he (hother choice)
      · exact absurd hid.symm (hnone delivery (List.mem_of_getElem? hd₀))
    · exact absurd (hrid₀.trans hid.symm) (hins.runId_ne hr₀)
  · have hrows : s'.rows = s.rows := by cases hm; rfl
    exact (hseq.1 run hget hL).2 row (hrows ▸ hr) hid
  · have hrun₀ : delivery₀.run = delivery.run := by rw [heq]
    refine fits_of_deliveryMove hi hs hrest hseq he hd₀ (by rw [hrun₀]; exact hL) hmove ?_ hr
      (by rw [hrun₀]; exact hid)
    rw [hs', TaskState.perform_rows, TaskState.setDelivery_rows]

theorem fresh_of_sequential (hc : s'.calls[c]? = some call) (hrun : call.pc.handing = some run)
    (hL : run.logicalId = L) (hnone : ∀ delivery ∈ s'.deliveries, delivery.run.runId ≠ run.runId)
    (hr : row ∈ s'.rows) (hid : row.runId = run.runId) :
    row.HasStatus .queued ∧ row.attempts = 0 := by
  have hm := move_of_system hs
  have hnone₀ : ∀ delivery ∈ s.deliveries, delivery.run.runId ≠ run.runId := by
    intro delivery hmem
    obtain ⟨d, hd⟩ := List.mem_iff_getElem?.1 hmem
    obtain ⟨pc, hd', -⟩ := delivery_step hm hd
    have hne := hnone _ (List.mem_of_getElem? hd')
    exact hne
  rcases handing_cases hm hc hrun with ⟨call₀, hc₀, hrun₀, hnowrite⟩ |
    ⟨call₀, now, reported, rfl, hc₀, hpc, hv, hrows⟩
  · obtain ⟨row₁, hin, hrow₁⟩ := hi.reaches.handInv.handing c call₀ run hc₀ hrun₀
    obtain ⟨evs, hevs⟩ := hi.reaches
    obtain ⟨r₁, hr₁, hident⟩ := row_of_insert hevs hin
    have hrid₁ : r₁.runId = run.runId := congrArg RunIdentity.runId (hident.trans hrow₁)
    have hrL₁ : r₁.logicalId = L :=
      (congrArg RunIdentity.logicalId (hident.trans hrow₁)).trans hL
    rcases row_of_tableMove (tableMove_of_move hm) hr with hmem | ⟨w, r, hw, hmem, hwid, rfl⟩ |
      ⟨run₁, now, hins, rfl⟩
    · exact hi.fresh c call₀ run hc₀ hrun₀ hL hnone₀ row hmem hid
    · rw [StatusWrite.update_runId] at hid
      have hrL : r.logicalId = L := by
        rw [hi.reaches.tableInv.unique.eq_of_runId hmem hr₁ (hid.trans hrid₁.symm), hrL₁]
      rcases writer_of_sequential hi hs hrest hseq hw hmem hwid hrL with
        ⟨d, choice, delivery, -, hd, hdrun, -⟩ |
        ⟨c₂, choice, call₂, run₂, err, rfl, hc₂, hpc₂, hrid₂, -, -⟩
      · exact absurd (hdrun.trans hid) (hnone₀ delivery (List.mem_of_getElem? hd))
      · have hcc := eq_of_handing hi.reaches hc₂ hc₀ (by rw [hpc₂]; rfl) hrun₀ (hrid₂.trans hid)
        subst hcc
        cases writer_of_writeOf hw with
        | submission => exact absurd rfl (hnowrite _)
    · exact absurd (hrid₁.trans hid.symm) (hins.runId_ne hr₁)
  · rw [hrows, List.mem_append, List.mem_singleton] at hr
    rcases hr with hr | rfl
    · exact absurd hid (violatedKeys_eq_nil.1 hv row hr).2.2
    · exact ⟨rfl, rfl⟩

/-- **Every step keeps the invariant of sequential deliveries.** -/
theorem sequentialInv_of_step : SequentialInv m F L s' where
  reaches := hi.reaches.step hs
  one d d' delivery delivery' hd hd' hrun hL hlive hlive' := by
    have hL' : delivery'.run.logicalId = L := by
      have hreach : m.Reaches s' := hi.reaches.step hs
      obtain ⟨r, hr, hrid, hrL⟩ := hreach.row_of_delivery_ids hd
      obtain ⟨r', hr', hrid', hrL'⟩ := hreach.row_of_delivery_ids hd'
      rw [← hrL', hreach.tableInv.unique.eq_of_runId hr' hr
        (hrid'.trans (hrun.symm.trans hrid.symm)), hrL, hL]
    exact one_of_sequential hi hs hrest hseq hd hd' hrun hL hL' hlive hlive'
  fits d delivery hd hL hlive row hr hid := fits_of_sequential hi hs hrest hseq hd hL hlive hr hid
  fresh c call run hc hrun hL hnone row hr hid :=
    fresh_of_sequential hi hs hrest hseq hc hrun hL hnone hr hid

end Step

theorem sequentialInv_start : SequentialInv m F L (TaskState.start [] []) where
  reaches := System.Reachable.refl
  one _ _ _ _ hd := by cases hd
  fits _ _ hd := by cases hd
  fresh _ _ _ hc := by cases hc

/-! ## The latest run of the task -/

/-- The run is one of another task. -/
def OtherTask (F : TaskState T) (L runId : String) : Prop :=
  ∃ row ∈ F.rows, row.runId = runId ∧ row.logicalId ≠ L

/-- **And with it**: an in-flight run of the task is its latest. -/
structure LatestInv (m : TaskMaster) (F : TaskState T) (L : String) (s : TaskState T) :
    Prop where
  sequential : SequentialInv m F L s
  waiting : Waiting (OtherTask F L) s
  latest : LatestInFlight (OtherTask F L) s

theorem latestInv_start : LatestInv m F L (TaskState.start [] []) where
  sequential := sequentialInv_start
  waiting := waiting_start
  latest _ hr := by cases hr

/-- The rows of a state are, up to status, among the later ones. -/
theorem exists_row_of_run (hr : r ∈ s.rows) (h : (system T m).run s es = some F) :
    ∃ r' ∈ F.rows, r'.identity = r.identity := by
  have hmem := (prefix_identity_of_run h).subset (List.mem_map.2 ⟨r, hr, rfl⟩)
  obtain ⟨r', hr', heq⟩ := List.mem_map.1 hmem
  exact ⟨r', hr', heq⟩

theorem latestInv_of_step (hi : LatestInv m F L s) (hs : (system T m).step s e = some s')
    (hrest : (system T m).run s' es = some F) (hseq : Sequential F L s e s') :
    LatestInv m F L s' := by
  have hm := move_of_system hs
  have htable := hi.sequential.reaches.tableInv
  have hrev : ∀ id, Revives id s e s' → OtherTask F L id := by
    intro id hrev
    obtain ⟨w, hw, hwid, -⟩ := write_of_revives htable (tableMove_of_move hm) hrev
    obtain ⟨r, hr, r', hr', hid, hid', hfalse, htrue⟩ := hrev
    obtain ⟨rF, hrF, hident⟩ := exists_row_of_run hr
      (System.run_cons_eq_some.2 ⟨s', hs, hrest⟩)
    refine ⟨rF, hrF, (congrArg RunIdentity.runId hident).trans hid, fun hL => ?_⟩
    have hrL : r.logicalId = L := (congrArg RunIdentity.logicalId hident).symm.trans hL
    rw [inFlight_of_write hi.sequential hs hrest hseq hw hr (hid.trans hwid.symm) hrL] at hfalse
    cases hfalse
  exact ⟨sequentialInv_of_step hi.sequential hs hrest hseq,
    waiting_of_move hm htable hrev hi.waiting,
    latestInFlight_of_move hm htable hrev hi.waiting hi.latest⟩

theorem LatestInv.eq_topRun (hi : LatestInv m F L s) (hrest : (system T m).run s es = some F)
    (hr : r ∈ s.rows) (hL : r.logicalId = L) (hfl : r.inFlight = true) :
    r.runNumber = topRun s.rows L := by
  rcases hi.latest r hr hfl with htop | ⟨rF, hrF, hid, hne⟩
  · rw [htop, hL]
  · obtain ⟨rF', hrF', hident⟩ := exists_row_of_run hr hrest
    have heq := (tableInv_of_run hi.sequential.reaches.tableInv hrest).unique.eq_of_runId hrF hrF'
      (hid.trans (congrArg RunIdentity.runId hident).symm)
    rw [heq] at hne
    exact absurd ((congrArg RunIdentity.logicalId hident).trans hL) hne

end TaskMaster

end Dreamscroll
