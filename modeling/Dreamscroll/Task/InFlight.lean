import Dreamscroll.Task.Invariants
/-!
# The runs in flight

A submission looks at the highest-numbered run only, and an attempt acts on
whichever run it was delivered for. So an in-flight run is the highest one
of its task, unless it settled and an attempt put it back in flight
(`Revives`): a redelivered failure is not protected, and nothing stops a
newer run from being in flight beside it.
-/

namespace Dreamscroll

variable {T : Type} [WebhookTask T]

/-! ## Revivals -/

/-- The step puts a settled run back in flight. -/
def Revives (runId : String) (s : TaskState T) (_ : Ev T) (s' : TaskState T) : Prop :=
  ∃ r ∈ s.rows, ∃ r' ∈ s'.rows, r.runId = runId ∧ r'.runId = runId ∧
    r.inFlight = false ∧ r'.inFlight = true

/-- No settled row is in flight after the step. -/
def StaysSettled (s : TaskState T) (_ : Ev T) (s' : TaskState T) : Prop :=
  ∀ r ∈ s.rows, ∀ r' ∈ s'.rows, r.runId = r'.runId → r.inFlight = false → r'.inFlight = false

instance (s : TaskState T) (e : Ev T) (s' : TaskState T) : Decidable (StaysSettled s e s') :=
  inferInstanceAs (Decidable (∀ _ ∈ _, _))

variable {m : TaskMaster} {s s' : TaskState T} {e : Ev T} {evs : List (Ev T)}
variable {rows rows' : List TaskRunModel} {r r' : TaskRunModel} {runId L : String}
variable {Rev : String → Prop}

omit [WebhookTask T] in
theorem StaysSettled.not_revives (h : StaysSettled s e s') : ¬ Revives runId s e s' := by
  rintro ⟨r, hr, r', hr', hid, hid', hfalse, htrue⟩
  rw [h r hr r' hr' (hid.trans hid'.symm) hfalse] at htrue
  cases htrue

/-- Two rows of a logical task with one number are one row. -/
theorem UniqueKeys.eq_of_runNumber (h : UniqueKeys rows) (hr : r ∈ rows) (hr' : r' ∈ rows)
    (hL : r.logicalId = r'.logicalId) (hn : r.runNumber = r'.runNumber) : r = r' := by
  by_contra hne
  exact (h.compatible hr hr' hne).1 ⟨hL, hn⟩

namespace TaskMaster

theorem outcomeStatus_inFlight {attempt : ℕ} {result : Except ApiError Unit}
    (h : (m.outcomeStatus attempt result).isInFlight) :
    m.outcomeStatus attempt result = .errorWillRetry := by
  cases result with
  | ok => cases h
  | error err =>
    simp only [outcomeStatus] at h ⊢
    split_ifs at h ⊢
    · rfl
    · cases h

/-- **Only a status write to an in-flight status revives a run.** -/
theorem write_of_revives (hi : TableInv s) (h : TableMove m s e s'.rows)
    (hrev : Revives runId s e s') :
    ∃ w, m.writeOf s e = some w ∧ w.runId = runId ∧ w.status.isInFlight := by
  obtain ⟨r, hr, r', hr', hid, hid', hfalse, htrue⟩ := hrev
  have heq : r.runId = r'.runId := hid.trans hid'.symm
  rcases row_of_tableMove h hr' with hr' | ⟨w, r₀, hw, hr₀, hid₀, rfl⟩ |
    ⟨run, now, hins, rfl⟩
  · rw [hi.unique.eq_of_runId hr hr' heq, htrue] at hfalse
    cases hfalse
  · refine ⟨w, hw, ?_, ?_⟩
    · rw [← hid₀, ← hid', StatusWrite.update_runId]
    · rw [← htrue]
      exact (TaskRunModel.inFlight_eq_of_hasStatus StatusWrite.update_statusCode).symm
  · exact absurd heq (hins.runId_ne hr)

omit [WebhookTask T] in
/-- And such a write is an attempt's: its start, or its retryable failure. -/
theorem attempt_of_write {w : StatusWrite} (h : m.writeOf s e = some w)
    (hfl : w.status.isInFlight) :
    ∃ d delivery attempt choice, e = .delivery d choice ∧ s.deliveries[d]? = some delivery ∧
      delivery.run.runId = w.runId ∧
      (delivery.pc = .beginWrite attempt ∧ w.status = .inProgress ∨
        delivery.pc = .running attempt ∧ w.status = .errorWillRetry) := by
  cases writer_of_writeOf h with
  | submission => cases hfl
  | start hd hpc => exact ⟨_, _, _, _, rfl, hd, rfl, Or.inl ⟨hpc, rfl⟩⟩
  | finish hd hpc => exact ⟨_, _, _, _, rfl, hd, rfl, Or.inr ⟨hpc, outcomeStatus_inFlight hfl⟩⟩

/-! ## The latest run of a waiting call -/

/-- Where a call may still insert, the highest run is settled, as the call
saw it, unless it was revived since. -/
def Waiting (Rev : String → Prop) (s : TaskState T) : Prop :=
  ∀ (c : ℕ) (call : Call T) (run : TaskRun T), s.calls[c]? = some call → call.pc = .insert run →
    run.runNumber = topRun s.rows call.logicalId + 1 → ∀ r ∈ s.rows,
    r.logicalId = call.logicalId → r.runNumber = topRun s.rows call.logicalId →
    r.inFlight = true → Rev r.runId

theorem waiting_start {accepted₀ : List (TaskRun T)} :
    Waiting Rev (TaskState.start rows accepted₀) := by
  intro c call run hc
  cases hc

/-- A row in flight after an event was in flight, is revived, or is new. -/
theorem inFlight_of_tableMove (h : TableMove m s e s'.rows)
    (hrev : ∀ id, Revives id s e s' → Rev id) (hr' : r' ∈ s'.rows) (hfl : r'.inFlight = true) :
    Rev r'.runId ∨ (∃ r ∈ s.rows, r.identity = r'.identity ∧ r.inFlight = true) ∨
    ∃ run now, Inserts s run now ∧ r' = queuedRow run now := by
  rcases row_of_tableMove h hr' with hr | ⟨w, r, hw, hr, hid, rfl⟩ | hins
  · exact Or.inr (Or.inl ⟨r', hr, rfl, hfl⟩)
  · by_cases hr₀ : r.inFlight = true
    · exact Or.inr (Or.inl ⟨r, hr, StatusWrite.update_identity.symm, hr₀⟩)
    · refine Or.inl (hrev _ ⟨r, hr, _, hr', ?_, rfl, by simpa using hr₀, hfl⟩)
      exact StatusWrite.update_runId.symm
  · exact Or.inr (Or.inr hins)

theorem waiting_of_move (h : Move m s e s') (hi : TableInv s)
    (hrev : ∀ id, Revives id s e s' → Rev id) (hw : Waiting Rev s) : Waiting Rev s' := by
  intro c call' run hc' hpc' hn r' hr' hL htop hfl
  have ht := tableMove_of_move h
  rcases call_of_move h hc' with ⟨hc, -⟩ | ⟨-, task, b, -, rfl⟩ |
    ⟨choice, call, fx, rfl, hc, hm, hcall, hs'⟩
  · obtain ⟨-, hp⟩ := hi.pending c call' run hc hpc'
    rcases topRun_of_tableMove hi ht call'.logicalId with hsame | ⟨-, -, -, -, hnew⟩
    · rw [hsame] at hn htop
      rcases inFlight_of_tableMove ht hrev hr' hfl with hrv | ⟨r, hr, hid, hfl₀⟩ |
        ⟨run₁, now, hins, rfl⟩
      · exact hrv
      · have hrL : r.logicalId = call'.logicalId := (congrArg RunIdentity.logicalId hid).trans hL
        have hrn : r.runNumber = topRun s.rows call'.logicalId :=
          (congrArg RunIdentity.runNumber hid).trans htop
        rw [← show r.runId = r'.runId from congrArg RunIdentity.runId hid]
        exact hw c call' run hc hpc' hn r hr hrL hrn hfl₀
      · have hrn := hins.runNumber hi
        rw [show run₁.logicalId = call'.logicalId from hL,
          show run₁.runNumber = topRun s.rows call'.logicalId from htop] at hrn
        omega
    · -- another call has inserted: this one's number is taken
      have := hp.1
      omega
  · cases hpc'
  · rw [hpc'] at hm
    cases hm with
    | @decided n _ _ hd =>
      have hL' : call'.logicalId = call.logicalId := by rw [hcall]; rfl
      have hrows : s'.rows = s.rows := by rw [hs']; rfl
      rw [hrows, hL'] at htop
      rw [hrows] at hr'
      rw [hL'] at hL
      cases hq : queryRunStatus s.rows call.logicalId none none with
      | none =>
        have hmem := mem_runsOf.2 ⟨hr', hL⟩
        rw [queryRunStatus_eq_none hq] at hmem
        cases hmem
      | some latest =>
        obtain ⟨hl, hlL, hln⟩ := queryRunStatus_eq_some hq
        have heq := hi.unique.eq_of_runNumber hr' hl (hL.trans hlL.symm) (htop.trans hln.symm)
        rw [hq, ← heq] at hd
        simp only [decideNextRun, hfl, if_true] at hd
        cases hd

/-- **An in-flight run is the highest of its task, or was revived.** -/
def LatestInFlight (Rev : String → Prop) (s : TaskState T) : Prop :=
  ∀ r ∈ s.rows, r.inFlight = true → r.runNumber = topRun s.rows r.logicalId ∨ Rev r.runId

theorem latestInFlight_of_move (h : Move m s e s') (hi : TableInv s)
    (hrev : ∀ id, Revives id s e s' → Rev id) (hw : Waiting Rev s)
    (hl : LatestInFlight Rev s) : LatestInFlight Rev s' := by
  intro r' hr' hfl
  have ht := tableMove_of_move h
  rcases inFlight_of_tableMove ht hrev hr' hfl with hrv | ⟨r, hr, hid, hfl₀⟩ |
    ⟨run, now, hins, rfl⟩
  · exact Or.inr hrv
  · have hrL : r.logicalId = r'.logicalId := congrArg RunIdentity.logicalId hid
    have hrn : r.runNumber = r'.runNumber := congrArg RunIdentity.runNumber hid
    have hrid : r.runId = r'.runId := congrArg RunIdentity.runId hid
    rcases topRun_of_tableMove hi ht r'.logicalId with hsame |
      ⟨run, now, hins, hL, hnew⟩
    · rw [hsame, ← hrn, ← hrid, ← hrL]
      exact hl r hr hfl₀
    · -- a newer run is inserted over this one, whose call saw it settled
      refine Or.inr ?_
      rcases hl r hr hfl₀ with htop | hrv
      · have hn := hins.runNumber hi
        obtain ⟨c, call, hc, hpc, hv⟩ := hins
        obtain ⟨hrun, -⟩ := hi.pending c call run hc hpc
        have hcL : run.logicalId = call.logicalId := by rw [hrun]; rfl
        rw [← hrid]
        refine hw c call run hc hpc ?_ r hr ?_ ?_ hfl₀
        · rw [← hcL, hn]
        · rw [hrL, ← hL, hcL]
        · rw [htop, hrL, ← hL, hcL]
      · rw [← hrid]
        exact hrv
  · refine Or.inl ?_
    have hn := hins.runNumber hi
    have hle := runNumber_le_topRun hr' rfl
    rcases topRun_of_tableMove hi ht run.logicalId with hsame | ⟨-, -, -, -, hnew⟩
    · have hle' : run.runNumber ≤ topRun s.rows run.logicalId := hsame ▸ hle
      omega
    · exact hn.trans hnew.symm

/-- The run was put back in flight after it settled, somewhere along. -/
def Revived (m : TaskMaster) (s : TaskState T) (evs : List (Ev T)) (runId : String) : Prop :=
  (system T m).Occurs (Revives runId) s evs

theorem latestInFlight_of_run {accepted₀ : List (TaskRun T)}
    (h : (system T m).run (TaskState.start [] accepted₀) evs = some s) :
    LatestInFlight (m.Revived (TaskState.start [] accepted₀) evs) s := by
  have hinv : ∀ s e s', (TableInv s ∧ Waiting (m.Revived (.start [] accepted₀) evs) s ∧
      LatestInFlight (m.Revived (.start [] accepted₀) evs) s) →
      (system T m).step s e = some s' →
      (∀ id, Revives id s e s' → m.Revived (.start [] accepted₀) evs id) →
      TableInv s' ∧ Waiting (m.Revived (.start [] accepted₀) evs) s' ∧
        LatestInFlight (m.Revived (.start [] accepted₀) evs) s' := by
    rintro s e s' ⟨hi, hw, hl⟩ hs hrev
    have hm := move_of_system hs
    exact ⟨tableInv_of_move hm hi, waiting_of_move hm hi hrev hw,
      latestInFlight_of_move hm hi hrev hw hl⟩
  refine (System.run_inv_along hinv ?_ h (System.along_of_occurs fun _ ho => ho)).2.2
  refine ⟨tableInv_empty, waiting_start, ?_⟩
  intro r hr
  cases hr

/-- **Runs in flight.** Of the in-flight rows of a logical task at most one
was never revived, and it is the latest run's; and only an attempt revives
a run: its `InProgress` write, or its retryable failure. -/
theorem inFlight_latest (h : (system T m).run (TaskState.start [] []) evs = some s) :
    (∀ r ∈ s.rows, r.inFlight = true → ¬ m.Revived (TaskState.start [] []) evs r.runId →
      r.runNumber = topRun s.rows r.logicalId) ∧
    (∀ r ∈ s.rows, ∀ r' ∈ s.rows, r.logicalId = r'.logicalId → r.inFlight = true →
      r'.inFlight = true → ¬ m.Revived (TaskState.start [] []) evs r.runId →
      ¬ m.Revived (TaskState.start [] []) evs r'.runId → r = r') ∧
    ∀ e s' runId, (system T m).step s e = some s' → Revives runId s e s' →
      ∃ d delivery attempt choice w, e = .delivery d choice ∧
        s.deliveries[d]? = some delivery ∧ delivery.run.runId = runId ∧
        m.writeOf s e = some w ∧
        (delivery.pc = .beginWrite attempt ∧ w.status = .inProgress ∨
          delivery.pc = .running attempt ∧ w.status = .errorWillRetry) := by
  have htable : TableInv s := tableInv_of_run tableInv_empty h
  have hlatest : ∀ r ∈ s.rows, r.inFlight = true →
      ¬ m.Revived (TaskState.start [] []) evs r.runId →
      r.runNumber = topRun s.rows r.logicalId := by
    intro r hr hfl hrev
    exact (latestInFlight_of_run h r hr hfl).resolve_right hrev
  refine ⟨hlatest, ?_, ?_⟩
  · intro r hr r' hr' hL hfl hfl' hrev hrev'
    refine htable.unique.eq_of_runNumber hr hr' hL ?_
    rw [hlatest r hr hfl hrev, hlatest r' hr' hfl' hrev', hL]
  · intro e s' runId hs hrev
    obtain ⟨w, hw, hid, hfl⟩ :=
      write_of_revives htable (tableMove_of_move (move_of_system hs)) hrev
    obtain ⟨d, delivery, attempt, choice, he, hd, hrun, hpc⟩ := attempt_of_write hw hfl
    exact ⟨d, delivery, attempt, choice, w, he, hd, hrun.trans hid, hw, hpc⟩

/-- A run fails for good, its task is submitted again, and the failed run is
delivered once more. -/
def redeliverySchedule : List (Ev SearchIndexTask) :=
  Ev.submission 0 ⟨7, 1⟩ none "run-1" 0 ++ [.accept 0] ++
    Ev.attempt 0 0 (.error (ApiError.badRequest "no such capture")) 10 ++
    Ev.submission 1 ⟨7, 1⟩ none "run-2" 20 ++
    [.deliver 0, .delivery 1 .read, .delivery 1 (.write 30)]

/-- **A redelivered failure runs beside the run that followed it.** -/
theorem two_runs_inFlight :
    ¬ ∀ (evs : List (Ev SearchIndexTask)) (s : TaskState SearchIndexTask),
      (system SearchIndexTask ⟨3, true⟩).run (TaskState.start [] []) evs = some s →
      ∀ L, (s.rows.filter fun r => r.logicalId = L ∧ r.inFlight = true).length ≤ 1 := by
  intro h
  have hle := h redeliverySchedule _ (Option.some_get (by decide)).symm
    (TaskRun.makeLogicalId (⟨7, 1⟩ : SearchIndexTask))
  exact absurd hle (by decide)

/-- The state that schedule ends in. -/
def redelivered : TaskState SearchIndexTask :=
  ((system SearchIndexTask ⟨3, true⟩).run (TaskState.start [] []) redeliverySchedule).get (by decide)

theorem inFlight_latest_redelivery :
    (redelivered.rows.filter fun r => r.inFlight).length = 2 ∧
    ∀ r ∈ redelivered.rows, r.inFlight = true →
      ¬ Revived ⟨3, true⟩ (TaskState.start [] []) redeliverySchedule r.runId →
      r.runNumber = topRun redelivered.rows r.logicalId :=
  ⟨by decide, (inFlight_latest (Option.some_get _).symm).1⟩

end TaskMaster

end Dreamscroll
