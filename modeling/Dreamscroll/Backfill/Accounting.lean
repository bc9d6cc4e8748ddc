import Dreamscroll.Backfill.Latch
/-!
# Pump accounting

`pump_definition` as it is called: over any `submit`, with what its own
statements answer. A pump whose own statements succeed makes one submission
for each selected target, in order, whatever they come to, and its response
counts them (`pump_accounting`). The pumps of the engine, statement by
statement among everything else, come to what it does (`returned_pump`).
-/

namespace Dreamscroll

/-! ## The pump over any submission -/

/-- `submit`, of a task for a backfill, on whatever it changes. -/
abbrev Submit (σ : Type) := AnyTask → String → σ → Except ApiError SubmitOutcome × σ

/-- What the statements of a pump read, each when it runs. -/
structure PumpReads where
  /-- The row of the backfill, for the dry latch. -/
  latch : Except ApiError (Option BackfillModel)
  /-- The task runs and the candidate relation, for the selection. -/
  tables : Except ApiError (List TaskRunModel × List BackfillTarget)
  /-- The row the final record meets, and its time. -/
  record : Except ApiError (Option BackfillModel × Timestamp)

namespace Engine

variable {σ : Type} (g : Engine)

/-- The loop over the targets. -/
def submitAll (submit : Submit σ) : List BackfillTarget → PumpTally → σ → PumpTally × σ
  | [], tally, w => (tally, w)
  | target :: targets, tally, w =>
    let (outcome, w) := submit (g.definition.makeTask target) g.definition.id w
    submitAll submit targets (tally.add target outcome) w

/-- The latch: a forced pump does not read the row. -/
def checkLatch (reads : PumpReads) (force : Bool) : Except ApiError Unit :=
  if force then .ok () else reads.latch.bind fun record => g.ensureNotDry record force

/-- **`pump_definition`.** -/
def pumpDefinition (reads : PumpReads) (limit : ℕ) (force : Bool) (submit : Submit σ) (w : σ) :
    Except ApiError BackfillPumpResponse × σ :=
  if limit = 0 then
    (.error (ApiError.badRequest "Candidate limit must be greater than zero"), w)
  else match g.checkLatch reads force with
    | .error err => (.error err, w)
    | .ok () =>
      match reads.tables with
      | .error err => (.error err, w)
      | .ok (rows, relation) =>
        let targets := selectTargets g.definition rows relation limit
        let (tally, w) := g.submitAll submit targets .zero w
        match reads.record with
        | .error err => (.error err, w)
        | .ok (record, now) =>
          let record := recordPump record targets.isEmpty now
          (.ok { tally with
            backfillId := g.definition.id
            selectedCount := targets.length
            drySince := record.drySince
            pumpedAt := record.lastPumpedAt }, w)

/-! ## What was submitted -/

/-- A call of `submit`, and what it came to. -/
structure Submission where
  task : AnyTask
  backfillId : String
  outcome : Except ApiError SubmitOutcome

/-- `submit`, with its calls written down. -/
def logged (submit : Submit σ) : Submit (σ × List Submission) :=
  fun task id (w, log) =>
    let (outcome, w) := submit task id w
    (outcome, w, log ++ [⟨task, id, outcome⟩])

/-- The submissions come to these outcomes, one after the other. -/
def scripted : Submit (List (Except ApiError SubmitOutcome))
  | _, _, outcome :: outcomes => (outcome, outcomes)
  | _, _, [] => (.error (ApiError.internal ""), [])

namespace Submission

/-- The candidate was submitted. -/
def isEnqueued (s : Submission) : Bool :=
  match s.outcome with
  | .ok (.enqueued _ _) => true
  | _ => false

/-- It was before, in the same backfill. -/
def isAlreadySubmitted (s : Submission) : Bool :=
  match s.outcome with
  | .ok (.alreadySubmittedBackfill _ _) => true
  | _ => false

/-- It has a run in flight. -/
def isRefusedInFlight (s : Submission) : Bool :=
  match s.outcome with
  | .ok .refusedAlreadyInFlight => true
  | _ => false

/-- It was not submitted, for an error. -/
def isFailed (s : Submission) : Bool :=
  match s.outcome with
  | .error _ => true
  | .ok _ => false

end Submission

/-- **The pump accounts for its targets.** -/
structure Accounts (targets : List BackfillTarget) (calls : List Submission)
    (response : BackfillPumpResponse) : Prop where
  /-- One call for each target, in the selection order. -/
  submitted : calls.map (fun call => (call.task, call.backfillId)) =
    targets.map fun target => (g.definition.makeTask target, g.definition.id)
  selected : response.selectedCount = targets.length
  sum : response.selectedCount = response.enqueuedCount + response.alreadySubmittedCount +
    response.refusedInFlightCount + response.errors.length
  enqueued : response.enqueuedCount = calls.countP Submission.isEnqueued
  alreadySubmitted : response.alreadySubmittedCount = calls.countP Submission.isAlreadySubmitted
  refusedInFlight : response.refusedInFlightCount = calls.countP Submission.isRefusedInFlight
  /-- The failing targets, in order. -/
  errors : response.errors.map (·.entityId) =
    ((targets.zip calls).filter fun pair => pair.2.isFailed).map fun pair => pair.1.entityId

/-! ## The counters -/

variable {g} {submit : Submit σ} {target : BackfillTarget} {targets : List BackfillTarget}
  {calls : List Submission} {tally tally' : PumpTally} {w : σ}
  {outcome : Except ApiError SubmitOutcome}

/-- What the loop adds to the counters for these calls. -/
structure Counts (g : Engine) (tally : PumpTally) (targets : List BackfillTarget)
    (calls : List Submission) (tally' : PumpTally) : Prop where
  submitted : calls.map (fun call => (call.task, call.backfillId)) =
    targets.map fun target => (g.definition.makeTask target, g.definition.id)
  enqueued : tally'.enqueuedCount = tally.enqueuedCount + calls.countP Submission.isEnqueued
  alreadySubmitted : tally'.alreadySubmittedCount =
    tally.alreadySubmittedCount + calls.countP Submission.isAlreadySubmitted
  refusedInFlight : tally'.refusedInFlightCount =
    tally.refusedInFlightCount + calls.countP Submission.isRefusedInFlight
  errors : tally'.errors.map (·.entityId) = tally.errors.map (·.entityId) ++
    ((targets.zip calls).filter fun pair => pair.2.isFailed).map fun pair => pair.1.entityId
  /-- Each call is counted in one of them. -/
  sum : tally'.enqueuedCount + tally'.alreadySubmittedCount + tally'.refusedInFlightCount +
      tally'.errors.length =
    tally.enqueuedCount + tally.alreadySubmittedCount + tally.refusedInFlightCount +
      tally.errors.length + calls.length

theorem Counts.nil : Counts g tally [] [] tally :=
  ⟨rfl, rfl, rfl, rfl, (List.append_nil _).symm, rfl⟩

/-- **One arm of the loop's match**, and then the rest of it. -/
theorem Counts.cons (h : Counts g (tally.add target outcome) targets calls tally') :
    Counts g tally (target :: targets)
      (⟨g.definition.makeTask target, g.definition.id, outcome⟩ :: calls) tally' := by
  obtain ⟨hsubmitted, henqueued, halready, hrefused, herrors, hsum⟩ := h
  refine ⟨?_, ?_, ?_, ?_, ?_, ?_⟩
  · rw [List.map_cons, List.map_cons, hsubmitted]
  · rw [henqueued, List.countP_cons]
    rcases outcome with err | ⟨_, _⟩ | ⟨_, _⟩ | _ <;>
      simp only [PumpTally.add, Submission.isEnqueued, if_true, Bool.false_eq_true, if_false] <;>
      omega
  · rw [halready, List.countP_cons]
    rcases outcome with err | ⟨_, _⟩ | ⟨_, _⟩ | _ <;>
      simp only [PumpTally.add, Submission.isAlreadySubmitted, if_true, Bool.false_eq_true,
        if_false] <;>
      omega
  · rw [hrefused, List.countP_cons]
    rcases outcome with err | ⟨_, _⟩ | ⟨_, _⟩ | _ <;>
      simp only [PumpTally.add, Submission.isRefusedInFlight, if_true, Bool.false_eq_true,
        if_false] <;>
      omega
  · rw [herrors, List.zip_cons_cons, List.filter_cons]
    rcases outcome with err | ⟨_, _⟩ | ⟨_, _⟩ | _
    · simp only [PumpTally.add, Submission.isFailed, List.map_append, List.map_cons, List.map_nil,
        if_true, List.append_assoc, List.singleton_append]
    all_goals rfl
  · rw [hsum, List.length_cons]
    rcases outcome with err | ⟨_, _⟩ | ⟨_, _⟩ | _ <;>
      simp only [PumpTally.add, List.length_append, List.length_singleton] <;> omega

/-- **The loop goes through all targets**, and writing its calls down changes
nothing. -/
theorem submitAll_logged (submit : Submit σ) (targets : List BackfillTarget) (tally : PumpTally)
    (w : σ) (log : List Submission) : ∃ calls,
      g.submitAll (logged submit) targets tally (w, log) =
        ((g.submitAll submit targets tally w).1, (g.submitAll submit targets tally w).2,
          log ++ calls) ∧
      Counts g tally targets calls (g.submitAll submit targets tally w).1 := by
  induction targets generalizing tally w log with
  | nil => exact ⟨[], by rw [List.append_nil]; rfl, .nil⟩
  | cons target targets ih =>
    let result := submit (g.definition.makeTask target) g.definition.id w
    obtain ⟨calls, hlogged, hcounts⟩ := ih (tally.add target result.1) result.2
      (log ++ [⟨g.definition.makeTask target, g.definition.id, result.1⟩])
    refine ⟨⟨g.definition.makeTask target, g.definition.id, result.1⟩ :: calls, ?_, hcounts.cons⟩
    rw [List.append_assoc] at hlogged
    exact hlogged

variable {rows : List TaskRunModel} {relation : List BackfillTarget} {record : Option BackfillModel}
  {now : Timestamp} {reads : PumpReads} {limit : ℕ} {force : Bool}

/-- A pump that passes its latch, and whose selection and record succeed. -/
theorem pumpDefinition_of_ok (hlimit : limit ≠ 0) (hlatch : g.checkLatch reads force = .ok ())
    (htables : reads.tables = .ok (rows, relation)) (hrecord : reads.record = .ok (record, now)) :
    g.pumpDefinition reads limit force submit w =
      let targets := selectTargets g.definition rows relation limit
      let record := recordPump record targets.isEmpty now
      (.ok { (g.submitAll submit targets .zero w).1 with
        backfillId := g.definition.id
        selectedCount := targets.length
        drySince := record.drySince
        pumpedAt := record.lastPumpedAt }, (g.submitAll submit targets .zero w).2) := by
  unfold pumpDefinition
  rw [if_neg hlimit, hlatch, htables, hrecord]

/-- **Pump accounting**, for any selected targets and whatever their
submissions come to. -/
theorem pump_accounting (g : Engine) (reads : PumpReads) (limit : ℕ) (force : Bool)
    (submit : Submit σ) (w : σ) (rows : List TaskRunModel) (relation : List BackfillTarget)
    (record : Option BackfillModel) (now : Timestamp) (hlimit : limit ≠ 0)
    (hlatch : g.checkLatch reads force = .ok ()) (htables : reads.tables = .ok (rows, relation))
    (hrecord : reads.record = .ok (record, now)) :
    ∃ response w' calls, g.pumpDefinition reads limit force submit w = (.ok response, w') ∧
      g.pumpDefinition reads limit force (logged submit) (w, []) = (.ok response, w', calls) ∧
      g.Accounts (selectTargets g.definition rows relation limit) calls response := by
  obtain ⟨calls, hlogged, hcounts⟩ := submitAll_logged (g := g) submit
    (selectTargets g.definition rows relation limit) .zero w []
  have hlength : calls.length = (selectTargets g.definition rows relation limit).length := by
    have h := congrArg List.length hcounts.submitted
    rwa [List.length_map, List.length_map] at h
  rw [pumpDefinition_of_ok hlimit hlatch htables hrecord,
    pumpDefinition_of_ok hlimit hlatch htables hrecord]
  dsimp only
  rw [hlogged]
  refine ⟨_, _, calls, rfl, rfl, hcounts.submitted, rfl, ?_, ?_, ?_, ?_, hcounts.errors⟩
  · exact hlength.symm.trans (hcounts.sum.trans (Nat.zero_add _)).symm
  · exact hcounts.enqueued.trans (Nat.zero_add _)
  · exact hcounts.alreadySubmitted.trans (Nat.zero_add _)
  · exact hcounts.refusedInFlight.trans (Nat.zero_add _)

/-- Three captures of one owner, and no run of the backfill. -/
def mixedReads : PumpReads :=
  ⟨.ok none, .ok ([], [⟨1, 1⟩, ⟨2, 1⟩, ⟨3, 1⟩]), .ok (none, 0)⟩

/-- The second submission fails. -/
def mixedOutcomes : List (Except ApiError SubmitOutcome) :=
  [.ok (.enqueued "a" 1), .error (ApiError.internal "lost"), .ok .refusedAlreadyInFlight]

theorem pump_accounting_mixed : ∃ response w' calls,
    illuminateV2Engine.pumpDefinition mixedReads 100 false scripted mixedOutcomes =
      (.ok response, w') ∧
    illuminateV2Engine.pumpDefinition mixedReads 100 false (logged scripted) (mixedOutcomes, []) =
      (.ok response, w', calls) ∧
    illuminateV2Engine.Accounts [⟨3, 1⟩, ⟨2, 1⟩, ⟨1, 1⟩] calls response :=
  pump_accounting illuminateV2Engine mixedReads 100 false scripted mixedOutcomes []
    [⟨1, 1⟩, ⟨2, 1⟩, ⟨3, 1⟩] none 0 (by decide) rfl rfl rfl

/-! ## The pumps of the engine -/

variable {outcomes outcomes' : List (Except ApiError SubmitOutcome)} {p p' : Pump}
  {done rest : List BackfillTarget}

/-- The loop over the first targets, and then over the rest. -/
theorem submitAll_append : g.submitAll submit (done ++ rest) tally w =
    g.submitAll submit rest (g.submitAll submit done tally w).1
      (g.submitAll submit done tally w).2 := by
  induction done generalizing tally w with
  | nil => rfl
  | cons target done ih => exact ih

/-- **The loop has done these targets**, and they came to these outcomes. -/
def Done (g : Engine) (p : Pump) (rest : List BackfillTarget) : Prop :=
  ∃ reads rows relation done outcomes, p.limit ≠ 0 ∧ g.checkLatch reads p.force = .ok () ∧
    reads.tables = .ok (rows, relation) ∧
    p.targets = selectTargets g.definition rows relation p.limit ∧ p.targets = done ++ rest ∧
    ∀ more, g.submitAll scripted done .zero (outcomes ++ more) = (p.tally, more)

theorem Done.step {target : BackfillTarget} (outcome : Except ApiError SubmitOutcome)
    (h : Done g p (target :: rest)) (htargets : p'.targets = p.targets)
    (hlimit : p'.limit = p.limit) (hforce : p'.force = p.force)
    (htally : p'.tally = p.tally.add target outcome) : Done g p' rest := by
  obtain ⟨reads, rows, relation, done, outcomes, hne, hlatch, htables, hselect, happend, hloop⟩ := h
  refine ⟨reads, rows, relation, done ++ [target], outcomes ++ [outcome], ?_, ?_, htables, ?_, ?_,
    fun more => ?_⟩
  · rw [hlimit]
    exact hne
  · rw [hforce]
    exact hlatch
  · rw [htargets, hlimit]
    exact hselect
  · rw [htargets, happend, List.append_assoc]
    rfl
  · rw [submitAll_append, List.append_assoc, hloop, htally]
    rfl

/-- What a pump has come to, where it stands. -/
def FollowsDefinition (g : Engine) (p : Pump) : Prop :=
  match p.pc with
  | .ensureNotDry => p.limit ≠ 0 ∧ p.tally = .zero
  | .select => p.limit ≠ 0 ∧ p.tally = .zero ∧
      ∃ record, g.ensureNotDry record p.force = .ok ()
  | .submit rest => Done g p rest
  | .awaiting target _ rest => Done g p (target :: rest)
  | .returned result => ∃ reads outcomes,
      g.pumpDefinition reads p.limit p.force scripted outcomes = (result, [])

theorem checkLatch_eq {reads : PumpReads} (hlatch : reads.latch = .ok record) :
    g.checkLatch reads force = g.ensureNotDry record force := by
  unfold checkLatch ensureNotDry
  rw [hlatch]
  split
  · rfl
  · rfl

theorem followsDefinition_start : FollowsDefinition g (Pump.start limit force) := by
  unfold FollowsDefinition Pump.start
  by_cases hlimit : limit = 0
  · simp only [hlimit, if_true]
    exact ⟨⟨.ok none, .ok ([], []), .ok (none, 0)⟩, [], if_pos rfl⟩
  · simp only [if_neg hlimit]
    exact ⟨hlimit, trivial⟩

variable {m : TaskMaster} {s s' : BackfillState} {i : ℕ} {choice : PumpChoice}
  {es : List BackfillEv}

/-- **Each statement of a pump follows the definition.** -/
theorem FollowsDefinition.step (h : FollowsDefinition g p) (hm : PumpMove g m s i p choice s') :
    ∃ p', s'.pumps = s.pumps.set i p' ∧ FollowsDefinition g p' := by
  unfold FollowsDefinition at h
  cases hm with
  | passed hpc hok =>
    rw [hpc] at h
    exact ⟨_, rfl, h.1, h.2, _, hok⟩
  | refused hpc herr =>
    rw [hpc] at h
    refine ⟨_, rfl, ⟨.ok (s.backfills g.definition.id), .ok ([], []), .ok (none, 0)⟩, [], ?_⟩
    unfold pumpDefinition
    rw [if_neg h.1, checkLatch_eq rfl, herr]
  | @selected relation hpc =>
    rw [hpc] at h
    obtain ⟨hlimit, htally, record, hok⟩ := h
    refine ⟨_, rfl, ⟨.ok record, .ok (s.tasks.rows, relation), .ok (none, 0)⟩, s.tasks.rows,
      relation, [], [], hlimit, (checkLatch_eq rfl).trans hok, rfl, rfl, rfl, fun more => ?_⟩
    rw [show (_ : Pump).tally = p.tally from rfl, htally]
    rfl
  | @denied target rest err hpc herr =>
    rw [hpc] at h
    exact ⟨_, rfl, Done.step (.error err) h rfl rfl rfl rfl⟩
  | submitted hpc =>
    rw [hpc] at h
    exact ⟨_, rfl, h⟩
  | @collected target c rest call outcome hpc hc hret =>
    rw [hpc] at h
    exact ⟨_, rfl, Done.step (submitResult outcome) h rfl rfl rfl rfl⟩
  | @recorded now record hpc hrecord =>
    rw [hpc] at h
    obtain ⟨reads, rows, relation, done, outcomes, hlimit, hlatch, htables, hselect, happend,
      hloop⟩ := h
    rw [List.append_nil] at happend
    refine ⟨_, rfl, { reads with record := .ok (s.backfills g.definition.id, now) }, outcomes, ?_⟩
    have hloop := hloop []
    rw [List.append_nil, ← happend, hselect] at hloop
    have hlatch : g.checkLatch ⟨reads.latch, reads.tables, .ok (s.backfills g.definition.id, now)⟩
      p.force = .ok () := hlatch
    refine (pumpDefinition_of_ok hlimit hlatch htables rfl).trans ?_
    dsimp only
    rw [hloop, hrecord, ← hselect]
    rfl

/-- **A pump of the engine comes to what the definition does**, for what its
statements read and its submissions came to. -/
theorem returned_pump (hrun : (g.system m).run BackfillState.start es = some s) {p : Pump}
    (hp : p ∈ s.pumps) {result : Except ApiError BackfillPumpResponse}
    (hpc : p.pc = .returned result) : ∃ reads outcomes,
      g.pumpDefinition reads p.limit p.force scripted outcomes = (result, []) := by
  have hall : ∀ p ∈ s.pumps, FollowsDefinition g p := by
    refine (g.system m).run_inv (I := fun s => ∀ p ∈ s.pumps, FollowsDefinition g p) ?_
      (List.forall_mem_nil _) hrun
    intro s e s' hi hs p hp
    cases engineMove_of_step hs with
    | task => exact hi p hp
    | pump =>
      rcases List.mem_append.1 hp with hp | hp
      · exact hi p hp
      · rw [List.mem_singleton.1 hp]
        exact followsDefinition_start
    | next hq hm =>
      obtain ⟨p', hset, hp'⟩ := (hi _ (mem_of_getElem? hq)).step hm
      rw [hset] at hp
      rcases mem_set_of_some hp with rfl | ⟨j, -, hj⟩
      · exact hp'
      · exact hi p (mem_of_getElem? hj)
  have h := hall p hp
  unfold FollowsDefinition at h
  rw [hpc] at h
  exact h

end Engine

end Dreamscroll
