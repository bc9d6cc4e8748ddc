import Dreamscroll.Common.System
import Dreamscroll.Service.SparkAtomic
import Dreamscroll.Webhook.HttpStatus
/-!
# Attempts of a spark run

`r_spark::post`, one delivery of a run after the other: `begin_attempt`, the
task's `exec`, `finish_attempt`. Between two deliveries anything else may
happen to the tables; only the run's status is its own.

`stores_once` says of which attempts: of those that get to `insert_spark`,
its first statement fails, or the call is granted and `finish_attempt`
writes its success down. Then nothing partial is stored, and nothing twice.
-/

namespace Dreamscroll

/-! ## One delivery -/

namespace SparkRun

open Service

/-- What only the environment knows of a delivery: the statements that are
refused, what the firestarter answers, and the clock. -/
structure Post where
  readRefused : Option String
  beginRefused : Option String
  beginNow : Timestamp
  fired : Except String (InferenceOutcome SparkResponse)
  /-- What the statements of `exec` meet. -/
  faults : List (Option ApiError)
  finishRefused : Option String
  finishNow : Timestamp

/-- A call of `insert_spark`, and the session it ran on. -/
structure InsertCall where
  spark : SparkResponse
  inferenceMetaId : Option ℤ
  session : Session SparkTables SparkSequences ApiError

/-- The tables a spark's webhook works on, and what its attempts have done. -/
structure State where
  taskRuns : List TaskRunModel
  tables : SparkTables
  sequences : SparkSequences
  /-- The calls of `insert_spark` by the run's attempts, oldest first. -/
  inserts : List InsertCall
  /-- The rows of `sparks` they created. -/
  created : List SparkModel

variable (m : TaskMaster) (run : TaskRun SparkTask)

/-- The call of `insert_spark`, if `exec` gets to it. -/
def insertCall (attempt : ℕ) (fired : Except String (InferenceOutcome SparkResponse))
    (session : Session SparkTables SparkSequences ApiError) : Option InsertCall :=
  match run.task.prepare run.runId attempt fired session with
  | .ok prepared t => some ⟨prepared.1, prepared.2, t⟩
  | .error _ _ => none

/-- What a call of `insert_spark` came to. -/
def InsertCall.result (call : InsertCall) :
    EStateM.Result ApiError (Session SparkTables SparkSequences ApiError) PUnit :=
  insertSpark run.task.entityOwnerId run.task.captureIds call.spark call.inferenceMetaId
    call.session

namespace State

variable (s : State)

/-- The session of an `exec`. -/
def session (p : Post) : Session SparkTables SparkSequences ApiError :=
  ⟨s.tables, s.sequences, p.faults⟩

/-- The write of a status. -/
def writeStatus (w : StatusWrite) : State := { s with taskRuns := w.apply s.taskRuns }

/-- The run's row. -/
def row : Option TaskRunModel := queryRunById s.taskRuns run.runId none

/-- The status of the run, if it has a row. -/
def status : Option ℤ := (s.row run).map (·.statusCode)

/-- The tables an `exec` leaves, and what it did to get there. -/
def executed (attempt : ℕ) (p : Post) (t : Session SparkTables SparkSequences ApiError) :
    State where
  taskRuns := s.taskRuns
  tables := t.tables
  sequences := t.sequences
  inserts := s.inserts ++ (insertCall run attempt p.fired (s.session p)).toList
  created := s.created ++ t.tables.sparks.drop s.tables.sparks.length

/-- The body of an attempt, with what it leaves behind when it fails. -/
def exec (attempt : ℕ) (p : Post) : State × Except ApiError Unit :=
  match run.task.exec run.runId attempt p.fired (s.session p) with
  | .ok _ t => (s.executed run attempt p t, .ok ())
  | .error e t => (s.executed run attempt p t, .error e)

/-- `finish_attempt`, and the response. -/
def finish (attempt : ℕ) (p : Post) (result : Except ApiError Unit) : State × Except ApiError ℕ :=
  match p.finishRefused with
  | some e => (s, .error (ApiError.internal e))
  | none => (s.writeStatus (m.finishWrite run attempt result p.finishNow),
      .ok (httpStatusForTaskRun (m.outcomeStatus attempt result)))

/-- **`post`.** -/
def post (p : Post) : State × Except ApiError ℕ :=
  match WebhookTask.reject run.task with
  | some e => (s, .error e)
  | none =>
    match p.readRefused with
    | some e => (s, .error (ApiError.internal e))
    | none =>
      match decideNextAttempt (s.row run) with
      | none => (s, .ok noContent)
      | some attempt =>
        match p.beginRefused with
        | some e => (s, .error (ApiError.internal e))
        | none =>
          let (s, result) :=
            (s.writeStatus (markInProgress run attempt p.beginNow)).exec run attempt p
          s.finish m run attempt p result

end State

/-! ## Deliveries one after the other -/

/-- A delivery, or anything else. -/
inductive Event
  | post (p : Post)
  /-- What others do between two deliveries. -/
  | others (taskRuns : List TaskRunModel) (tables : SparkTables) (sequences : SparkSequences)

/-- What an event does. Others leave the run and its sparks alone. -/
def step (s : State) : Event → Option State
  | .post p => some (s.post m run p).1
  | .others taskRuns tables sequences =>
    let s' : State := { s with
      taskRuns := taskRuns
      tables := tables
      sequences := sequences }
    if s'.status run = s.status run then some s' else none

/-- The deliveries of one run. -/
def system : System State Event := ⟨step m run⟩

/-- No attempt has been made. -/
def start (taskRuns : List TaskRunModel) (tables : SparkTables) (sequences : SparkSequences) :
    State :=
  ⟨taskRuns, tables, sequences, [], []⟩

/-- **The run stores one complete spark at most**, and nothing of one that
failed. -/
structure StoresOnce (s : State) : Prop where
  failed : ∀ call ∈ s.inserts, ∀ e t, call.result run = .error e t →
    SameSparks call.session.tables t.tables
  once : s.created.length ≤ 1
  complete : ∀ row ∈ s.created, ∃ call ∈ s.inserts, ∃ u t inputs clusters,
    call.result run = .ok u t ∧
    SparkStored run.task.entityOwnerId run.task.captureIds call.spark call.inferenceMetaId
      call.session.tables t.tables row inputs clusters

/-! ## Attempts that are safe -/

/-- **The attempt gets to `insert_spark`** with this response. -/
structure Reaches (s : State) (p : Post) (spark : SparkResponse) : Prop where
  begins : p.readRefused = none ∧ (decideNextAttempt (s.row run)).isSome ∧ p.beginRefused = none
  selects : p.faults.head?.join = none
  input : run.task.captureIds ≠ []
  found : ∃ capture ∈ s.tables.captures, capture.id ∈ run.task.captureIds
  owned : ∀ capture ∈ s.tables.captures, capture.id ∈ run.task.captureIds →
    capture.userId = run.task.entityOwnerId
  answered : ∃ status, p.fired = .ok ⟨.ok spark, status⟩

/-- What `insert_spark` will find: the captures are selected and the call
of the model is recorded by statements before its own. -/
def ahead (s : State) (p : Post) : Session SparkTables SparkSequences ApiError :=
  ⟨s.tables, s.sequences, p.faults.drop 2⟩

/-- **The attempt is safe**: if it gets to `insert_spark` and the first
statement is granted, all are, and the success is written to the run's
row. -/
def Safe (s : State) : Event → State → Prop
  | .post p, _ => ∀ spark, Reaches run s p spark → Opens (ahead s p) →
      Granted run.task.captureIds spark (ahead s p) ∧ p.finishRefused = none ∧ (s.row run).isSome
  | .others .., _ => True

variable {m run} {s s' : State} {p : Post} {attempt : ℕ} {call : InsertCall}
  {w : StatusWrite}

/-! ## The run's row -/

theorem row_writeStatus (hw : w.runId = run.runId) :
    (s.writeStatus w).row run = (s.row run).map w.update := by
  unfold State.writeStatus State.row queryRunById StatusWrite.apply
  dsimp only
  generalize s.taskRuns = rows
  induction rows with
  | nil => rfl
  | cons row rows ih =>
    rw [List.map_cons, hw] at *
    by_cases hrow : row.runId = run.runId
    · rw [if_pos hrow, List.find?_cons_of_pos, List.find?_cons_of_pos, Option.map_some]
      · simp [hrow]
      · simp [hrow]
    · rw [if_neg hrow, List.find?_cons_of_neg, List.find?_cons_of_neg, ih]
      · simp [hrow]
      · simp [hrow]

/-- The run is completed. -/
def Completed (run : TaskRun SparkTask) (s : State) : Prop :=
  s.status run = some TaskRunStatus.completeSuccess.asI32

/-- A completed run is not attempted. -/
theorem decideNextAttempt_of_completed (h : Completed run s) :
    decideNextAttempt (s.row run) = none := by
  obtain ⟨row, hrow, hstatus⟩ := Option.map_eq_some_iff.1 h
  rw [hrow]
  exact decideNextAttempt_of_completeSuccess hstatus

/-- The success that is written down completes the run. -/
theorem completed_writeStatus (hrow : (s.row run).isSome) (hw : w.runId = run.runId)
    (hstatus : w.status = .completeSuccess) : Completed run (s.writeStatus w) := by
  obtain ⟨row, hrow⟩ := Option.isSome_iff_exists.1 hrow
  unfold Completed State.status
  rw [row_writeStatus hw, hrow, Option.map_some, Option.map_some, StatusWrite.update_statusCode,
    hstatus]

/-! ## What an `exec` does -/

/-- **What an `exec` comes to**: it gets to `insert_spark` or does not, and
that returns or fails. -/
theorem exec_cases (run : TaskRun SparkTask) (s : State) (attempt : ℕ) (p : Post) :
    (∃ (e : ApiError) (t : Session SparkTables SparkSequences ApiError), s.exec run attempt p =
      (⟨s.taskRuns, t.tables, t.sequences, s.inserts, s.created⟩, .error e)) ∨
    ∃ call, run.task.Prepared p.fired (s.session p) call.session call.spark ∧
      ((∃ e t, call.result run = .error e t ∧ s.exec run attempt p =
        (⟨s.taskRuns, t.tables, t.sequences, s.inserts ++ [call],
          s.created ++ t.tables.sparks.drop call.session.tables.sparks.length⟩, .error e)) ∨
      ∃ u t, call.result run = .ok u t ∧ s.exec run attempt p =
        (⟨s.taskRuns, t.tables, t.sequences, s.inserts ++ [call],
          s.created ++ t.tables.sparks.drop call.session.tables.sparks.length⟩, .ok ())) := by
  unfold State.exec State.executed insertCall
  cases hprepare : run.task.prepare run.runId attempt p.fired (s.session p) with
  | error e t =>
    have hexec : run.task.exec run.runId attempt p.fired (s.session p) = .error e t := by
      rw [SparkTask.exec_eq_bind]
      exact Sql.bind_eq_error.2 (Or.inl hprepare)
    have hsparks := SparkTask.frames_prepare.of_error _ _ _ hprepare
    refine Or.inl ⟨e, t, ?_⟩
    rw [hexec]
    dsimp only
    rw [hsparks, show (s.session p).tables = s.tables from rfl, List.drop_length,
      Option.toList_none, List.append_nil, List.append_nil]
  | ok prepared t =>
    have hprepared := SparkTask.prepare_eq_ok hprepare
    have hsparks : t.tables.sparks = s.tables.sparks := by
      rw [hprepared.tables]
      rfl
    refine Or.inr ⟨⟨prepared.1, prepared.2, t⟩, hprepared, ?_⟩
    cases hresult : InsertCall.result run ⟨prepared.1, prepared.2, t⟩ with
    | error e t' =>
      have hexec : run.task.exec run.runId attempt p.fired (s.session p) = .error e t' := by
        rw [SparkTask.exec_eq_bind]
        exact Sql.bind_eq_error.2 (Or.inr ⟨prepared, t, hprepare, hresult⟩)
      refine Or.inl ⟨e, t', rfl, ?_⟩
      rw [hexec]
      dsimp only
      rw [hsparks]
      rfl
    | ok u t' =>
      have hexec : run.task.exec run.runId attempt p.fired (s.session p) = .ok u t' := by
        rw [SparkTask.exec_eq_bind]
        exact Sql.bind_eq_ok.2 ⟨prepared, t, hprepare, hresult⟩
      refine Or.inr ⟨u, t', rfl, ?_⟩
      rw [hexec]
      dsimp only
      rw [hsparks]
      rfl

/-! ## Safe attempts store once -/

/-- What a run of safe attempts keeps: once a spark is stored, the run is
completed. -/
structure Inv (run : TaskRun SparkTask) (s : State) : Prop where
  storesOnce : StoresOnce run s
  settled : s.created = [] ∨ Completed run s

/-- **A call that is logged stored nothing**, or is the one that stored the
spark. -/
theorem StoresOnce.insert {taskRuns : List TaskRunModel}
    {t : Session SparkTables SparkSequences ApiError} (hi : StoresOnce run s)
    (hempty : s.created = [])
    (hresult : (∃ e, call.result run = .error e t) ∨ ∃ u, call.result run = .ok u t)
    (hgranted : Opens call.session → Granted run.task.captureIds call.spark call.session) :
    StoresOnce run ⟨taskRuns, t.tables, t.sequences, s.inserts ++ [call],
      s.created ++ t.tables.sparks.drop call.session.tables.sparks.length⟩ ∧
    ((∃ e, call.result run = .error e t) →
      t.tables.sparks.drop call.session.tables.sparks.length = []) := by
  -- a failed insertion is rolled back, or was granted and does not fail
  have hsame : ∀ e t', call.result run = .error e t' →
      SameSparks call.session.tables t'.tables := by
    refine leaves_nothing_iff.2 ?_
    by_cases hopens : Opens call.session
    · exact Or.inr (hgranted hopens)
    · exact Or.inl hopens
  have hfailed : ∀ c ∈ s.inserts ++ [call], ∀ e t', c.result run = .error e t' →
      SameSparks c.session.tables t'.tables := by
    intro c hc e t' he
    rcases List.mem_append.1 hc with hc | hc
    · exact hi.failed c hc e t' he
    · rw [List.mem_singleton.1 hc] at he ⊢
      exact hsame e t' he
  rw [hempty, List.nil_append]
  rcases hresult with ⟨e, he⟩ | ⟨u, hu⟩
  · have hnone : t.tables.sparks.drop call.session.tables.sparks.length = [] := by
      rw [(hsame e t he).sparks, List.drop_length]
    refine ⟨⟨hfailed, ?_, ?_⟩, fun _ => hnone⟩
    · rw [hnone]
      exact Nat.zero_le 1
    · rw [hnone]
      exact fun row hrow => absurd hrow List.not_mem_nil
  · obtain ⟨row, inputs, clusters, hstored, -⟩ := sparkStored_of_ok hu
    have hone : t.tables.sparks.drop call.session.tables.sparks.length = [row] := by
      rw [hstored.tables]
      exact List.drop_left
    refine ⟨⟨hfailed, ?_, ?_⟩, ?_⟩
    · rw [hone]
      exact le_refl 1
    · rw [hone]
      intro r hr
      rw [List.mem_singleton.1 hr]
      exact ⟨call, List.mem_append_right _ (List.mem_singleton_self call), u, t, inputs, clusters,
        hu, hstored⟩
    · rintro ⟨e, he⟩
      rw [hu] at he
      cases he

/-- The insert finds what was ahead. -/
theorem opens_ahead {t : Session SparkTables SparkSequences ApiError} {spark : SparkResponse}
    (h : run.task.Prepared p.fired (s.session p) t spark) :
    (Opens t → Opens (ahead s p)) ∧
      (Granted run.task.captureIds spark (ahead s p) → Granted run.task.captureIds spark t) := by
  constructor
  · rintro ⟨hfault, hkey⟩
    rw [h.faults] at hfault
    rw [h.sequences] at hkey
    exact ⟨hfault, hkey⟩
  · intro hgranted
    refine hgranted.congr ?_ ?_ h.faults
    · rw [h.tables]
      rfl
    · rw [h.sequences]
      funext k
      cases k <;> rfl

/-- `finish_attempt` keeps it: a spark that is stored is written down. -/
theorem Inv.finish {result : Except ApiError Unit} (hi : StoresOnce run s)
    (hstored : s.created = [] ∨
      result = .ok () ∧ p.finishRefused = none ∧ (s.row run).isSome) :
    Inv run (s.finish m run attempt p result).1 := by
  unfold State.finish
  rcases hstored with hempty | ⟨rfl, hrefused, hrow⟩
  · split
    · exact ⟨hi, Or.inl hempty⟩
    · exact ⟨⟨hi.failed, hi.once, hi.complete⟩, Or.inl hempty⟩
  · rw [hrefused]
    exact ⟨⟨hi.failed, hi.once, hi.complete⟩, Or.inr (completed_writeStatus hrow rfl rfl)⟩

/-- An `exec` that gets to the insert was reached. -/
theorem reaches_of_prepared {spark : SparkResponse}
    {t : Session SparkTables SparkSequences ApiError}
    (h : run.task.Prepared p.fired (s.session p) t spark) (hreject : WebhookTask.reject run.task = none)
    (hread : p.readRefused = none) (hattempt : decideNextAttempt (s.row run) = some attempt)
    (hbegin : p.beginRefused = none) : Reaches run s p spark where
  begins := ⟨hread, Option.isSome_iff_exists.2 ⟨attempt, hattempt⟩, hbegin⟩
  selects := h.selects
  input hempty := by
    have hnone : (if run.task.captureIds.isEmpty then some (ApiError.badRequest
        "capture_ids must contain at least one capture ID") else none) = none := hreject
    rw [hempty] at hnone
    cases hnone
  found := h.found
  owned := h.owned
  answered := h.answered

/-- **A safe delivery keeps it.** -/
theorem Inv.post (hi : Inv run s) (hsafe : Safe run s (.post p) s') :
    Inv run (s.post m run p).1 := by
  unfold State.post
  cases hreject : WebhookTask.reject run.task with
  | some e => exact hi
  | none =>
    cases hread : p.readRefused with
    | some e => exact hi
    | none =>
      cases hattempt : decideNextAttempt (s.row run) with
      | none => exact hi
      | some attempt =>
        cases hbegin : p.beginRefused with
        | some e => exact hi
        | none =>
          -- an attempt is granted only before a success, so nothing has been stored
          have hempty : s.created = [] := by
            rcases hi.settled with hempty | hcompleted
            · exact hempty
            · rw [decideNextAttempt_of_completed hcompleted] at hattempt
              cases hattempt
          generalize hbegun : s.writeStatus (markInProgress run attempt p.beginNow) = begun
          have hkept : StoresOnce run begun ∧ begun.created = [] := by
            rw [← hbegun]
            exact ⟨⟨hi.storesOnce.failed, hi.storesOnce.once, hi.storesOnce.complete⟩, hempty⟩
          rcases exec_cases run begun attempt p with ⟨e, t, hexec⟩ | ⟨call, hprepared, hcall⟩
          · dsimp only
            rw [hbegun, hexec]
            exact Inv.finish ⟨hkept.1.failed, hkept.1.once, hkept.1.complete⟩ (Or.inl hkept.2)
          · -- beginning the attempt writes no table of the sparks
            have hsession : begun.session p = s.session p := by
              rw [← hbegun]
              rfl
            rw [hsession] at hprepared
            have hgranted : Opens call.session →
                Granted run.task.captureIds call.spark call.session ∧
                  p.finishRefused = none ∧ (s.row run).isSome := by
              intro hopens
              obtain ⟨hahead, hback⟩ := opens_ahead hprepared
              obtain ⟨hgranted, hwritten⟩ := hsafe call.spark
                (reaches_of_prepared hprepared hreject hread hattempt hbegin) (hahead hopens)
              exact ⟨hback hgranted, hwritten⟩
            rcases hcall with ⟨e, t, hresult, hexec⟩ | ⟨u, t, hresult, hexec⟩
            · obtain ⟨hstores, hnone⟩ := hkept.1.insert hkept.2 (Or.inl ⟨e, hresult⟩)
                (fun hopens => (hgranted hopens).1)
              dsimp only
              rw [hbegun, hexec]
              refine Inv.finish hstores (Or.inl ?_)
              dsimp only
              rw [hnone ⟨e, hresult⟩, hkept.2, List.append_nil]
            · obtain ⟨hstores, -⟩ := hkept.1.insert hkept.2 (Or.inr ⟨u, hresult⟩)
                (fun hopens => (hgranted hopens).1)
              obtain ⟨-, hrefused, hrow⟩ := hgranted (opens_of_ok hresult)
              dsimp only
              rw [hbegun, hexec]
              refine Inv.finish hstores (Or.inr ⟨rfl, hrefused, ?_⟩)
              show (begun.row run).isSome = true
              rw [← hbegun, row_writeStatus rfl, Option.isSome_map]
              exact hrow

theorem Inv.step {e : Event} (hi : Inv run s) (h : (system m run).step s e = some s')
    (hsafe : Safe run s e s') : Inv run s' := by
  cases e with
  | post p =>
    cases h
    exact hi.post hsafe
  | others taskRuns tables sequences =>
    simp only [system, SparkRun.step] at h
    split_ifs at h with hstatus
    cases h
    exact ⟨⟨hi.storesOnce.failed, hi.storesOnce.once, hi.storesOnce.complete⟩,
      hi.settled.imp_right hstatus.trans⟩

/-- **A spark run stores one complete spark at most**, in a run of safe
attempts: an insert that fails leaves no rows, and the one row of `sparks`
is there with all of its response. -/
theorem stores_once (m : TaskMaster) (run : TaskRun SparkTask) (taskRuns : List TaskRunModel)
    (tables : SparkTables) (sequences : SparkSequences) (es : List Event) (s : State)
    (hrun : (system m run).run (start taskRuns tables sequences) es = some s)
    (hsafe : (system m run).Along (Safe run) (start taskRuns tables sequences) es) :
    StoresOnce run s := by
  have hstart : Inv run (start taskRuns tables sequences) :=
    ⟨⟨fun _ hcall => absurd hcall List.not_mem_nil, Nat.zero_le 1,
      fun _ hrow => absurd hrow List.not_mem_nil⟩, Or.inl rfl⟩
  exact (System.run_inv_along (fun _ _ _ hi hstep hsafe => Inv.step hi hstep hsafe) hstart hrun
    hsafe).storesOnce

/-! ## A response about a capture that is not there -/

/-- The run of spark 5, about capture 1 of user 7. -/
def sparkRun : TaskRun SparkTask := TaskRun.new ⟨5, 7, [1]⟩ 1 "run-1"

/-- It is queued, and nothing is stored. -/
def queued : State :=
  start [queuedRow sparkRun 0] SparkTask.twoUsers.tables SparkTask.twoUsers.sequences

/-- A delivery of which no statement is refused, where the response is about
this capture. -/
def delivery (captureId : ℤ) : Post :=
  ⟨none, none, 1, SparkTask.about captureId, [], none, 2⟩

/-- One delivery, about the capture of the run. -/
def oneDelivery : List Event := [.post (delivery 1)]

theorem stores_once_delivered : ∃ s, (system ⟨3, false⟩ sparkRun).run queued oneDelivery = some s ∧
    StoresOnce sparkRun s := by
  refine ⟨_, rfl, stores_once ⟨3, false⟩ sparkRun [queuedRow sparkRun 0]
    SparkTask.twoUsers.tables SparkTask.twoUsers.sequences oneDelivery _ rfl ?_⟩
  intro s₁ h₁
  refine ⟨?_, trivial⟩
  rintro spark hreaches -
  obtain ⟨status, hstatus⟩ := hreaches.answered
  cases hstatus
  refine ⟨⟨⟨?_, ?_⟩, ?_, ?_⟩, rfl, rfl⟩
  · intro k _
    rfl
  · intro k
    right
    cases k <;> decide
  · intro captureId hcapture
    rw [List.mem_singleton.1 hcapture]
    exact ⟨_, List.mem_cons_self, rfl⟩
  · intro cluster hcluster captureId hcapture
    rw [List.mem_singleton.1 hcluster] at hcapture
    rw [List.mem_singleton.1 hcapture]
    exact ⟨_, List.mem_cons_self, rfl⟩

/-- **A failed insert leaves its rows, and the retry stores another spark**:
the first response refers to a capture that is not there. -/
theorem stored_twice : ∃ s, (system ⟨3, false⟩ sparkRun).run queued
      [.post (delivery 9), .post (delivery 1)] = some s ∧
    s.tables.sparks.map SparkModel.id = [1, 2] ∧ s.created.length = 2 ∧
    s.tables.sparkClusters.map SparkClusterModel.sparkId = [1, 2] ∧
    s.tables.sparkOutputRefs.map SparkOutputRefModel.sparkId = [2] ∧
    ¬ StoresOnce sparkRun s :=
  ⟨_, rfl, by decide +kernel, by decide +kernel, by decide +kernel, by decide +kernel,
    fun h => absurd h.once (by decide +kernel)⟩

end SparkRun

end Dreamscroll
