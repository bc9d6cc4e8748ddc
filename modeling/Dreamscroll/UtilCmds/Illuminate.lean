import Dreamscroll.Logic.RawResults
/-!
# The `illuminate` command

The command submits an illumination, polls its run until it is settled or a
deadline, and prints the result. Time is explicit: a poll takes as long as
its request, and a timer fires when it is due.

The wait ends by its deadline whatever the answers are (`wait_returns`), and
soon after the run is settled if the server keeps answering
(`wait_settled`). Once it has seen the run succeed, the result is there and
is rendered (`illuminate_prints`).
-/

namespace Dreamscroll

/-- User-visible status of one task run. -/
structure TaskRunInfo where
  logicalId : String
  runId : String
  runNumber : ℕ
  taskType : String
  entityType : String
  entityId : ℤ
  status : TaskRunStatus
  attempts : ℕ
  errorCode : Option ℤ
  errorMessage : Option String
  createdAt : Timestamp
  updatedAt : Timestamp

/-- `TryFrom<task_run::Model>`. -/
def TaskRunInfo.tryFrom (row : TaskRunModel) : Except String TaskRunInfo :=
  match TaskRunStatus.fromI32 row.statusCode with
  | .error message => .error message
  | .ok status => .ok {
      logicalId := row.logicalId
      runId := row.runId
      runNumber := row.runNumber
      taskType := row.taskType
      entityType := row.entityType
      entityId := row.entityId
      status := status
      attempts := row.attempts
      errorCode := row.lastErrorCode
      errorMessage := row.lastErrorMessage
      createdAt := row.createdAt
      updatedAt := row.updatedAt }

/-- `get_task_run`, for a user. -/
def getTaskRun (rows : List TaskRunModel) (userId : ℤ) (runId : String) :
    Except ApiError TaskRunInfo :=
  match queryRunById rows runId (some userId) with
  | none => .error (ApiError.notFound "Task run not found")
  | some row =>
    match TaskRunInfo.tryFrom row with
    | .ok info => .ok info
    | .error message => .error (ApiError.internal message)

namespace IlluminateCmd

/-! ## Waiting -/

/-- `is_settled`: nothing more happens to the run by itself. -/
def isSettled : TaskRunStatus → Bool
  | .submissionFailed | .completeSuccess | .completeFailure => true
  | .queued | .inProgress | .errorWillRetry => false

/-- A status request: how long its answer takes, and the answer. -/
structure Poll where
  took : ℕ
  answer : Except String TaskRunInfo

/-- The end of a wait: the number of requests answered or given up before
the last, the time and the result. -/
structure Waited where
  polls : ℕ
  now : ℕ
  result : Except String TaskRunInfo

variable (deadline pollInterval : ℕ) (fetchStatus : ℕ → Poll)

/-- **The loop of `wait_for_task_run_with`**, at its request number `polls`. -/
def waitLoop : ℕ → ℕ → ℕ → Option Waited
  | 0, _, _ => none
  | fuel + 1, polls, now =>
    let remaining := deadline - now
    let poll := fetchStatus polls
    if remaining < poll.took then
      some ⟨polls, deadline, .error "timed out waiting to fetch task-run status"⟩
    else
      let now := now + poll.took
      match poll.answer with
      | .error message => some ⟨polls, now, .error message⟩
      | .ok status =>
        if isSettled status.status || deadline ≤ now then some ⟨polls, now, .ok status⟩
        else
          let remaining := deadline - now
          if remaining = 0 then some ⟨polls, now, .ok status⟩
          else waitLoop fuel (polls + 1) (now + min pollInterval remaining)

/-- `wait_for_task_run_with`. The clock counts up to `maxInstant`. -/
def waitForTaskRunWith (maxInstant start timeout fuel : ℕ) : Option Waited :=
  if maxInstant < start + timeout then some ⟨0, start, .error "wait timeout is too large"⟩
  else waitLoop (start + timeout) pollInterval fetchStatus fuel 0 start

/-- When a request is sent, in a wait that gets so far. -/
def sentAt (start : ℕ) : ℕ → ℕ
  | 0 => start
  | k + 1 =>
    let now := sentAt start k + (fetchStatus k).took
    now + min pollInterval (deadline - now)

/-! ## How a wait ends -/

variable {deadline pollInterval : ℕ} {fetchStatus : ℕ → Poll} {start k now fuel : ℕ}
variable {timeout maxInstant : ℕ}

/-- The request is answered before the deadline, with a run that is not
settled. -/
def Passed (deadline pollInterval : ℕ) (fetchStatus : ℕ → Poll) (start j : ℕ) : Prop :=
  sentAt deadline pollInterval fetchStatus start j + (fetchStatus j).took < deadline ∧
    ∃ status, (fetchStatus j).answer = .ok status ∧ isSettled status.status = false

/-- **How a wait ends**, after its last request. -/
inductive Ended (deadline pollInterval : ℕ) (fetchStatus : ℕ → Poll) (start : ℕ) : Waited → Prop
  | timedOut {k : ℕ} :
      deadline < sentAt deadline pollInterval fetchStatus start k + (fetchStatus k).took →
      Ended deadline pollInterval fetchStatus start
        ⟨k, deadline, .error "timed out waiting to fetch task-run status"⟩
  | failed {k now : ℕ} {message : String} : now ≤ deadline →
      now = sentAt deadline pollInterval fetchStatus start k + (fetchStatus k).took →
      (fetchStatus k).answer = .error message →
      Ended deadline pollInterval fetchStatus start ⟨k, now, .error message⟩
  | answered {k now : ℕ} {status : TaskRunInfo} : now ≤ deadline →
      now = sentAt deadline pollInterval fetchStatus start k + (fetchStatus k).took →
      (fetchStatus k).answer = .ok status → isSettled status.status = true ∨ now = deadline →
      Ended deadline pollInterval fetchStatus start ⟨k, now, .ok status⟩

/-- **The loop ends**, every round later than the one before it. -/
theorem waitLoop_ends (fetchStatus : ℕ → Poll) (start : ℕ) (hpoll : 0 < pollInterval)
    (hnow : now = sentAt deadline pollInterval fetchStatus start k) (hle : now ≤ deadline)
    (hfuel : deadline - now < fuel)
    (hpassed : ∀ j < k, Passed deadline pollInterval fetchStatus start j) :
    ∃ w, waitLoop deadline pollInterval fetchStatus fuel k now = some w ∧
      Ended deadline pollInterval fetchStatus start w ∧
      ∀ j < w.polls, Passed deadline pollInterval fetchStatus start j := by
  induction fuel generalizing k now with
  | zero => omega
  | succ fuel ih =>
    unfold waitLoop
    dsimp only
    by_cases hlate : deadline - now < (fetchStatus k).took
    · rw [if_pos hlate]
      exact ⟨_, rfl, .timedOut (by omega), hpassed⟩
    · rw [if_neg hlate]
      cases hanswer : (fetchStatus k).answer with
      | error message => exact ⟨_, rfl, .failed (by omega) (by rw [hnow]) hanswer, hpassed⟩
      | ok status =>
        by_cases hdone : (isSettled status.status || deadline ≤ now + (fetchStatus k).took) = true
        · refine ⟨_, if_pos hdone, .answered (by omega) (by rw [hnow]) hanswer ?_, hpassed⟩
          rcases Bool.or_eq_true_iff.1 hdone with hsettled | hdeadline
          · exact Or.inl hsettled
          · exact Or.inr (by have := of_decide_eq_true hdeadline; omega)
        · simp only [Bool.or_eq_true, decide_eq_true_eq, not_or] at hdone
          obtain ⟨hunsettled, hearly⟩ := hdone
          have hpass : Passed deadline pollInterval fetchStatus start k :=
            ⟨by omega, status, hanswer, by simpa using hunsettled⟩
          dsimp only
          rw [if_neg (by simp [hunsettled, hearly]), if_neg (by omega)]
          refine ih (k := k + 1) ?_ (by omega) (by omega) fun j hj => ?_
          · rw [sentAt, hnow]
          · rcases Nat.lt_succ_iff_lt_or_eq.1 hj with hj | rfl
            · exact hpassed j hj
            · exact hpass

/-- A request that is not the last is sent a poll interval after the one
before it at least. -/
theorem le_sentAt (hpassed : ∀ j < k, Passed deadline pollInterval fetchStatus start j) :
    sentAt deadline pollInterval fetchStatus start k = deadline ∨
      start + k * pollInterval ≤ sentAt deadline pollInterval fetchStatus start k := by
  induction k with
  | zero => exact Or.inr (by simp [sentAt])
  | succ k ih =>
    obtain ⟨hearly, -⟩ := hpassed k (Nat.lt_succ_self k)
    rw [sentAt]
    rcases ih fun j hj => hpassed j (Nat.lt_succ_of_lt hj) with hdeadline | hsent
    · omega
    · rw [Nat.succ_mul]
      omega

/-- The wait is the loop, if its deadline is a time at all. -/
theorem wait_ends (fetchStatus : ℕ → Poll) (hpoll : 0 < pollInterval) (hfuel : timeout < fuel)
    (hmax : start + timeout ≤ maxInstant) :
    ∃ w, waitForTaskRunWith pollInterval fetchStatus maxInstant start timeout fuel = some w ∧
      Ended (start + timeout) pollInterval fetchStatus start w ∧
      ∀ j < w.polls, Passed (start + timeout) pollInterval fetchStatus start j := by
  have hnone : ∀ j < 0, Passed (start + timeout) pollInterval fetchStatus start j :=
    fun _ hj => absurd hj (Nat.not_lt_zero _)
  rw [waitForTaskRunWith, if_neg (by omega)]
  exact waitLoop_ends fetchStatus start hpoll rfl (Nat.le_add_right _ timeout)
    (show start + timeout - start < fuel by omega) hnone

/-- **A wait ends by its deadline**, however late or wrong the answers are:
with the last answer if the run is settled or the time is up, with its error,
or because the answer does not come. -/
theorem wait_returns (fetchStatus : ℕ → Poll) (hpoll : 0 < pollInterval) (hfuel : timeout < fuel)
    (hmax : start + timeout ≤ maxInstant) :
    ∃ w, waitForTaskRunWith pollInterval fetchStatus maxInstant start timeout fuel = some w ∧
      Ended (start + timeout) pollInterval fetchStatus start w ∧
      w.now ≤ start + timeout ∧ (w.polls - 1) * pollInterval ≤ timeout ∧
      ∀ j < w.polls, Passed (start + timeout) pollInterval fetchStatus start j := by
  obtain ⟨w, hw, hended, hpassed⟩ := wait_ends fetchStatus hpoll hfuel hmax
  refine ⟨w, hw, hended, ?_, ?_, hpassed⟩
  · cases hended with
    | timedOut => exact le_rfl
    | failed hle => exact hle
    | answered hle => exact hle
  · cases hk : w.polls with
    | zero => simp
    | succ k =>
      have hlast := (hpassed k (by omega)).1
      have hsent := le_sentAt fun j (hj : j < k) => hpassed j (by omega)
      rw [Nat.add_sub_cancel]
      omega

/-- **A run that is settled is seen to be**, within two requests and a poll
interval, if every request is answered and that is before the deadline. -/
theorem wait_settled (settledAt longest : ℕ) (hpoll : 0 < pollInterval) (hfuel : timeout < fuel)
    (hmax : start + timeout ≤ maxInstant) (hlongest : ∀ k, (fetchStatus k).took ≤ longest)
    (hanswers : ∀ k, ∃ status, (fetchStatus k).answer = .ok status ∧
      (settledAt ≤ sentAt (start + timeout) pollInterval fetchStatus start k →
        isSettled status.status = true))
    (hearly : max start settledAt + 2 * longest + pollInterval < start + timeout) :
    ∃ polls now status,
      waitForTaskRunWith pollInterval fetchStatus maxInstant start timeout fuel =
        some ⟨polls, now, .ok status⟩ ∧ isSettled status.status = true ∧
      now ≤ max start settledAt + 2 * longest + pollInterval := by
  obtain ⟨w, hw, hended, hpassed⟩ := wait_ends fetchStatus hpoll hfuel hmax
  have hsent : sentAt (start + timeout) pollInterval fetchStatus start w.polls ≤
      max start settledAt + longest + pollInterval := by
    cases hk : w.polls with
    | zero => simp only [sentAt]; omega
    | succ k =>
      -- the request before the last was not answered that the run is settled
      obtain ⟨-, status, hstatus, hunsettled⟩ := hpassed k (by omega)
      obtain ⟨status', hstatus', hsettled⟩ := hanswers k
      cases hstatus.symm.trans hstatus'
      have hbefore : sentAt (start + timeout) pollInterval fetchStatus start k < settledAt := by
        by_contra hle
        rw [hsettled (Nat.le_of_not_lt hle)] at hunsettled
        cases hunsettled
      have htook := hlongest k
      rw [sentAt]
      omega
  have htook := hlongest w.polls
  cases hended with
  | timedOut hlate => dsimp only at hsent htook; omega
  | @failed k now message _ _ hanswer =>
    obtain ⟨status, hstatus, -⟩ := hanswers k
    rw [hstatus] at hanswer
    cases hanswer
  | @answered k now status _ hnow hanswer hdone =>
    dsimp only at hsent htook
    refine ⟨k, now, status, hw, ?_, by omega⟩
    rcases hdone with hsettled | hdeadline
    · exact hsettled
    · omega

/-- A run that is queued until it succeeds, and answers that take a second. -/
def successAfter (polls : ℕ) (k : ℕ) : Poll where
  took := 1
  answer := .ok {
    logicalId := "u1-illuminate-capture7"
    runId := "run-1"
    runNumber := 1
    taskType := "illuminate"
    entityType := "capture"
    entityId := 7
    status := if k < polls then .queued else .completeSuccess
    attempts := 0
    errorCode := none
    errorMessage := none
    createdAt := 0
    updatedAt := 0 }

/-- The run is not settled in time, and its last request not answered: there
is no time left for one. -/
theorem wait_returns_late :
    ∃ w, waitForTaskRunWith 2 (successAfter 9) 100 0 5 6 = some w ∧
      Ended 5 2 (successAfter 9) 0 w ∧ w.now ≤ 5 ∧ (w.polls - 1) * 2 ≤ 5 ∧
      ∀ j < w.polls, Passed 5 2 (successAfter 9) 0 j :=
  wait_returns _ (by decide) (by decide) (by decide)

theorem wait_settled_second :
    ∃ polls now status, waitForTaskRunWith 2 (successAfter 1) 100 0 9 10 =
      some ⟨polls, now, .ok status⟩ ∧ isSettled status.status = true ∧ now ≤ max 0 3 + 2 * 1 + 2 := by
  refine wait_settled 3 1 (by decide) (by decide) (by decide) (fun k => le_rfl)
    (fun k => ⟨_, rfl, fun hsent => ?_⟩) (by decide)
  cases k with
  | zero => exact absurd hsent (by decide)
  | succ k => rfl

/-! ## Printing the result -/

/-- `Display for TaskRunStatus`. -/
def displayStatus (status : TaskRunStatus) : String :=
  let name := match status with
    | .submissionFailed => "SubmissionFailed"
    | .queued => "Queued"
    | .inProgress => "InProgress"
    | .errorWillRetry => "ErrorWillRetry"
    | .completeSuccess => "CompleteSuccess"
    | .completeFailure => "CompleteFailure"
  name ++ "(" ++ toString status.asI32 ++ ")"

/-- `ensure_successful_run`. -/
def ensureSuccessfulRun (runInfo : TaskRunInfo) : Except String Unit :=
  let run := "illumination TaskRun " ++ runInfo.runId ++ " (logical ID " ++ runInfo.logicalId ++
    ", run number " ++ toString runInfo.runNumber ++ ")"
  match runInfo.status with
  | .completeSuccess => .ok ()
  | .submissionFailed | .completeFailure => .error (run ++ " ended with status " ++
      displayStatus runInfo.status ++ " after " ++ toString runInfo.attempts ++ " attempt(s)")
  | .queued | .inProgress | .errorWillRetry => .error ("timed out waiting for " ++ run ++
      "; latest status " ++ displayStatus runInfo.status ++ " after " ++
      toString runInfo.attempts ++ " attempt(s)")

/-- What the command prints. -/
inductive Printed
  | rawJson (raw : Json)
  | markdown (text : String)

/-- **`run`, from the end of its wait on**, with the answer its request for
the raw result gets. -/
def finish (waited : Except String TaskRunInfo) (raw : Except String Json)
    (promptVersion : IlluminationVersion) (rawJson : Bool) : Except String Printed := do
  let taskRunInfo ← waited
  ensureSuccessfulRun taskRunInfo
  let raw ← raw
  if rawJson then return .rawJson raw
  let markdown ← renderIllumination promptVersion raw
  return .markdown markdown

theorem ensureSuccessfulRun_eq_ok {info : TaskRunInfo} :
    ensureSuccessfulRun info = .ok () ↔ info.status = .completeSuccess := by
  unfold ensureSuccessfulRun
  cases info.status <;> simp

theorem finish_rawJson {info : TaskRunInfo} {raw : Json} {promptVersion : IlluminationVersion}
    (h : ensureSuccessfulRun info = .ok ()) :
    finish (.ok info) (.ok raw) promptVersion true = .ok (.rawJson raw) := by
  simp [finish, h, bind, Except.bind, pure, Except.pure]

theorem finish_markdown {info : TaskRunInfo} {raw : Json} {promptVersion : IlluminationVersion}
    {text : String} (h : ensureSuccessfulRun info = .ok ())
    (hrender : renderIllumination promptVersion raw = .ok text) :
    finish (.ok info) (.ok raw) promptVersion false = .ok (.markdown text) := by
  simp [finish, h, hrender, bind, Except.bind, pure, Except.pure]

/-! ## What the command sees of the pipeline -/

variable {captures : List Capture} {medias : ℤ → List ℤ} {textOf : Json → String}
variable {m : TaskMaster} {s : RawState} {c : ℕ} {run : TaskRun AnyTask}

/-- **A run that was handed over is found by its owner.** -/
theorem getTaskRun_of_handed (hi : RawInv captures m s) (hh : (c, run) ∈ s.work.tasks.handed) :
    ∃ row ∈ s.work.tasks.rows, row.identity = run.identity ∧ ∃ info,
      TaskRunInfo.tryFrom row = .ok info ∧ info.runId = run.runId ∧
      getTaskRun s.work.tasks.rows (Task.entityOwnerId run.task) run.runId = .ok info := by
  have hreach := hi.body.reaches
  obtain ⟨evs, hevs⟩ := hi.body.reaches
  obtain ⟨row, hr, hid⟩ := TaskMaster.row_of_hand hevs hh
  have hrunId : row.runId = run.runId := congrArg RunIdentity.runId hid
  have howner : row.entityOwnerId = Task.entityOwnerId run.task :=
    congrArg RunIdentity.entityOwnerId hid
  obtain ⟨st, hst⟩ := hreach.hasStatus hr
  have hfrom : TaskRunStatus.fromI32 row.statusCode = .ok st := by
    rw [hst, TaskRunStatus.fromI32_asI32]
  have hquery : queryRunById s.work.tasks.rows run.runId (some (Task.entityOwnerId run.task)) =
      some row := by
    have hall : ∀ r ∈ s.work.tasks.rows, (decide (r.runId = run.runId) &&
        (some (Task.entityOwnerId run.task)).all (· = r.entityOwnerId)) =
        decide (r.runId = row.runId) := by
      intro r hr'
      by_cases heq : r.runId = run.runId
      · have hrr := hreach.tableInv.unique.eq_of_runId hr' hr (heq.trans hrunId.symm)
        simp [hrr, hrunId, howner]
      · simp [heq, hrunId]
    rw [queryRunById, ← List.head?_filter, List.filter_congr hall, List.head?_filter]
    exact TaskMaster.find?_runId hreach.tableInv.unique hr
  refine ⟨row, hr, hid, _, by rw [TaskRunInfo.tryFrom, hfrom], hrunId, ?_⟩
  rw [getTaskRun, hquery]
  dsimp only
  rw [TaskRunInfo.tryFrom, hfrom]

/-- **What the command sees of its run**: every request finds it, and once
one has seen it succeed the result is there for good, to be printed either
way. -/
structure Prints (states : ℕ → RawState) (fetchStatus : ℕ → Poll) (userId : ℤ) (runId : String)
    (promptVersion : IlluminationVersion) : Prop where
  found : ∀ k, ∃ info, getTaskRun (states k).work.tasks.rows userId runId = .ok info ∧
    info.runId = runId
  prints : ∀ (k j : ℕ) (info : TaskRunInfo), k ≤ j → (fetchStatus k).answer = .ok info →
    ensureSuccessfulRun info = .ok () → ∃ content,
      getIlluminationRaw (states j).raws userId runId = .ok content ∧
      ∀ rawJson, ∃ printed, finish (.ok info) (.ok content) promptVersion rawJson = .ok printed

/-- **The command prints what the run has stored.** The requests are
answered in successive states of any run of the pipeline. -/
theorem illuminate_prints (hids : (captures.map Capture.id).Nodup) (states : ℕ → RawState)
    (events : ℕ → List RawEv) (es : List RawEv) (call : Call AnyTask) (t : IlluminationTask)
    (runId : String) (runNumber : ℕ)
    (hstart : (rawPipeline captures medias textOf m).run .start es = some (states 0))
    (hnext : ∀ k, (rawPipeline captures medias textOf m).run (states k) (events k) =
      some (states (k + 1)))
    (hcall : (states 0).work.tasks.calls[c]? = some call) (htask : call.task = .illuminate t)
    (hpc : call.pc = .returned (.ok (.enqueued runId runNumber)))
    (hfetch : ∀ k info, (fetchStatus k).answer = .ok info →
      getTaskRun (states k).work.tasks.rows t.entityOwnerId runId = .ok info) :
    Prints states fetchStatus t.entityOwnerId runId t.promptVersion := by
  have hinv : ∀ k, RawInv captures m (states k) := by
    intro k
    induction k with
    | zero => exact rawInv_of_run rawInv_start hstart
    | succ k ih => exact rawInv_of_run ih (hnext k)
  -- the run the submission answered with, which was handed over
  obtain ⟨run, hh, rfl, ht⟩ := (hinv 0).body.reaches.answerInv.returned c call runId _ hcall hpc
  rw [htask] at ht
  have hhanded : ∀ k, (c, run) ∈ (states k).work.tasks.handed := by
    intro k
    induction k with
    | zero => exact hh
    | succ k ih =>
      refine System.run_inv (I := fun s : RawState => (c, run) ∈ s.work.tasks.handed) ?_ ih
        (hnext k)
      intro s e s' hs hstep
      exact handed_of_rawMove (rawMove_of_step hstep) hs
  have howner : Task.entityOwnerId run.task = t.entityOwnerId := by
    rw [ht]
    rfl
  refine ⟨fun k => ?_, fun k j info hkj hanswer hensure => ?_⟩
  · obtain ⟨row, -, -, info, -, hid, hget⟩ := getTaskRun_of_handed (hinv k) (hhanded k)
    exact ⟨info, howner ▸ hget, hid⟩
  · obtain ⟨row, hr, hid, info', hfrom, -, hget⟩ := getTaskRun_of_handed (hinv k) (hhanded k)
    have hsame : info' = info := by
      rw [howner, hfetch k info hanswer] at hget
      exact (Except.ok.inj hget).symm
    subst hsame
    -- the status the poll was given is the one of the row
    have hsuccess : row.HasStatus .completeSuccess := by
      have hstatus := ensureSuccessfulRun_eq_ok.1 hensure
      unfold TaskRunInfo.tryFrom at hfrom
      split at hfrom
      · cases hfrom
      · rename_i status hcode
        cases hfrom
        rw [← hstatus]
        exact (TaskRunStatus.fromI32_eq_ok.1 hcode).symm
    have htype : row.taskType = "illuminate" := by
      rw [show row.taskType = Task.taskType run.task from congrArg RunIdentity.taskType hid, ht]
      rfl
    have hraw := (hinv k).succeeded row hr hsuccess htype
    rw [show row.runId = run.runId from congrArg RunIdentity.runId hid] at hraw
    -- what was stored then is there still when the result is fetched
    have hlater : ∃ raw ∈ (states j).raws, raw.taskRunId = run.runId := by
      induction j, hkj using Nat.le_induction with
      | base => exact hraw
      | succ j _ ih => exact raws_of_run (hnext j) ih
    obtain ⟨content, markdown, hcontent, hmarkdown⟩ :=
      renders_of_raw hids (hinv j) (hhanded j) ht hlater
    refine ⟨content, hcontent, fun rawJson => ?_⟩
    cases rawJson with
    | true => exact ⟨.rawJson content, finish_rawJson hensure⟩
    | false => exact ⟨.markdown markdown, finish_markdown hensure hmarkdown⟩

namespace Example

/-- An illumination whose result is printed and stored raw alone. -/
def task : IlluminationTask := ⟨7, 1, "gemini", .v2, none, false⟩

/-- It is submitted and accepted. -/
def submission : List RawEv :=
  (Ev.submission 0 (AnyTask.illuminate task) none "run-1" 0 ++ [Ev.accept 0]).map
    fun e => .other (.task e)

/-- An attempt of it succeeds. -/
def attempt : List RawEv :=
  (PipelineEv.begins 0 0 10 ++ [PipelineEv.body 0 .proceed]).map .other ++
    [.output 0 communityAnswer none] ++
    ([PipelineEv.body 0 .proceed, .body 0 .proceed] ++ PipelineEv.succeeds 0 20).map .other

/-- The server, with one capture that has one file. -/
def system : System RawState RawEv :=
  rawPipeline [⟨7, 1⟩] (fun _ => [70]) (fun _ => "") ⟨3, true⟩

/-- The state after the submission. -/
def submitted : RawState := (system.run .start submission).get (by decide)

/-- And after the attempt. -/
def printed : RawState := (system.run submitted attempt).get (by decide)

/-- The run succeeds between the first request and the second. -/
def states : ℕ → RawState
  | 0 => submitted
  | _ + 1 => printed

/-- What the command's requests are answered along the way. -/
def polls (k : ℕ) : Poll where
  took := 1
  answer := (getTaskRun (states k).work.tasks.rows 1 "run-1").mapError ApiError.error

end Example

theorem illuminate_prints_raw : Prints Example.states Example.polls 1 "run-1" .v2 := by
  have hids : (([⟨7, 1⟩] : List Capture).map Capture.id).Nodup := by decide
  have hstart : Example.system.run .start Example.submission = some Example.submitted :=
    (Option.some_get _).symm
  have hattempt : Example.system.run Example.submitted Example.attempt = some Example.printed :=
    (Option.some_get _).symm
  refine illuminate_prints (c := 0) hids Example.states
    (fun k => if k = 0 then Example.attempt else []) Example.submission
    ⟨.illuminate Example.task, none, .returned (.ok (.enqueued "run-1" 1))⟩ Example.task "run-1" 1
    hstart (fun k => ?_) rfl rfl rfl (fun k info h => ?_)
  · cases k with
    | zero => exact hattempt
    | succ k => rfl
  · unfold Example.polls at h
    dsimp only at h
    change getTaskRun (Example.states k).work.tasks.rows 1 "run-1" = .ok info
    cases hget : getTaskRun (Example.states k).work.tasks.rows 1 "run-1" with
    | error err => rw [hget] at h; cases h
    | ok info' => rw [hget] at h; cases h; rfl

end IlluminateCmd

end Dreamscroll
