import Dreamscroll.Task.StatusCatchup
import Dreamscroll.Task.TaskMaster
/-!
# Replayed and live events

Two adapters build the event of a row: `StatusPublisher::publish` when the
row is written, and `StatusCatchup::events` for a stream that opens later.
Both read the estimate off the timing aggregates; the first does so for
every row, the second for the rows that are running. That is the one field
in which what is replayed may differ from what was live
(`replay_matches_live`).
-/

namespace Dreamscroll

/-! ## The timing aggregates -/

/-- What an aggregate of `task_run_timing` measures. -/
inductive Measure
  | queueWait
  | processingSuccessful
  deriving DecidableEq, Repr

/-- The names of the measures in the table. -/
def Measure.asRef : Measure → String
  | queueWait => "queue_wait"
  | processingSuccessful => "processing_successful"

/-- A row of `task_run_timing`, as far as it is read. -/
structure TaskRunTimingModel where
  taskType : String
  operationType : String
  sampleCount : ℤ
  durationMsAvg : ℤ
  durationMsP50 : ℤ
  durationMsP75 : ℤ
  durationMsP90 : ℤ
  deriving DecidableEq, Repr

/-- The aggregate for a task's successful processing, if any has been
recorded. -/
def clientEstimate (aggregates : List TaskRunTimingModel) (taskType : String) :
    Option TaskTimingEstimate :=
  (aggregates.find? fun row => row.taskType = taskType &&
    row.operationType = Measure.processingSuccessful.asRef).map fun row =>
      { taskType := row.taskType
        sampleCount := row.sampleCount
        durationMsAvg := row.durationMsAvg
        durationMsP50 := row.durationMsP50
        durationMsP75 := row.durationMsP75
        durationMsP90 := row.durationMsP90 }

/-! ## The catch-up with its table of estimates -/

/-- The estimates read so far, by task type. -/
abbrev Estimates := List (String × Option TaskTimingEstimate)

/-- An estimate is looked up where the table has none for the type. -/
def addEstimate (client : String → Option TaskTimingEstimate) (estimates : Estimates)
    (taskType : String) : Estimates :=
  if (estimates.lookup taskType).isSome then estimates
  else estimates ++ [(taskType, client taskType)]

/-- At most one aggregate lookup per distinct running task type. -/
def loadEstimates (client : String → Option TaskTimingEstimate) (rows : List TaskRunModel) :
    Estimates :=
  ((rows.filter isRunning).map TaskRunModel.taskType).foldl (addEstimate client) []

/-- `StatusCatchup::events`, its reads having succeeded. -/
def StatusCatchup.replay (rows : List TaskRunModel) (aggregates : List TaskRunTimingModel)
    (entityOwnerId : ℤ) (entityType : String) (entityIds : List ℤ) : List TaskStatusUpdate :=
  let rows := queryLatestTaskRuns rows entityOwnerId entityType entityIds
  let estimates := loadEstimates (clientEstimate aggregates) rows
  rows.filterMap fun row => TaskStatusUpdate.fromRow row
    (if isRunning row then (estimates.lookup row.taskType).join else none)

variable {client : String → Option TaskTimingEstimate} {estimates : Estimates}
variable {rows : List TaskRunModel} {row : TaskRunModel} {t : String}

/-- The table of estimates answers what the aggregates do. -/
def LooksUp (client : String → Option TaskTimingEstimate) (estimates : Estimates) : Prop :=
  ∀ t e, estimates.lookup t = some e → e = client t

theorem lookup_append_singleton (e : Option TaskTimingEstimate) (t' : String) :
    (estimates ++ [(t', e)]).lookup t =
      (estimates.lookup t).or (if t = t' then some e else none) := by
  rw [List.lookup_append, List.lookup_cons, List.lookup_nil]
  by_cases h : t = t'
  · rw [if_pos h, h, beq_self_eq_true]
  · rw [if_neg h, beq_false_of_ne h]

/-- **One type more**: the table still answers, keeps what it had, and has
the type. -/
theorem looksUp_addEstimate (h : LooksUp client estimates) :
    LooksUp client (addEstimate client estimates t) ∧
      ((addEstimate client estimates t).lookup t).isSome ∧
      ∀ t', (estimates.lookup t').isSome → ((addEstimate client estimates t).lookup t').isSome := by
  unfold addEstimate
  by_cases hsome : (estimates.lookup t).isSome
  · rw [if_pos hsome]
    exact ⟨h, hsome, fun _ h' => h'⟩
  · have hnone : estimates.lookup t = none := Option.not_isSome_iff_eq_none.1 hsome
    rw [if_neg hsome]
    refine ⟨fun t' e he => ?_, ?_, fun t' ht' => ?_⟩
    · rw [lookup_append_singleton, Option.or_eq_some_iff] at he
      rcases he with he | ⟨-, he⟩
      · exact h t' e he
      · split_ifs at he with htt
        rw [htt]
        exact (Option.some.inj he).symm
    · rw [lookup_append_singleton, hnone, if_pos rfl]
      rfl
    · rw [lookup_append_singleton]
      obtain ⟨e, he⟩ := Option.isSome_iff_exists.1 ht'
      rw [he]
      rfl

/-- **And a list of types more.** -/
theorem looksUp_foldl (l : List String) (h : LooksUp client estimates) :
    LooksUp client (l.foldl (addEstimate client) estimates) ∧
      (∀ t, (estimates.lookup t).isSome →
        ((l.foldl (addEstimate client) estimates).lookup t).isSome) ∧
      ∀ t ∈ l, ((l.foldl (addEstimate client) estimates).lookup t).isSome := by
  induction l generalizing estimates with
  | nil => exact ⟨h, fun _ h' => h', nofun⟩
  | cons t l ih =>
    obtain ⟨hanswers, hhas, hkeeps⟩ := looksUp_addEstimate (t := t) h
    obtain ⟨hfinal, hkeeps', hall⟩ := ih hanswers
    refine ⟨hfinal, fun t' ht' => hkeeps' t' (hkeeps t' ht'), fun t' ht' => ?_⟩
    rcases List.mem_cons.1 ht' with rfl | ht'
    · exact hkeeps' _ hhas
    · exact hall t' ht'

/-- **A running row finds the estimate of its task type in the table.** -/
theorem lookup_loadEstimates (hrow : row ∈ rows) (hrun : isRunning row = true) :
    (loadEstimates client rows).lookup row.taskType = some (client row.taskType) := by
  have hempty : LooksUp client [] := by
    intro t e he
    cases he
  obtain ⟨hanswers, -, hall⟩ :=
    looksUp_foldl ((rows.filter isRunning).map TaskRunModel.taskType) hempty
  have hmem : row.taskType ∈ (rows.filter isRunning).map TaskRunModel.taskType :=
    List.mem_map_of_mem (List.mem_filter.2 ⟨hrow, hrun⟩)
  obtain ⟨e, he⟩ := Option.isSome_iff_exists.1 (hall row.taskType hmem)
  rw [hanswers row.taskType e he] at he
  exact he

variable {aggregates : List TaskRunTimingModel} {owner : ℤ} {entityType : String} {ids : List ℤ}

/-- **The table changes nothing**: the catch-up reads as if it looked each
estimate up. -/
theorem replay_eq_events : StatusCatchup.replay rows aggregates owner entityType ids =
    StatusCatchup.events rows (clientEstimate aggregates) owner entityType ids := by
  unfold StatusCatchup.replay StatusCatchup.events
  refine List.filterMap_congr fun row hrow => ?_
  split_ifs with hrun
  · rw [lookup_loadEstimates hrow hrun]
    rfl
  · rfl

/-! ## Replayed and live -/

/-- The event without its processing estimate. -/
def TaskStatusUpdate.withoutEstimate (ev : TaskStatusUpdate) : TaskStatusUpdate :=
  { ev with payload := { ev.payload with estimatedDurationMsP50 := none } }

theorem fromRow_none_of_fromRow {estimate : Option TaskTimingEstimate} {ev : TaskStatusUpdate}
    (h : TaskStatusUpdate.fromRow row estimate = some ev) :
    TaskStatusUpdate.fromRow row none = some ev.withoutEstimate := by
  unfold TaskStatusUpdate.fromRow at h ⊢
  split at h
  · cases h
  · cases h
    rfl

theorem withoutEstimate_eq_self {ev : TaskStatusUpdate} :
    ev.withoutEstimate = ev ↔ ev.payload.estimatedDurationMsP50 = none := by
  constructor
  · intro h
    exact (congrArg (fun ev => ev.payload.estimatedDurationMsP50) h).symm
  · intro h
    obtain ⟨_, _, _, _, _, payload⟩ := ev
    obtain ⟨_, _, _, _, _, _, _, _⟩ := payload
    simp only at h
    rw [h]
    rfl

variable {m : TaskMaster} {st : TaskRunStatus}

/-- The live event of a row of a known status. -/
theorem exists_publish (hm : m.notifier = true) (hst : row.HasStatus st)
    (estimate : Option TaskTimingEstimate) : ∃ live, m.publish row estimate = some live ∧
      TaskStatusUpdate.fromRow row estimate = some live := by
  obtain ⟨live, hlive⟩ := exists_fromRow hst estimate
  refine ⟨live, ?_, hlive⟩
  unfold TaskMaster.publish
  rw [if_pos hm, hlive]

/-- **The replayed event of a latest run is its live one**, field by field,
but for the estimate, which is replayed only while the run is in progress.
So the two are equal there, and wherever the live event has none. -/
theorem replay_matches_live (hm : m.notifier = true) (h : IsLatest rows row)
    (hst : row.HasStatus st) (hids : row.entityId ∈ ids) :
    ∃ live replayed, m.publish row (clientEstimate aggregates row.taskType) = some live ∧
      (StatusCatchup.replay rows aggregates row.entityOwnerId row.entityType ids).filter
        (fun ev => ev.Concerns row.statusKey) = [replayed] ∧
      replayed = (if st = .inProgress then live else live.withoutEstimate) ∧
      (replayed = live ↔ st = .inProgress ∨ live.payload.estimatedDurationMsP50 = none) := by
  obtain ⟨live, hpublish, hlive⟩ := exists_publish hm hst (clientEstimate aggregates row.taskType)
  have hrunning : isRunning row = true ↔ st = .inProgress := by
    unfold isRunning
    rw [decide_eq_true_eq, hst, TaskRunStatus.asI32_inj]
  have hreplayed : TaskStatusUpdate.fromRow row
      (if isRunning row then clientEstimate aggregates row.taskType else none) =
        some (if st = .inProgress then live else live.withoutEstimate) := by
    by_cases hst' : st = .inProgress
    · rw [if_pos (hrunning.2 hst'), if_pos hst', hlive]
    · rw [if_neg fun hr => hst' (hrunning.1 hr), if_neg hst', fromRow_none_of_fromRow hlive]
  refine ⟨live, _, hpublish, ?_, rfl, ?_⟩
  · obtain ⟨ev, -, hevents⟩ := events_of_isLatest (clientEstimate aggregates) h hst hids
    rw [replay_eq_events, hevents]
    -- the one event that is found is that of the row
    have hmem : ev ∈ StatusCatchup.events rows (clientEstimate aggregates) row.entityOwnerId
        row.entityType ids ∧ ev.Concerns row.statusKey := by
      have hin : ev ∈ [ev] := List.mem_singleton_self ev
      rw [← hevents, List.mem_filter, decide_eq_true_eq] at hin
      exact hin
    obtain ⟨r, hr, hev⟩ := List.mem_filterMap.1 hmem.1
    have hsame : r = row := eq_of_mem_query (mem_query_of_isLatest h hids) hr
      ((Announces.concerns ⟨_, hev⟩).1 hmem.2)
    rw [hsame, hreplayed] at hev
    rw [Option.some.inj hev]
  · split_ifs with hst'
    · exact ⟨fun _ => Or.inl hst', fun _ => rfl⟩
    · rw [withoutEstimate_eq_self]
      exact ⟨Or.inr, fun hor => hor.resolve_left hst'⟩

/-! ## A settled run is replayed without its estimate -/

/-- An illuminate run of capture 7 with this status. -/
def runOfSeven (st : TaskRunStatus) : TaskRunModel where
  logicalId := "u1-illuminate-capture7"
  runId := "run-1"
  runNumber := 1
  backfillId := none
  taskType := "illuminate"
  entityOwnerId := 1
  entityType := "capture"
  entityId := 7
  taskPayload := none
  statusCode := st.asI32
  attempts := 1
  createdAt := 0
  processingStartedAt := some 1
  lastErrorCode := none
  lastErrorMessage := none
  lastErrorDurationMs := none
  successDurationMs := none
  updatedAt := 2

/-- The aggregate of five successes. -/
def fiveSuccesses : TaskRunTimingModel :=
  ⟨"illuminate", "processing_successful", 5, 9000, 9000, 9500, 9900⟩

theorem replay_matches_live_running :
    ∃ live replayed, (TaskMaster.mk 3 true).publish (runOfSeven .inProgress)
        (clientEstimate [fiveSuccesses] "illuminate") = some live ∧
      (StatusCatchup.replay [runOfSeven .inProgress] [fiveSuccesses] 1 "capture" [7]).filter
        (fun ev => ev.Concerns (runOfSeven .inProgress).statusKey) = [replayed] ∧
      replayed = live ∧
      (replayed = live ↔ TaskRunStatus.inProgress = .inProgress ∨
        live.payload.estimatedDurationMsP50 = none) :=
  replay_matches_live (show (TaskMaster.mk 3 true).notifier = true from rfl)
    (show IsLatest [runOfSeven .inProgress] (runOfSeven .inProgress) from
      ⟨List.mem_singleton_self _, fun _ hr _ => Or.inl (List.mem_singleton.1 hr)⟩)
    (show (runOfSeven .inProgress).HasStatus .inProgress from rfl) (List.mem_singleton_self _)

/-- **A settled run tells replayed from live**: its live event has the
estimate of five successes, its replayed one has none. -/
theorem settled_replay_lacks_estimate :
    ∃ live replayed, (TaskMaster.mk 3 true).publish (runOfSeven .completeSuccess)
        (clientEstimate [fiveSuccesses] "illuminate") = some live ∧
      StatusCatchup.replay [runOfSeven .completeSuccess] [fiveSuccesses] 1 "capture" [7] =
        [replayed] ∧
      live.payload.estimatedDurationMsP50 = some 9000 ∧
      replayed.payload.estimatedDurationMsP50 = none ∧ replayed ≠ live :=
  ⟨_, _, rfl, rfl, rfl, rfl, by decide⟩

end Dreamscroll
