import Dreamscroll.Common.Aggregate
import Dreamscroll.Task.Columns
import Mathlib.Data.Rat.Floor
import Mathlib.Data.String.Basic
/-!
# The queue report

`queue_stats`: what the admin is told of the runs in flight and of those that
ended, by task type. Each of its queries reads the table as it is when the
query runs, and counts only rows whose column is not null.

`queue_stats_accounts` says that none is left out: the columns that go with
a row's status are there in every state of the machine, so that the counts
are those of the runs.
-/

namespace Dreamscroll

namespace Stats

/-- Compact distribution summary. -/
structure MetricStats where
  n : ℕ
  avg : Option ℚ
  p50 : Option ℚ
  p75 : Option ℚ
  p90 : Option ℚ
  p99 : Option ℚ

/-- How often an error code ended a run. -/
structure FailureCodeCount where
  /-- `last_error_code` verbatim. -/
  code : Option ℤ
  count : ℕ

/-- One task type within a window. -/
structure QueueStats where
  taskType : String
  queue : String
  queuedSuccess : MetricStats
  queuedFailure : MetricStats
  processingSuccess : MetricStats
  processingFailure : MetricStats
  failureCodes : List FailureCodeCount

/-- The summaries of the runs created within some hours. -/
structure QueueWindow where
  hours : ℤ
  queues : List QueueStats

/-- Current backlog ages. -/
structure QueueBacklogRow where
  taskType : String
  queue : String
  queued : MetricStats
  inProgress : MetricStats
  errorWillRetry : MetricStats

/-- The report. -/
structure QueueStatsResponse where
  /-- The backend cannot resume in-memory work. -/
  snapshotSuppressed : Bool
  backlog : List QueueBacklogRow
  windows : List QueueWindow

/-- The queue the server was configured with. -/
inductive TaskQueueBackend
  | local
  | gcloudTasks
  deriving DecidableEq

/-- What a query reads: the clock and the table. -/
structure Snapshot where
  now : Timestamp
  rows : List TaskRunModel

/-- `queue_label`: types are snake case, queues are hyphenated. -/
def queueLabel (taskType : String) : String := taskType.map fun c => if c = '_' then '-' else c

/-! ## The queries -/

/-- `EXTRACT(EPOCH FROM …) * 1000.0`. -/
def epochMs (interval : ℤ) : ℚ := interval / 1000

/-- The rows created in the last hours. -/
def Snapshot.cohort (s : Snapshot) (hours : ℤ) : List TaskRunModel :=
  s.rows.filter fun row => s.now - hours * 3600000000 ≤ row.createdAt

/-- How long a run was queued before its last attempt. -/
def queuedMs (row : TaskRunModel) : Option ℚ :=
  row.processingStartedAt.map fun started => epochMs (started - row.createdAt)

/-- How long the attempt took that succeeded. -/
def successMs (row : TaskRunModel) : Option ℚ := row.successDurationMs.map fun ms : ℤ => (ms : ℚ)

/-- And the one that failed. -/
def failureMs (row : TaskRunModel) : Option ℚ := row.lastErrorDurationMs.map fun ms : ℤ => (ms : ℚ)

/-- The `CASE` of the backlog's ages. -/
def ageMs (now : Timestamp) (row : TaskRunModel) : Option ℚ :=
  if row.statusCode = 1 then some (epochMs (now - row.createdAt))
  else if row.statusCode = 2 then
    row.processingStartedAt.map fun started => epochMs (now - started)
  else if row.statusCode = 3 then some (epochMs (now - row.updatedAt))
  else none

/-- The aggregates of a column over the rows with a status code: a null is
neither counted nor aggregated. -/
def metric (rows : List TaskRunModel) (code : ℤ) (column : TaskRunModel → Option ℚ) : MetricStats :=
  let values := (rows.filter fun row => row.statusCode = code).filterMap column
  { n := values.length
    avg := Aggregate.avg values
    p50 := Aggregate.percentileCont (1 / 2) values
    p75 := Aggregate.percentileCont (3 / 4) values
    p90 := Aggregate.percentileCont (9 / 10) values
    p99 := Aggregate.percentileCont (99 / 100) values }

/-- The rows of the backlog. -/
def Snapshot.unsettled (s : Snapshot) : List TaskRunModel :=
  s.rows.filter fun row => row.statusCode ∈ [1, 2, 3]

/-- `load_backlog`, with `BACKLOG_SQL`. -/
def loadBacklog (s : Snapshot) : List QueueBacklogRow :=
  (Aggregate.groupKeys (·.taskType) s.unsettled).map fun taskType =>
    let rows := Aggregate.group (·.taskType) s.unsettled taskType
    { taskType
      queue := queueLabel taskType
      queued := metric rows 1 (ageMs s.now)
      inProgress := metric rows 2 (ageMs s.now)
      errorWillRetry := metric rows 3 (ageMs s.now) }

/-- `ORDER BY task_type, count DESC`. -/
def CodeLe (a b : String × FailureCodeCount) : Prop :=
  a.1 < b.1 ∨ a.1 = b.1 ∧ b.2.count ≤ a.2.count

instance : DecidableRel CodeLe := fun _ _ => inferInstanceAs (Decidable (_ ∨ _ ∧ _))

/-- `FAILURE_CODES_SQL`. -/
def failureCodes (s : Snapshot) (hours : ℤ) : List (String × FailureCodeCount) :=
  let failed := (s.cohort hours).filter fun row => row.statusCode = 5
  let key := fun row : TaskRunModel => (row.taskType, row.lastErrorCode)
  let groups := (failed.map key).dedup.map fun k =>
    (k.1, { code := k.2, count := (Aggregate.group key failed k).length : FailureCodeCount })
  groups.insertionSort CodeLe

/-- `load_failure_codes`: what its map has for a type. -/
def loadFailureCodes (s : Snapshot) (hours : ℤ) (taskType : String) : List FailureCodeCount :=
  ((failureCodes s hours).filter fun group => group.1 = taskType).map (·.2)

/-- `QUEUE_STATS_SQL`, and the codes that were read after it. -/
def queueRows (s : Snapshot) (hours : ℤ) (codes : String → List FailureCodeCount) :
    List QueueStats :=
  (Aggregate.groupKeys (·.taskType) (s.cohort hours)).map fun taskType =>
    let rows := Aggregate.group (·.taskType) (s.cohort hours) taskType
    { taskType
      queue := queueLabel taskType
      queuedSuccess := metric rows 4 queuedMs
      queuedFailure := metric rows 5 queuedMs
      processingSuccess := metric rows 4 successMs
      processingFailure := metric rows 5 failureMs
      failureCodes := codes taskType }

/-- A window that is asked for, and what its two queries read. -/
structure WindowReads where
  hours : ℤ
  timing : Snapshot
  codes : Snapshot

/-- The summaries of one window, and the codes its failed runs ended with. -/
def queueWindow (reads : WindowReads) : QueueWindow where
  hours := reads.hours
  queues := queueRows reads.timing reads.hours (loadFailureCodes reads.codes reads.hours)

/-- **`queue_stats`**, its statements having succeeded. -/
def queueStats (backlog : Snapshot) (windows : List WindowReads) (backend : TaskQueueBackend) :
    QueueStatsResponse where
  snapshotSuppressed := backend = .local
  backlog := loadBacklog backlog
  windows := windows.map queueWindow

/-! ## What it accounts for -/

/-- The runs of a type with a status. -/
def runsWith (rows : List TaskRunModel) (taskType : String) (st : TaskRunStatus) :
    List TaskRunModel :=
  rows.filter fun row => row.taskType = taskType ∧ row.HasStatus st

/-- **The summary is of these runs**: each counts, with the value its row has
recorded, and the percentiles are in order between the least and the
greatest of the values. -/
structure MetricStats.Covers (stats : MetricStats) (runs : List TaskRunModel)
    (column : TaskRunModel → Option ℚ) : Prop where
  n_eq : stats.n = runs.length
  recorded : ∀ row ∈ runs, (column row).isSome
  empty : runs = [] → stats = ⟨0, none, none, none, none, none⟩
  ordered : runs ≠ [] → ∃ lo hi avg p50 p75 p90 p99,
    stats = ⟨runs.length, some avg, some p50, some p75, some p90, some p99⟩ ∧
    (∃ row ∈ runs, column row = some lo) ∧ (∃ row ∈ runs, column row = some hi) ∧
    (∀ row ∈ runs, ∀ v ∈ column row, lo ≤ v ∧ v ≤ hi) ∧
    lo ≤ p50 ∧ p50 ≤ p75 ∧ p75 ≤ p90 ∧ p90 ≤ p99 ∧ p99 ≤ hi ∧ lo ≤ avg ∧ avg ≤ hi

/-- **The backlog accounts for the runs in flight**: one row for each type
that has any, each run counted once. -/
structure BacklogAccounts (s : Snapshot) (backlog : List QueueBacklogRow) : Prop where
  types : (backlog.map (·.taskType)).Pairwise (· < ·)
  queued : ∀ q ∈ backlog, q.queued.Covers (runsWith s.rows q.taskType .queued) (ageMs s.now)
  inProgress : ∀ q ∈ backlog,
    q.inProgress.Covers (runsWith s.rows q.taskType .inProgress) (ageMs s.now)
  errorWillRetry : ∀ q ∈ backlog,
    q.errorWillRetry.Covers (runsWith s.rows q.taskType .errorWillRetry) (ageMs s.now)
  total : (backlog.map fun q => q.queued.n + q.inProgress.n + q.errorWillRetry.n).sum =
    (s.rows.filter (·.inFlight)).length

/-- **A window accounts for the runs that ended**, of those created in it:
how long each was queued and worked on, and why it failed. -/
structure WindowAccounts (reads : WindowReads) (window : QueueWindow) : Prop where
  hours : window.hours = reads.hours
  types : (window.queues.map (·.taskType)).Pairwise (· < ·)
  succeeded : ∀ q ∈ window.queues,
    let runs := runsWith (reads.timing.cohort reads.hours) q.taskType .completeSuccess
    q.queuedSuccess.Covers runs queuedMs ∧ q.processingSuccess.Covers runs successMs
  failed : ∀ q ∈ window.queues,
    let runs := runsWith (reads.timing.cohort reads.hours) q.taskType .completeFailure
    q.queuedFailure.Covers runs queuedMs ∧ q.processingFailure.Covers runs failureMs
  total : (window.queues.map fun q => q.queuedSuccess.n + q.queuedFailure.n).sum =
    ((reads.timing.cohort reads.hours).filter fun row =>
      row.HasStatus .completeSuccess ∨ row.HasStatus .completeFailure).length
  codes : ∀ q ∈ window.queues,
    (q.failureCodes.map (·.count)).sum =
      (runsWith (reads.codes.cohort reads.hours) q.taskType .completeFailure).length ∧
    (q.failureCodes.map (·.count)).Pairwise (· ≥ ·) ∧
    (q.failureCodes.map (·.code)).Nodup ∧ ∀ group ∈ q.failureCodes, group.code.isSome

variable {rows runs : List TaskRunModel} {column : TaskRunModel → Option ℚ} {code : ℤ}
variable {s : Snapshot} {hours : ℤ} {taskType : String}

/-- A column without nulls counts every row. -/
theorem length_filterMap (h : ∀ row ∈ runs, (column row).isSome) :
    (runs.filterMap column).length = runs.length := by
  induction runs with
  | nil => rfl
  | cons row runs ih =>
    obtain ⟨v, hv⟩ := Option.isSome_iff_exists.1 (h row List.mem_cons_self)
    rw [List.filterMap_cons_some hv, List.length_cons, List.length_cons,
      ih fun r hr => h r (List.mem_cons_of_mem _ hr)]

/-- **Where no row of the status has a null, the summary is of its runs.** -/
theorem covers_metric (hruns : (rows.filter fun row => row.statusCode = code) = runs)
    (h : ∀ row ∈ runs, (column row).isSome) : (metric rows code column).Covers runs column := by
  have hlength := length_filterMap h
  have hmem : ∀ v, v ∈ runs.filterMap column ↔ ∃ row ∈ runs, column row = some v :=
    fun v => List.mem_filterMap
  unfold metric
  rw [hruns]
  refine ⟨hlength, h, fun hnil => ?_, fun hne => ?_⟩
  · subst hnil
    simp [Aggregate.avg, Aggregate.percentileCont]
  · have hvalues : runs.filterMap column ≠ [] := by
      intro hnil
      rw [hnil, List.length_nil] at hlength
      exact hne (List.length_eq_zero_iff.1 hlength.symm)
    obtain ⟨lo, hlo, hi, hhi, hbounds⟩ := Aggregate.exists_bounds hvalues
    have hlow := fun v hv => (hbounds v hv).1
    have hhigh := fun v hv => (hbounds v hv).2
    have hpercentile := fun p : ℚ => Option.isSome_iff_exists.1
      ((Aggregate.percentileCont_isSome (p := p)).2 hvalues)
    obtain ⟨avg, havg⟩ := Option.isSome_iff_exists.1 (Aggregate.avg_isSome.2 hvalues)
    obtain ⟨p50, h50⟩ := hpercentile (1 / 2)
    obtain ⟨p75, h75⟩ := hpercentile (3 / 4)
    obtain ⟨p90, h90⟩ := hpercentile (9 / 10)
    obtain ⟨p99, h99⟩ := hpercentile (99 / 100)
    refine ⟨lo, hi, avg, p50, p75, p90, p99, ?_, (hmem lo).1 hlo, (hmem hi).1 hhi, ?_, ?_⟩
    · simp only [hlength, havg, h50, h75, h90, h99]
    · exact fun row hrow v hv => hbounds v ((hmem v).2 ⟨row, hrow, hv⟩)
    · have havg' := Aggregate.avg_mem havg hlow hhigh
      have hfirst := Aggregate.percentileCont_mem (by norm_num) (by norm_num) h50 hlow hhigh
      have hlast := Aggregate.percentileCont_mem (by norm_num) (by norm_num) h99 hlow hhigh
      exact ⟨hfirst.1,
        Aggregate.percentileCont_mono (by norm_num) (by norm_num) (by norm_num) h50 h75,
        Aggregate.percentileCont_mono (by norm_num) (by norm_num) (by norm_num) h75 h90,
        Aggregate.percentileCont_mono (by norm_num) (by norm_num) (by norm_num) h90 h99,
        hlast.2, havg'.1, havg'.2⟩

/-- A group, and the status its aggregates are filtered by. -/
theorem filter_group (st : TaskRunStatus) (hcode : st.asI32 = code) :
    ((Aggregate.group (·.taskType) rows taskType).filter fun row => row.statusCode = code) =
      runsWith rows taskType st := by
  subst hcode
  rw [Aggregate.group, List.filter_filter, runsWith]
  refine List.filter_congr fun row _ => ?_
  by_cases hst : row.statusCode = st.asI32 <;> simp [TaskRunModel.HasStatus, hst]

/-- The runs of a task type in one status. -/
theorem mem_runsWith {row : TaskRunModel} {st : TaskRunStatus} :
    row ∈ runsWith rows taskType st ↔ row ∈ rows ∧ row.taskType = taskType ∧ row.HasStatus st := by
  simp [runsWith]

/-! ## The backlog -/

/-- The rows of the backlog are those in flight. -/
theorem mem_unsettled {row : TaskRunModel} :
    row.statusCode ∈ [1, 2, 3] ↔ row.HasStatus .queued ∨ row.HasStatus .inProgress ∨
      row.HasStatus .errorWillRetry := by
  simp [TaskRunModel.HasStatus, TaskRunStatus.asI32]

/-- The status codes of the backlog. -/
theorem inFlight_iff {row : TaskRunModel} :
    row.inFlight = true ↔ row.statusCode ∈ [1, 2, 3] := by
  rw [mem_unsettled]
  constructor
  · intro h
    unfold TaskRunModel.inFlight at h
    split at h
    · rename_i status hstatus
      have hcode : row.HasStatus status := (TaskRunStatus.fromI32_eq_ok.1 hstatus).symm
      cases status <;> simp_all [TaskRunStatus.isInFlight]
    · cases h
  · rintro (h | h | h) <;> rw [TaskRunModel.inFlight_eq_of_hasStatus h] <;> rfl

/-- The runs of a type with a status of the backlog. -/
theorem filter_unsettled {st : TaskRunStatus} (hst : st.isInFlight) :
    runsWith s.unsettled taskType st = runsWith s.rows taskType st := by
  rw [runsWith, Snapshot.unsettled, List.filter_filter, runsWith]
  refine List.filter_congr fun row _ => ?_
  by_cases hrow : row.taskType = taskType ∧ row.HasStatus st
  · have hin : row.statusCode ∈ [1, 2, 3] := by
      rw [← inFlight_iff, TaskRunModel.inFlight_eq_of_hasStatus hrow.2]
      exact hst
    simp [hrow, hin]
  · simp [hrow]

/-- Two disjoint counts add up. -/
theorem length_filter_or {p q : TaskRunModel → Bool} (h : ∀ row ∈ rows, p row → ¬ q row) :
    (rows.filter p).length + (rows.filter q).length =
      (rows.filter fun row => p row || q row).length := by
  induction rows with
  | nil => rfl
  | cons row rows ih =>
    have htail := ih fun r hr => h r (List.mem_cons_of_mem _ hr)
    have hhead := h row List.mem_cons_self
    by_cases hp : p row = true
    · simp [hp, hhead hp]
      omega
    · by_cases hq : q row = true <;> simp [hp, hq] <;> omega

/-- A row for each type that has runs in flight, and no other. -/
theorem types_loadBacklog :
    (loadBacklog s).map (·.taskType) = Aggregate.groupKeys (·.taskType) s.unsettled := by
  rw [loadBacklog, List.map_map]
  exact List.map_id _

/-- A run in flight has an age: an attempt that is running has its start. -/
theorem isSome_ageMs {row : TaskRunModel} {st : TaskRunStatus} (h : Recorded row)
    (hst : row.HasStatus st) (hin : st.isInFlight) : (ageMs s.now row).isSome := by
  cases st with
  | queued =>
    have hcode : row.statusCode = 1 := hst
    rw [ageMs, if_pos hcode]
    rfl
  | inProgress =>
    have hcode : row.statusCode = 2 := hst
    rw [ageMs, hcode, if_neg (by decide), if_pos rfl, Option.isSome_map]
    exact h.started (Or.inl hst)
  | errorWillRetry =>
    have hcode : row.statusCode = 3 := hst
    rw [ageMs, hcode, if_neg (by decide), if_neg (by decide), if_pos rfl]
    rfl
  | submissionFailed => cases hin
  | completeSuccess => cases hin
  | completeFailure => cases hin

/-- The age of a backlog metric covers every run of its status. -/
theorem covers_age (h : ∀ row ∈ s.rows, Recorded row) (taskType : String) (code : ℤ)
    (st : TaskRunStatus) (hcode : st.asI32 = code) (hin : st.isInFlight) :
    (metric (Aggregate.group (·.taskType) s.unsettled taskType) code (ageMs s.now)).Covers
      (runsWith s.rows taskType st) (ageMs s.now) := by
  refine covers_metric ?_ fun row hrow => ?_
  · rw [filter_group st hcode, filter_unsettled hin]
  · obtain ⟨hmem, -, hst⟩ := mem_runsWith.1 hrow
    exact isSome_ageMs (h row hmem) hst hin

/-- A group's aggregate counts the rows of the group with the status. -/
theorem n_eq_of_covers {st : TaskRunStatus} {stats : MetricStats} (code : ℤ)
    (hcode : st.asI32 = code) (h : stats.Covers (runsWith rows taskType st) column) :
    stats.n = ((Aggregate.group (·.taskType) rows taskType).filter fun row =>
      row.statusCode = code).length := by
  rw [h.n_eq, filter_group st hcode]

/-- **The backlog is the runs in flight**, each measured from when it got its
status. -/
theorem backlogAccounts (h : ∀ row ∈ s.rows, Recorded row) :
    BacklogAccounts s (loadBacklog s) := by
  have hqueued := fun taskType => covers_age h taskType 1 .queued rfl rfl
  have hprogress := fun taskType => covers_age h taskType 2 .inProgress rfl rfl
  have hretry := fun taskType => covers_age h taskType 3 .errorWillRetry rfl rfl
  refine ⟨?_, fun q hq => ?_, fun q hq => ?_, fun q hq => ?_, ?_⟩
  · rw [types_loadBacklog]
    exact Aggregate.groupKeys_pairwise
  · obtain ⟨taskType, -, rfl⟩ := List.mem_map.1 hq
    exact hqueued taskType
  · obtain ⟨taskType, -, rfl⟩ := List.mem_map.1 hq
    exact hprogress taskType
  · obtain ⟨taskType, -, rfl⟩ := List.mem_map.1 hq
    exact hretry taskType
  · -- a group's three counts are its rows, and the groups are a partition
    have hrow : ∀ taskType,
        (metric (Aggregate.group (·.taskType) s.unsettled taskType) 1 (ageMs s.now)).n +
          (metric (Aggregate.group (·.taskType) s.unsettled taskType) 2 (ageMs s.now)).n +
          (metric (Aggregate.group (·.taskType) s.unsettled taskType) 3 (ageMs s.now)).n =
        ((Aggregate.group (·.taskType) s.unsettled taskType).filter (·.inFlight)).length := by
      intro taskType
      have hfilter : ∀ st : TaskRunStatus, st.isInFlight →
          runsWith s.unsettled taskType st = runsWith s.rows taskType st :=
        fun _ hin => filter_unsettled hin
      rw [n_eq_of_covers 1 rfl ((hfilter .queued rfl).symm ▸ hqueued taskType),
        n_eq_of_covers 2 rfl ((hfilter .inProgress rfl).symm ▸ hprogress taskType),
        n_eq_of_covers 3 rfl ((hfilter .errorWillRetry rfl).symm ▸ hretry taskType),
        length_filter_or, length_filter_or]
      · refine congrArg List.length (List.filter_congr fun row _ => ?_)
        rw [Bool.eq_iff_iff, inFlight_iff]
        simp [or_assoc]
      · intro row _ hcode
        rcases (by simpa using hcode : row.statusCode = 1 ∨ row.statusCode = 2) with h | h <;>
          simp [h]
      · intro row _ hcode
        simp [of_decide_eq_true hcode]
    have hunsettled : s.unsettled.filter (·.inFlight) = s.rows.filter (·.inFlight) := by
      rw [Snapshot.unsettled, List.filter_filter]
      refine List.filter_congr fun row _ => ?_
      by_cases hrow : row.inFlight = true
      · simp [hrow, inFlight_iff.1 hrow]
      · simp [hrow]
    rw [loadBacklog, List.map_map]
    simp only [Function.comp_def, hrow]
    rw [Aggregate.sum_groupKeys, hunsettled]

/-! ## The windows -/

/-- A window metric covers every run of its status that has the column. -/
theorem covers_ended (hrecorded : ∀ row ∈ rows, Recorded row) (taskType : String) (code : ℤ)
    (column : TaskRunModel → Option ℚ) (st : TaskRunStatus) (hcode : st.asI32 = code)
    (h : ∀ row, Recorded row → row.HasStatus st → (column row).isSome) :
    (metric (Aggregate.group (·.taskType) rows taskType) code column).Covers
      (runsWith rows taskType st) column := by
  refine covers_metric (filter_group st hcode) fun row hrow => ?_
  obtain ⟨hmem, -, hst⟩ := mem_runsWith.1 hrow
  exact h row (hrecorded row hmem) hst

/-- A run that ended was started, and has a queueing time. -/
theorem isSome_queuedMs {row : TaskRunModel} (h : Recorded row)
    (hst : row.HasStatus .completeSuccess ∨ row.HasStatus .completeFailure) :
    (queuedMs row).isSome := by
  rw [queuedMs, Option.isSome_map]
  exact h.started (Or.inr (Or.inr hst))

instance : Std.Total CodeLe where
  total a b := by
    rcases lt_trichotomy a.1 b.1 with hlt | heq | hgt
    · exact Or.inl (Or.inl hlt)
    · rcases Nat.le_total a.2.count b.2.count with hle | hle
      · exact Or.inr (Or.inr ⟨heq.symm, hle⟩)
      · exact Or.inl (Or.inr ⟨heq, hle⟩)
    · exact Or.inr (Or.inl hgt)

instance : IsTrans (String × FailureCodeCount) CodeLe where
  trans a b c hab hbc := by
    rcases hab with hab | ⟨hab, hcount⟩
    · rcases hbc with hbc | ⟨hbc, -⟩
      · exact Or.inl (hab.trans hbc)
      · exact Or.inl (hbc ▸ hab)
    · rcases hbc with hbc | ⟨hbc, hcount'⟩
      · exact Or.inl (hab ▸ hbc)
      · exact Or.inr ⟨hab.trans hbc, hcount'.trans hcount⟩

/-- The failed runs of a window. -/
def Snapshot.failed (s : Snapshot) (hours : ℤ) : List TaskRunModel :=
  (s.cohort hours).filter fun row => row.statusCode = 5

/-- The code a failed run is counted under. -/
def codeKey (row : TaskRunModel) : String × Option ℤ := (row.taskType, row.lastErrorCode)

/-- The groups of a type, before they are ordered. -/
theorem loadFailureCodes_perm :
    (loadFailureCodes s hours taskType).Perm
      (((((s.failed hours).map codeKey).dedup.filter fun k => k.1 = taskType)).map fun k =>
        ⟨k.2, (Aggregate.group codeKey (s.failed hours) k).length⟩) := by
  have hperm := (((List.perm_insertionSort CodeLe
    ((((s.failed hours).map codeKey).dedup).map fun k =>
      (k.1, (⟨k.2, (Aggregate.group codeKey (s.failed hours) k).length⟩ :
        FailureCodeCount)))).filter fun group => group.1 = taskType).map (·.2))
  rw [List.filter_map, List.map_map] at hperm
  exact hperm

/-- The counts of a type are those of its failed runs. -/
theorem sum_loadFailureCodes :
    ((loadFailureCodes s hours taskType).map (·.count)).sum =
      (runsWith (s.cohort hours) taskType .completeFailure).length := by
  have hruns : (s.failed hours).filter (fun row => row.taskType = taskType) =
      runsWith (s.cohort hours) taskType .completeFailure := by
    rw [Snapshot.failed, List.filter_filter, runsWith]
    refine List.filter_congr fun row _ => ?_
    by_cases hrow : row.taskType = taskType <;>
      simp [hrow, TaskRunModel.HasStatus, TaskRunStatus.asI32]
  have hnodup : (((s.failed hours).map codeKey).dedup.filter fun k => k.1 = taskType).Nodup :=
    (List.nodup_dedup _).filter _
  have hcover : ∀ row ∈ (s.failed hours).filter (fun row => row.taskType = taskType),
      codeKey row ∈ ((s.failed hours).map codeKey).dedup.filter fun k => k.1 = taskType := by
    intro row hrow
    obtain ⟨hfailed, htype⟩ := List.mem_filter.1 hrow
    exact List.mem_filter.2 ⟨List.mem_dedup.2 (List.mem_map_of_mem hfailed),
      decide_eq_true (of_decide_eq_true htype : row.taskType = taskType)⟩
  have hsum := Aggregate.sum_group codeKey hnodup hcover fun _ => true
  simp only [List.filter_true] at hsum
  rw [(loadFailureCodes_perm.map _).sum_eq, List.map_map, ← hruns, ← hsum]
  refine congrArg List.sum (List.map_congr_left fun k hk => ?_)
  have htype : k.1 = taskType := by simpa using (List.mem_filter.1 hk).2
  -- a group of the type has no other rows
  simp only [Function.comp_apply, Aggregate.group, List.filter_filter]
  refine congrArg List.length (List.filter_congr fun row _ => ?_)
  by_cases hkey : codeKey row = k
  · have hrow : row.taskType = taskType := by rw [← htype, ← hkey, codeKey]
    simp [hkey, hrow]
  · simp [hkey]

/-- The most frequent failure comes first. -/
theorem pairwise_loadFailureCodes :
    ((loadFailureCodes s hours taskType).map (·.count)).Pairwise (· ≥ ·) := by
  have hsorted : (failureCodes s hours).Pairwise CodeLe := List.pairwise_insertionSort _ _
  have hof : ((failureCodes s hours).filter fun group => group.1 = taskType).Pairwise
      fun a b => b.2.count ≤ a.2.count := by
    refine (hsorted.filter _).imp_of_mem fun {a b} ha hb h => ?_
    have hfst : a.1 = taskType := by simpa using (List.mem_filter.1 ha).2
    have hsnd : b.1 = taskType := by simpa using (List.mem_filter.1 hb).2
    rcases h with hlt | ⟨-, hle⟩
    · rw [hfst, hsnd] at hlt
      exact absurd hlt (lt_irrefl _)
    · exact hle
  rw [loadFailureCodes, List.map_map, List.pairwise_map]
  exact hof

/-- No code is reported twice. -/
theorem nodup_loadFailureCodes :
    ((loadFailureCodes s hours taskType).map (·.code)).Nodup := by
  rw [(loadFailureCodes_perm.map _).nodup_iff, List.map_map]
  refine ((List.nodup_dedup _).filter _).map_on fun k hk k' hk' hcode => ?_
  have hfst : k.1 = taskType := by simpa using (List.mem_filter.1 hk).2
  have hsnd : k'.1 = taskType := by simpa using (List.mem_filter.1 hk').2
  exact Prod.ext (hfst.trans hsnd.symm) hcode

/-- Every group of failures has a code. -/
theorem isSome_code (h : ∀ row ∈ s.rows, Recorded row) {group : FailureCodeCount}
    (hg : group ∈ loadFailureCodes s hours taskType) : group.code.isSome := by
  obtain ⟨k, hk, rfl⟩ := List.mem_map.1 (loadFailureCodes_perm.mem_iff.1 hg)
  obtain ⟨row, hrow, rfl⟩ := List.mem_map.1 (List.mem_dedup.1 (List.mem_filter.1 hk).1)
  obtain ⟨hcohort, hst⟩ := List.mem_filter.1 hrow
  have hfailure : row.HasStatus .completeFailure := of_decide_eq_true hst
  exact ((h row (List.mem_filter.1 hcohort).1).failed (Or.inr hfailure)).2.1

/-- **The window is the runs that ended**, of those created in it. -/
theorem windowAccounts {reads : WindowReads} (htiming : ∀ row ∈ reads.timing.rows, Recorded row)
    (hcodes : ∀ row ∈ reads.codes.rows, Recorded row) :
    WindowAccounts reads (queueWindow reads) := by
  have hcohort : ∀ row ∈ reads.timing.cohort reads.hours, Recorded row :=
    fun row hrow => htiming row (List.mem_filter.1 hrow).1
  have hqs := fun taskType => covers_ended hcohort taskType 4 queuedMs .completeSuccess rfl
    fun row hrow hst => isSome_queuedMs hrow (Or.inl hst)
  have hqf := fun taskType => covers_ended hcohort taskType 5 queuedMs .completeFailure rfl
    fun row hrow hst => isSome_queuedMs hrow (Or.inr hst)
  have hps := fun taskType => covers_ended hcohort taskType 4 successMs .completeSuccess
    rfl fun row hrow hst => by
      rw [successMs, Option.isSome_map]
      exact hrow.succeeded hst
  have hpf := fun taskType => covers_ended hcohort taskType 5 failureMs .completeFailure
    rfl fun row hrow hst => by
      rw [failureMs, Option.isSome_map]
      exact (hrow.failed (Or.inr hst)).1
  refine ⟨rfl, ?_, fun q hq => ?_, fun q hq => ?_, ?_, fun q hq => ?_⟩
  · have htypes : (queueWindow reads).queues.map (·.taskType) =
        Aggregate.groupKeys (·.taskType) (reads.timing.cohort reads.hours) := by
      rw [queueWindow, queueRows, List.map_map]
      exact List.map_id _
    rw [htypes]
    exact Aggregate.groupKeys_pairwise
  · obtain ⟨taskType, -, rfl⟩ := List.mem_map.1 hq
    exact ⟨hqs taskType, hps taskType⟩
  · obtain ⟨taskType, -, rfl⟩ := List.mem_map.1 hq
    exact ⟨hqf taskType, hpf taskType⟩
  · -- a run that ended counts as a success or as a failure, and as one of them only
    have hrow : ∀ taskType,
        (metric (Aggregate.group (·.taskType) (reads.timing.cohort reads.hours) taskType) 4
            queuedMs).n +
          (metric (Aggregate.group (·.taskType) (reads.timing.cohort reads.hours) taskType) 5
            queuedMs).n =
        ((Aggregate.group (·.taskType) (reads.timing.cohort reads.hours) taskType).filter fun row =>
          row.HasStatus .completeSuccess ∨ row.HasStatus .completeFailure).length := by
      intro taskType
      rw [n_eq_of_covers 4 rfl (hqs taskType), n_eq_of_covers 5 rfl (hqf taskType),
        length_filter_or]
      · refine congrArg List.length (List.filter_congr fun row _ => ?_)
        rw [Bool.eq_iff_iff, decide_eq_true_iff]
        simp [TaskRunModel.HasStatus, TaskRunStatus.asI32]
      · intro row _ hcode
        simp [of_decide_eq_true hcode]
    rw [queueWindow, queueRows, List.map_map]
    simp only [Function.comp_def, hrow]
    rw [Aggregate.sum_groupKeys]
  · obtain ⟨taskType, -, rfl⟩ := List.mem_map.1 hq
    exact ⟨sum_loadFailureCodes, pairwise_loadFailureCodes, nodup_loadFailureCodes,
      fun group hg => isSome_code hcodes hg⟩

/-! ## The report -/

/-- The rows are the table of a state the machine reaches. -/
def Snapshot.Of (T : Type) [WebhookTask T] (m : TaskMaster) (s : Snapshot) : Prop :=
  ∃ state : TaskState T, m.Reaches state ∧ s.rows = state.rows

/-- The rows of a reachable state are recorded as the queries assume. -/
theorem Snapshot.Of.recorded {T : Type} [WebhookTask T] {m : TaskMaster} (h : s.Of T m) :
    ∀ row ∈ s.rows, Recorded row := by
  obtain ⟨state, hreaches, hrows⟩ := h
  rw [hrows]
  exact hreaches.recorded

/-- **The report accounts for every run**, whatever the machine does between
its queries: each of them reads the table of a state the machine reaches. -/
theorem queue_stats_accounts {T : Type} [WebhookTask T] {m : TaskMaster} {backlog : Snapshot}
    {windows : List WindowReads} (backend : TaskQueueBackend) (hbacklog : backlog.Of T m)
    (hwindows : ∀ reads ∈ windows, reads.timing.Of T m ∧ reads.codes.Of T m) :
    BacklogAccounts backlog (queueStats backlog windows backend).backlog ∧
      List.Forall₂ WindowAccounts windows (queueStats backlog windows backend).windows := by
  refine ⟨backlogAccounts hbacklog.recorded, ?_⟩
  rw [queueStats, List.forall₂_map_right_iff, List.forall₂_same]
  intro reads hreads
  obtain ⟨htiming, hcodes⟩ := hwindows reads hreads
  exact windowAccounts htiming.recorded hcodes.recorded

/-- An illumination fails for good, an indexing fails before it succeeds, and
a spark is queued. -/
def reportSchedule : List (Ev AnyTask) :=
  Ev.submission 0 (.illuminate ⟨7, 1, "flash", .v2, none, true⟩) none "run-1" 0 ++ [.accept 0] ++
    Ev.attempt 0 0 (.error (ApiError.badRequest "no such capture")) 10 ++
    Ev.submission 1 (.searchIndex ⟨8, 1⟩) none "run-2" 20 ++ [.accept 1] ++
    Ev.attempt 1 1 (.error (ApiError.internal "model overloaded")) 30 ++
    Ev.attempt 1 2 (.ok ()) 40 ++ Ev.submission 2 (.spark ⟨3, 1, [7, 8]⟩) none "run-3" 50

/-- The state after that. -/
def reportState : TaskState AnyTask :=
  ((TaskMaster.system AnyTask ⟨3, true⟩).run (TaskState.start [] []) reportSchedule).get
    (by decide)

/-- What a query reads there. -/
def reported : Snapshot := ⟨60, reportState.rows⟩

/-- Three task types, with a retry under way and a failure for good. -/
theorem queue_stats_accounts_retried :
    BacklogAccounts reported (queueStats reported [⟨24, reported, reported⟩] .local).backlog ∧
      List.Forall₂ WindowAccounts [⟨24, reported, reported⟩]
        (queueStats reported [⟨24, reported, reported⟩] .local).windows := by
  have hof : reported.Of AnyTask ⟨3, true⟩ :=
    ⟨reportState, ⟨reportSchedule, (Option.some_get _).symm⟩, rfl⟩
  refine queue_stats_accounts .local hof fun reads hreads => ?_
  rw [List.mem_singleton.1 hreads]
  exact ⟨hof, hof⟩

end Stats

end Dreamscroll
