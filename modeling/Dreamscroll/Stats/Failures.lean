import Dreamscroll.Stats.Queue
/-!
# The failure listing

`queue_failures`: the failures of a window, the newest first and at most so
many. Each run is listed once, with its code, its message and how long its
attempt took.
-/

namespace Dreamscroll

namespace Stats

/-- A run that failed, as the admin is told of it. -/
structure QueueFailure where
  queue : String
  taskType : String
  entityType : String
  entityId : ℤ
  runId : String
  attempts : ℕ
  /-- `complete_failure` or `error_will_retry`. -/
  status : String
  errorCode : Option ℤ
  errorMessage : Option String
  durationMs : Option ℤ
  /-- Time since the failure was recorded. -/
  ageMs : ℤ

/-- The list, with what was asked for. -/
structure QueueFailuresResponse where
  hours : ℤ
  includeRetrying : Bool
  failures : List QueueFailure

/-- What is made of a row; its age is a numeric cast to `bigint`. -/
def queueFailure (now : Timestamp) (row : TaskRunModel) : Except String QueueFailure := do
  let status ← TaskRunStatus.fromI32 row.statusCode
  return {
    queue := queueLabel row.taskType
    taskType := row.taskType
    entityType := row.entityType
    entityId := row.entityId
    runId := row.runId
    attempts := row.attempts
    status := status.asStr
    errorCode := row.lastErrorCode
    errorMessage := row.lastErrorMessage
    durationMs := row.lastErrorDurationMs
    ageMs := roundToMs (now - row.updatedAt) }

/-- `ORDER BY updated_at DESC`. -/
def UpdatedLe (a b : TaskRunModel) : Prop := b.updatedAt ≤ a.updatedAt

instance : DecidableRel UpdatedLe :=
  fun a b => inferInstanceAs (Decidable (b.updatedAt ≤ a.updatedAt))

/-- The condition of `SELECT`, or of `SELECT_WITH_RETRYING`. -/
def selects (includeRetrying : Bool) (row : TaskRunModel) : Bool :=
  if includeRetrying then row.statusCode ∈ [3, 5] else row.statusCode = 5

/-- The rows the query selects, in its order. -/
def Snapshot.selectFailures (s : Snapshot) (hours : ℤ) (limit : ℕ) (includeRetrying : Bool) :
    List TaskRunModel :=
  (((s.cohort hours).filter (selects includeRetrying)).insertionSort UpdatedLe).take limit

/-- **`queue_failures`**, its statement having succeeded. -/
def queueFailures (s : Snapshot) (hours : ℤ) (limit : ℕ) (includeRetrying : Bool) :
    Except String QueueFailuresResponse := do
  let failures ← (s.selectFailures hours limit includeRetrying).mapM (queueFailure s.now)
  return { hours, includeRetrying, failures }

/-- The limit of the route: 20 by default, between 1 and 200. -/
def failuresLimit (limit : Option ℤ) : ℕ := (max 1 (min 200 (limit.getD 20))).toNat

/-- The run failed, or is to be retried and such runs were asked for. -/
def Failing (includeRetrying : Bool) (row : TaskRunModel) : Prop :=
  row.HasStatus .completeFailure ∨ includeRetrying ∧ row.HasStatus .errorWillRetry

instance (includeRetrying : Bool) (row : TaskRunModel) : Decidable (Failing includeRetrying row) :=
  inferInstanceAs (Decidable (_ ∨ _ ∧ _))

/-- The entry tells what is known of the run's failure. -/
structure QueueFailure.Tells (failure : QueueFailure) (now : Timestamp) (row : TaskRunModel) :
    Prop where
  runId : failure.runId = row.runId
  taskType : failure.taskType = row.taskType
  status : ∃ st : TaskRunStatus, row.HasStatus st ∧ failure.status = st.asStr
  code : ∃ code, row.lastErrorCode = some code ∧ failure.errorCode = some code
  message : ∃ message, row.lastErrorMessage = some message ∧ failure.errorMessage = some message
  duration : ∃ ms, row.lastErrorDurationMs = some ms ∧ failure.durationMs = some ms
  age : failure.ageMs = roundToMs (now - row.updatedAt)

/-- **The newest failures of the window**: as many as were asked for, each
run once, and none that is left out is newer than one that is listed. -/
structure Newest (s : Snapshot) (hours : ℤ) (limit : ℕ) (includeRetrying : Bool)
    (runs : List TaskRunModel) : Prop where
  failing : ∀ row ∈ runs, row ∈ s.cohort hours ∧ Failing includeRetrying row
  once : (runs.map (·.runId)).Nodup
  sorted : runs.Pairwise UpdatedLe
  length : runs.length =
    min limit ((s.cohort hours).filter fun row => Failing includeRetrying row).length
  rest : ∀ row ∈ s.cohort hours, Failing includeRetrying row → row ∉ runs →
    ∀ listed ∈ runs, row.updatedAt ≤ listed.updatedAt

variable {s : Snapshot} {hours : ℤ} {limit : ℕ} {includeRetrying : Bool} {row : TaskRunModel}

instance : Std.Total UpdatedLe where
  total a b := Int.le_total b.updatedAt a.updatedAt

instance : IsTrans TaskRunModel UpdatedLe where
  trans _ _ _ hab hbc := Int.le_trans hbc hab

theorem selects_iff : selects includeRetrying row = true ↔ Failing includeRetrying row := by
  cases includeRetrying <;>
    simp [selects, Failing, TaskRunModel.HasStatus, TaskRunStatus.asI32, or_comm]

/-- **The query selects the newest failures.** -/
theorem newest_selectFailures (h : (s.rows.map (·.runId)).Nodup) (hours : ℤ) (limit : ℕ)
    (includeRetrying : Bool) :
    Newest s hours limit includeRetrying (s.selectFailures hours limit includeRetrying) := by
  have hfilter : (s.cohort hours).filter (selects includeRetrying) =
      (s.cohort hours).filter fun row => Failing includeRetrying row := by
    refine List.filter_congr fun row _ => ?_
    rw [Bool.eq_iff_iff, selects_iff, decide_eq_true_iff]
  have hperm := List.perm_insertionSort UpdatedLe
    ((s.cohort hours).filter (selects includeRetrying))
  have hsorted : (((s.cohort hours).filter (selects includeRetrying)).insertionSort
      UpdatedLe).Pairwise UpdatedLe := List.pairwise_insertionSort _ _
  have hsub : ((s.cohort hours).filter (selects includeRetrying)).Sublist s.rows :=
    List.filter_sublist.trans List.filter_sublist
  refine ⟨fun row hrow => ?_, ?_, ?_, ?_, fun row hcohort hfailing hnot listed hlisted => ?_⟩
  · obtain ⟨hcohort, hselects⟩ := List.mem_filter.1 (hperm.mem_iff.1 (List.mem_of_mem_take hrow))
    exact ⟨hcohort, selects_iff.1 hselects⟩
  · have hnodup := h.sublist (hsub.map _)
    exact ((hperm.map _).nodup_iff.2 hnodup).sublist ((List.take_sublist _ _).map _)
  · exact hsorted.sublist (List.take_sublist _ _)
  · rw [Snapshot.selectFailures, List.length_take, List.length_insertionSort, hfilter]
  · have hmem := hperm.mem_iff.2 (List.mem_filter.2 ⟨hcohort, selects_iff.2 hfailing⟩)
    rw [← List.take_append_drop limit (((s.cohort hours).filter
      (selects includeRetrying)).insertionSort UpdatedLe)] at hmem hsorted
    have hdrop := (List.mem_append.1 hmem).resolve_left hnot
    exact (List.pairwise_append.1 hsorted).2.2 listed hlisted row hdrop

/-- A failed run is read, with what its attempt recorded. -/
theorem exists_queueFailure (h : Recorded row) (hfailing : Failing includeRetrying row) :
    ∃ failure, queueFailure s.now row = .ok failure ∧ failure.Tells s.now row := by
  obtain ⟨st, hst, hended⟩ : ∃ st, row.HasStatus st ∧
      (st = .errorWillRetry ∨ st = .completeFailure) := by
    rcases hfailing with hst | ⟨-, hst⟩
    · exact ⟨_, hst, Or.inr rfl⟩
    · exact ⟨_, hst, Or.inl rfl⟩
  have hrecorded : row.HasStatus .errorWillRetry ∨ row.HasStatus .completeFailure := by
    rcases hended with rfl | rfl
    · exact Or.inl hst
    · exact Or.inr hst
  obtain ⟨hduration, hcode, hmessage⟩ := h.failed hrecorded
  obtain ⟨ms, hms⟩ := Option.isSome_iff_exists.1 hduration
  obtain ⟨code, hcode⟩ := Option.isSome_iff_exists.1 hcode
  obtain ⟨message, hmessage⟩ := Option.isSome_iff_exists.1 hmessage
  have hread : TaskRunStatus.fromI32 row.statusCode = .ok st :=
    TaskRunStatus.fromI32_eq_ok.2 hst.symm
  unfold queueFailure
  rw [hread]
  exact ⟨_, rfl, rfl, rfl, ⟨st, hst, rfl⟩, ⟨code, hcode, hcode⟩, ⟨message, hmessage, hmessage⟩,
    ⟨ms, hms, hms⟩, rfl⟩

theorem exists_mapM (h : ∀ row ∈ s.rows, Recorded row) {runs : List TaskRunModel}
    (hruns : ∀ row ∈ runs, row ∈ s.cohort hours ∧ Failing includeRetrying row) :
    ∃ failures, runs.mapM (queueFailure s.now) = .ok failures ∧
      List.Forall₂ (fun failure row => failure.Tells s.now row) failures runs := by
  induction runs with
  | nil => exact ⟨[], rfl, List.Forall₂.nil⟩
  | cons row runs ih =>
    obtain ⟨hcohort, hfailing⟩ := hruns row List.mem_cons_self
    obtain ⟨failure, hfailure, htells⟩ :=
      exists_queueFailure (s := s) (h row (List.mem_filter.1 hcohort).1) hfailing
    obtain ⟨failures, hfailures, hrest⟩ := ih fun r hr => hruns r (List.mem_cons_of_mem _ hr)
    refine ⟨failure :: failures, ?_, List.Forall₂.cons htells hrest⟩
    rw [List.mapM_cons, hfailure, hfailures]
    rfl

/-- **The listing answers with the newest failures there are**, whatever
state of the machine it reads. -/
theorem queue_failures_newest {T : Type} [WebhookTask T] {m : TaskMaster} (h : s.Of T m)
    (hours : ℤ) (limit : ℕ) (includeRetrying : Bool) :
    ∃ runs failures,
      queueFailures s hours limit includeRetrying = .ok ⟨hours, includeRetrying, failures⟩ ∧
      Newest s hours limit includeRetrying runs ∧
      List.Forall₂ (fun failure row => failure.Tells s.now row) failures runs := by
  have hrecorded := h.recorded
  obtain ⟨state, hreaches, hrows⟩ := h
  have hnodup : (s.rows.map (·.runId)).Nodup := hrows ▸ hreaches.tableInv.unique.nodup_runId
  have hnewest := newest_selectFailures hnodup hours limit includeRetrying
  obtain ⟨failures, hfailures, htells⟩ := exists_mapM hrecorded hnewest.failing
  refine ⟨_, failures, ?_, hnewest, htells⟩
  rw [queueFailures, hfailures]
  rfl

/-- Two runs fail for good, and a third is to be retried. -/
def failureSchedule : List (Ev SearchIndexTask) :=
  Ev.submission 0 ⟨7, 1⟩ none "run-1" 0 ++ [.accept 0] ++
    Ev.attempt 0 0 (.error (ApiError.badRequest "no such capture")) 10 ++
    Ev.submission 1 ⟨8, 1⟩ none "run-2" 30 ++ [.accept 1] ++
    Ev.attempt 1 1 (.error (ApiError.badRequest "no such capture")) 40 ++
    Ev.submission 2 ⟨9, 1⟩ none "run-3" 50 ++ [.accept 2] ++
    Ev.attempt 2 2 (.error (ApiError.internal "model overloaded")) 60

/-- The state after that. -/
def failureState : TaskState SearchIndexTask :=
  ((TaskMaster.system SearchIndexTask ⟨3, true⟩).run (TaskState.start [] []) failureSchedule).get
    (by decide)

theorem queue_failures_newest_two :
    ∃ runs failures,
      queueFailures ⟨70, failureState.rows⟩ 24 (failuresLimit (some 2)) true =
        .ok ⟨24, true, failures⟩ ∧
      Newest ⟨70, failureState.rows⟩ 24 (failuresLimit (some 2)) true runs ∧
      List.Forall₂ (fun failure row => failure.Tells 70 row) failures runs :=
  queue_failures_newest ⟨failureState, ⟨failureSchedule, (Option.some_get _).symm⟩, rfl⟩ 24 _ true

end Stats

end Dreamscroll
