import Mathlib.Data.List.Sort
import Dreamscroll.Common.Procedure
import Dreamscroll.Task.Replay
import Dreamscroll.Task.Tracker
import Mathlib.Algebra.Ring.Int.Defs
/-!
# Timing aggregates

`write_status` with the refresh it ends in: one statement writes the row,
one aggregates the most recent samples, and one stores the aggregate over
the one there is. Any number of such calls overlap.

What is stored last need not be what was aggregated last, and a status that
takes a success back is not refreshed for. `timing_aggregate_current` says
which writes and stores are in turn: a run of those only leaves the
aggregate of the rows there are.
-/

namespace Dreamscroll

/-- `TIMING_SAMPLE_LIMIT`. -/
def timingSampleLimit : ℕ := 30

/-- `unique_key = "task_run_timing_task_operation"`. -/
def TaskRunTimingModel.key (row : TaskRunTimingModel) : String × String :=
  (row.taskType, row.operationType)

namespace Timing

/-! ## The aggregate functions

Durations are in microseconds, as the timestamps are, and an aggregate in
milliseconds. -/

/-- `ROUND` of a numeric: half away from zero. -/
def round (num : ℤ) (den : ℕ) : ℤ :=
  if 0 ≤ num then (2 * num + den) / (2 * den) else -((2 * -num + den) / (2 * den))

/-- The cast of a double to `BIGINT`: half to even. -/
def rint (num : ℤ) (den : ℕ) : ℤ :=
  let floor := num / den
  let twice := 2 * (num % den)
  if twice < den then floor
  else if den < twice then floor + 1
  else if floor % 2 = 0 then floor
  else floor + 1

/-- `round(avg(..))`, of whole microseconds in milliseconds. -/
def average (samples : List ℤ) : ℤ := round samples.sum (1000 * samples.length)

/-- `PERCENTILE_CONT`: between the two samples next to the position. -/
def percentileCont (percent : ℕ) (samples : List ℤ) : ℤ :=
  let sorted := samples.insertionSort (· ≤ ·)
  let position := percent * (samples.length - 1)
  let low := sorted.getD (position / 100) 0
  let high := sorted.getD (position / 100 + 1) low
  rint (low * 100 + (high - low) * (position % 100 : ℕ)) 100000

/-- The aggregate of these samples. -/
def estimate (taskType : String) (samples : List ℤ) : TaskTimingEstimate where
  taskType := taskType
  sampleCount := samples.length
  durationMsAvg := average samples
  durationMsP50 := percentileCont 50 samples
  durationMsP75 := percentileCont 75 samples
  durationMsP90 := percentileCont 90 samples

/-- The row an aggregate is stored as. -/
def timingRow (measure : Measure) (estimate : TaskTimingEstimate) : TaskRunTimingModel where
  taskType := estimate.taskType
  operationType := measure.asRef
  sampleCount := estimate.sampleCount
  durationMsAvg := estimate.durationMsAvg
  durationMsP50 := estimate.durationMsP50
  durationMsP75 := estimate.durationMsP75
  durationMsP90 := estimate.durationMsP90

/-! ## The refresh -/

/-- The sample a row is for the measure, if it is one. -/
def duration (row : TaskRunModel) : Measure → Option ℤ
  | .queueWait => row.processingStartedAt.map fun started => started - row.createdAt
  | .processingSuccessful =>
    if row.HasStatus .completeSuccess then row.successDurationMs.map fun ms => ms * 1000 else none

/-- The samples of the most recently updated rows. -/
def recent (taskType : String) (measure : Measure) (rows : List TaskRunModel) : List ℤ :=
  let relevant := rows.filter fun row => row.taskType = taskType && (duration row measure).isSome
  let latest := relevant.insertionSort fun a b => b.updatedAt ≤ a.updatedAt
  (latest.take timingSampleLimit).filterMap fun row => duration row measure

/-- The measure a status refreshes. -/
def measureOf : TaskRunStatus → Option Measure
  | .inProgress => some .queueWait
  | .completeSuccess => some .processingSuccessful
  | _ => none

/-- The insert, on conflict of its key an update. -/
def upsert (timings : List TaskRunTimingModel) (row : TaskRunTimingModel) :
    List TaskRunTimingModel :=
  if timings.any fun other => other.key = row.key then
    timings.map fun other => if other.key = row.key then row else other
  else timings ++ [row]

/-- The two tables. -/
structure Tables where
  taskRuns : List TaskRunModel
  timings : List TaskRunTimingModel

/-- The statement a write of a status is to run next. -/
inductive Place
  | update
  | aggregate (measure : Measure)
  /-- The aggregate, as the samples it was taken of. -/
  | upsert (measure : Measure) (samples : List ℤ)

/-- What it returns. -/
inductive Answer
  | failed
  | missing
  | written
  /-- It is only warned of. -/
  | refreshFailed
  deriving DecidableEq

/-- The statement succeeds, or fails. -/
inductive Outcome
  | runs
  | fails

/-- **`write_status`**, for a task of this type. -/
def writeStatus (taskType : String) : Procedure Tables StatusWrite Outcome Place Answer where
  start _ := .update
  next
    | _, .fails, tables, .update => (tables, .inr .failed)
    | write, .runs, tables, .update =>
      match write.returning tables.taskRuns with
      | none => (tables, .inr .missing)
      | some _ =>
        (⟨write.apply tables.taskRuns, tables.timings⟩,
          match measureOf write.status with
          | none => .inr .written
          | some measure => .inl (.aggregate measure))
    | _, .fails, tables, _ => (tables, .inr .refreshFailed)
    | _, .runs, tables, .aggregate measure =>
      let samples := recent taskType measure tables.taskRuns
      (tables, if samples = [] then .inr .written else .inl (.upsert measure samples))
    | _, .runs, tables, .upsert measure samples =>
      (⟨tables.taskRuns, upsert tables.timings (timingRow measure (estimate taskType samples))⟩,
        .inr .written)

/-- The tables, and where the writes are. -/
abbrev State := Procedure.State Tables StatusWrite Place Answer

/-- A write of a status, and where it is. -/
abbrev Call := Procedure.Call StatusWrite Place Answer

/-- The aggregate of the rows there are: none is stored for no sample. -/
def present (taskType : String) (rows : List TaskRunModel) : Option TaskTimingEstimate :=
  let samples := recent taskType .processingSuccessful rows
  if samples = [] then none else some (estimate taskType samples)

/-- **The stored aggregate is the one of the rows.** -/
def Current (taskType : String) (tables : Tables) : Prop :=
  clientEstimate tables.timings taskType = present taskType tables.taskRuns

/-- No call is in progress, and all refreshes succeeded. -/
def Ended (s : State) : Prop :=
  ∀ call ∈ s.calls, ∃ answer, call.stands = .inr answer ∧ answer ≠ .refreshFailed

/-! ## Writes and stores in turn -/

/-- A refresh at this place is still to read these rows, or has aggregated
what they come to. -/
def Place.WillStore (taskType : String) (rows : List TaskRunModel) : Place → Prop
  | .aggregate .processingSuccessful => True
  | .upsert .processingSuccessful samples => present taskType rows = some (estimate taskType samples)
  | _ => False

/-- Another call will store what these rows come to. -/
def Coming (taskType : String) (rows : List TaskRunModel) (s : State) (c : ℕ) : Prop :=
  ∃ (d : ℕ) (write : StatusWrite) (place : Place), d ≠ c ∧ s.calls[d]? = some ⟨write, .inl place⟩ ∧
    place.WillStore taskType rows

/-- **The statement is in turn**: a status that is not refreshed for changes
the aggregate, no sample is found where an aggregate is stored, and an
aggregate is stored that a write has since changed, only where another call
will store the present one. -/
def InTurn (taskType : String) (s : State) : Procedure.Event StatusWrite Outcome → State → Prop
  | .advance c .runs, _ => ∀ write place, s.calls[c]? = some ⟨write, .inl place⟩ →
    let rows := s.shared.taskRuns
    match place with
    | .update => write.status = .completeSuccess ∨
        present taskType (write.apply rows) = present taskType rows ∨
        Coming taskType (write.apply rows) s c
    | .aggregate .processingSuccessful => recent taskType .processingSuccessful rows ≠ [] ∨
        clientEstimate s.shared.timings taskType = none ∨ Coming taskType rows s c
    | .upsert .processingSuccessful samples =>
      present taskType rows = some (estimate taskType samples) ∨ Coming taskType rows s c
    | _ => True
  | _, _ => True

variable {taskType : String} {rows : List TaskRunModel} {timings : List TaskRunTimingModel}
  {row : TaskRunTimingModel} {s s' : State} {e : Procedure.Event StatusWrite Outcome}
  {es : List (Procedure.Event StatusWrite Outcome)} {c : ℕ}

/-! ## What an upsert leaves -/

theorem find?_upsert_self : (upsert timings row).find? (fun r => r.key = row.key) = some row := by
  unfold upsert
  split_ifs with hany
  · induction timings with
    | nil => cases hany
    | cons other timings ih =>
      rw [List.map_cons]
      by_cases hkey : other.key = row.key
      · rw [if_pos hkey, List.find?_cons, decide_eq_true rfl]
      · rw [if_neg hkey, List.find?_cons_of_neg (by simpa using hkey)]
        rw [List.any_cons, decide_eq_false hkey, Bool.false_or] at hany
        exact ih hany
  · rw [List.find?_append, List.find?_eq_none.2, Option.none_or]
    · rw [List.find?_cons, decide_eq_true rfl]
    · intro other hother hkey
      exact hany (List.any_eq_true.2 ⟨other, hother, hkey⟩)

/-- A row of another key is found as before. -/
theorem find?_upsert_of_ne {key : String × String} (hne : row.key ≠ key) :
    (upsert timings row).find? (fun r => r.key = key) = timings.find? fun r => r.key = key := by
  have hrow : decide (row.key = key) = false := decide_eq_false hne
  unfold upsert
  split_ifs with hany
  · clear hany
    induction timings with
    | nil => rfl
    | cons other timings ih =>
      rw [List.map_cons]
      by_cases hkey : other.key = row.key
      · rw [if_pos hkey, List.find?_cons, List.find?_cons, hkey, hrow, ih]
      · rw [if_neg hkey, List.find?_cons, List.find?_cons, ih]
  · rw [List.find?_append, List.find?_cons, hrow, List.find?_nil, Option.or_none]

theorem clientEstimate_eq : clientEstimate timings taskType =
    (timings.find? fun row => row.key = (taskType, Measure.processingSuccessful.asRef)).map
      fun row => ⟨row.taskType, row.sampleCount, row.durationMsAvg, row.durationMsP50,
        row.durationMsP75, row.durationMsP90⟩ := by
  unfold clientEstimate
  congr 2
  funext row
  rw [← Bool.decide_and]
  exact decide_eq_decide.2 Prod.mk_inj.symm

theorem clientEstimate_upsert {estimate : TaskTimingEstimate} (htype : estimate.taskType = taskType) :
    clientEstimate (upsert timings (timingRow .processingSuccessful estimate)) taskType =
      some estimate := by
  rw [clientEstimate_eq, ← htype, show (estimate.taskType, Measure.processingSuccessful.asRef) =
    (timingRow .processingSuccessful estimate).key from rfl, find?_upsert_self]
  rfl

theorem clientEstimate_upsert_queueWait {estimate : TaskTimingEstimate} :
    clientEstimate (upsert timings (timingRow .queueWait estimate)) taskType =
      clientEstimate timings taskType := by
  rw [clientEstimate_eq, clientEstimate_eq, find?_upsert_of_ne]
  intro hkey
  exact absurd (show Measure.queueWait.asRef = Measure.processingSuccessful.asRef from
    (Prod.ext_iff.1 hkey).2) (by decide)

/-! ## An aggregate of the rows is stored, or coming -/

/-- What every step in turn keeps. -/
def Kept (taskType : String) (s : State) : Prop :=
  (∃ call : Call, call ∈ s.calls ∧ call.stands = .inr .refreshFailed) ∨
    Current taskType s.shared ∨ ∃ (d : ℕ) (write : StatusWrite) (place : Place), s.calls[d]? = some ⟨write, .inl place⟩ ∧
      place.WillStore taskType s.shared.taskRuns

variable {write : StatusWrite} {place : Place} {tables : Tables} {stands : Place ⊕ Answer}

/-- Another call that will store what the rows come to still does. -/
theorem Coming.kept (h : Coming taskType rows s c) :
    Kept taskType (s.advanced c write (⟨rows, timings⟩, stands)) := by
  obtain ⟨d, write', place', hne, hd, hstore⟩ := h
  exact Or.inr (Or.inr ⟨d, write', place', (getElem?_set_of_ne hne).trans hd, hstore⟩)

theorem Place.WillStore.congr {rows' : List TaskRunModel} (h : place.WillStore taskType rows)
    (hpresent : present taskType rows' = present taskType rows) :
    place.WillStore taskType rows' := by
  cases place with
  | update => exact h
  | aggregate measure => cases measure <;> exact h
  | upsert measure samples =>
    cases measure with
    | queueWait => exact h
    | processingSuccessful => exact hpresent.trans h

/-- **A statement that changes neither the aggregate of the rows nor the
stored one**, of a call that was to store nothing. -/
theorem Kept.quiet (hk : Kept taskType s) (hc : s.calls[c]? = some ⟨write, .inl place⟩)
    (hplace : ¬ place.WillStore taskType s.shared.taskRuns)
    (hpresent : present taskType tables.taskRuns = present taskType s.shared.taskRuns)
    (hestimate : clientEstimate tables.timings taskType =
      clientEstimate s.shared.timings taskType) :
    Kept taskType (s.advanced c write (tables, stands)) := by
  rcases hk with ⟨call, hcall, hfailed⟩ | hcurrent | ⟨d, write', place', hd, hstore⟩
  · obtain ⟨d, hd⟩ := List.mem_iff_getElem?.1 hcall
    have hne : d ≠ c := by
      rintro rfl
      rw [hc] at hd
      cases hd
      cases hfailed
    exact Or.inl ⟨call, mem_of_getElem? ((getElem?_set_of_ne hne).trans hd), hfailed⟩
  · exact Or.inr (Or.inl (hestimate.trans (Eq.trans hcurrent hpresent.symm)))
  · have hne : d ≠ c := by
      rintro rfl
      rw [hc] at hd
      cases hd
      exact hplace hstore
    exact Or.inr (Or.inr ⟨d, write', place', (getElem?_set_of_ne hne).trans hd,
      hstore.congr hpresent⟩)

theorem Kept.invoke (hk : Kept taskType s) : Kept taskType (s.invoked write place) := by
  rcases hk with ⟨call, hcall, hfailed⟩ | hcurrent | ⟨d, write', place', hd, hstore⟩
  · exact Or.inl ⟨call, List.mem_append_left _ hcall, hfailed⟩
  · exact Or.inr (Or.inl hcurrent)
  · exact Or.inr (Or.inr ⟨d, write', place', getElem?_concat_of_some hd, hstore⟩)

/-- A refresh that fails. -/
theorem kept_of_refreshFailed (hc : s.calls[c]? = some ⟨write, .inl place⟩) :
    Kept taskType (s.advanced c write (tables, .inr .refreshFailed)) :=
  Or.inl ⟨⟨write, .inr .refreshFailed⟩, mem_of_getElem? (getElem?_set_of_some hc), rfl⟩

/-- The call itself will store what the rows come to. -/
theorem kept_of_willStore (hc : s.calls[c]? = some ⟨write, .inl place⟩) {place' : Place}
    (hstore : place'.WillStore taskType tables.taskRuns) :
    Kept taskType (s.advanced c write (tables, .inl place')) :=
  Or.inr (Or.inr ⟨c, write, place', getElem?_set_of_some hc, hstore⟩)

/-- **The update of the row.** -/
theorem Kept.update (hk : Kept taskType s) (hc : s.calls[c]? = some ⟨write, .inl .update⟩)
    (hin : write.status = .completeSuccess ∨
      present taskType (write.apply s.shared.taskRuns) = present taskType s.shared.taskRuns ∨
      Coming taskType (write.apply s.shared.taskRuns) s c) :
    Kept taskType (s.advanced c write ((writeStatus taskType).next write .runs s.shared .update)) := by
  simp only [writeStatus]
  split
  · exact hk.quiet hc id rfl rfl
  · rcases hin with hsuccess | hsame | hcoming
    · rw [hsuccess]
      exact kept_of_willStore hc trivial
    · exact hk.quiet hc id hsame rfl
    · exact hcoming.kept

/-- **The aggregate of the samples.** -/
theorem Kept.aggregate (hc : s.calls[c]? = some ⟨write, .inl (.aggregate .processingSuccessful)⟩)
    (hin : recent taskType .processingSuccessful s.shared.taskRuns ≠ [] ∨
      clientEstimate s.shared.timings taskType = none ∨
      Coming taskType s.shared.taskRuns s c) :
    Kept taskType (s.advanced c write ((writeStatus taskType).next write .runs s.shared
      (.aggregate .processingSuccessful))) := by
  simp only [writeStatus]
  split_ifs with hnone
  · rcases hin with hsome | hstored | hcoming
    · exact absurd hnone hsome
    · exact Or.inr (Or.inl (hstored.trans (if_pos hnone).symm))
    · exact hcoming.kept
  · exact kept_of_willStore hc (if_neg hnone)

/-- **A step in turn keeps it.** -/
theorem Kept.step (hk : Kept taskType s) (h : (writeStatus taskType).system.step s e = some s')
    (hin : InTurn taskType s e s') : Kept taskType s' := by
  rcases Procedure.step_cases h with ⟨op, rfl, rfl⟩ | ⟨c, outcome, write, place, rfl, hc, rfl⟩
  · exact hk.invoke
  · cases outcome with
    | fails =>
      cases place with
      | update => exact hk.quiet hc id rfl rfl
      | aggregate measure => exact kept_of_refreshFailed hc
      | upsert measure samples => exact kept_of_refreshFailed hc
    | runs =>
      have hin := hin write place hc
      cases place with
      | update => exact hk.update hc hin
      | aggregate measure =>
        cases measure with
        | queueWait => exact hk.quiet hc id rfl rfl
        | processingSuccessful => exact Kept.aggregate hc hin
      | upsert measure samples =>
        cases measure with
        | queueWait => exact hk.quiet hc id rfl clientEstimate_upsert_queueWait
        | processingSuccessful =>
          rcases hin with hpresent | hcoming
          · exact Or.inr (Or.inl ((clientEstimate_upsert rfl).trans hpresent.symm))
          · exact hcoming.kept

/-- **The timing aggregate loses no success** in a run whose statements are
all in turn: with no call in progress, and no refresh failed, the stored
aggregate is that of the rows. -/
theorem timing_aggregate_current (taskType : String) (tables : Tables)
    (hstart : Current taskType tables) (es : List (Procedure.Event StatusWrite Outcome))
    (s : State) (hrun : (writeStatus taskType).system.run (.start tables) es = some s)
    (hin : (writeStatus taskType).system.Along (InTurn taskType) (.start tables) es)
    (hended : Ended s) : Current taskType s.shared := by
  have hkept : Kept taskType s :=
    System.run_inv_along (fun _ _ _ hk hstep hin => Kept.step hk hstep hin)
      (Or.inr (Or.inl hstart)) hrun hin
  rcases hkept with ⟨call, hcall, hfailed⟩ | hcurrent | ⟨d, write, place, hd, -⟩
  · obtain ⟨answer, hanswer, hne⟩ := hended call hcall
    cases hfailed.symm.trans hanswer
    exact absurd rfl hne
  · exact hcurrent
  · obtain ⟨answer, hanswer, -⟩ := hended _ (mem_of_getElem? hd)
    cases hanswer

/-! ## Two successes that overlap -/

/-- A run whose first attempt has begun. -/
def begunRow (runId : String) (entityId : ℤ) : TaskRunModel where
  logicalId := "u1-spark-capture" ++ toString entityId
  runId := runId
  runNumber := 1
  backfillId := none
  taskType := "spark"
  entityOwnerId := 1
  entityType := "capture"
  entityId := entityId
  taskPayload := none
  statusCode := 2
  attempts := 1
  createdAt := 0
  processingStartedAt := some 0
  lastErrorCode := none
  lastErrorMessage := none
  lastErrorDurationMs := none
  successDurationMs := none
  updatedAt := 0

/-- Two runs in progress, and no aggregate. -/
def begun : Tables := ⟨[begunRow "a" 1, begunRow "b" 2], []⟩

/-- The attempt of this run succeeds. -/
def success (runId : String) (now : Timestamp) : StatusWrite :=
  ⟨runId, .completeSuccess, 1, now, .outcome none⟩

/-- Two runs succeed at once. The first stores an aggregate the second has
since changed, and the second is still to store its own. -/
def twoSuccesses : List (Procedure.Event StatusWrite Outcome) :=
  [.invoke (success "a" 1000000), .invoke (success "b" 2000000), .advance 0 .runs, .advance 0 .runs,
    .advance 1 .runs, .advance 0 .runs, .advance 1 .runs, .advance 1 .runs]

theorem timing_aggregate_kept : ∃ s, (writeStatus "spark").system.run (.start begun) twoSuccesses =
    some s ∧ Current "spark" s.shared := by
  refine ⟨_, rfl, timing_aggregate_current "spark" begun rfl twoSuccesses _ rfl ?_ ?_⟩
  · intro s₁ h₁
    cases h₁
    refine ⟨trivial, fun s₂ h₂ => ?_⟩
    cases h₂
    refine ⟨trivial, fun s₃ h₃ => ?_⟩
    cases h₃
    refine ⟨?_, fun s₄ h₄ => ?_⟩
    · intro write place hc
      cases hc
      exact Or.inl rfl
    cases h₄
    refine ⟨?_, fun s₅ h₅ => ?_⟩
    · intro write place hc
      cases hc
      exact Or.inl (by decide)
    cases h₅
    refine ⟨?_, fun s₆ h₆ => ?_⟩
    · intro write place hc
      cases hc
      exact Or.inl rfl
    cases h₆
    refine ⟨?_, fun s₇ h₇ => ?_⟩
    · intro write place hc
      cases hc
      exact Or.inr ⟨1, _, _, by decide, rfl, trivial⟩
    cases h₇
    refine ⟨?_, fun s₈ h₈ => ?_⟩
    · intro write place hc
      cases hc
      exact Or.inl (by decide)
    cases h₈
    refine ⟨?_, trivial⟩
    intro write place hc
    cases hc
    exact Or.inl rfl
  · intro call hcall
    rcases List.mem_cons.1 hcall with rfl | hcall
    · exact ⟨.written, rfl, by decide⟩
    · rw [List.mem_singleton.1 hcall]
      exact ⟨.written, rfl, by decide⟩

/-- **The second success is lost**: the first call aggregates before it is
written, and stores after it is stored. -/
theorem timing_aggregate_lost : Current "spark" begun ∧
    ∃ s, (writeStatus "spark").system.run (.start begun)
      [.invoke (success "a" 1000000), .advance 0 .runs, .advance 0 .runs,
        .invoke (success "b" 2000000), .advance 1 .runs, .advance 1 .runs, .advance 1 .runs,
        .advance 0 .runs] = some s ∧ Ended s ∧
      (clientEstimate s.shared.timings "spark").map (·.sampleCount) = some 1 ∧
      (present "spark" s.shared.taskRuns).map (·.sampleCount) = some 2 ∧
      ¬ Current "spark" s.shared := by
  refine ⟨rfl, _, rfl, ?_, rfl, rfl, ?_⟩
  · intro call hcall
    rcases List.mem_cons.1 hcall with rfl | hcall
    · exact ⟨.written, rfl, by decide⟩
    · rw [List.mem_singleton.1 hcall]
      exact ⟨.written, rfl, by decide⟩
  · intro hcurrent
    exact absurd (congrArg (Option.map (·.sampleCount)) hcurrent) (by decide)

end Timing

end Dreamscroll
