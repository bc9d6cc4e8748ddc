import Dreamscroll.Common.Rfc3339
import Dreamscroll.Service.LastWriter
import Dreamscroll.Sse.Event
import Dreamscroll.Task.Tracker
/-!
# When a refresh is suppressed

A region of the page carries the database time that was read before its
capture was. When a run succeeds, the page compares the time of the event
with it, text against text, and fetches the region again where the event is
newer. Both texts are read exactly (`isNewerThanSnapshot_eq`), and where the
event is not newer the region was rendered from reads that saw the run's
projection (`current_if_not_newer`).
-/

namespace Dreamscroll

/-! ## The comparison -/

/-- The two groups of
`/^(\d{4}-\d\d-\d\dT\d\d:\d\d:\d\d)(?:\.(\d+))?(?:Z|\+00:00)$/`. -/
def matchTimestamp (text : List Char) : Option (List Char × Option (List Char)) :=
  let isZone (zone : List Char) : Bool := zone = ['Z'] || zone = ['+', '0', '0', ':', '0', '0']
  if matchesShape timestampShape (text.take 19) then
    match text.drop 19 with
    | '.' :: rest =>
      let digits := rest.takeWhile Char.isDigit
      if digits ≠ [] && isZone (rest.dropWhile Char.isDigit) then some (text.take 19, some digits)
      else none
    | zone => if isZone zone then some (text.take 19, none) else none
  else none

/-- `text.padEnd(9, '0')`. -/
def padEnd9 (text : List Char) : List Char := text ++ List.replicate (9 - text.length) '0'

/-- `parseUtcTimestampNanoseconds`: the whole seconds by `Date.parse`, and the
first nine digits of the fraction. -/
def parseUtcTimestampNanoseconds (timestamp : List Char) : Option ℤ := do
  let (whole, fraction) ← matchTimestamp timestamp
  let second ← dateParse (whole ++ ['Z'])
  let fractionalNanoseconds := padEnd9 ((fraction.getD []).take 9)
  return second.tdiv 1000 * 1000000000 + Nat.ofDigitChars 10 fractionalNanoseconds 0

/-- `none` is a timestamp that is not a string. -/
def isNewerThanSnapshot (eventTimestamp snapshotTimestamp : Option (List Char)) : Bool :=
  match eventTimestamp, snapshotTimestamp with
  | some eventTimestamp, some snapshotTimestamp =>
    match parseUtcTimestampNanoseconds eventTimestamp,
      parseUtcTimestampNanoseconds snapshotTimestamp with
    | some eventTime, some snapshotTime => snapshotTime < eventTime
    | _, _ => false
  | _, _ => false

variable {text text' : List Char} {t t' : ℤ} {c : CivilTime} {digits zone : List Char}

/-- The fraction is padded to nanoseconds. -/
theorem ofDigitChars_padEnd9 (h : digits.length ≤ 9) :
    Nat.ofDigitChars 10 (padEnd9 (digits.take 9)) 0 = fractionNanoseconds digits := by
  rw [List.take_of_length_le h, padEnd9, Nat.ofDigitChars_append, Nat.ofDigitChars_replicate_zero,
    fractionNanoseconds, Nat.mul_comm]

theorem matchTimestamp_text (hdigits : ∀ d ∈ digits, d.isDigit = true)
    (hzone : zone = ['Z'] ∨ zone = "+00:00".toList) :
    matchTimestamp (c.text ++ (if digits = [] then [] else '.' :: digits) ++ zone) =
      some (c.text, if digits = [] then none else some digits) := by
  have htake : (c.text ++ (if digits = [] then [] else '.' :: digits) ++ zone).take 19 = c.text := by
    rw [List.append_assoc, List.take_append_of_le_length (by rw [length_text]), ← length_text c,
      List.take_length]
  have hdrop : (c.text ++ (if digits = [] then [] else '.' :: digits) ++ zone).drop 19 =
      (if digits = [] then [] else '.' :: digits) ++ zone := by
    rw [List.append_assoc, ← length_text c, List.drop_left]
  have hshape : matchesShape timestampShape c.text = true := by
    have h := matchesShape_text c [] []
    rwa [List.append_nil, List.append_nil] at h
  have hzone' : zone = ['Z'] ∨ zone = ['+', '0', '0', ':', '0', '0'] := hzone
  unfold matchTimestamp
  simp only [htake, hdrop, hshape, if_true]
  by_cases hnil : digits = []
  · rw [if_pos hnil, if_pos hnil, List.nil_append]
    rcases hzone' with rfl | rfl <;> rfl
  · have hspan : ∀ d ∈ digits, Char.isDigit d = true := hdigits
    have hstop : (digits ++ zone).takeWhile Char.isDigit = digits ∧
        (digits ++ zone).dropWhile Char.isDigit = zone := by
      rw [List.takeWhile_append_of_pos hspan, List.dropWhile_append_of_pos hspan]
      rcases hzone' with rfl | rfl
      · exact ⟨List.append_nil _, rfl⟩
      · exact ⟨List.append_nil _, rfl⟩
    rw [if_neg hnil, if_neg hnil, List.cons_append]
    simp only [hstop.1, hstop.2]
    rcases hzone' with rfl | rfl <;> simp [hnil]

/-- **The script reads the instant of the text.** -/
theorem parseUtcTimestampNanoseconds_eq (h : Rfc3339 text t) :
    parseUtcTimestampNanoseconds text = some t := by
  obtain ⟨c, digits, zone, hvalid, hlen, hdigits, hzone, rfl, rfl⟩ := h.exists_civil
  have hfraction : ((if digits = [] then none else some digits).getD [] : List Char) = digits := by
    split_ifs with hnil
    · exact hnil.symm
    · rfl
  unfold parseUtcTimestampNanoseconds
  rw [matchTimestamp_text hdigits hzone]
  simp only [Option.bind_eq_bind, Option.bind_some, dateParse_text hvalid, hfraction,
    ofDigitChars_padEnd9 hlen]
  rw [Int.mul_tdiv_cancel _ (by decide)]
  rfl

/-- **The comparison is exact.** -/
theorem isNewerThanSnapshot_eq (h : Rfc3339 text t) (h' : Rfc3339 text' t') :
    isNewerThanSnapshot (some text) (some text') = decide (t' < t) := by
  unfold isNewerThanSnapshot
  simp only [parseUtcTimestampNanoseconds_eq h, parseUtcTimestampNanoseconds_eq h']

/-! ## Statements in the order of the database -/

/-- A rendered region: the time read first, and what each of its reads
found. -/
structure Region where
  id : ℕ
  snapshotAt : Timestamp
  reads : List ProjectionState

/-- The tables, the events published, and the regions the pages hold. -/
structure SnapshotState where
  /-- The time of the last statement. -/
  clock : Timestamp
  projections : ProjectionState
  rows : List TaskRunModel
  /-- The events of the runs that succeeded, each with the call that wrote
  the projection. -/
  published : List (ProjectionCall × TaskStatusUpdate)
  regions : List Region

/-- A statement of the server, or a page that reads. -/
inductive Statement
  /-- The transaction of `insert_illumination_v2`. -/
  | project (call : ProjectionCall)
  /-- The success of the attempt, which publishes the row it writes. -/
  | succeed (call : ProjectionCall) (attempts : ℕ) (estimate : Option TaskTimingEstimate)
  /-- Any other write of a status. -/
  | write (w : StatusWrite)
  | insert (row : TaskRunModel)
  /-- `SELECT CURRENT_TIMESTAMP`. -/
  | snapshot (region : ℕ)
  /-- One statement of `get_capture`. -/
  | read (region : ℕ)

namespace SnapshotState

/-- Nothing has happened yet. -/
def start (q : ProjectionSequences) : SnapshotState := ⟨0, .start q, [], [], []⟩

/-- The call has been committed. -/
def Committed (db : ProjectionState) (call : ProjectionCall) : Prop :=
  call ∈ db.commits.map Prod.fst

instance (db : ProjectionState) (call : ProjectionCall) : Decidable (Committed db call) :=
  inferInstanceAs (Decidable (call ∈ db.commits.map Prod.fst))

/-- `record_outcome` of a success, as its statement runs at `now`. -/
def successWrite (call : ProjectionCall) (attempts : ℕ) (now : Timestamp) : StatusWrite :=
  ⟨call.taskRunId, .completeSuccess, attempts, now, .outcome none⟩

/-- What a statement does at its time. -/
def exec (s : SnapshotState) (now : Timestamp) : Statement → Option SnapshotState
  | .project call => some { s with projections := s.projections.step call }
  | .succeed call attempts estimate =>
    if Committed s.projections call then
      let w := successWrite call attempts now
      let event := (w.returning s.rows).bind fun row => TaskStatusUpdate.fromRow row estimate
      some { s with
        rows := w.apply s.rows
        published := s.published ++ event.toList.map fun event => (call, event) }
    else none
  | .write w => some { s with rows := StatusWrite.apply { w with now := now } s.rows }
  | .insert row => some { s with rows := s.rows ++ [row] }
  | .snapshot region => some { s with regions := s.regions ++ [⟨region, now, []⟩] }
  | .read region => some { s with
      regions := s.regions.map fun r =>
        if r.id = region then { r with reads := r.reads ++ [s.projections] } else r }

/-- Each statement has a later time than those before it. -/
def step (s : SnapshotState) (e : Timestamp × Statement) : Option SnapshotState :=
  if s.clock < e.1 then (s.exec e.1 e.2).map fun s' => { s' with clock := e.1 } else none

/-- The statements in the order of their times. -/
def system : System SnapshotState (Timestamp × Statement) := ⟨step⟩

/-- **The read saw the projection**: its call was committed, and the run has
its row. -/
structure Saw (db : ProjectionState) (call : ProjectionCall) : Prop where
  committed : Committed db call
  row : ∃ row ∈ db.tables.illuminations, row.taskRunId = call.taskRunId

/-- Times do not run ahead of the clock, and a region whose time is not
before an event saw its projection. -/
structure Timely (q : ProjectionSequences) (s : SnapshotState) : Prop where
  reachable : Dreamscroll.projections.Reachable (.start q) s.projections
  event : ∀ p ∈ s.published, p.2.timestamp ≤ s.clock ∧ Committed s.projections p.1
  region : ∀ r ∈ s.regions, r.snapshotAt ≤ s.clock ∧
    (∀ db ∈ r.reads, Dreamscroll.projections.Reachable (.start q) db) ∧
    ∀ p ∈ s.published, p.2.timestamp ≤ r.snapshotAt → ∀ db ∈ r.reads, Committed db p.1

end SnapshotState

open SnapshotState

variable {q : ProjectionSequences} {s s' : SnapshotState} {call : ProjectionCall} {now : Timestamp}

theorem committed_step {db : ProjectionState} {call' : ProjectionCall} (h : Committed db call) :
    Committed (db.step call') call := by
  unfold ProjectionState.step Committed at *
  split
  · rw [List.map_append]
    exact List.mem_append_left _ h
  · exact h

/-- The event of a success has the time of its statement. -/
theorem timestamp_of_success {attempts : ℕ} {rows : List TaskRunModel} {event : TaskStatusUpdate}
    {estimate : Option TaskTimingEstimate} (h : ((successWrite call attempts now).returning rows).bind
      (fun row => TaskStatusUpdate.fromRow row estimate) = some event) : event.timestamp = now := by
  obtain ⟨row, hrow, hevent⟩ := Option.bind_eq_some_iff.1 h
  obtain ⟨old, -, rfl⟩ := Option.map_eq_some_iff.1 hrow
  unfold TaskStatusUpdate.fromRow at hevent
  split at hevent
  · cases hevent
  · cases hevent
    rfl

/-- **The time that passes** leaves everything on time. -/
theorem SnapshotState.Timely.later (h : Timely q s) (hnow : s.clock ≤ now) : Timely q { s with clock := now } where
  reachable := h.reachable
  event p hp := ⟨(h.event p hp).1.trans hnow, (h.event p hp).2⟩
  region r hr := ⟨(h.region r hr).1.trans hnow, (h.region r hr).2⟩

theorem SnapshotState.Timely.exec {stmt : Statement} (h : Timely q s) (hnow : s.clock < now)
    (hexec : s.exec now stmt = some s') : Timely q { s' with clock := now } := by
  have hlater := h.later hnow.le
  cases stmt with
  | project call =>
    cases hexec
    refine ⟨?_, fun p hp => ⟨(hlater.event p hp).1, committed_step (hlater.event p hp).2⟩,
      hlater.region⟩
    exact h.reachable.step rfl
  | succeed call attempts estimate =>
    change (if Committed s.projections call then _ else _) = _ at hexec
    split_ifs at hexec with hcommitted
    cases hexec
    have hnew : ∀ p ∈ s.published ++ ((((successWrite call attempts now).returning s.rows).bind
        fun row => TaskStatusUpdate.fromRow row estimate).toList.map fun event => (call, event)),
        p ∈ s.published ∨ p.1 = call ∧ p.2.timestamp = now := by
      intro p hp
      rcases List.mem_append.1 hp with hp | hp
      · exact Or.inl hp
      · obtain ⟨event, hevent, rfl⟩ := List.mem_map.1 hp
        exact Or.inr ⟨rfl, timestamp_of_success (Option.mem_toList.1 hevent)⟩
    refine ⟨h.reachable, fun p hp => ?_, fun r hr => ?_⟩
    · rcases hnew p hp with hp | ⟨hcall, htime⟩
      · exact hlater.event p hp
      · rw [hcall]
        exact ⟨htime.le, hcommitted⟩
    · obtain ⟨hclock, hreads, hsaw⟩ := hlater.region r hr
      refine ⟨hclock, hreads, fun p hp htime db hdb => ?_⟩
      rcases hnew p hp with hp | ⟨-, hnow'⟩
      · exact hsaw p hp htime db hdb
      · -- the new event is later than every snapshot taken
        have hbefore : r.snapshotAt < now := (h.region r hr).1.trans_lt hnow
        rw [hnow'] at htime
        exact absurd htime (not_le.2 hbefore)
  | write w =>
    cases hexec
    exact ⟨hlater.reachable, hlater.event, hlater.region⟩
  | insert row =>
    cases hexec
    exact ⟨hlater.reachable, hlater.event, hlater.region⟩
  | snapshot region =>
    cases hexec
    refine ⟨h.reachable, hlater.event, fun r hr => ?_⟩
    rcases List.mem_append.1 hr with hr | hr
    · exact hlater.region r hr
    · rw [List.mem_singleton.1 hr]
      exact ⟨le_refl _, List.forall_mem_nil _, fun _ _ _ => List.forall_mem_nil _⟩
  | read region =>
    cases hexec
    refine ⟨h.reachable, hlater.event, fun r hr => ?_⟩
    obtain ⟨r₀, hr₀, rfl⟩ := List.mem_map.1 hr
    obtain ⟨hclock, hreads, hsaw⟩ := hlater.region r₀ hr₀
    by_cases hid : r₀.id = region
    · rw [if_pos hid]
      refine ⟨hclock, fun db hdb => ?_, fun p hp htime db hdb => ?_⟩
      · rcases List.mem_append.1 hdb with hdb | hdb
        · exact hreads db hdb
        · rw [List.mem_singleton.1 hdb]
          exact h.reachable
      · rcases List.mem_append.1 hdb with hdb | hdb
        · exact hsaw p hp htime db hdb
        · rw [List.mem_singleton.1 hdb]
          -- what is read now holds every commit published so far
          exact (h.event p hp).2
    · rw [if_neg hid]
      exact ⟨hclock, hreads, hsaw⟩

theorem timely_of_run {es : List (Timestamp × Statement)}
    (h : SnapshotState.system.run (SnapshotState.start q) es = some s) : Timely q s := by
  refine System.run_inv ?_ ⟨System.Reachable.refl, List.forall_mem_nil _, List.forall_mem_nil _⟩ h
  intro s e s' hs hstep
  change (if s.clock < e.1 then _ else _) = _ at hstep
  split_ifs at hstep with hclock
  obtain ⟨t, ht, rfl⟩ := Option.map_eq_some_iff.1 hstep
  exact hs.exec hclock ht

/-- **A refresh is suppressed only where the page is current.** Whatever the
order of the statements: if the event of a success is not newer than the
time a region was rendered with, each read of the region saw the projection
of that run. The comparison of two texts is the comparison of their
instants. -/
theorem current_if_not_newer (rfc3339 : Timestamp → List Char) {es : List (Timestamp × Statement)}
    (h : SnapshotState.system.run (SnapshotState.start q) es = some s) :
    (∀ p ∈ s.published, ∀ region ∈ s.regions,
      Rfc3339 (rfc3339 p.2.timestamp) (1000 * p.2.timestamp) →
      Rfc3339 (rfc3339 region.snapshotAt) (1000 * region.snapshotAt) →
      isNewerThanSnapshot (some (rfc3339 p.2.timestamp)) (some (rfc3339 region.snapshotAt)) =
        false → ∀ db ∈ region.reads, Saw db p.1) ∧
    ∀ text text' t t', Rfc3339 text t → Rfc3339 text' t' →
      isNewerThanSnapshot (some text) (some text') = decide (t' < t) := by
  have htimely := timely_of_run h
  refine ⟨fun p hp region hregion hevent hsnapshot hnewer db hdb => ?_,
    fun text text' t t' htext htext' => isNewerThanSnapshot_eq htext htext'⟩
  rw [isNewerThanSnapshot_eq hevent hsnapshot, decide_eq_false_iff_not] at hnewer
  obtain ⟨-, hreads, hsaw⟩ := htimely.region region hregion
  have hle : p.2.timestamp ≤ region.snapshotAt :=
    le_of_mul_le_mul_left (not_lt.1 hnewer) (by decide)
  have hcommitted : Committed db p.1 := hsaw p hp hle db hdb
  obtain ⟨calls, hcalls⟩ := hreads db hdb
  obtain ⟨commit, hcommit, hcall⟩ := List.mem_map.1 hcommitted
  obtain ⟨row, hrow, hrun⟩ := (projectionInv_of_run hcalls).stored commit hcommit
  rw [hcall] at hrun
  exact ⟨hcommitted, row, hrow, hrun⟩

/-! ### A success and a region after it -/

/-- The projection of a run. -/
def snapshotCall : ProjectionCall := ⟨aCapture, "run-1", some 1, communityIllumination, []⟩

/-- The row of the run, queued. -/
def snapshotRow : TaskRunModel where
  logicalId := "u1-illuminate-capture9"
  runId := "run-1"
  runNumber := 1
  backfillId := none
  taskType := "illuminate"
  entityOwnerId := 1
  entityType := "capture"
  entityId := 9
  taskPayload := none
  statusCode := 1
  attempts := 0
  createdAt := 1
  processingStartedAt := none
  lastErrorCode := none
  lastErrorMessage := none
  lastErrorDurationMs := none
  successDurationMs := none
  updatedAt := 1

/-- A page reads after the run it follows has succeeded. -/
def snapshotStatements : List (Timestamp × Statement) :=
  [(1, .insert snapshotRow), (2, .project snapshotCall), (3, .succeed snapshotCall 1 none),
    (4, .snapshot 0), (5, .read 0)]

/-- The state after that. -/
def snapshotEnd : SnapshotState :=
  (SnapshotState.system.run (SnapshotState.start ⟨⟨0⟩, ⟨0⟩, ⟨0⟩⟩) snapshotStatements).get
    (by decide)

/-- `chrono` on the first microseconds of the epoch. -/
def epochMicros (t : Timestamp) : List Char :=
  (⟨1970, 1, 1, 0, 0, 0⟩ : CivilTime).text ++
    '.' :: ['0', '0', '0', '0', '0', t.toNat.digitChar] ++ ['Z']

theorem rfc3339_epochMicros {n : ℕ} (hn : n < 10) : Rfc3339 (epochMicros n) (1000 * n) := by
  have hzeros : (['0', '0', '0', '0', '0', n.digitChar] : List Char) =
      List.replicate 5 '0' ++ [n.digitChar] := rfl
  refine ⟨⟨1970, 1, 1, 0, 0, 0⟩, ['0', '0', '0', '0', '0', n.digitChar], ['Z'], by decide,
    (by decide : 6 ≤ 9), ?_, Or.inl rfl, rfl, ?_⟩
  · intro d hd
    rw [hzeros] at hd
    rcases List.mem_append.1 hd with hd | hd
    · rw [List.eq_of_mem_replicate hd]
      rfl
    · rw [List.mem_singleton.1 hd, Nat.isDigit_digitChar]
      exact decide_eq_true hn
  · have hfraction : Nat.ofDigitChars 10 ['0', '0', '0', '0', '0', n.digitChar] 0 = n := by
      rw [hzeros, Nat.ofDigitChars_append, Nat.ofDigitChars_replicate_zero,
        Nat.ofDigitChars_cons_digitChar_of_lt_ten hn, Nat.ofDigitChars_nil]
      omega
    have hepoch : (⟨1970, 1, 1, 0, 0, 0⟩ : CivilTime).epochSeconds = 0 := by decide
    rw [hepoch, fractionNanoseconds, hfraction]
    change (1000 * n : ℤ) = 0 * 1000000000 + ((n * 1000 : ℕ) : ℤ)
    omega

/-- The success, and the region that was rendered after it. -/
def snapshotEvent : ProjectionCall × TaskStatusUpdate := snapshotEnd.published.head (by decide)

/-- And the region the page got. -/
def snapshotRegion : Region := snapshotEnd.regions.head (by decide)

theorem current_if_not_newer_after :
    Saw (snapshotRegion.reads.head (by decide)) snapshotEvent.1 := by
  have htime : snapshotEvent.2.timestamp = 3 ∧ snapshotRegion.snapshotAt = 4 := by decide
  have hevent : Rfc3339 (epochMicros snapshotEvent.2.timestamp)
      (1000 * snapshotEvent.2.timestamp) :=
    htime.1 ▸ rfc3339_epochMicros (by decide : 3 < 10)
  have hsnapshot : Rfc3339 (epochMicros snapshotRegion.snapshotAt)
      (1000 * snapshotRegion.snapshotAt) :=
    htime.2 ▸ rfc3339_epochMicros (by decide : 4 < 10)
  refine (current_if_not_newer epochMicros (Option.some_get _).symm).1 snapshotEvent
    (List.head_mem _) snapshotRegion (List.head_mem _) hevent hsnapshot ?_ _ (List.head_mem _)
  rw [isNewerThanSnapshot_eq hevent hsnapshot, htime.1, htime.2]
  rfl

end Dreamscroll
