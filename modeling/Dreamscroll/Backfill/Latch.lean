import Dreamscroll.Backfill.Moves
import Mathlib.Data.List.DropRight
/-!
# The dry latch

The row of a backfill holds one timestamp for its whole history: when the
streak of dry pumps began that the last executed pump ends. While it is
set a pump has to be forced. Pumps are requested one after another here,
among any other activity on the tasks.
-/

namespace Dreamscroll

/-! ## Histories -/

/-- The response of a pump that was executed. -/
def Pump.response (p : Pump) : Option BackfillPumpResponse :=
  match p.pc with
  | .returned (.ok response) => some response
  | _ => none

/-- The pump has returned. -/
def Pump.isDone (p : Pump) : Bool :=
  match p.pc with
  | .returned _ => true
  | _ => false

/-- A pump that has just been called has not answered. -/
@[simp] theorem Pump.response_start {limit : ℕ} {force : Bool} :
    (Pump.start limit force).response = none := by
  unfold Pump.start Pump.response
  split_ifs <;> rfl

namespace BackfillState

/-- The executed pumps, in the order they were requested. -/
def executed (s : BackfillState) : List BackfillPumpResponse := s.pumps.filterMap Pump.response

/-- No pump is running. -/
def Idle (s : BackfillState) : Prop := ∀ p ∈ s.pumps, p.isDone = true

instance (s : BackfillState) : Decidable s.Idle := inferInstanceAs (Decidable (∀ _ ∈ _, _))

end BackfillState

/-- A pump is requested when no other is running. -/
def OneAtATime (s : BackfillState) (e : BackfillEv) (_ : BackfillState) : Prop :=
  match e with
  | .pump _ _ => s.Idle
  | .task _ | .next _ _ => True

instance (s s' : BackfillState) (e : BackfillEv) : Decidable (OneAtATime s e s') :=
  match e with
  | .pump _ _ => inferInstanceAs (Decidable s.Idle)
  | .task _ => isTrue trivial
  | .next _ _ => isTrue trivial

/-- The maximal run of consecutive dry pumps a history ends with. -/
def dryRun (h : List BackfillPumpResponse) : List BackfillPumpResponse :=
  h.rtakeWhile fun r => r.selectedCount = 0

/-- The time recorded by its first pump. -/
def dryStart (h : List BackfillPumpResponse) : Option Timestamp :=
  (dryRun h).head?.map (·.pumpedAt)

variable {h : List BackfillPumpResponse} {r : BackfillPumpResponse}

/-- **One more pump** starts a streak, keeps it or ends it. -/
theorem dryStart_concat : dryStart (h ++ [r]) =
    if r.selectedCount = 0 then (dryStart h).or (some r.pumpedAt) else none := by
  unfold dryStart dryRun
  rw [List.rtakeWhile_concat]
  by_cases hdry : r.selectedCount = 0
  · rw [if_pos (by simpa using hdry), if_pos hdry, List.head?_append]
    cases (h.rtakeWhile fun r => r.selectedCount = 0).head? <;> rfl
  · rw [if_neg (by simpa using hdry), if_neg hdry]
    rfl

/-- A history is dry exactly when its last pump selected nothing. -/
theorem isSome_dryStart_concat : (dryStart (h ++ [r])).isSome ↔ r.selectedCount = 0 := by
  rw [dryStart_concat]
  by_cases hdry : r.selectedCount = 0
  · simp [hdry]
  · simp [hdry]

/-! ## One pump at a time -/

namespace Engine

variable {g : Engine} {m : TaskMaster} {s s' u u' : BackfillState} {e : BackfillEv} {i n : ℕ}
variable {p q : Pump} {choice : PumpChoice} {es : List BackfillEv} {limit : ℕ}

/-- Only the last pump requested may be running. -/
def OneRunning (s : BackfillState) : Prop :=
  ∀ (i : ℕ) (p : Pump), s.pumps[i]? = some p → p.isDone = false → i + 1 = s.pumps.length

/-- **The invariant of the record**: it is what the last executed pump
returned, and every executed pump returned the start of its streak. -/
structure LatchInv (g : Engine) (s : BackfillState) : Prop where
  last : OneRunning s
  record : s.backfills g.definition.id =
    s.executed.getLast?.map fun r => ⟨r.pumpedAt, r.drySince⟩
  streak : ∀ h r, h ++ [r] <+: s.executed → r.drySince = dryStart (h ++ [r])

/-- The record is the one of the empty history. -/
theorem latchInv_start : LatchInv g BackfillState.start where
  last i p hp := by cases hp
  record := rfl
  streak h r hpre := by
    have hnil := List.prefix_nil.1 hpre
    simp at hnil

/-- A pump that takes a step has not returned, and it does not return a
response or it records one. -/
theorem record_of_pumpMove (hm : PumpMove g m s i p choice s') : p.isDone = false ∧
    p.response = none ∧ ∃ p', s'.pumps = s.pumps.set i p' ∧
      (p'.response = none ∧ s'.backfills = s.backfills ∨
        ∃ now record, choice = .record now ∧
          record = recordPump (s.backfills g.definition.id) p.targets.isEmpty now ∧
          p'.response = some (g.response p record) ∧
          s'.backfills = Function.update s.backfills g.definition.id (some record)) := by
  have hnot : p.isDone = false ∧ p.response = none := by
    unfold Pump.isDone Pump.response
    cases hpc : p.pc with
    | returned => exact (not_pumpMove_returned hm hpc).elim
    | _ => exact ⟨rfl, rfl⟩
  refine ⟨hnot.1, hnot.2, ?_⟩
  cases hm with
  | recorded _ hrecord => exact ⟨_, rfl, Or.inr ⟨_, _, rfl, hrecord, rfl, rfl⟩⟩
  | _ => exact ⟨_, rfl, Or.inl ⟨rfl, rfl⟩⟩

/-- One pump at a time stays one at a time. -/
theorem oneRunning_of_step (h : OneRunning s) (hs : (g.system m).step s e = some s')
    (hone : OneAtATime s e s') : OneRunning s' := by
  cases engineMove_of_step hs with
  | task => exact h
  | pump =>
    intro j p hp hdone
    rcases getElem?_concat_eq_some hp with ⟨rfl, -⟩ | hp
    · simp
    · rw [hone p (List.mem_of_getElem? hp)] at hdone
      cases hdone
  | next hp hm =>
    obtain ⟨hdone, -, p', hset, -⟩ := record_of_pumpMove hm
    intro j q hq hqdone
    rw [hset] at hq ⊢
    rw [List.length_set]
    rcases getElem?_set_eq_some hq with ⟨rfl, -⟩ | ⟨-, hq⟩
    · exact h j _ hp hdone
    · exact h j q hq hqdone

/-- The running pump is the last one requested. -/
theorem LatchInv.eq_append (hi : LatchInv g s) (hp : s.pumps[i]? = some p)
    (hdone : p.isDone = false) : ∃ ps, s.pumps = ps ++ [p] ∧ i = ps.length := by
  have hlast := hi.last i p hp hdone
  rcases List.eq_nil_or_concat' s.pumps with hnil | ⟨ps, last, heq⟩
  · rw [hnil] at hp
    cases hp
  · rw [heq] at hlast hp
    have hlen : i = ps.length := by
      simp only [List.length_append, List.length_singleton] at hlast
      omega
    rw [hlen, List.getElem?_concat_length] at hp
    cases hp
    exact ⟨ps, heq, hlen⟩

/-- The upsert follows the streak: what it stores is the start of the run
the pump is the last of. -/
theorem LatchInv.recordPump_drySince (hi : LatchInv g s) {now : Timestamp}
    (hr : r.selectedCount = p.targets.length ∧ r.pumpedAt = now) :
    (recordPump (s.backfills g.definition.id) p.targets.isEmpty now).drySince =
      dryStart (s.executed ++ [r]) := by
  have hempty : p.targets.isEmpty = true ↔ r.selectedCount = 0 := by
    rw [hr.1, List.isEmpty_iff, List.length_eq_zero_iff]
  rw [dryStart_concat, hr.2]
  unfold recordPump
  by_cases hdry : r.selectedCount = 0
  · rw [if_pos (hempty.2 hdry), if_pos hdry, hi.record]
    rcases List.eq_nil_or_concat' s.executed with hnil | ⟨h, last, heq⟩
    · rw [hnil]
      rfl
    · have hlast : last.drySince = dryStart (h ++ [last]) :=
        hi.streak h last (heq ▸ List.prefix_rfl)
      rw [heq, List.getLast?_concat, ← hlast]
      rfl
  · rw [if_neg (mt hempty.1 hdry), if_neg hdry]

/-- One event keeps the record equal to what the answers so far say. -/
theorem latchInv_of_step (hi : LatchInv g s) (hs : (g.system m).step s e = some s')
    (hone : OneAtATime s e s') : LatchInv g s' := by
  have hlast := oneRunning_of_step hi.last hs hone
  cases engineMove_of_step hs with
  | task => exact ⟨hlast, hi.record, hi.streak⟩
  | @pump limit force =>
    have hex : BackfillState.executed { s with pumps := s.pumps ++ [Pump.start limit force] } =
        s.executed := by
      unfold BackfillState.executed
      simp
    exact ⟨hlast, by rw [hex]; exact hi.record, by rw [hex]; exact hi.streak⟩
  | @next i choice p s' hp hm =>
    obtain ⟨hdone, hresponse, p', hset, hcase⟩ := record_of_pumpMove hm
    -- the pump that moves is the last one
    obtain ⟨ps, hpumps, hlen⟩ := hi.eq_append hp hdone
    have hpumps' : s'.pumps = ps ++ [p'] := by
      rw [hset, hpumps, hlen]
      simp
    have hold : s.executed = ps.filterMap Pump.response := by
      unfold BackfillState.executed
      rw [hpumps, List.filterMap_append]
      simp [hresponse]
    rcases hcase with ⟨hnone, hback⟩ | ⟨now, record, -, hrecord, hsome, hback⟩
    · have hex : s'.executed = s.executed := by
        rw [hold]
        unfold BackfillState.executed
        rw [hpumps', List.filterMap_append]
        simp [hnone]
      exact ⟨hlast, by rw [hex, hback]; exact hi.record, by rw [hex]; exact hi.streak⟩
    · have hex : s'.executed = s.executed ++ [g.response p record] := by
        rw [hold]
        unfold BackfillState.executed
        rw [hpumps', List.filterMap_append]
        simp [hsome]
      have hstart : record.drySince = dryStart (s.executed ++ [g.response p record]) := by
        rw [hrecord]
        exact hi.recordPump_drySince ⟨rfl, rfl⟩
      refine ⟨hlast, ?_, fun h r hpre => ?_⟩
      · rw [hex, hback, List.getLast?_concat, Function.update_self]
        rfl
      · rw [hex, List.prefix_concat_iff] at hpre
        rcases hpre with heq | hpre
        · obtain ⟨rfl, hr⟩ := List.append_inj' heq rfl
          cases hr
          exact hstart
        · exact hi.streak h r hpre

/-- The record is right after every history. -/
theorem latchInv_of_run (hrun : (g.system m).run BackfillState.start es = some s)
    (hone : (g.system m).Along OneAtATime BackfillState.start es) : LatchInv g s :=
  System.run_inv_along (fun _ _ _ hi hs hP => latchInv_of_step hi hs hP) latchInv_start hrun hone

/-! ## Refused pumps -/

/-- A dry streak is recorded. -/
def Latched (g : Engine) (s : BackfillState) : Prop :=
  ∃ record t, s.backfills g.definition.id = some record ∧ record.drySince = some t

/-- While one is, an unforced pump is a conflict. -/
theorem ensureNotDry_of_latched (h : Latched g s) :
    ∃ err, g.ensureNotDry (s.backfills g.definition.id) false = .error err ∧
      err.httpStatusCode = 409 := by
  obtain ⟨record, t, hrecord, ht⟩ := h
  refine ⟨g.dryConflict record t, ?_, rfl⟩
  unfold ensureNotDry
  rw [if_neg Bool.false_ne_true, hrecord]
  simp only [ht]

/-- Pump `n` is refused with the status code, or it is about to be. -/
def Refusing (g : Engine) (n code : ℕ) (s : BackfillState) : Prop :=
  ∃ p, s.pumps[n]? = some p ∧
    (p.pc = .ensureNotDry ∧ p.force = false ∧ Latched g s ∧ code = 409 ∨
      ∃ err, p.pc = .returned (.error err) ∧ err.httpStatusCode = code)

/-- The statements of pump `n` change no table. -/
def Untouched (n : ℕ) (s : BackfillState) (e : BackfillEv) (s' : BackfillState) : Prop :=
  ∀ choice, e = .next n choice → s'.tasks = s.tasks ∧ s'.backfills = s.backfills

/-- A pump that will be refused touches nothing on its way. -/
theorem refusing_of_step {code : ℕ} (hi : LatchInv g s) (hr : Refusing g n code s)
    (hs : (g.system m).step s e = some s') : Refusing g n code s' ∧ Untouched n s e s' := by
  obtain ⟨p, hp, hpc⟩ := hr
  cases engineMove_of_step hs with
  | task => exact ⟨⟨p, hp, hpc⟩, fun _ h => by cases h⟩
  | pump => exact ⟨⟨p, getElem?_concat_of_some hp, hpc⟩, fun _ h => by cases h⟩
  | @next i choice q s' hq hm =>
    by_cases hin : i = n
    · subst hin
      rw [hp] at hq
      cases hq
      rcases hpc with ⟨hpc, hforce, hlatched, hcode⟩ | ⟨err, hpc, -⟩
      · obtain ⟨err, herr, h409⟩ := ensureNotDry_of_latched hlatched
        cases hm with
        | passed _ hok =>
          rw [hforce, herr] at hok
          cases hok
        | refused _ herr' =>
          rw [hforce, herr] at herr'
          cases herr'
          refine ⟨⟨_, getElem?_set_of_some hp, Or.inr ⟨err, rfl, h409.trans hcode.symm⟩⟩, ?_⟩
          exact fun _ _ => ⟨rfl, rfl⟩
        | _ hpc' => rw [hpc] at hpc'; cases hpc'
      · exact (not_pumpMove_returned hm hpc).elim
    · obtain ⟨hdone, -, q', hset, -⟩ := record_of_pumpMove hm
      refine ⟨⟨p, ?_, ?_⟩, fun choice h => ?_⟩
      · rw [hset, getElem?_set_of_ne fun h => hin h.symm]
        exact hp
      · rcases hpc with ⟨hpc, -⟩ | hpc
        · -- two pumps are not under way at a time
          have h₁ := hi.last i q hq hdone
          have h₂ := hi.last n p hp (by unfold Pump.isDone; rw [hpc])
          omega
        · exact Or.inr hpc
      · cases h
        exact absurd rfl hin

/-- **A request is refused** with the status code. -/
structure Refuses (g : Engine) (m : TaskMaster) (s : BackfillState) (limit : ℕ) (force : Bool)
    (code : ℕ) : Prop where
  /-- Whatever happens meanwhile, its statements change no table, and what it
  returns is the error. -/
  always : ∀ es s', (g.system m).run s (.pump limit force :: es) = some s' →
    (g.system m).Along OneAtATime s (.pump limit force :: es) →
    (g.system m).Along (Untouched s.pumps.length) s (.pump limit force :: es) ∧
    ∃ p, s'.pumps[s.pumps.length]? = some p ∧ (p.pc = .ensureNotDry ∨
      ∃ err, p.pc = .returned (.error err) ∧ err.httpStatusCode = code)
  /-- And it returns by its own statements. -/
  answered : ∃ es err p, (g.system m).run s (.pump limit force :: es) =
      some { s with pumps := s.pumps ++ [p] } ∧
    p.pc = .returned (.error err) ∧ err.httpStatusCode = code

/-- A pump that begins where it will be refused ends refused, or has not
moved, and has touched nothing. -/
theorem refuses_always {code : ℕ} {force : Bool} (hi : LatchInv g s)
    (hstart : Refusing g s.pumps.length code
      { s with pumps := s.pumps ++ [Pump.start limit force] })
    (hrun : (g.system m).run s (.pump limit force :: es) = some s')
    (hone : (g.system m).Along OneAtATime s (.pump limit force :: es)) :
    (g.system m).Along (Untouched s.pumps.length) s (.pump limit force :: es) ∧
    ∃ p, s'.pumps[s.pumps.length]? = some p ∧ (p.pc = .ensureNotDry ∨
      ∃ err, p.pc = .returned (.error err) ∧ err.httpStatusCode = code) := by
  obtain ⟨t, ht, hrun⟩ := System.run_cons_eq_some.1 hrun
  have hinv := latchInv_of_step hi ht (hone t ht).1
  obtain ⟨⟨-, p, hp, hpc⟩, halong⟩ := System.run_inv_to (s := t) (P := OneAtATime)
    (I := fun t => LatchInv g t ∧ Refusing g s.pumps.length code t)
    (Q := Untouched s.pumps.length)
    (fun t e t' es ⟨hi, hr⟩ hs _ hP =>
      have hr' := refusing_of_step hi hr hs
      ⟨⟨latchInv_of_step hi hs hP, hr'.1⟩, hr'.2⟩)
    ⟨hinv, by cases ht; exact hstart⟩ hrun (hone t ht).2
  refine ⟨fun t' ht' => ⟨fun _ h => (by cases h), ?_⟩, p, hp, ?_⟩
  · rw [ht] at ht'
    cases ht'
    exact halong
  · rcases hpc with ⟨hpc, -⟩ | hpc
    · exact Or.inl hpc
    · exact Or.inr hpc

/-- **An unforced pump while a streak is recorded.** -/
theorem refuses_of_latched (hi : LatchInv g s) (h : Latched g s) (hlimit : 1 ≤ limit) :
    Refuses g m s limit false 409 := by
  have hpc : (Pump.start limit false).pc = .ensureNotDry := if_neg (by omega)
  refine ⟨fun es s' => refuses_always hi ⟨_, List.getElem?_concat_length, Or.inl
    ⟨hpc, rfl, h, rfl⟩⟩, ?_⟩
  obtain ⟨err, herr, h409⟩ := ensureNotDry_of_latched h
  refine ⟨[.next s.pumps.length .read], err,
    { Pump.start limit false with pc := .returned (.error err) }, ?_, rfl, h409⟩
  have hforce : (Pump.start limit false).force = false := rfl
  simp [System.run, system, step, pumpStep, hpc, hforce, herr, BackfillState.setPump]

/-- **A limit of zero**, forced or not. -/
theorem refuses_zero {force : Bool} (hi : LatchInv g s) : Refuses g m s 0 force 400 := by
  refine ⟨fun es s' => refuses_always hi ⟨_, List.getElem?_concat_length, Or.inr
    ⟨_, rfl, rfl⟩⟩, [], _, Pump.start 0 force, rfl, rfl, rfl⟩

/-! ## Forced pumps -/

end Engine

/-- Where a pump stands, less the start of a streak. -/
def PumpPc.lessLatch : PumpPc → PumpPc
  | .returned (.ok response) => .returned (.ok { response with drySince := none })
  | pc => pc

/-- What the latch has no part in: a pump less the flag and the start of a
streak. -/
def Pump.lessLatch (p : Pump) : Pump := { p with force := false, pc := p.pc.lessLatch }

/-- **What a pump does but record**: the tasks, and what the pumps
selected, counted and answered. -/
def BackfillState.outcome (s : BackfillState) : TaskState AnyTask × List Pump :=
  (s.tasks, s.pumps.map Pump.lessLatch)

/-- The state without the latch. -/
def BackfillState.unlatch (s : BackfillState) (id : String) : BackfillState :=
  let record := (s.backfills id).map fun record => { record with drySince := none }
  { s with backfills := Function.update s.backfills id record }

namespace Engine

variable {g : Engine} {m : TaskMaster} {s s' u u' : BackfillState} {e : BackfillEv} {i n : ℕ}
variable {p q : Pump} {choice : PumpChoice} {es : List BackfillEv} {limit : ℕ}

/-- Two pumps that are equal but for the latch. -/
theorem lessLatch_eq_iff : p.lessLatch = q.lessLatch ↔ p.limit = q.limit ∧
    p.targets = q.targets ∧ p.tally = q.tally ∧ p.pc.lessLatch = q.pc.lessLatch := by
  simp [Pump.lessLatch]

/-- Two pumps that differ in the latch alone stand at the same statement. -/
theorem pc_of_lessLatch {pc pc' : PumpPc} (h : pc.lessLatch = pc'.lessLatch)
    (hne : ∀ r, pc ≠ .returned (.ok r)) : pc' = pc := by
  have hpc : pc.lessLatch = pc := by
    unfold PumpPc.lessLatch
    split
    · exact absurd rfl (hne _)
    · rfl
  rw [hpc] at h
  cases pc' with
  | returned result =>
    cases result with
    | ok r => exact absurd h (hne _)
    | error err => exact h.symm
  | _ => exact h.symm

/-- **Two states that differ in the latch alone**, and in neither of which
it stops a pump. -/
structure SameBut (g : Engine) (s u : BackfillState) : Prop where
  outcome : s.outcome = u.outcome
  passes : ∀ p ∈ s.pumps, p.pc = .ensureNotDry →
    g.ensureNotDry (s.backfills g.definition.id) p.force = .ok ()
  passes' : ∀ p ∈ u.pumps, p.pc = .ensureNotDry →
    g.ensureNotDry (u.backfills g.definition.id) p.force = .ok ()
  /-- One pump is under way. -/
  one : ∀ (i j : ℕ) (p q : Pump), s.pumps[i]? = some p → s.pumps[j]? = some q →
    p.isDone = false → q.isDone = false → i = j

/-- Whether a pump has ended does not depend on the latch. -/
theorem isDone_of_lessLatch (h : p.lessLatch = q.lessLatch) : p.isDone = q.isDone := by
  have hpc := (lessLatch_eq_iff.1 h).2.2.2
  unfold Pump.isDone
  cases hp : p.pc with
  | returned result =>
    cases result with
    | ok r =>
      cases hq : q.pc with
      | returned => rfl
      | _ => rw [hp, hq] at hpc; cases hpc
    | error err => rw [pc_of_lessLatch hpc (by rw [hp]; simp), hp]
  | _ => rw [pc_of_lessLatch hpc (by rw [hp]; simp), hp]

/-- The pump at the same place in the other state. -/
theorem pump_of_outcome (h : s.outcome = u.outcome) (hp : s.pumps[i]? = some p) :
    ∃ q, u.pumps[i]? = some q ∧ p.lessLatch = q.lessLatch := by
  have hmap := congrArg (fun o : TaskState AnyTask × List Pump => o.2[i]?) h
  simp only [BackfillState.outcome, List.getElem?_map, hp, Option.map_some] at hmap
  obtain ⟨q, hq, heq⟩ := Option.map_eq_some_iff.1 hmap.symm
  exact ⟨q, hq, heq.symm⟩

/-- Which of the two runs is forced does not matter. -/
theorem SameBut.symm (h : SameBut g s u) : SameBut g u s where
  outcome := h.outcome.symm
  passes := h.passes'
  passes' := h.passes
  one i j p q hp hq hpd hqd := by
    obtain ⟨p', hp', hpp⟩ := pump_of_outcome h.outcome.symm hp
    obtain ⟨q', hq', hqq⟩ := pump_of_outcome h.outcome.symm hq
    rw [isDone_of_lessLatch hpp] at hpd
    rw [isDone_of_lessLatch hqq] at hqd
    exact h.one i j p' q' hp' hq' hpd hqd

/-- One half of what a step of the running pump keeps. -/
theorem SameBut.passes_set (h : SameBut g s u) (hp : s.pumps[i]? = some p)
    (hdone : p.isDone = false) {p' : Pump} (hset : s'.pumps = s.pumps.set i p')
    (hpc : p'.pc ≠ .ensureNotDry) : ∀ q ∈ s'.pumps, q.pc = .ensureNotDry →
      g.ensureNotDry (s'.backfills g.definition.id) q.force = .ok () := by
  intro q hq hqpc
  rw [hset] at hq
  rcases mem_set_of_some hq with rfl | ⟨j, hj, hq⟩
  · exact absurd hqpc hpc
  · have hqdone : q.isDone = false := by
      unfold Pump.isDone
      rw [hqpc]
    exact absurd (h.one j i q p hq hp hqdone hdone) hj

/-- Both pumps take the same step. -/
theorem SameBut.set (h : SameBut g s u) (hp : s.pumps[i]? = some p) (hq : u.pumps[i]? = some q)
    (hdone : p.isDone = false) (hdone' : q.isDone = false) {p' q' : Pump}
    (htasks : s'.tasks = u'.tasks) (hset : s'.pumps = s.pumps.set i p')
    (hset' : u'.pumps = u.pumps.set i q') (heq : p'.lessLatch = q'.lessLatch)
    (hpc : p'.pc ≠ .ensureNotDry) : SameBut g s' u' where
  outcome := by
    have hpumps : s.pumps.map Pump.lessLatch = u.pumps.map Pump.lessLatch :=
      congrArg Prod.snd h.outcome
    unfold BackfillState.outcome
    rw [htasks, hset, hset', List.map_set, List.map_set, hpumps, heq]
  passes := h.passes_set hp hdone hset hpc
  passes' := by
    refine h.symm.passes_set hq hdone' hset' fun hq' => hpc ?_
    rw [← hq']
    exact pc_of_lessLatch (lessLatch_eq_iff.1 heq.symm).2.2.2 (by rw [hq']; simp)
  one j k p₁ p₂ hj hk h₁ h₂ := by
    have hfrom : ∀ (j : ℕ) (p₁ : Pump), s'.pumps[j]? = some p₁ → p₁.isDone = false → j = i := by
      intro j p₁ hj h₁
      rw [hset] at hj
      rcases getElem?_set_eq_some hj with ⟨rfl, -⟩ | ⟨-, hj⟩
      · rfl
      · exact h.one j i p₁ p hj hp h₁ hdone
    rw [hfrom j p₁ hj h₁, hfrom k p₂ hk h₂]

/-- **A step of one is a step of the other.** -/
theorem SameBut.step (h : SameBut g s u) (hs : (g.system m).step s e = some s')
    (hne : ∀ limit force, e ≠ .pump limit force) :
    ∃ u', (g.system m).step u e = some u' ∧ SameBut g s' u' := by
  have htasks : s.tasks = u.tasks := congrArg Prod.fst h.outcome
  have hpumps : s.pumps.map Pump.lessLatch = u.pumps.map Pump.lessLatch :=
    congrArg Prod.snd h.outcome
  cases engineMove_of_step hs with
  | @task e tasks hstep =>
    refine ⟨{ u with tasks := tasks }, ?_, ?_, h.passes, h.passes', h.one⟩
    · rw [htasks] at hstep
      simp only [system, Engine.step, hstep, Option.map_some]
    · unfold BackfillState.outcome
      rw [hpumps]
  | pump => exact absurd rfl (hne _ _)
  | @next i choice p s' hp hm =>
    obtain ⟨q, hq, heq⟩ := pump_of_outcome h.outcome hp
    obtain ⟨hdone, -⟩ := record_of_pumpMove hm
    have hdone' : q.isDone = false := (isDone_of_lessLatch heq).symm.trans hdone
    -- only an answer holds the latch, and this pump has not answered
    have hqpc : q.pc = p.pc := by
      refine pc_of_lessLatch (lessLatch_eq_iff.1 heq).2.2.2 fun r hr => ?_
      unfold Pump.isDone at hdone
      rw [hr] at hdone
      cases hdone
    obtain ⟨hlimit, htargets, htally, -⟩ := lessLatch_eq_iff.1 heq
    cases hm with
    | passed hpc hok =>
      have hpass := h.passes' q (List.mem_of_getElem? hq) (hqpc.trans hpc)
      refine ⟨_, step_of_pumpMove hq (.passed (hqpc.trans hpc) hpass),
        h.set hp hq hdone hdone' htasks rfl rfl ?_ (by simp)⟩
      exact lessLatch_eq_iff.2 ⟨hlimit, htargets, htally, rfl⟩
    | refused hpc herr =>
      -- neither latch stops a pump
      rw [h.passes p (List.mem_of_getElem? hp) hpc] at herr
      cases herr
    | @selected relation hpc =>
      refine ⟨_, step_of_pumpMove hq (.selected (hqpc.trans hpc)),
        h.set hp hq hdone hdone' htasks rfl rfl ?_ (by simp)⟩
      exact lessLatch_eq_iff.2 ⟨hlimit, by rw [htasks, hlimit], htally, by rw [htasks, hlimit]⟩
    | @denied target rest err hpc herr =>
      refine ⟨_, step_of_pumpMove hq (.denied (hqpc.trans hpc) herr),
        h.set hp hq hdone hdone' htasks rfl rfl ?_ (by simp)⟩
      exact lessLatch_eq_iff.2 ⟨hlimit, htargets, by rw [htally], rfl⟩
    | @submitted target rest tasks hpc hok hstep =>
      rw [htasks] at hstep
      refine ⟨_, step_of_pumpMove hq (.submitted (hqpc.trans hpc) hok hstep),
        h.set hp hq hdone hdone' rfl rfl rfl ?_ (by simp)⟩
      exact lessLatch_eq_iff.2 ⟨hlimit, htargets, htally, by rw [htasks]⟩
    | @collected target c rest call outcome hpc hc hret =>
      rw [htasks] at hc
      refine ⟨_, step_of_pumpMove hq (.collected (hqpc.trans hpc) hc hret),
        h.set hp hq hdone hdone' htasks rfl rfl ?_ (by simp)⟩
      exact lessLatch_eq_iff.2 ⟨hlimit, htargets, by rw [htally], rfl⟩
    | @recorded now record hpc hrecord =>
      refine ⟨_, step_of_pumpMove hq (.recorded (hqpc.trans hpc) rfl),
        h.set hp hq hdone hdone' htasks rfl rfl ?_ (by simp)⟩
      refine lessLatch_eq_iff.2 ⟨hlimit, htargets, htally, ?_⟩
      have hnow : (recordPump (u.backfills g.definition.id) q.targets.isEmpty now).lastPumpedAt =
          record.lastPumpedAt := by rw [hrecord]; rfl
      simp only [PumpPc.lessLatch, response, hnow, htargets, htally]

/-- Whatever happens after the latch, both runs end alike. -/
theorem SameBut.run (h : SameBut g s u) (hrun : (g.system m).run s es = some s')
    (hne : ∀ e ∈ es, ∀ limit force, e ≠ .pump limit force) :
    ∃ u', (g.system m).run u es = some u' ∧ u'.outcome = s'.outcome := by
  induction es generalizing s u with
  | nil =>
    cases hrun
    exact ⟨u, rfl, h.outcome.symm⟩
  | cons e es ih =>
    obtain ⟨t, ht, hrun⟩ := System.run_cons_eq_some.1 hrun
    obtain ⟨v, hv, hsame⟩ := h.step ht (hne e List.mem_cons_self)
    obtain ⟨u', hu', hout⟩ := ih hsame hrun fun e he => hne e (List.mem_cons_of_mem _ he)
    exact ⟨u', System.run_cons_eq_some.2 ⟨v, hv, hu'⟩, hout⟩

/-- Where no pump is running, a forced request and, without the latch, an
unforced one start alike. -/
theorem sameBut_of_idle (hidle : s.Idle) :
    SameBut g { s with pumps := s.pumps ++ [Pump.start limit true] }
      { s.unlatch g.definition.id with pumps := s.pumps ++ [Pump.start limit false] } where
  outcome := by
    have hstart : (Pump.start limit true).lessLatch = (Pump.start limit false).lessLatch := rfl
    unfold BackfillState.outcome
    rw [List.map_append, List.map_append, List.map_singleton, List.map_singleton, hstart]
    rfl
  passes p hp hpc := by
    rcases List.mem_append.1 hp with hp | hp
    · have hdone := hidle p hp
      unfold Pump.isDone at hdone
      rw [hpc] at hdone
      cases hdone
    · rw [List.mem_singleton.1 hp]
      rfl
  passes' p hp hpc := by
    rcases List.mem_append.1 hp with hp | hp
    · have hdone := hidle p hp
      unfold Pump.isDone at hdone
      rw [hpc] at hdone
      cases hdone
    · rw [List.mem_singleton.1 hp]
      simp only [BackfillState.unlatch, Function.update_self]
      cases s.backfills g.definition.id <;> rfl
  one i j p q hp hq hpd hqd := by
    have hlast : ∀ (i : ℕ) (p : Pump), (s.pumps ++ [Pump.start limit true])[i]? = some p →
        p.isDone = false → i = s.pumps.length := by
      intro i p hp hpd
      rcases getElem?_concat_eq_some hp with ⟨rfl, -⟩ | hp
      · rfl
      · rw [hidle p (List.mem_of_getElem? hp)] at hpd
        cases hpd
    rw [hlast i p hp hpd, hlast j q hq hqd]

/-! ## The latch -/

/-- **What the latch does**, in a state the pumps have reached. -/
structure DryLatch (g : Engine) (m : TaskMaster) (s : BackfillState) : Prop where
  /-- After each executed pump the start of a streak is set if and only if it
  selected no target, and is then the time recorded by the first pump of the
  maximal run of consecutive dry pumps ending there. -/
  streak : ∀ h r, h ++ [r] <+: s.executed → (r.drySince.isSome ↔ r.selectedCount = 0) ∧
    r.drySince = (dryRun (h ++ [r])).head?.map (·.pumpedAt)
  /-- The row holds what the last executed pump returned. -/
  record : s.backfills g.definition.id =
    s.executed.getLast?.map fun r => ⟨r.pumpedAt, r.drySince⟩
  /-- While it is set, every unforced pump is a conflict and changes nothing. -/
  latched : Latched g s → ∀ limit, 1 ≤ limit → Refuses g m s limit false 409
  /-- A zero limit is a bad request, forced or not. -/
  zero : ∀ force, Refuses g m s 0 force 400
  /-- A forced pump does what an unforced one would without the latch. -/
  forced : s.Idle → ∀ (limit : ℕ) (es : List BackfillEv),
    (∀ e ∈ es, ∀ limit force, e ≠ .pump limit force) →
    (∀ s', (g.system m).run s (.pump limit true :: es) = some s' →
      ∃ u', (g.system m).run (s.unlatch g.definition.id) (.pump limit false :: es) = some u' ∧
        u'.outcome = s'.outcome) ∧
    (∀ u', (g.system m).run (s.unlatch g.definition.id) (.pump limit false :: es) = some u' →
      ∃ s', (g.system m).run s (.pump limit true :: es) = some s' ∧ s'.outcome = u'.outcome)

/-- **The dry latch over whole histories.** -/
theorem dry_latch (hrun : (g.system m).run BackfillState.start es = some s)
    (hone : (g.system m).Along OneAtATime BackfillState.start es) : DryLatch g m s := by
  have hi := latchInv_of_run hrun hone
  refine ⟨fun h r hpre => ?_, hi.record, fun hlatched limit hlimit => ?_, fun force => ?_, ?_⟩
  · have hr := hi.streak h r hpre
    exact ⟨by rw [hr]; exact isSome_dryStart_concat, hr⟩
  · exact refuses_of_latched hi hlatched hlimit
  · exact refuses_zero hi
  · intro hidle limit es hne
    have hsame : SameBut g { s with pumps := s.pumps ++ [Pump.start limit true] }
        { s.unlatch g.definition.id with pumps := s.pumps ++ [Pump.start limit false] } :=
      sameBut_of_idle hidle
    refine ⟨fun s' hs' => ?_, fun u' hu' => ?_⟩
    · obtain ⟨t, ht, hs'⟩ := System.run_cons_eq_some.1 hs'
      cases ht
      obtain ⟨u', hu', hout⟩ := hsame.run hs' hne
      exact ⟨u', System.run_cons_eq_some.2 ⟨_, rfl, hu'⟩, hout⟩
    · obtain ⟨t, ht, hu'⟩ := System.run_cons_eq_some.1 hu'
      cases ht
      obtain ⟨s', hs', hout⟩ := hsame.symm.run hu' hne
      exact ⟨s', System.run_cons_eq_some.2 ⟨_, rfl, hs'⟩, hout⟩

/-- A dry pump, a refused one, a forced dry one, and a forced one that finds
work. -/
def latchSchedule : List BackfillEv :=
  [.pump 100 false, .next 0 .read, .next 0 (.select []), .next 0 (.record 10),
    .pump 100 false, .next 1 .read,
    .pump 5 true, .next 2 .read, .next 2 (.select []), .next 2 (.record 20),
    .pump 5 true, .next 3 .read, .next 3 (.select [⟨4, 1⟩]), .next 3 .submit,
    .task (.call 0 .read), .task (.call 0 (.latest "run-1")),
    .task (.call 0 (.insert 25 taskRunKey)), .task (.call 0 (.publish none)),
    .task (.call 0 .enqueued), .next 3 .collect, .next 3 (.record 30)]

/-- The registered backfill, pumped by an admin. -/
def illuminateV2Engine : Engine := ⟨illuminateV2Backfill, ⟨true, 9⟩, fun t => toString t⟩

/-- The state after that. -/
def latchState : BackfillState :=
  ((illuminateV2Engine.system (TaskMaster.build none false)).run BackfillState.start
    latchSchedule).get (by decide)

/-- The latch closes, stops a pump, and is opened by force. -/
theorem dry_latch_reopened :
    DryLatch illuminateV2Engine (TaskMaster.build none false) latchState :=
  @dry_latch illuminateV2Engine (TaskMaster.build none false) latchState latchSchedule
    (Option.some_get _).symm (by decide)

end Engine

end Dreamscroll
