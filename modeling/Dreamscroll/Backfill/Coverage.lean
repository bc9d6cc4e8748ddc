import Dreamscroll.Backfill.Latch
import Dreamscroll.Backfill.Tagging
import Mathlib.Algebra.GroupWithZero.Nat
/-!
# Backfill coverage

Pumps of any limits over a relation that does not change, while nobody
else acts on its targets: each takes the first of the targets that are
left, and leaves every one it took with exactly one tagged run. One after
another they therefore use the relation up, and the next finds it dry.
-/

namespace Dreamscroll

/-! ## The order of the selection -/

/-- Strictly before, in the descending order of the selection. -/
def BackfillTarget.Before (t u : BackfillTarget) : Prop :=
  u.entityId < t.entityId ∨ u.entityId = t.entityId ∧ u.ownerId < t.ownerId

/-- **The first `n` of the candidates**, in descending order. -/
structure FirstOf (candidates : List BackfillTarget) (n : ℕ) (selected : List BackfillTarget) :
    Prop where
  length : selected.length = min n candidates.length
  sorted : selected.Pairwise BackfillTarget.Before
  mem : ∀ t ∈ selected, t ∈ candidates
  rest : ∀ t ∈ candidates, t ∉ selected → ∀ u ∈ selected, u.Before t

instance : Std.Total BackfillTarget.DescLe where
  total t u := by
    unfold BackfillTarget.DescLe
    omega

instance : IsTrans BackfillTarget BackfillTarget.DescLe where
  trans t u v h₁ h₂ := by
    unfold BackfillTarget.DescLe at *
    omega

/-- Of two different targets, the one that sorts first comes before the other. -/
theorem BackfillTarget.before_of_descLe {t u : BackfillTarget} (h : t.DescLe u) (hne : t ≠ u) :
    t.Before u := by
  obtain ⟨e, o⟩ := t
  obtain ⟨e', o'⟩ := u
  simp only [DescLe, Before, ne_eq, BackfillTarget.mk.injEq, not_and] at *
  by_cases he : e = e'
  · have := hne he
    omega
  · omega

/-- The first targets in descending order are the first ones of the selection. -/
theorem firstOf_take {l : List BackfillTarget} {n : ℕ} (hl : l.Nodup) :
    FirstOf l n ((l.insertionSort BackfillTarget.DescLe).take n) := by
  have hperm := List.perm_insertionSort BackfillTarget.DescLe l
  have hsorted : (l.insertionSort BackfillTarget.DescLe).Pairwise BackfillTarget.Before := by
    have hnodup : (l.insertionSort BackfillTarget.DescLe).Nodup := hperm.nodup_iff.2 hl
    exact (List.pairwise_insertionSort BackfillTarget.DescLe l).imp₂
      (fun t u hle hne => BackfillTarget.before_of_descLe hle hne) hnodup
  refine ⟨?_, hsorted.sublist (List.take_sublist _ _), fun t ht => ?_, fun t ht hn u hu => ?_⟩
  · rw [List.length_take, List.length_insertionSort]
  · exact hperm.mem_iff.1 (List.mem_of_mem_take ht)
  · have hmem := hperm.mem_iff.2 ht
    rw [← List.take_append_drop n (l.insertionSort BackfillTarget.DescLe)] at hmem hsorted
    rcases List.mem_append.1 hmem with h | h
    · exact absurd h hn
    · exact (List.pairwise_append.1 hsorted).2.2 u hu t h

/-! ## Tagged and untagged targets -/

namespace Backfill

variable {b : Backfill} {rows rows' : List TaskRunModel} {relation : List BackfillTarget}
variable {target : BackfillTarget}

/-- The runs a backfill has tagged for a target. -/
theorem mem_taggedRuns {row : TaskRunModel} :
    row ∈ b.taggedRuns rows target ↔ row ∈ rows ∧ b.Tags row target := by
  simp [taggedRuns]

/-- A target without a tagged run is untagged. -/
theorem taggedRuns_eq_nil : b.taggedRuns rows target = [] ↔ ¬ b.Tagged rows target := by
  simp [taggedRuns, Tagged]

/-- What the backfill has still to submit. -/
theorem mem_untagged :
    target ∈ b.untagged rows relation ↔ target ∈ relation ∧ ¬ b.Tagged rows target := by
  rw [untagged, List.mem_filter, List.isEmpty_iff, taggedRuns_eq_nil]

/-- A backfill tags a target once. -/
theorem length_taggedRuns_le (hu : UniqueKeys rows) : (b.taggedRuns rows target).length ≤ 1 := by
  have hnodup : (b.taggedRuns rows target).Nodup :=
    (List.Nodup.of_map _ hu.nodup_runId).filter _
  by_contra hlen
  obtain ⟨r, r', l, heq⟩ : ∃ r r' l, b.taggedRuns rows target = r :: r' :: l := by
    cases h : b.taggedRuns rows target with
    | nil => rw [h] at hlen; simp at hlen
    | cons r l =>
      cases l with
      | nil => rw [h] at hlen; simp at hlen
      | cons r' l => exact ⟨r, r', l, rfl⟩
  obtain ⟨hr, hid, hL⟩ := mem_taggedRuns.1 (show r ∈ b.taggedRuns rows target by simp [heq])
  obtain ⟨hr', hid', hL'⟩ := mem_taggedRuns.1 (show r' ∈ b.taggedRuns rows target by simp [heq])
  have hsame := hu.eq_of_backfillId hr hr' (by rw [hid]; rfl) (hid.trans hid'.symm)
    (hL.trans hL'.symm)
  rw [heq, hsame] at hnodup
  simp at hnodup

/-- A tagged target has one tagged run: the unique index of the backfill
admits no second. -/
theorem length_taggedRuns_eq (hu : UniqueKeys rows) (h : b.Tagged rows target) :
    (b.taggedRuns rows target).length = 1 := by
  have hle : (b.taggedRuns rows target).length ≤ 1 := length_taggedRuns_le hu
  have hne : b.taggedRuns rows target ≠ [] := fun hnil => taggedRuns_eq_nil.1 hnil h
  have hpos := List.length_pos_of_ne_nil hne
  omega

/-- What is left only shrinks. -/
theorem untagged_sublist (h : ∀ target, b.Tagged rows target → b.Tagged rows' target) :
    (b.untagged rows' relation).Sublist (b.untagged rows relation) := by
  refine List.monotone_filter_right relation fun target ht => ?_
  simp only [List.isEmpty_iff, taggedRuns_eq_nil] at ht ⊢
  exact fun hold => ht (h target hold)

/-- **A pump selects from what is left.** -/
theorem selectTargets_eq {limit : ℕ}
    (hrows : ∀ row ∈ rows, ∃ task : AnyTask, row.identity.IsOf task)
    (hkeeps : ∀ t ∈ relation, b.Keeps t) :
    selectTargets b rows relation limit =
      ((b.untagged rows relation).insertionSort BackfillTarget.DescLe).take limit := by
  have hfilter : (relation.filter fun target => ¬ b.Submitted rows target) =
      b.untagged rows relation := by
    refine List.filter_congr fun t ht => ?_
    have hiff := submitted_iff hrows (hkeeps t ht)
    by_cases hs : b.Submitted rows t
    · have hne : b.taggedRuns rows t ≠ [] := fun hnil => taggedRuns_eq_nil.1 hnil (hiff.1 hs)
      simp [hs, hne]
    · have hnil : b.taggedRuns rows t = [] := taggedRuns_eq_nil.2 fun h => hs (hiff.2 h)
      simp [hs, hnil]
  rw [selectTargets, hfilter]

end Backfill

/-! ## Pumps over a relation -/

/-- The targets a pump has yet to collect an answer for. -/
def PumpPc.pending : PumpPc → List BackfillTarget
  | .submit rest => rest
  | .awaiting target _ rest => target :: rest
  | .ensureNotDry | .select | .returned _ => []

namespace Engine

/-- **The relation does not change, and nobody else acts on its targets.** -/
def Undisturbed (g : Engine) (relation : List BackfillTarget) (s : BackfillState)
    (e : BackfillEv) (s' : BackfillState) : Prop :=
  match e with
  | .task e => g.definition.Quiet relation s.tasks e s'.tasks
  | .next _ (.select rows) => rows = relation
  | _ => True

instance (g : Engine) (relation : List BackfillTarget) (s s' : BackfillState) (e : BackfillEv) :
    Decidable (g.Undisturbed relation s e s') := by
  unfold Undisturbed
  split <;> infer_instance

/-- What is known of a pump over the relation. -/
structure PumpInv (b : Backfill) (relation : List BackfillTarget) (tasks : TaskState AnyTask)
    (p : Pump) : Prop where
  mem : ∀ t ∈ p.targets, t ∈ relation
  pending : ∀ t ∈ p.pc.pending, t ∈ p.targets
  tagged : ∀ t ∈ p.targets, t ∈ p.pc.pending ∨ b.Tagged tasks.rows t
  awaiting : ∀ t c rest, p.pc = .awaiting t c rest →
    ∃ call, tasks.calls[c]? = some call ∧ TaskMaster.Submitting b tasks.rows t call

/-- **The invariant of the pumps from the `n`th on.** -/
structure CoverInv (g : Engine) (m : TaskMaster) (relation : List BackfillTarget) (n : ℕ)
    (s : BackfillState) : Prop where
  reaches : m.Reaches s.tasks
  length : n ≤ s.pumps.length
  settled : ∀ t ∈ relation, TaskMaster.SettledBut g.definition s.tasks.rows t
  older : ∀ (i : ℕ) (p : Pump), i < n → s.pumps[i]? = some p → p.isDone = true
  pumps : ∀ (i : ℕ) (p : Pump), n ≤ i → s.pumps[i]? = some p →
    PumpInv g.definition relation s.tasks p

variable {g : Engine} {m : TaskMaster} {s s' : BackfillState} {e : BackfillEv} {i n : ℕ}
variable {p : Pump} {choice : PumpChoice} {es : List BackfillEv} {limit : ℕ}
variable {relation : List BackfillTarget} {b : Backfill} {tasks tasks' : TaskState AnyTask}
variable {t : BackfillTarget}

/-- A step of the task machine, which is not the pump's own, keeps what the
pump knows of its targets. -/
theorem PumpInv.of_step {e : Ev AnyTask} (h : PumpInv b relation tasks p)
    (hr : m.Reaches tasks) (hset : ∀ t ∈ relation, TaskMaster.SettledBut b tasks.rows t)
    (hs : (TaskMaster.system AnyTask m).step tasks e = some tasks')
    (hq : b.Quiet relation tasks e tasks') : PumpInv b relation tasks' p where
  mem := h.mem
  pending := h.pending
  tagged t ht := (h.tagged t ht).imp_right (TaskMaster.tagged_of_step hs)
  awaiting t c rest hpc := by
    obtain ⟨call, hc, hsub⟩ := h.awaiting t c rest hpc
    have hpending : t ∈ p.pc.pending := by
      rw [hpc]
      exact List.mem_cons_self
    have hmem := h.mem t (h.pending t hpending)
    exact TaskMaster.submitting_of_step hr hs hq hmem (hset t hmem) hc hsub

/-- The task machine under an event of the engine. -/
theorem quiet_of_engineMove (h : EngineMove g m s e s') (hq : g.Undisturbed relation s e s') :
    s'.tasks = s.tasks ∨ ∃ e', (TaskMaster.system AnyTask m).step s.tasks e' = some s'.tasks ∧
      g.definition.Quiet relation s.tasks e' s'.tasks := by
  cases h with
  | task h => exact Or.inr ⟨_, h, hq⟩
  | pump => exact Or.inl rfl
  | next _ hm =>
    cases hm with
    | submitted _ _ hs => exact Or.inr ⟨.submit _ _, hs, trivial⟩
    | _ => exact Or.inl rfl

/-- A submission by the admin passes what is checked before it. -/
def Accepted (g : Engine) (relation : List BackfillTarget) : Prop :=
  g.context.isAdmin = true ∧
    ∀ t ∈ relation, WebhookTask.reject (g.definition.makeTask t) = none

/-- A target the engine accepts passes the check of the submission. -/
theorem Accepted.submitCheck (h : Accepted g relation) (ht : t ∈ relation) :
    (g.definition.makeTask t).submitCheck g.context = .ok () := by
  rw [AnyTask.submitCheck_of_admin h.1, if_pos (h.2 t ht)]

/-- A move of the pump that leaves its targets and what is pending of them. -/
theorem PumpInv.of_pending {p' : Pump} (hi : PumpInv b relation tasks p)
    (htargets : p'.targets = p.targets) (hpending : p'.pc.pending = p.pc.pending)
    (hnot : ∀ t c rest, p'.pc ≠ .awaiting t c rest) : PumpInv b relation tasks p' where
  mem := by
    rw [htargets]
    exact hi.mem
  pending := by
    rw [htargets, hpending]
    exact hi.pending
  tagged := by
    rw [htargets, hpending]
    exact hi.tagged
  awaiting t c rest hpc := absurd hpc (hnot t c rest)

/-- A pump begins at the dry check, or has been refused for its limit. -/
theorem pc_start {force : Bool} : (Pump.start limit force).pc = .ensureNotDry ∨
    ∃ result, (Pump.start limit force).pc = .returned result := by
  unfold Pump.start
  by_cases h0 : limit = 0
  · exact Or.inr ⟨_, if_pos h0⟩
  · exact Or.inl (if_neg h0)

/-- A pump that has selected nothing yet. -/
theorem pumpInv_start {force : Bool} : PumpInv b relation tasks (Pump.start limit force) := by
  refine ⟨fun _ h => absurd h List.not_mem_nil, fun t ht => ?_,
    fun _ h => absurd h List.not_mem_nil, fun t c rest h => ?_⟩
  · rcases @pc_start limit force with hpc | ⟨result, hpc⟩
    · rw [hpc] at ht
      cases ht
    · rw [hpc] at ht
      cases ht
  · rcases @pc_start limit force with hpc | ⟨result, hpc⟩
    · rw [hpc] at h
      cases h
    · rw [hpc] at h
      cases h

/-- **What a statement of a pump keeps of it.** -/
theorem pumpInv_of_pumpMove (hi : PumpInv g.definition relation s.tasks p)
    (hok : Accepted g relation) (hp : s.pumps[i]? = some p) (hm : PumpMove g m s i p choice s')
    (hq : g.Undisturbed relation s (.next i choice) s') :
    ∃ p', s'.pumps[i]? = some p' ∧ PumpInv g.definition relation s'.tasks p' := by
  cases hm with
  | passed hpc =>
    exact ⟨_, getElem?_set_of_some hp, hi.of_pending rfl (by rw [hpc]; rfl) (by simp)⟩
  | refused hpc =>
    exact ⟨_, getElem?_set_of_some hp, hi.of_pending rfl (by rw [hpc]; rfl) (by simp)⟩
  | @selected rows hpc =>
    have hrows : rows = relation := hq
    subst hrows
    refine ⟨_, getElem?_set_of_some hp, fun t ht => ?_, fun _ h => h, fun _ h => Or.inl h,
      fun _ _ _ h => (by cases h)⟩
    have hsort := List.mem_of_mem_take ht
    rw [List.mem_insertionSort] at hsort
    exact (List.mem_filter.1 hsort).1
  | @denied target rest err hpc herr =>
    have hmem := hi.mem target (hi.pending target (by rw [hpc]; exact List.mem_cons_self))
    rw [hok.submitCheck hmem] at herr
    cases herr
  | @submitted target rest tasks hpc _ hs =>
    have hpend : p.pc.pending = target :: rest := by rw [hpc]; rfl
    have hs' : (TaskMaster.system AnyTask m).step s.tasks (.submit (g.definition.makeTask target)
        (some g.definition.id)) = some tasks := hs
    obtain ⟨hc, -⟩ := TaskMaster.call_of_submit hs'
    refine ⟨_, getElem?_set_of_some hp, hi.mem, fun t ht => ?_, fun t ht => ?_,
      fun t c rest' h => ?_⟩
    · exact hi.pending t (by rw [hpend]; exact ht)
    · rcases hi.tagged t ht with h | h
      · rw [hpend] at h
        exact Or.inl h
      · exact Or.inr (TaskMaster.tagged_of_step hs' h)
    · cases h
      exact ⟨_, hc, rfl, rfl, trivial⟩
  | @collected target c rest call outcome hpc hc hret =>
    have hpend : p.pc.pending = target :: rest := by rw [hpc]; rfl
    obtain ⟨call', hc', hsub⟩ := hi.awaiting target c rest hpc
    rw [hc] at hc'
    cases hc'
    refine ⟨_, getElem?_set_of_some hp, hi.mem, fun t ht => ?_, fun t ht => ?_,
      fun _ _ _ h => (by cases h)⟩
    · exact hi.pending t (by rw [hpend]; exact List.mem_cons_of_mem _ ht)
    · rcases hi.tagged t ht with h | h
      · rw [hpend] at h
        rcases List.mem_cons.1 h with rfl | h
        · exact Or.inr (hsub.tagged hret)
        · exact Or.inl h
      · exact Or.inr h
  | recorded hpc =>
    exact ⟨_, getElem?_set_of_some hp, hi.of_pending rfl (by rw [hpc]; rfl) (by simp)⟩

/-- **Every event keeps the invariant of the pumps.** -/
theorem coverInv_of_step (hi : CoverInv g m relation n s) (hok : Accepted g relation)
    (hs : (g.system m).step s e = some s') (hq : g.Undisturbed relation s e s') :
    CoverInv g m relation n s' := by
  have hmove := engineMove_of_step hs
  -- what the tasks' step does to the settled rows and to a pump that takes none
  have htasks : m.Reaches s'.tasks ∧
      (∀ t ∈ relation, TaskMaster.SettledBut g.definition s'.tasks.rows t) ∧
      ∀ p, PumpInv g.definition relation s.tasks p → PumpInv g.definition relation s'.tasks p := by
    rcases quiet_of_engineMove hmove hq with heq | ⟨e', hs', hq'⟩
    · rw [heq]
      exact ⟨hi.reaches, hi.settled, fun _ h => h⟩
    · exact ⟨hi.reaches.step hs', fun t ht => TaskMaster.settledBut_of_step hi.reaches hs' hq' ht
        (hi.settled t ht), fun p hp => hp.of_step hi.reaches hi.settled hs' hq'⟩
  obtain ⟨hreaches, hsettled, hkeep⟩ := htasks
  refine ⟨hreaches, ?_, hsettled, fun j p hj hp => ?_, fun j p hj hp => ?_⟩
  · cases hmove with
    | task => exact hi.length
    | pump => exact hi.length.trans (by simp)
    | next hp hm =>
      obtain ⟨-, -, p', hset, -⟩ := record_of_pumpMove hm
      rw [hset, List.length_set]
      exact hi.length
  · cases hmove with
    | task => exact hi.older j p hj hp
    | @pump limit force =>
      rcases getElem?_concat_eq_some hp with ⟨rfl, -⟩ | hp
      · exact absurd hi.length (by omega)
      · exact hi.older j p hj hp
    | @next i choice q s' hq' hm =>
      obtain ⟨hdone, -, q', hset, -⟩ := record_of_pumpMove hm
      rw [hset] at hp
      rcases getElem?_set_eq_some hp with ⟨rfl, -⟩ | ⟨-, hp⟩
      · rw [hi.older j q hj hq'] at hdone
        cases hdone
      · exact hi.older j p hj hp
  · cases hmove with
    | task => exact hkeep p (hi.pumps j p hj hp)
    | @pump limit force =>
      rcases getElem?_concat_eq_some hp with ⟨rfl, rfl⟩ | hp
      · exact pumpInv_start
      · exact hi.pumps j p hj hp
    | @next i choice q s' hq' hm =>
      obtain ⟨-, -, q', hset, -⟩ := record_of_pumpMove hm
      by_cases hji : j = i
      · subst hji
        obtain ⟨p', hp', hinv⟩ := pumpInv_of_pumpMove (hi.pumps j q hj hq') hok hq' hm hq
        rw [hp] at hp'
        cases hp'
        exact hinv
      · rw [hset, getElem?_set_of_ne hji] at hp
        exact hkeep p (hi.pumps j p hj hp)

/-- A pump that still runs is none of the older ones. -/
theorem CoverInv.le_of_running (hi : CoverInv g m relation n s) (hp : s.pumps[i]? = some p)
    (hdone : p.isDone = false) : n ≤ i := by
  by_contra hlt
  rw [hi.older i p (by omega) hp] at hdone
  cases hdone

/-- Once a pump has its answers, what is left avoids all it selected. -/
theorem CoverInv.untagged_of_collected (hi : CoverInv g m relation n s) (hni : n ≤ i)
    (hp : s.pumps[i]? = some p) (hpc : p.pc.pending = []) :
    (g.definition.untagged s.tasks.rows relation).filter (· ∉ p.targets) =
      g.definition.untagged s.tasks.rows relation := by
  refine List.filter_eq_self.2 fun t ht => decide_eq_true fun hmem => ?_
  rcases (hi.pumps i p hni hp).tagged t hmem with h | h
  · rw [hpc] at h
    cases h
  · exact (Backfill.mem_untagged.1 ht).2 h

/-- What is left of the relation only shrinks. -/
theorem untagged_sublist_of_step (hs : (g.system m).step s e = some s')
    (hq : g.Undisturbed relation s e s') :
    (g.definition.untagged s'.tasks.rows relation).Sublist
      (g.definition.untagged s.tasks.rows relation) := by
  refine Backfill.untagged_sublist fun target ht => ?_
  rcases quiet_of_engineMove (engineMove_of_step hs) hq with heq | ⟨e', hs', -⟩
  · rw [heq]
    exact ht
  · exact TaskMaster.tagged_of_step hs' ht

/-! ## One after another -/

/-- The limit of a pump that was executed. -/
def executedLimit (p : Pump) : Option ℕ := p.response.map fun _ => p.limit

/-- The limits of the executed pumps sum to. -/
def limitsFrom (n : ℕ) (s : BackfillState) : ℕ :=
  ((s.pumps.drop n).filterMap executedLimit).sum

/-- Past its selection, and not yet recorded. -/
def Selected (pc : PumpPc) : Prop :=
  match pc with
  | .submit _ | .awaiting _ _ _ => True
  | .ensureNotDry | .select | .returned _ => False

/-- **The invariant of the pumps one after another**: what `U` targets are
left of shrinks by the limit of every pump, where it selects. -/
structure DrainInv (g : Engine) (relation : List BackfillTarget) (n U : ℕ) (s : BackfillState) :
    Prop where
  one : OneRunning s
  left : (g.definition.untagged s.tasks.rows relation).length ≤ U - limitsFrom n s
  running : ∀ (i : ℕ) (p : Pump), n ≤ i → s.pumps[i]? = some p → Selected p.pc →
    ((g.definition.untagged s.tasks.rows relation).filter (· ∉ p.targets)).length ≤
      U - limitsFrom n s - p.limit

/-- A pump that has just been called has not answered, and counts for nothing. -/
theorem limitsFrom_append {force : Bool} (hn : n ≤ s.pumps.length) :
    limitsFrom n { s with pumps := s.pumps ++ [Pump.start limit force] } = limitsFrom n s := by
  unfold limitsFrom
  rw [List.drop_append_of_le_length hn, List.filterMap_append]
  simp [executedLimit]

/-- The pumps of a history, counted from its first one. -/
theorem getElem?_drop_of_le {l : List Pump} (hni : n ≤ i) (hp : l[i]? = some p) :
    (l.drop n)[i - n]? = some p := by
  rw [List.getElem?_drop, show n + (i - n) = i by omega]
  exact hp

/-- A pump that moves without an answer changes no count. -/
theorem limitsFrom_set_of_eq {p' : Pump} (hni : n ≤ i) (hp : s.pumps[i]? = some p)
    (hset : s'.pumps = s.pumps.set i p') (hnone : p.response = none) (hnone' : p'.response = none) :
    limitsFrom n s' = limitsFrom n s := by
  unfold limitsFrom
  rw [hset, List.drop_set, if_neg (by omega), filterMap_set_of_eq (getElem?_drop_of_le hni hp)]
  unfold executedLimit
  rw [hnone, hnone']
  rfl

/-- A pump that answers adds its limit. -/
theorem limitsFrom_set_of_response {p' : Pump} {r : BackfillPumpResponse} (hni : n ≤ i)
    (hp : s.pumps[i]? = some p) (hset : s'.pumps = s.pumps.set i p') (hnone : p.response = none)
    (hsome : p'.response = some r) : limitsFrom n s' = limitsFrom n s + p'.limit := by
  unfold limitsFrom
  rw [hset, List.drop_set, if_neg (by omega)]
  have hperm := filterMap_set_perm (f := executedLimit) (y := p') (b := p'.limit)
    (getElem?_drop_of_le hni hp) (by unfold executedLimit; rw [hnone]; rfl)
    (by unfold executedLimit; rw [hsome]; rfl)
  rw [hperm.sum_nat, List.sum_cons, Nat.add_comm]

/-- What the first `limit` leave of a list. -/
theorem length_filter_notMem_take {l : List BackfillTarget} (hl : l.Nodup) :
    (l.filter (· ∉ (l.insertionSort BackfillTarget.DescLe).take limit)).length ≤
      l.length - limit := by
  have hperm := List.perm_insertionSort BackfillTarget.DescLe l
  have hnodup : (l.insertionSort BackfillTarget.DescLe).Nodup := hperm.nodup_iff.2 hl
  have hlen : (l.filter (· ∉ (l.insertionSort BackfillTarget.DescLe).take limit)).length ≤
      ((l.insertionSort BackfillTarget.DescLe).drop limit).length := by
    refine List.Subperm.length_le (List.subperm_of_subset (hl.filter _) fun t ht => ?_)
    obtain ⟨hmem, hnot⟩ := List.mem_filter.1 ht
    have hin := hperm.mem_iff.2 hmem
    rw [← List.take_append_drop limit (l.insertionSort BackfillTarget.DescLe)] at hin
    rcases List.mem_append.1 hin with h | h
    · exact absurd h (of_decide_eq_true hnot)
    · exact h
  rw [List.length_drop, List.length_insertionSort] at hlen
  exact hlen

/-- **One step drains what its pump takes.** -/
theorem drainInv_of_step {U : ℕ} (hi : DrainInv g relation n U s)
    (hcover : CoverInv g m relation n s) (hkeeps : ∀ t ∈ relation, g.definition.Keeps t)
    (hnodup : relation.Nodup) (hs : (g.system m).step s e = some s')
    (hq : g.Undisturbed relation s e s') (hone : OneAtATime s e s') :
    DrainInv g relation n U s' := by
  have hmove := engineMove_of_step hs
  have hrunning := oneRunning_of_step hi.one hs hone
  have hshrink := untagged_sublist_of_step hs hq
  have hleft := hshrink.length_le
  cases hmove with
  | task hs' =>
    refine ⟨hrunning, hleft.trans hi.left, fun i p hni hp hsel => ?_⟩
    exact (hshrink.filter _).length_le.trans (hi.running i p hni hp hsel)
  | @pump limit force =>
    refine ⟨hrunning, ?_, fun i p hni hp hsel => ?_⟩
    · rw [limitsFrom_append hcover.length]
      exact hi.left
    · rw [limitsFrom_append hcover.length]
      rcases getElem?_concat_eq_some hp with ⟨rfl, rfl⟩ | hp
      · rcases @pc_start limit force with hpc | ⟨result, hpc⟩
        · rw [hpc] at hsel
          exact hsel.elim
        · rw [hpc] at hsel
          exact hsel.elim
      · exact hi.running i p hni hp hsel
  | @next i choice p s' hp hm =>
    obtain ⟨hdone, hnone, p', hset, -⟩ := record_of_pumpMove hm
    have hni := hcover.le_of_running hp hdone
    -- no other pump is past its selection
    have hothers : ∀ {p' : Pump}, s'.pumps = s.pumps.set i p' → (Selected p'.pc →
        ((g.definition.untagged s'.tasks.rows relation).filter (· ∉ p'.targets)).length ≤
          U - limitsFrom n s' - p'.limit) → ∀ (j : ℕ) (q : Pump), n ≤ j → s'.pumps[j]? = some q →
        Selected q.pc → ((g.definition.untagged s'.tasks.rows relation).filter
          (· ∉ q.targets)).length ≤ U - limitsFrom n s' - q.limit := by
      intro p' hset hbound j q _ hq hsel
      rw [hset] at hq
      rcases getElem?_set_eq_some hq with ⟨rfl, rfl⟩ | ⟨hji, hq⟩
      · exact hbound hsel
      · have hqdone : q.isDone = false := by
          unfold Pump.isDone
          split
          · rename_i hpc
            rw [hpc] at hsel
            exact hsel.elim
          · rfl
        have h₁ := hi.one j q hq hqdone
        have h₂ := hi.one i p hp hdone
        omega
    have hsame : ∀ {p' : Pump}, s'.pumps = s.pumps.set i p' → p'.response = none →
        limitsFrom n s' = limitsFrom n s := fun hset hnone' =>
      limitsFrom_set_of_eq hni hp hset hnone hnone'
    cases hm with
    | passed => exact ⟨hrunning, hsame rfl rfl ▸ hi.left, hothers rfl fun h => h.elim⟩
    | refused => exact ⟨hrunning, hsame rfl rfl ▸ hi.left, hothers rfl fun h => h.elim⟩
    | @selected rows hpc =>
      have hrows : rows = relation := hq
      subst hrows
      refine ⟨hrunning, hsame rfl rfl ▸ hi.left, hothers rfl fun _ => ?_⟩
      rw [hsame rfl rfl]
      have hfilter := @length_filter_notMem_take p.limit
        (g.definition.untagged s.tasks.rows rows) (hnodup.filter _)
      have hleft := hi.left
      rw [← Backfill.selectTargets_eq (fun _ hr => hcover.reaches.isOf hr) hkeeps] at hfilter
      exact hfilter.trans (Nat.sub_le_sub_right hleft _)
    | denied hpc =>
      refine ⟨hrunning, hsame rfl rfl ▸ hi.left, hothers rfl fun _ => ?_⟩
      rw [hsame rfl rfl]
      exact hi.running i p hni hp (by rw [hpc]; trivial)
    | submitted hpc =>
      refine ⟨hrunning, hsame rfl rfl ▸ hleft.trans hi.left, hothers rfl fun _ => ?_⟩
      rw [hsame rfl rfl]
      exact (hshrink.filter _).length_le.trans (hi.running i p hni hp (by rw [hpc]; trivial))
    | collected hpc =>
      refine ⟨hrunning, hsame rfl rfl ▸ hi.left, hothers rfl fun _ => ?_⟩
      rw [hsame rfl rfl]
      exact hi.running i p hni hp (by rw [hpc]; trivial)
    | recorded hpc =>
      refine ⟨hrunning, ?_, hothers rfl fun h => h.elim⟩
      have hbound := hi.running i p hni hp (by rw [hpc]; trivial)
      -- all it selected is tagged by now
      rw [hcover.untagged_of_collected hni hp (by rw [hpc]; rfl)] at hbound
      rw [limitsFrom_set_of_response hni hp rfl hnone rfl]
      exact hbound.trans (Nat.sub_sub _ _ _).le

/-! ## Where nothing is left -/

/-- **The invariant of the pumps after everything is tagged.** -/
structure DryInv (g : Engine) (relation : List BackfillTarget) (n : ℕ) (s : BackfillState) :
    Prop where
  nothing : g.definition.untagged s.tasks.rows relation = []
  targets : ∀ (i : ℕ) (p : Pump), n ≤ i → s.pumps[i]? = some p → p.targets = []
  responses : ∀ (i : ℕ) (p : Pump) (r : BackfillPumpResponse), n ≤ i → s.pumps[i]? = some p →
    p.response = some r → r.selectedCount = 0 ∧ r.drySince.isSome

/-- A dry pump leaves a dry record. -/
theorem isSome_drySince_recordPump {record : Option BackfillModel} {now : Timestamp} :
    (recordPump record true now).drySince.isSome := by
  unfold recordPump
  rw [if_pos rfl]
  cases record with
  | none => rfl
  | some record =>
    cases h : record.drySince with
    | none => simp [h]
    | some t => simp [h]

/-- Recording leaves the backfill latched. -/
def RecordsDry (g : Engine) (_ : BackfillState) (e : BackfillEv) (s' : BackfillState) : Prop :=
  ∀ i now, e = .next i (.record now) → Latched g s'

/-- With everything tagged, one event leaves everything tagged, and a pump
that records says that the backfill is dry. -/
theorem dryInv_of_step (hi : DryInv g relation n s) (hcover : CoverInv g m relation n s)
    (hkeeps : ∀ t ∈ relation, g.definition.Keeps t) (hs : (g.system m).step s e = some s')
    (hq : g.Undisturbed relation s e s') : DryInv g relation n s' ∧ RecordsDry g s e s' := by
  have hmove := engineMove_of_step hs
  have hnothing : g.definition.untagged s'.tasks.rows relation = [] := by
    have hshrink := untagged_sublist_of_step hs hq
    rw [hi.nothing] at hshrink
    exact List.sublist_nil.1 hshrink
  cases hmove with
  | task => exact ⟨⟨hnothing, hi.targets, hi.responses⟩, fun _ _ h => (by cases h)⟩
  | pump =>
    refine ⟨⟨hnothing, fun j p hj hp => ?_, fun j p r hj hp hr => ?_⟩, fun _ _ h => (by cases h)⟩
    · rcases getElem?_concat_eq_some hp with ⟨rfl, rfl⟩ | hp
      · rfl
      · exact hi.targets j p hj hp
    · rcases getElem?_concat_eq_some hp with ⟨rfl, rfl⟩ | hp
      · rw [Pump.response_start] at hr
        cases hr
      · exact hi.responses j p r hj hp hr
  | @next i choice p s' hp hm =>
    obtain ⟨hdone, -⟩ := record_of_pumpMove hm
    have hni := hcover.le_of_running hp hdone
    have hset : ∀ {p' : Pump}, s'.pumps = s.pumps.set i p' → p'.targets = [] →
        (∀ r, p'.response = some r → r.selectedCount = 0 ∧ r.drySince.isSome) →
        DryInv g relation n s' := by
      intro p' hset htargets hresponse
      refine ⟨hnothing, fun j q hj hq => ?_, fun j q r hj hq hr => ?_⟩
      · rw [hset] at hq
        rcases getElem?_set_eq_some hq with ⟨-, rfl⟩ | ⟨-, hq⟩
        · exact htargets
        · exact hi.targets j q hj hq
      · rw [hset] at hq
        rcases getElem?_set_eq_some hq with ⟨-, rfl⟩ | ⟨-, hq⟩
        · exact hresponse r hr
        · exact hi.responses j q r hj hq hr
    have htargets := hi.targets i p hni hp
    cases hm with
    | @selected rows hpc =>
      have hrows : rows = relation := hq
      subst hrows
      refine ⟨hset rfl ?_ fun r hr => (by cases hr), fun _ _ h => (by cases h)⟩
      change selectTargets g.definition s.tasks.rows rows p.limit = []
      rw [Backfill.selectTargets_eq (fun _ hr => hcover.reaches.isOf hr) hkeeps, hi.nothing,
        List.insertionSort_nil, List.take_nil]
    | @recorded now record hpc hrecord =>
      have hdry : record.drySince.isSome := by
        rw [hrecord, htargets]
        exact isSome_drySince_recordPump
      refine ⟨hset rfl htargets fun r hr => ?_, fun _ _ _ => ?_⟩
      · cases hr
        exact ⟨congrArg List.length htargets, hdry⟩
      · obtain ⟨t, ht⟩ := Option.isSome_iff_exists.1 hdry
        exact ⟨record, t, Function.update_self .., ht⟩
    | _ => exact ⟨hset rfl htargets fun r hr => (by cases hr), fun _ _ h => (by cases h)⟩

/-! ## Coverage -/

/-- **What the pumps of a run from `s₀` to `s` cover.** -/
structure Coverage (g : Engine) (m : TaskMaster) (relation : List BackfillTarget)
    (s₀ : BackfillState) (es : List BackfillEv) (s : BackfillState) : Prop where
  /-- Each pump selects the first of the targets that are left, as many as its
  limit allows. -/
  selects : (g.system m).Along (fun t e t' => ∀ i rows p, e = .next i (.select rows) →
    t.pumps[i]? = some p → ∃ p', t'.pumps[i]? = some p' ∧
      FirstOf (g.definition.untagged t.tasks.rows relation) p.limit p'.targets) s₀ es
  /-- No target ever has two tagged runs. -/
  once : ∀ t ∈ relation, (g.definition.taggedRuns s.tasks.rows t).length ≤ 1
  /-- A pump that was executed leaves each target it selected with one. -/
  tagged : ∀ (i : ℕ) (p : Pump), s₀.pumps.length ≤ i → s.pumps[i]? = some p →
    p.response.isSome → ∀ t ∈ p.targets, (g.definition.taggedRuns s.tasks.rows t).length = 1
  /-- Pumps one after another whose limits reach the number of untagged
  targets leave every target with one. -/
  covers : (g.system m).Along OneAtATime s₀ es →
    (g.definition.untagged s₀.tasks.rows relation).length ≤ limitsFrom s₀.pumps.length s →
    ∀ t ∈ relation, (g.definition.taggedRuns s.tasks.rows t).length = 1
  /-- And every pump after them selects none and records the backfill dry. -/
  dry : (g.system m).Along OneAtATime s₀ es →
    (g.definition.untagged s₀.tasks.rows relation).length ≤ limitsFrom s₀.pumps.length s →
    s.Idle → ∀ es' s', (g.system m).run s es' = some s' →
    (g.system m).Along (g.Undisturbed relation) s es' →
    (g.system m).Along (RecordsDry g) s es' ∧
    ∀ (i : ℕ) (p : Pump), s.pumps.length ≤ i → s'.pumps[i]? = some p → p.targets = [] ∧
      ∀ r, p.response = some r → r.selectedCount = 0 ∧ r.drySince.isSome

/-- No pump under way, and no run of a target in flight. -/
theorem coverInv_of_idle (hr : m.Reaches s.tasks) (hidle : s.Idle)
    (hsettled : ∀ t ∈ relation, TaskMaster.SettledBut g.definition s.tasks.rows t) :
    CoverInv g m relation s.pumps.length s where
  reaches := hr
  length := le_rfl
  settled := hsettled
  older _ p _ hp := hidle p (List.mem_of_getElem? hp)
  pumps i p hi hp := by
    have hlt := (List.getElem?_eq_some_iff.1 hp).1
    omega

/-- What the `select` of a pump takes. -/
theorem firstOf_of_step (hi : CoverInv g m relation n s)
    (hkeeps : ∀ t ∈ relation, g.definition.Keeps t) (hnodup : relation.Nodup)
    {rows : List BackfillTarget} (hs : (g.system m).step s (.next i (.select rows)) = some s')
    (hq : g.Undisturbed relation s (.next i (.select rows)) s') (hp : s.pumps[i]? = some p) :
    ∃ p', s'.pumps[i]? = some p' ∧
      FirstOf (g.definition.untagged s.tasks.rows relation) p.limit p'.targets := by
  have hrows : rows = relation := hq
  subst hrows
  cases engineMove_of_step hs with
  | next hp' hm =>
    rw [hp] at hp'
    cases hp'
    cases hm with
    | selected hpc =>
      refine ⟨_, getElem?_set_of_some hp, ?_⟩
      change FirstOf _ _ (selectTargets g.definition s.tasks.rows rows p.limit)
      rw [Backfill.selectTargets_eq (fun _ hr => hi.reaches.isOf hr) hkeeps]
      exact firstOf_take (hnodup.filter _)

/-- **Backfill coverage.** -/
theorem backfill_coverage {s₀ : BackfillState} (hok : Accepted g relation)
    (hkeeps : ∀ t ∈ relation, g.definition.Keeps t) (hnodup : relation.Nodup)
    (hreach : g.Reaches m s₀) (hidle : s₀.Idle)
    (hsettled : ∀ t ∈ relation, ∀ r ∈ s₀.tasks.rows,
      r.logicalId = g.definition.logicalId t → r.inFlight = false)
    (hrun : (g.system m).run s₀ es = some s)
    (hund : (g.system m).Along (g.Undisturbed relation) s₀ es) :
    Coverage g m relation s₀ es s := by
  have hstart : CoverInv g m relation s₀.pumps.length s₀ :=
    coverInv_of_idle hreach.tasks hidle fun t ht r hr hL _ => hsettled t ht r hr hL
  obtain ⟨hend, hselects⟩ := System.run_inv_to (s := s₀)
    (I := CoverInv g m relation s₀.pumps.length) (P := g.Undisturbed relation)
    (Q := fun t e t' => ∀ i rows p, e = .next i (.select rows) → t.pumps[i]? = some p →
      ∃ p', t'.pumps[i]? = some p' ∧
        FirstOf (g.definition.untagged t.tasks.rows relation) p.limit p'.targets)
    (fun t e t' es hi hs _ hq => ⟨coverInv_of_step hi hok hs hq, by
      rintro i rows p rfl hp
      exact firstOf_of_step hi hkeeps hnodup hs hq hp⟩) hstart hrun hund
  have hunique := hend.reaches.tableInv.unique
  -- once the limits add up to what was untagged, nothing is left
  have hdrained : (g.system m).Along OneAtATime s₀ es →
      (g.definition.untagged s₀.tasks.rows relation).length ≤ limitsFrom s₀.pumps.length s →
      g.definition.untagged s.tasks.rows relation = [] := by
    intro hone hlimits
    have hdrain : DrainInv g relation s₀.pumps.length
        (g.definition.untagged s₀.tasks.rows relation).length s₀ := by
      refine ⟨fun i p hp hdone => ?_, Nat.le_sub_of_add_le ?_, fun i p hi hp => ?_⟩
      · rw [hidle p (List.mem_of_getElem? hp)] at hdone
        cases hdone
      · simp [limitsFrom]
      · have hlt := (List.getElem?_eq_some_iff.1 hp).1
        omega
    have hinv := System.run_inv_along (I := fun t => CoverInv g m relation s₀.pumps.length t ∧
        DrainInv g relation s₀.pumps.length
          (g.definition.untagged s₀.tasks.rows relation).length t)
      (P := fun t e t' => g.Undisturbed relation t e t' ∧ OneAtATime t e t')
      (fun t e t' ⟨hi, hd⟩ hs ⟨hq, hone⟩ => ⟨coverInv_of_step hi hok hs hq,
        drainInv_of_step hd hi hkeeps hnodup hs hq hone⟩)
      ⟨hstart, hdrain⟩ hrun (System.along_and.2 ⟨hund, hone⟩)
    have hleft := hinv.2.left
    exact List.eq_nil_of_length_eq_zero (by omega)
  refine ⟨hselects, fun t _ => Backfill.length_taggedRuns_le hunique, fun i p hi hp hr t ht => ?_,
    fun hone hlimits t ht => ?_, fun hone hlimits hidle' es' s' hrun' hund' => ?_⟩
  · refine Backfill.length_taggedRuns_eq hunique ?_
    rcases (hend.pumps i p hi hp).tagged t ht with hpend | htagged
    · -- an executed pump has nothing pending
      unfold Pump.response at hr
      split at hr
      · rename_i hpc
        rw [hpc] at hpend
        cases hpend
      · cases hr
    · exact htagged
  · refine Backfill.length_taggedRuns_eq hunique (by_contra fun hnot => ?_)
    have hmem := Backfill.mem_untagged.2 ⟨ht, hnot⟩
    rw [hdrained hone hlimits] at hmem
    cases hmem
  · have hcover' : CoverInv g m relation s.pumps.length s :=
      coverInv_of_idle hend.reaches hidle' hend.settled
    have hdry : DryInv g relation s.pumps.length s := by
      refine ⟨hdrained hone hlimits, fun i p hi hp => ?_, fun i p r hi hp => ?_⟩
      · have hlt := (List.getElem?_eq_some_iff.1 hp).1
        omega
      · have hlt := (List.getElem?_eq_some_iff.1 hp).1
        omega
    -- from here on every pump selects nothing and records it
    obtain ⟨⟨-, hdry'⟩, hrecords⟩ := System.run_inv_to (s := s)
      (I := fun t => CoverInv g m relation s.pumps.length t ∧ DryInv g relation s.pumps.length t)
      (P := g.Undisturbed relation) (Q := RecordsDry g)
      (fun t e t' es ⟨hi, hd⟩ hs _ hq =>
        have hstep := dryInv_of_step hd hi hkeeps hs hq
        ⟨⟨coverInv_of_step hi hok hs hq, hstep.1⟩, hstep.2⟩) ⟨hcover', hdry⟩ hrun' hund'
    exact ⟨hrecords, fun i p hi hp => ⟨hdry'.targets i p hi hp,
      fun r hr => hdry'.responses i p r hi hp hr⟩⟩

/-- Two pumps over two captures; the queue rejects what the first submits. -/
def coverageSchedule : List BackfillEv :=
  [.pump 1 false, .next 0 .read, .next 0 (.select [⟨4, 1⟩, ⟨7, 2⟩]), .next 0 .submit,
    .task (.call 0 .read), .task (.call 0 (.latest "run-1")),
    .task (.call 0 (.insert 10 taskRunKey)), .task (.call 0 (.publish none)),
    .task (.call 0 (.enqueueFailed "queue rejected capture 7")), .task (.call 0 (.write 11)),
    .task (.call 0 (.publish none)), .next 0 .collect, .next 0 (.record 12),
    .pump 100 false, .next 1 .read, .next 1 (.select [⟨4, 1⟩, ⟨7, 2⟩]), .next 1 .submit,
    .task (.call 1 .read), .task (.call 1 (.latest "run-2")),
    .task (.call 1 (.insert 20 taskRunKey)), .task (.call 1 (.publish none)),
    .task (.call 1 .enqueued), .next 1 .collect, .next 1 (.record 22)]

/-- The state after that. -/
def coverageState : BackfillState :=
  ((illuminateV2Engine.system (TaskMaster.build none false)).run BackfillState.start
    coverageSchedule).get (by decide)

/-- Both captures are covered, the one whose submission the queue rejected
included. -/
theorem backfill_coverage_captures : Coverage illuminateV2Engine (TaskMaster.build none false)
    [⟨4, 1⟩, ⟨7, 2⟩] BackfillState.start coverageSchedule coverageState :=
  backfill_coverage ⟨rfl, fun _ _ => rfl⟩ (fun _ _ => ⟨rfl, rfl⟩) (by decide)
    System.Reachable.refl (by decide) (fun _ _ _ hr => absurd hr List.not_mem_nil)
    (Option.some_get _).symm (by decide)

end Engine

end Dreamscroll
