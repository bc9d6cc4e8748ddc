import Dreamscroll.Task.Sequential
/-!
# Status hints

A status change is committed first and published after, by the process that
committed it, with the row the statement returned. So the hints of a run
come in the order of its commits; but between the two statements of a run
that settled, the next run of the task may be inserted and published. What
is left of the commit order is `hints_in_order`.
-/

namespace Dreamscroll

variable {T : Type}

/-! ## Commits and hints -/

/-- The row an effect commits, as the statement returns it. -/
def Effect.committed (rows : List TaskRunModel) : Effect T → Option TaskRunModel
  | .insert _ row => some row
  | .write w => w.returning rows
  | .invoke .. | .hand .. | .respond .. | .publish _ => none

/-- The rows a log commits, from a table on. -/
def commitsFrom (rows : List TaskRunModel) : List (Effect T) → List TaskRunModel
  | [] => []
  | f :: fx => (f.committed rows).toList ++ commitsFrom (f.apply rows) fx

/-- The events a log hands to the notifier. -/
def hintsIn (fx : List (Effect T)) : List TaskStatusUpdate :=
  fx.filterMap fun
    | .publish ev => some ev
    | _ => none

/-- The committed rows of a logical task, in the order of the commits. -/
def commitsOf (s : TaskState T) (L : String) : List TaskRunModel :=
  (commitsFrom [] s.log).filter fun row => row.logicalId = L

/-- The events of a logical task, in the order they were published. -/
def hintsOf (s : TaskState T) (L : String) : List TaskStatusUpdate :=
  (hintsIn s.log).filter fun ev => ev.payload.logicalId = L

/-- Where in its attempt a status stands. -/
def TaskRunStatus.stage : TaskRunStatus → ℕ
  | queued => 0
  | inProgress => 1
  | submissionFailed | errorWillRetry | completeSuccess | completeFailure => 2

/-- An earlier commit of a logical task: of an earlier run, an earlier
attempt, or earlier in the attempt. -/
def Precedes (r r' : TaskRunModel) : Prop :=
  r.runNumber < r'.runNumber ∨ r.runNumber = r'.runNumber ∧ (r.attempts < r'.attempts ∨
    r.attempts = r'.attempts ∧ ∃ st st', r.HasStatus st ∧ r'.HasStatus st' ∧ st.stage < st'.stage)

variable {fx fx₁ fx₂ : List (Effect T)} {rows : List TaskRunModel} {row r r' r'' : TaskRunModel}
variable {ev : TaskStatusUpdate}

/-- The commits of two lists of effects, the second from where the first
leaves the rows. -/
theorem commitsFrom_append : commitsFrom rows (fx₁ ++ fx₂) =
    commitsFrom rows fx₁ ++ commitsFrom (fx₁.foldl Effect.apply rows) fx₂ := by
  induction fx₁ generalizing rows with
  | nil => rfl
  | cons f fx ih =>
    rw [List.cons_append, commitsFrom, ih, commitsFrom, List.append_assoc, List.foldl_cons]

/-- The hints of two lists of effects. -/
@[simp] theorem hintsIn_append : hintsIn (fx₁ ++ fx₂) = hintsIn fx₁ ++ hintsIn fx₂ :=
  List.filterMap_append

/-- The order of commits is transitive. -/
theorem Precedes.trans (h : Precedes r r') (h' : Precedes r' r'') : Precedes r r'' := by
  rcases h with h | ⟨hn, h⟩
  · rcases h' with h' | ⟨hn', -⟩
    · exact Or.inl (h.trans h')
    · exact Or.inl (hn' ▸ h)
  · rcases h' with h' | ⟨hn', h'⟩
    · exact Or.inl (hn ▸ h')
    · refine Or.inr ⟨hn.trans hn', ?_⟩
      rcases h with h | ⟨ha, st, st', hst, hst', h⟩
      · rcases h' with h' | ⟨ha', -⟩
        · exact Or.inl (h.trans h')
        · exact Or.inl (ha' ▸ h)
      · rcases h' with h' | ⟨ha', st₁, st₁', hst₁, hst₁', h'⟩
        · exact Or.inl (ha ▸ h')
        · have heq : st' = st₁ := TaskRunStatus.asI32_injective (hst'.symm.trans hst₁)
          subst heq
          exact Or.inr ⟨ha.trans ha', st, st₁', hst, hst₁', h.trans h'⟩

/-- No commit precedes itself. -/
theorem Precedes.asymm (h : Precedes r r') : ¬ Precedes r' r := by
  intro h'
  rcases h.trans h' with hlt | ⟨-, hlt | ⟨-, st, st', hst, hst', hlt⟩⟩
  · exact absurd hlt (Nat.lt_irrefl _)
  · exact absurd hlt (Nat.lt_irrefl _)
  · have heq : st = st' := TaskRunStatus.asI32_injective (hst.symm.trans hst')
    subst heq
    exact absurd hlt (Nat.lt_irrefl _)

/-- In a list sorted by an asymmetric relation, related entries stand in
that order. -/
theorem pair_sublist {α : Type} {R : α → α → Prop} {l : List α} {a b : α} (hl : l.Pairwise R)
    (hasymm : ∀ {x y}, R x y → ¬ R y x) (ha : a ∈ l) (hb : b ∈ l) (hab : R a b) :
    [a, b].Sublist l := by
  induction l with
  | nil => cases ha
  | cons x l ih =>
    obtain ⟨hx, hl'⟩ := List.pairwise_cons.1 hl
    rcases List.mem_cons.1 ha with rfl | ha'
    · rcases List.mem_cons.1 hb with rfl | hb'
      · exact absurd hab (hasymm hab)
      · exact List.Sublist.cons_cons _ (List.singleton_sublist.2 hb')
    · rcases List.mem_cons.1 hb with rfl | hb'
      · exact absurd (hx a ha') (hasymm hab)
      · exact (ih hl' ha' hb').cons x

/-! ## Who is about to publish -/

/-- The committed row a call publishes next. -/
def SubmitPc.announcing : SubmitPc T → Option TaskRunModel
  | .publishQueued _ row | .publishFailed row _ => some row
  | _ => none

/-- The committed row a delivery publishes next. -/
def DeliveryPc.announcing : DeliveryPc → Option TaskRunModel
  | .publishBegin _ row | .publishFinish _ _ row => some row
  | _ => none

/-- A process: a call, or a delivery. -/
inductive Process
  | call (c : ℕ)
  | delivery (d : ℕ)

/-- The process is about to publish the row, and will take that step if it
is a delivery of this run of the machine. -/
def Announcing (F s : TaskState T) (row : TaskRunModel) : Process → Prop
  | .call c => ∃ call ∈ s.calls[c]?, call.pc.announcing = some row
  | .delivery d => ∃ delivery ∈ s.deliveries[d]?, delivery.pc.announcing = some row ∧
    ¬ Stopped F d delivery

variable [WebhookTask T]

namespace TaskMaster

variable {m : TaskMaster} {s s' F : TaskState T} {e : Ev T} {es : List (Ev T)} {c d : ℕ}
variable {estimate : Option TaskTimingEstimate} {L : String} {run : TaskRun T} {w : StatusWrite}
variable {call : Call T} {delivery : Delivery T}

omit [WebhookTask T] in
/-- A hint commits nothing. -/
theorem commitsFrom_publishEffects :
    commitsFrom rows (m.publishEffects (T := T) row estimate) = [] := by
  rw [publishEffects]
  cases m.publish row estimate <;> rfl

omit [WebhookTask T] in
/-- What publishing a row sends: one hint, or none without a publisher. -/
theorem hintsIn_publishEffects :
    hintsIn (m.publishEffects (T := T) row estimate) = (m.publish row estimate).toList := by
  rw [publishEffects]
  cases m.publish row estimate <;> rfl

/-- The table after a step that commits the row. -/
inductive Commits (m : TaskMaster) (s : TaskState T) (e : Ev T) (row : TaskRunModel) :
    List TaskRunModel → Prop
  | inserted {run : TaskRun T} {now : Timestamp} : Inserts s run now → row = queuedRow run now →
      Commits m s e row (s.rows ++ [row])
  | wrote {w : StatusWrite} : m.writeOf s e = some w → w.returning s.rows = some row →
      Commits m s e row (w.apply s.rows)

/-- **What a step adds to the log**: it commits a row and is about to
publish it, or publishes what it had committed, or does neither. -/
inductive Notes (m : TaskMaster) (F s : TaskState T) (e : Ev T) (s' : TaskState T)
    (fx : List (Effect T)) : Prop
  | quiet : commitsFrom s.rows fx = [] → hintsIn fx = [] → s'.rows = s.rows →
      (∀ p row, Announcing F s' row p → Announcing F s row p) → Notes m F s e s' fx
  | commit {p : Process} {row : TaskRunModel} : commitsFrom s.rows fx = [row] →
      hintsIn fx = [] → Commits m s e row s'.rows →
      (∀ p' row', Announcing F s' row' p' → Announcing F s row' p' ∨ p' = p ∧ row' = row) →
      Notes m F s e s' fx
  | publish {p : Process} {row : TaskRunModel} {estimate : Option TaskTimingEstimate} :
      commitsFrom s.rows fx = [] → hintsIn fx = (m.publish row estimate).toList →
      s'.rows = s.rows → Announcing F s row p →
      (∀ p' row', Announcing F s' row' p' → Announcing F s row' p' ∧ p' ≠ p) →
      Notes m F s e s' fx

omit [WebhookTask T] in
/-- Who announces a row when one call moves. -/
theorem announcing_setCall {p : Process}
    (h : Announcing F ((s.setCall c call).perform fx) row p) :
    (p = .call c ∧ call.pc.announcing = some row) ∨ p ≠ .call c ∧ Announcing F s row p := by
  cases p with
  | call c' =>
    obtain ⟨call', hc', hann⟩ := h
    rcases getElem?_set_eq_some hc' with ⟨rfl, rfl⟩ | ⟨hne, hc⟩
    · exact Or.inl ⟨rfl, hann⟩
    · exact Or.inr ⟨by simpa using hne, call', hc, hann⟩
  | delivery d => exact Or.inr ⟨by simp, h⟩

omit [WebhookTask T] in
/-- Who announces a row when one delivery moves. -/
theorem announcing_setDelivery {p : Process}
    (h : Announcing F ((s.setDelivery d delivery).perform fx) row p) :
    (p = .delivery d ∧ delivery.pc.announcing = some row) ∨
      p ≠ .delivery d ∧ Announcing F s row p := by
  cases p with
  | call c => exact Or.inr ⟨by simp, h⟩
  | delivery d' =>
    obtain ⟨delivery', hd', hann⟩ := h
    rcases getElem?_set_eq_some hd' with ⟨rfl, rfl⟩ | ⟨hne, hd⟩
    · exact Or.inl ⟨rfl, hann.1⟩
    · exact Or.inr ⟨by simpa using hne, delivery', hd, hann⟩

/-- A write that meets no row changes none. -/
theorem apply_of_returning_eq_none (h : w.returning rows = none) : w.apply rows = rows := by
  rw [StatusWrite.returning, Option.map_eq_none_iff, List.find?_eq_none] at h
  rw [StatusWrite.apply]
  calc rows.map (fun row => if row.runId = w.runId then w.update row else row)
      = rows.map id := List.map_congr_left fun row hr => if_neg (by simpa using h row hr)
    _ = rows := List.map_id rows

/-- The row a write returns is in the table after it. -/
theorem mem_apply_of_returning (h : w.returning rows = some row) : row ∈ w.apply rows := by
  obtain ⟨r, hr, rfl⟩ := Option.map_eq_some_iff.1 h
  have hid : r.runId = w.runId := by simpa using List.find?_some hr
  exact List.mem_map.2 ⟨r, List.mem_of_find?_eq_some hr, if_pos hid⟩

/-- The committed row is in the table. -/
theorem Commits.mem {rows : List TaskRunModel} (h : Commits m s e row rows) : row ∈ rows := by
  cases h with
  | inserted => exact List.mem_append_right _ List.mem_cons_self
  | wrote _ hret => exact mem_apply_of_returning hret

/-- Every other row was there before. -/
theorem Commits.mem_or_eq {rows : List TaskRunModel} (h : Commits m s e row rows)
    (hunique : UniqueKeys s.rows) (hr : r ∈ rows) : r ∈ s.rows ∨ r = row := by
  cases h with
  | inserted => simpa using hr
  | @wrote w hw hret =>
    obtain ⟨r₁, hr₁, hident, ⟨-, rfl⟩ | ⟨hid, rfl⟩⟩ := StatusWrite.mem_apply hr
    · exact Or.inl hr₁
    · rw [returning_eq hunique hr₁ hid] at hret
      cases hret
      exact Or.inr rfl

/-- A statement of a submission commits, hints what it committed, or does
neither. -/
theorem notes_of_submitMove {choice : Choice} {pc : SubmitPc T} (hc : s.calls[c]? = some call)
    (h : SubmitMove m s.rows c call choice pc fx) :
    Notes m F s (.call c choice) ((s.setCall c { call with pc := pc }).perform fx) fx := by
  have hquiet : pc.announcing = none → commitsFrom s.rows fx = [] → hintsIn fx = [] →
      fx.foldl Effect.apply s.rows = s.rows →
      Notes m F s (.call c choice) ((s.setCall c { call with pc := pc }).perform fx) fx := by
    intro hpc hcom hhint hrows
    refine .quiet hcom hhint hrows fun p row hann => ?_
    rcases announcing_setCall hann with ⟨-, h⟩ | ⟨-, h⟩
    · rw [hpc] at h
      cases h
    · exact h
  have hcommit : ∀ row, pc.announcing = some row → commitsFrom s.rows fx = [row] →
      hintsIn fx = [] → Commits m s (.call c choice) row (fx.foldl Effect.apply s.rows) →
      Notes m F s (.call c choice) ((s.setCall c { call with pc := pc }).perform fx) fx := by
    intro row hpc hcom hhint hrow
    refine .commit (p := .call c) hcom hhint hrow fun p' row' hann => ?_
    rcases announcing_setCall hann with ⟨hp, h⟩ | ⟨-, h⟩
    · rw [hpc] at h
      cases h
      exact Or.inr ⟨hp, rfl⟩
    · exact Or.inl h
  have hpublish : ∀ row estimate, call.pc.announcing = some row → pc.announcing = none →
      commitsFrom s.rows fx = [] → hintsIn fx = (m.publish row estimate).toList →
      fx.foldl Effect.apply s.rows = s.rows →
      Notes m F s (.call c choice) ((s.setCall c { call with pc := pc }).perform fx) fx := by
    intro row estimate hpc hpc' hcom hhint hrows
    refine .publish (p := .call c) hcom hhint hrows ⟨call, hc, hpc⟩ fun p' row' hann => ?_
    rcases announcing_setCall hann with ⟨-, h⟩ | ⟨hne, h⟩
    · rw [hpc'] at h
      cases h
    · exact ⟨h, hne⟩
  cases h with
  | inserted hpc hv => exact hcommit _ rfl rfl rfl (.inserted ⟨c, call, hc, hpc, hv⟩ rfl)
  | @published run row estimate hpc =>
    refine hpublish row estimate (by rw [hpc]; rfl) rfl ?_ ?_ ?_
    · rw [commitsFrom_append, commitsFrom_publishEffects]
      rfl
    · rw [hintsIn_append, hintsIn_publishEffects]
      exact List.append_nil _
    · rw [foldl_publishEffects_append]
      rfl
  | @failWrote run err now row hpc hret =>
    refine hcommit row rfl ?_ rfl (.wrote (by simp [writeOf, hc, hpc]) hret)
    simp [commitsFrom, Effect.committed, hret]
  | @failMissed run err now hpc hmiss =>
    refine hquiet rfl ?_ rfl (apply_of_returning_eq_none hmiss)
    simp [commitsFrom, Effect.committed, hmiss]
  | @failPublished row err estimate hpc =>
    refine hpublish row estimate (by rw [hpc]; rfl) rfl ?_ ?_ ?_
    · rw [commitsFrom_append, commitsFrom_publishEffects]
      rfl
    · rw [hintsIn_append, hintsIn_publishEffects]
      exact List.append_nil _
    · rw [foldl_publishEffects_append]
      rfl
  | _ => exact hquiet rfl rfl rfl rfl

/-- A statement of a delivery that has not stopped commits, hints what it
committed, or does neither. -/
theorem notes_of_deliveryMove {choice : Choice} {pc : DeliveryPc}
    (hd : s.deliveries[d]? = some delivery) (hlive : ¬ Stopped F d delivery)
    (h : DeliveryMove m s.rows delivery choice pc fx) :
    Notes m F s (.delivery d choice) ((s.setDelivery d { delivery with pc := pc }).perform fx) fx := by
  have hquiet : pc.announcing = none → commitsFrom s.rows fx = [] → hintsIn fx = [] →
      fx.foldl Effect.apply s.rows = s.rows →
      Notes m F s (.delivery d choice) ((s.setDelivery d { delivery with pc := pc }).perform fx) fx := by
    intro hpc hcom hhint hrows
    refine .quiet hcom hhint hrows fun p row hann => ?_
    rcases announcing_setDelivery hann with ⟨-, h⟩ | ⟨-, h⟩
    · rw [hpc] at h
      cases h
    · exact h
  have hcommit : ∀ row w, pc.announcing = some row → fx = [.write w] →
      m.writeOf s (.delivery d choice) = some w → w.returning s.rows = some row →
      Notes m F s (.delivery d choice) ((s.setDelivery d { delivery with pc := pc }).perform fx) fx := by
    rintro row w hpc rfl hw hret
    refine .commit (p := .delivery d) ?_ rfl (.wrote hw hret) fun p' row' hann => ?_
    · simp [commitsFrom, Effect.committed, hret]
    · rcases announcing_setDelivery hann with ⟨hp, h⟩ | ⟨-, h⟩
      · rw [hpc] at h
        cases h
        exact Or.inr ⟨hp, rfl⟩
      · exact Or.inl h
  have hpublish : ∀ row estimate, delivery.pc.announcing = some row → pc.announcing = none →
      fx = m.publishEffects row estimate →
      Notes m F s (.delivery d choice) ((s.setDelivery d { delivery with pc := pc }).perform fx) fx := by
    rintro row estimate hpc hpc' rfl
    refine .publish (p := .delivery d) commitsFrom_publishEffects hintsIn_publishEffects
      foldl_publishEffects ⟨delivery, hd, hpc, hlive⟩ fun p' row' hann => ?_
    rcases announcing_setDelivery hann with ⟨-, h⟩ | ⟨hne, h⟩
    · rw [hpc'] at h
      cases h
    · exact ⟨h, hne⟩
  cases h with
  | began hpc hret => exact hcommit _ _ rfl rfl (by simp [writeOf, hd, hpc]) hret
  | finished hpc hret => exact hcommit _ _ rfl rfl (by simp [writeOf, hd, hpc]) hret
  | publishedBegin hpc => exact hpublish _ _ (by rw [hpc]; rfl) rfl rfl
  | publishedFinish hpc => exact hpublish _ _ (by rw [hpc]; rfl) rfl rfl
  | beganMissing _ hmiss =>
    refine hquiet rfl ?_ rfl (apply_of_returning_eq_none hmiss)
    simp [commitsFrom, Effect.committed, hmiss]
  | finishedMissing _ hmiss =>
    refine hquiet rfl ?_ rfl (apply_of_returning_eq_none hmiss)
    simp [commitsFrom, Effect.committed, hmiss]
  | _ => exact hquiet rfl rfl rfl rfl

/-- **Every step notes one of the three.** -/
theorem notes_of_step (hs : (system T m).step s e = some s')
    (hrest : (system T m).run s' es = some F) :
    ∃ fx, s'.log = s.log ++ fx ∧ s'.rows = fx.foldl Effect.apply s.rows ∧
      Notes m F s e s' fx := by
  cases move_of_system hs with
  | @submit task backfillId =>
    refine ⟨_, rfl, rfl, .quiet rfl rfl rfl fun p row hann => ?_⟩
    cases p with
    | call c =>
      obtain ⟨call, hc, hpc⟩ := hann
      rcases getElem?_concat_eq_some hc with ⟨-, rfl⟩ | hc
      · cases hpc
      · exact ⟨call, hc, hpc⟩
    | delivery d => exact hann
  | call hc hm => exact ⟨_, rfl, rfl, notes_of_submitMove hc hm⟩
  | accept => exact ⟨[], by simp, rfl, .quiet rfl rfl rfl fun _ _ hann => hann⟩
  | @deliver i run hget =>
    refine ⟨[], by simp, rfl, .quiet rfl rfl rfl fun p row hann => ?_⟩
    cases p with
    | call c => exact hann
    | delivery d =>
      obtain ⟨delivery, hd, hpc, hlive⟩ := hann
      rcases getElem?_concat_eq_some hd with ⟨-, rfl⟩ | hd
      · cases hpc
      · exact ⟨delivery, hd, hpc, hlive⟩
  | delivery hd hm =>
    exact ⟨_, rfl, rfl, notes_of_deliveryMove hd (not_stopped_of_step hd hs hrest) hm⟩

/-! ## Whose rows are published -/

/-- A call publishes the row it inserted, as it committed it, and a
delivery the row of its run. -/
structure AnnounceInv (s : TaskState T) : Prop where
  calls : ∀ (c : ℕ) (call : Call T) (row : TaskRunModel), s.calls[c]? = some call →
    call.pc.announcing = some row →
    ∃ row₀, (c, row₀) ∈ insertsOf s.log ∧ row₀.identity = row.identity
  queued : ∀ (c : ℕ) (call : Call T) (run : TaskRun T) (row : TaskRunModel),
    s.calls[c]? = some call → call.pc = .publishQueued run row →
    row.HasStatus .queued ∧ row.identity = run.identity
  failed : ∀ (c : ℕ) (call : Call T) (row : TaskRunModel) (err : ApiError),
    s.calls[c]? = some call → call.pc = .publishFailed row err → row.HasStatus .submissionFailed
  deliveries : ∀ (d : ℕ) (delivery : Delivery T) (row : TaskRunModel),
    s.deliveries[d]? = some delivery → delivery.pc.announcing = some row →
    row.identity = delivery.run.identity

/-- The row a write of a run returns has the run's identity. -/
theorem identity_of_returning (h : m.Reaches s) (hr : r ∈ s.rows) (hid : r.runId = w.runId)
    (hret : w.returning s.rows = some row) : row.identity = r.identity := by
  rw [returning_eq h.tableInv.unique hr hid] at hret
  cases hret
  exact StatusWrite.update_identity

/-- Whoever is about to announce a row has committed it. -/
theorem announceInv_of_step (h : m.Reaches s) (hi : AnnounceInv s)
    (hs : (system T m).step s e = some s') : AnnounceInv s' := by
  have hm := move_of_system hs
  refine ⟨fun c call' row hc' hann => ?_, fun c call' run row hc' hpc' => ?_,
    fun c call' row err hc' hpc' => ?_, fun d delivery' row hd' hann => ?_⟩
  · rcases call_of_move hm hc' with ⟨hc, -⟩ | ⟨-, task, b, -, rfl⟩ |
      ⟨choice, call, fx, rfl, hc, hmove, -, hs'⟩
    · obtain ⟨row₀, hin, hident⟩ := hi.calls c call' row hc hann
      exact ⟨row₀, mem_insertsOf_of_move hm hin, hident⟩
    · cases hann
    · generalize call'.pc = pc at hmove hann
      cases hmove with
      | @inserted run now reported =>
        cases hann
        refine ⟨queuedRow run now, ?_, rfl⟩
        rw [hs', TaskState.perform_log, insertsOf_append]
        exact List.mem_append_right _ (by simp [insertsOf])
      | @failWrote run err now row hpc hret =>
        cases hann
        obtain ⟨row₀, hin, hident⟩ := h.handInv.handing c call run hc (by rw [hpc]; rfl)
        obtain ⟨evs, hevs⟩ := h
        obtain ⟨r₁, hr₁, hident₁⟩ := row_of_insert hevs hin
        refine ⟨row₀, mem_insertsOf_of_move hm hin, ?_⟩
        rw [identity_of_returning ⟨evs, hevs⟩ hr₁ ?_ hret, hident₁]
        exact congrArg RunIdentity.runId (hident₁.trans hident)
      | _ => cases hann
  · rcases call_of_move hm hc' with ⟨hc, -⟩ | ⟨-, task, b, -, rfl⟩ |
      ⟨choice, call, fx, rfl, hc, hmove, -, hs'⟩
    · exact hi.queued c call' run row hc hpc'
    · cases hpc'
    · rw [hpc'] at hmove
      cases hmove with
      | inserted => exact ⟨rfl, rfl⟩
  · rcases call_of_move hm hc' with ⟨hc, -⟩ | ⟨-, task, b, -, rfl⟩ |
      ⟨choice, call, fx, rfl, hc, hmove, -, hs'⟩
    · exact hi.failed c call' row err hc hpc'
    · cases hpc'
    · rw [hpc'] at hmove
      cases hmove with
      | failWrote _ hret =>
        obtain ⟨r, -, rfl⟩ := Option.map_eq_some_iff.1 hret
        exact StatusWrite.update_statusCode
  · rcases delivery_of_move hm hd' with ⟨hd, -⟩ | ⟨-, i, run, -, -, rfl⟩ |
      ⟨choice, delivery, fx, rfl, hd, hmove, heq, -⟩
    · exact hi.deliveries d delivery' row hd hann
    · cases hann
    · have hrun : delivery'.run = delivery.run := by rw [heq]
      obtain ⟨r, hr, hident⟩ := h.row_of_delivery hd
      have hrid : r.runId = delivery.run.runId := congrArg RunIdentity.runId hident
      rw [hrun, ← hident]
      generalize delivery'.pc = pc at hmove hann
      cases hmove with
      | began _ hret => cases hann; exact identity_of_returning h hr hrid hret
      | finished _ hret => cases hann; exact identity_of_returning h hr hrid hret
      | _ => cases hann

/-- At the start nobody has anything to announce. -/
theorem announceInv_start : AnnounceInv (TaskState.start [] [] : TaskState T) where
  calls _ _ _ hc := by cases hc
  queued _ _ _ _ hc := by cases hc
  failed _ _ _ _ hc := by cases hc
  deliveries _ _ _ hd := by cases hd

/-- A run whose `Queued` is not published yet has not been delivered. -/
theorem not_delivered_of_publishQueued (h : m.Reaches s) (hc : s.calls[c]? = some call)
    (hpc : call.pc = .publishQueued run row) (hd : s.deliveries[d]? = some delivery) :
    delivery.run.runId ≠ run.runId := by
  intro hrun
  have hq := h.queueInv
  have hhand := h.handInv
  obtain ⟨c', hc'⟩ := hq.handed _ (hq.accepted _ (List.mem_of_getElem? hd))
  obtain ⟨row', hin', hrow'⟩ := hhand.inserted _ hc'
  obtain ⟨row₀, hin, hrow₀⟩ := hhand.handing c call run hc (by rw [hpc]; rfl)
  obtain ⟨call', hcall', hstage⟩ := hhand.handed _ hc'
  obtain ⟨evs, hevs⟩ := h
  have hrid : row'.runId = row₀.runId := calc
    row'.runId = delivery.run.runId := congrArg RunIdentity.runId hrow'
    _ = run.runId := hrun
    _ = row₀.runId := (congrArg RunIdentity.runId hrow₀).symm
  have hcc : c' = c := (Prod.mk.inj (insert_eq_of_runId hevs hin' hin hrid)).1
  rw [hcc, hc] at hcall'
  cases hcall'
  rw [hpc] at hstage
  exact absurd hstage (by simp [SubmitPc.stage])

/-! ## The invariant -/

/-- The later hint was published out of order: it settles an earlier run. -/
def Late (ev ev' : TaskStatusUpdate) : Prop :=
  ev'.payload.runNumber < ev.payload.runNumber ∧ ev'.payload.status.isInFlight = false

/-- Both hints are of committed rows, in the order of their commits. -/
def InCommitOrder (commits : List TaskRunModel) (ev ev' : TaskStatusUpdate) : Prop :=
  ∃ r r', [r, r'].Sublist commits ∧ Announces r ev ∧ Announces r' ev'

/-- **The invariant of the hints** of a logical task, on the way to `F`:
commits go up, a row about to be published is the one in the table, and
what was published of its run came before. -/
structure HintInv (m : TaskMaster) (F : TaskState T) (L : String) (s : TaskState T) : Prop where
  latest : LatestInv m F L s
  announce : AnnounceInv s
  replay : s.log.foldl Effect.apply [] = s.rows
  commits : (commitsOf s L).Pairwise Precedes
  committed : ∀ r ∈ commitsOf s L, ∃ row ∈ s.rows, row.logicalId = L ∧
    row.runNumber = r.runNumber ∧ (r = row ∨ Precedes r row)
  current : ∀ row ∈ s.rows, row.logicalId = L → row ∈ commitsOf s L
  announced : ∀ p row, Announcing F s row p → row.logicalId = L → row ∈ s.rows
  hints : ∀ ev ∈ hintsOf s L, ∃ r ∈ commitsOf s L, Announces r ev
  unheard : ∀ p row, Announcing F s row p → row.logicalId = L → ∀ ev ∈ hintsOf s L,
    ev.payload.runNumber = row.runNumber → ∃ r ∈ commitsOf s L, Announces r ev ∧ Precedes r row
  ordered : (hintsOf s L).Pairwise fun ev ev' => InCommitOrder (commitsOf s L) ev ev' ∨ Late ev ev'

/-- A call is about to publish a queued row, or one whose submission
failed. -/
theorem HintInv.hasStatus_of_call (hi : HintInv m F L s) (h : Announcing F s row (.call c)) :
    row.HasStatus .queued ∨ row.HasStatus .submissionFailed := by
  obtain ⟨call, hc, hann⟩ := h
  cases hpc : call.pc with
  | publishQueued run row' =>
    rw [hpc] at hann
    cases hann
    exact Or.inl (hi.announce.queued c call run row hc hpc).1
  | publishFailed row' err =>
    rw [hpc] at hann
    cases hann
    exact Or.inr (hi.announce.failed c call row err hc hpc)
  | _ => rw [hpc] at hann; cases hann

/-- A delivery is about to publish the row of an attempt that begins or
ended. -/
theorem HintInv.hasStatus_of_delivery (hi : HintInv m F L s)
    (h : Announcing F s row (.delivery d)) (hL : row.logicalId = L) (hrow : row ∈ s.rows) :
    ∃ st, row.HasStatus st ∧ (st = .inProgress ∨ st.isOutcome = true) := by
  obtain ⟨delivery, hd, hann, hlive⟩ := h
  have hident := hi.announce.deliveries d delivery row hd hann
  have hfits := hi.latest.sequential.fits d delivery hd
    ((congrArg RunIdentity.logicalId hident).symm.trans hL) hlive row hrow
    (congrArg RunIdentity.runId hident)
  cases hpc : delivery.pc with
  | publishBegin attempt row' =>
    rw [hpc] at hfits
    exact ⟨_, hfits.2.1, Or.inl rfl⟩
  | publishFinish attempt status row' =>
    rw [hpc] at hfits
    exact ⟨_, hfits.2.1, Or.inr hfits.2.2.2⟩
  | _ => rw [hpc] at hann; cases hann

/-- So no row is about to be published by both. -/
theorem HintInv.not_both (hi : HintInv m F L s) (hc : Announcing F s row (.call c))
    (hd : Announcing F s row (.delivery d)) (hL : row.logicalId = L) (hrow : row ∈ s.rows) :
    False := by
  obtain ⟨st, hst, hcase⟩ := hi.hasStatus_of_delivery hd hL hrow
  have hne : st ≠ .queued ∧ st ≠ .submissionFailed := by
    rcases hcase with rfl | hout
    · exact ⟨by simp, by simp⟩
    · exact ⟨fun h => (by rw [h] at hout; cases hout), fun h => (by rw [h] at hout; cases hout)⟩
  rcases hi.hasStatus_of_call hc with h | h
  · exact hne.1 (TaskRunStatus.asI32_injective (hst.symm.trans h))
  · exact hne.2 (TaskRunStatus.asI32_injective (hst.symm.trans h))

/-- One process at most is about to publish a run of the task. -/
theorem HintInv.single {p p' : Process} (hi : HintInv m F L s) (hp : Announcing F s row p)
    (hp' : Announcing F s r p') (hL : row.logicalId = L) (hrL : r.logicalId = L)
    (hid : row.runId = r.runId) : p = p' := by
  have hreach := hi.latest.sequential.reaches
  have hrow := hi.announced p row hp hL
  have heq : row = r := hreach.tableInv.unique.eq_of_runId hrow (hi.announced p' r hp' hrL) hid
  subst heq
  cases p with
  | call c =>
    cases p' with
    | call c' =>
      obtain ⟨call, hc, hann⟩ := hp
      obtain ⟨call', hc', hann'⟩ := hp'
      obtain ⟨row₀, hin, hident⟩ := hi.announce.calls c call row hc hann
      obtain ⟨row₀', hin', hident'⟩ := hi.announce.calls c' call' row hc' hann'
      obtain ⟨evs, hevs⟩ := hreach
      rw [(Prod.mk.inj (insert_eq_of_runId hevs hin hin'
        (congrArg RunIdentity.runId (hident.trans hident'.symm)))).1]
    | delivery d => exact (hi.not_both hp hp' hL hrow).elim
  | delivery d =>
    cases p' with
    | call c => exact (hi.not_both hp' hp hL hrow).elim
    | delivery d' =>
      obtain ⟨delivery, hd, hann, hlive⟩ := hp
      obtain ⟨delivery', hd', hann', hlive'⟩ := hp'
      have hident := hi.announce.deliveries d delivery row hd hann
      have hident' := hi.announce.deliveries d' delivery' row hd' hann'
      rw [hi.latest.sequential.one d d' delivery delivery' hd hd'
        (congrArg RunIdentity.runId (hident.symm.trans hident'))
        ((congrArg RunIdentity.logicalId hident).symm.trans hL) hlive hlive']

section Step

variable (hi : HintInv m F L s) (hs : (system T m).step s e = some s')
variable (hrest : (system T m).run s' es = some F) (hseq : Sequential F L s e s')
include hi hs hrest hseq

/-- **A row about to be published is not written.** -/
theorem not_written_of_announcing {p : Process} (hp : Announcing F s row p)
    (hL : row.logicalId = L) (hw : m.writeOf s e = some w) : w.runId ≠ row.runId := by
  intro hwid
  have hrow := hi.announced p row hp hL
  have hsi := hi.latest.sequential
  have hwriter := writer_of_sequential hsi hs hrest hseq hw hrow hwid.symm hL
  have hfl := inFlight_of_write hsi hs hrest hseq hw hrow hwid.symm hL
  cases p with
  | call c =>
    obtain ⟨call, hc, hann⟩ := hp
    cases hpc : call.pc with
    | publishQueued run row' =>
      rw [hpc] at hann
      cases hann
      have hrun : row.runId = run.runId :=
        congrArg RunIdentity.runId (hi.announce.queued c call run row hc hpc).2
      rcases hwriter with ⟨d, choice, delivery, -, hd, hdrun, -⟩ |
        ⟨c', choice, call', run', err, -, hc', hpc', hrun', -, -⟩
      · exact not_delivered_of_publishQueued hsi.reaches hc hpc hd (hdrun.trans hrun)
      · have hcc := eq_of_handing hsi.reaches hc hc' (by rw [hpc]; rfl) (by rw [hpc']; rfl)
          (hrun.symm.trans hrun'.symm)
        rw [← hcc, hc] at hc'
        cases hc'
        rw [hpc] at hpc'
        cases hpc'
    | publishFailed row' err =>
      rw [hpc] at hann
      cases hann
      rw [TaskRunModel.inFlight_eq_of_hasStatus
        (hi.announce.failed c call row err hc hpc)] at hfl
      cases hfl
    | _ => rw [hpc] at hann; cases hann
  | delivery d =>
    obtain ⟨delivery, hd, hann, hlive⟩ := hp
    have hident := hi.announce.deliveries d delivery row hd hann
    rcases hwriter with ⟨d', choice, delivery', he, hd', hrun', hL', hlive', -⟩ |
      ⟨-, -, -, -, -, -, -, -, -, -, hnone⟩
    · have hdd := hsi.one d' d delivery' delivery hd' hd
        (hrun'.trans (congrArg RunIdentity.runId hident)) hL' hlive' hlive
      subst hdd
      subst he
      -- the writer is not at a publish
      cases writer_of_writeOf hw with
      | start hd₁ hpc => rw [hd] at hd₁; cases hd₁; rw [hpc] at hann; cases hann
      | finish hd₁ hpc => rw [hd] at hd₁; cases hd₁; rw [hpc] at hann; cases hann
    · exact hnone delivery (List.mem_of_getElem? hd) (congrArg RunIdentity.runId hident).symm

/-- **A write of a run of the task goes forward.** -/
theorem precedes_update (hw : m.writeOf s e = some w) (hr : row ∈ s.rows)
    (hid : row.runId = w.runId) (hL : row.logicalId = L) : Precedes row (w.update row) := by
  have hsi := hi.latest.sequential
  refine Or.inr ⟨StatusWrite.update_runNumber.symm, ?_⟩
  have hst : (w.update row).HasStatus w.status := StatusWrite.update_statusCode
  rw [StatusWrite.update_attempts]
  cases writer_of_writeOf hw with
  | @submission c call run err now hc hpc =>
    have hrunL : run.logicalId = L := by
      rcases writer_of_sequential hsi hs hrest hseq hw hr hid hL with
        ⟨d, choice, delivery, he, -⟩ | ⟨c', choice, call', run', err', he, hc', hpc', -, hL', -⟩
      · cases he
      · cases he
        rw [hc] at hc'
        cases hc'
        rw [hpc] at hpc'
        cases hpc'
        exact hL'
    have hnone := hseq.2 run (by simp [Ev.failing, hc, hpc]) hrunL
    obtain ⟨hqueued, hatt⟩ := hsi.fresh c call run hc (by rw [hpc]; rfl) hrunL hnone row hr hid
    exact Or.inr ⟨hatt, .queued, _, hqueued, hst, Nat.zero_lt_two⟩
  | @start d delivery attempt now hd hpc =>
    have hlive := not_stopped_of_step hd hs hrest
    obtain ⟨r, hr', hrid, hrL⟩ := hsi.reaches.row_of_delivery_ids hd
    have heq := hsi.reaches.tableInv.unique.eq_of_runId hr' hr (hrid.trans hid.symm)
    have hfits := hsi.fits d delivery hd (by rw [← hrL, heq, hL]) hlive row hr hid
    rw [hpc] at hfits
    obtain ⟨-, rfl⟩ := hfits
    exact Or.inl (Nat.lt_succ_self _)
  | @finish d delivery attempt result now hd hpc =>
    have hlive := not_stopped_of_step hd hs hrest
    obtain ⟨r, hr', hrid, hrL⟩ := hsi.reaches.row_of_delivery_ids hd
    have heq := hsi.reaches.tableInv.unique.eq_of_runId hr' hr (hrid.trans hid.symm)
    have hfits := hsi.fits d delivery hd (by rw [← hrL, heq, hL]) hlive row hr hid
    rw [hpc] at hfits
    obtain ⟨hprog, rfl⟩ := hfits
    refine Or.inr ⟨rfl, .inProgress, _, hprog, hst, ?_⟩
    have hout := m.isOutcome_outcomeStatus row.attempts result
    change TaskRunStatus.stage .inProgress < (m.outcomeStatus row.attempts result).stage
    cases ho : m.outcomeStatus row.attempts result with
    | submissionFailed => rw [ho] at hout; cases hout
    | queued => rw [ho] at hout; cases hout
    | inProgress => rw [ho] at hout; cases hout
    | _ => exact Nat.lt_succ_self 1

/-- **Every commit of the task comes before the row a step commits.** -/
theorem precedes_commit (hr : r ∈ commitsOf s L) (hrow : Commits m s e row s'.rows)
    (hL : row.logicalId = L) : Precedes r row := by
  have hsi := hi.latest.sequential
  have htable := hsi.reaches.tableInv
  obtain ⟨row₁, hrow₁, hrowL, hrn, hle⟩ := hi.committed r hr
  have htop : row₁.runNumber ≤ topRun s.rows L := runNumber_le_topRun hrow₁ hrowL
  generalize s'.rows = rows' at hrow
  cases hrow with
  | @inserted run now hins heq =>
    subst heq
    have hn := hins.runNumber htable
    rw [show run.logicalId = L from hL] at hn
    refine Or.inl ?_
    change r.runNumber < run.runNumber
    omega
  | @wrote w hw hret =>
    obtain ⟨row₀, hfind, rfl⟩ := Option.map_eq_some_iff.1 hret
    have hrow₀ : row₀ ∈ s.rows := List.mem_of_find?_eq_some hfind
    have hid : row₀.runId = w.runId := by simpa using List.find?_some hfind
    rw [StatusWrite.update_logicalId] at hL
    have hfl := inFlight_of_write hsi hs hrest hseq hw hrow₀ hid hL
    have hlatest := hi.latest.eq_topRun (System.run_cons_eq_some.2 ⟨s', hs, hrest⟩) hrow₀ hL hfl
    have hup := precedes_update hi hs hrest hseq hw hrow₀ hid hL
    rcases Nat.lt_or_ge row₁.runNumber row₀.runNumber with hlt | hge
    · refine Or.inl ?_
      rw [StatusWrite.update_runNumber, ← hrn]
      exact hlt
    · have heq : row₁ = row₀ := htable.unique.eq_of_runNumber hrow₁ hrow₀ (hrowL.trans hL.symm)
        (by omega)
      subst heq
      rcases hle with rfl | hlt
      · exact hup
      · exact hlt.trans hup

omit hs hrest hseq in
/-- The commits of a task grow with the log. -/
theorem commitsOf_of_log (hlog : s'.log = s.log ++ fx) : commitsOf s' L =
    commitsOf s L ++ (commitsFrom s.rows fx).filter fun row => row.logicalId = L := by
  rw [commitsOf, hlog, commitsFrom_append, hi.replay, List.filter_append, ← commitsOf]

omit hi hs hrest hseq [WebhookTask T] in
/-- The hints of a task grow with the log. -/
theorem hintsOf_of_log (hlog : s'.log = s.log ++ fx) : hintsOf s' L =
    hintsOf s L ++ (hintsIn fx).filter fun ev => ev.payload.logicalId = L := by
  rw [hintsOf, hlog, hintsIn_append, List.filter_append, ← hintsOf]

omit hi hs hrest hseq in
/-- Two hints stay in commit order when more is committed. -/
theorem InCommitOrder.append {commits more : List TaskRunModel} {ev ev' : TaskStatusUpdate}
    (h : InCommitOrder commits ev ev') : InCommitOrder (commits ++ more) ev ev' := by
  obtain ⟨r, r', hsub, hr, hr'⟩ := h
  exact ⟨r, r', hsub.trans (List.sublist_append_left _ _), hr, hr'⟩

/-- A step that commits no row of the task and publishes none. -/
theorem hintInv_of_quiet (hreplay : s'.log.foldl Effect.apply [] = s'.rows)
    (hcom : commitsOf s' L = commitsOf s L) (hhint : hintsOf s' L = hintsOf s L)
    (hrows : s'.rows = s.rows) (hann : ∀ p row, Announcing F s' row p → Announcing F s row p) :
    HintInv m F L s' where
  latest := latestInv_of_step hi.latest hs hrest hseq
  announce := announceInv_of_step hi.latest.sequential.reaches hi.announce hs
  replay := hreplay
  commits := by rw [hcom]; exact hi.commits
  committed := by rw [hcom, hrows]; exact hi.committed
  current := by rw [hcom, hrows]; exact hi.current
  announced p row hp hL := by rw [hrows]; exact hi.announced p row (hann p row hp) hL
  hints := by rw [hcom, hhint]; exact hi.hints
  unheard p row hp hL := by rw [hcom, hhint]; exact hi.unheard p row (hann p row hp) hL
  ordered := by rw [hcom, hhint]; exact hi.ordered

/-- A step that commits a row. -/
theorem hintInv_of_commit {p : Process} (hreplay : s'.log.foldl Effect.apply [] = s'.rows)
    (hcom : commitsOf s' L = commitsOf s L ++ [row].filter fun row => row.logicalId = L)
    (hhint : hintsOf s' L = hintsOf s L) (hrow : Commits m s e row s'.rows)
    (hann : ∀ p' row', Announcing F s' row' p' →
      Announcing F s row' p' ∨ p' = p ∧ row' = row) : HintInv m F L s' := by
  have htable := hi.latest.sequential.reaches.tableInv
  have hmem : row ∈ s'.rows := hrow.mem
  have hmono : ∀ r ∈ commitsOf s L, r ∈ commitsOf s' L := fun r hr => by
    rw [hcom]
    exact List.mem_append_left _ hr
  have hnew : row.logicalId = L → row ∈ commitsOf s' L := fun hL => by
    rw [hcom, List.filter_cons_of_pos (by simpa using hL)]
    exact List.mem_append_right _ List.mem_cons_self
  have hcases : ∀ r ∈ commitsOf s' L, r ∈ commitsOf s L ∨ r = row ∧ row.logicalId = L := by
    intro r hr
    rw [hcom, List.mem_append, List.mem_filter, List.mem_singleton] at hr
    rcases hr with hr | ⟨rfl, hL⟩
    · exact Or.inl hr
    · exact Or.inr ⟨rfl, by simpa using hL⟩
  have hprec : ∀ r ∈ commitsOf s L, row.logicalId = L → Precedes r row := fun r hr hL =>
    precedes_commit hi hs hrest hseq hr hrow hL
  -- the rows after the step: the committed one, and those of the other runs
  have hafter : ∀ r ∈ s'.rows, r ∈ s.rows ∨ r = row := fun r => hrow.mem_or_eq htable.unique
  have hbefore : ∀ r ∈ s.rows, r ∈ s'.rows ∨ r.runNumber = row.runNumber ∧
      r.logicalId = row.logicalId ∧ (r.logicalId = L → Precedes r row) := by
    intro r hr
    generalize s'.rows = rows' at hrow
    cases hrow with
    | inserted => exact Or.inl (List.mem_append_left _ hr)
    | @wrote w hw hret =>
      by_cases hid : r.runId = w.runId
      · rw [returning_eq htable.unique hr hid] at hret
        cases hret
        exact Or.inr ⟨StatusWrite.update_runNumber.symm, StatusWrite.update_logicalId.symm,
          fun hL => precedes_update hi hs hrest hseq hw hr hid hL⟩
      · exact Or.inl (StatusWrite.mem_apply_of_ne hr hid)
  refine ⟨latestInv_of_step hi.latest hs hrest hseq,
    announceInv_of_step hi.latest.sequential.reaches hi.announce hs, hreplay, ?_, ?_, ?_, ?_, ?_,
    ?_, ?_⟩
  · rw [hcom, List.pairwise_append]
    refine ⟨hi.commits, List.Pairwise.filter _ (List.pairwise_singleton _ _), fun r hr r' hr' => ?_⟩
    rw [List.mem_filter, List.mem_singleton] at hr'
    obtain ⟨rfl, hL⟩ := hr'
    exact hprec r hr (by simpa using hL)
  · intro r hr
    rcases hcases r hr with hr | ⟨rfl, hL⟩
    · obtain ⟨row₁, hrow₁, hL₁, hn, hle⟩ := hi.committed r hr
      rcases hbefore row₁ hrow₁ with hkeep | ⟨hn₁, hL₂, hup⟩
      · exact ⟨row₁, hkeep, hL₁, hn, hle⟩
      · refine ⟨row, hmem, hL₂ ▸ hL₁, hn₁ ▸ hn, Or.inr ?_⟩
        rcases hle with rfl | hlt
        · exact hup hL₁
        · exact hlt.trans (hup hL₁)
    · exact ⟨r, hmem, hL, rfl, Or.inl rfl⟩
  · intro r hr hL
    rcases hafter r hr with hold | rfl
    · exact hmono r (hi.current r hold hL)
    · exact hnew hL
  · intro p' row' hp' hL
    rcases hann p' row' hp' with hold | ⟨-, rfl⟩
    · exact mem_of_tableMove (tableMove_of_move (move_of_system hs)) (hi.announced p' row' hold hL)
        fun w hw => not_written_of_announcing hi hs hrest hseq hold hL hw
    · exact hmem
  · intro ev hev
    obtain ⟨r, hr, hrev⟩ := hi.hints ev (hhint ▸ hev)
    exact ⟨r, hmono r hr, hrev⟩
  · intro p' row' hp' hL ev hev hn
    rcases hann p' row' hp' with hold | ⟨-, rfl⟩
    · obtain ⟨r, hr, hrev, hlt⟩ := hi.unheard p' row' hold hL ev (hhint ▸ hev) hn
      exact ⟨r, hmono r hr, hrev, hlt⟩
    · obtain ⟨r, hr, hrev⟩ := hi.hints ev (hhint ▸ hev)
      exact ⟨r, hmono r hr, hrev, hprec r hr hL⟩
  · rw [hhint, hcom]
    exact hi.ordered.imp fun h => h.imp_left InCommitOrder.append

/-- A step that publishes a committed row. -/
theorem hintInv_of_publish {p : Process} {ev : TaskStatusUpdate}
    (hreplay : s'.log.foldl Effect.apply [] = s'.rows) (hcom : commitsOf s' L = commitsOf s L)
    (hhint : hintsOf s' L = hintsOf s L ++ [ev]) (hrows : s'.rows = s.rows)
    (hp : Announcing F s row p) (hL : row.logicalId = L) (hev : Announces row ev)
    (hann : ∀ p' row', Announcing F s' row' p' → Announcing F s row' p' ∧ p' ≠ p) :
    HintInv m F L s' := by
  have htable := hi.latest.sequential.reaches.tableInv
  have hrow := hi.announced p row hp hL
  have hrowC := hi.current row hrow hL
  refine ⟨latestInv_of_step hi.latest hs hrest hseq,
    announceInv_of_step hi.latest.sequential.reaches hi.announce hs, hreplay, ?_, ?_, ?_, ?_, ?_,
    ?_, ?_⟩
  · rw [hcom]; exact hi.commits
  · rw [hcom, hrows]; exact hi.committed
  · rw [hcom, hrows]; exact hi.current
  · intro p' row' hp' hL'
    rw [hrows]
    exact hi.announced p' row' (hann p' row' hp').1 hL'
  · intro ev' hev'
    rw [hhint, List.mem_append, List.mem_singleton] at hev'
    rw [hcom]
    rcases hev' with hev' | rfl
    · exact hi.hints ev' hev'
    · exact ⟨row, hrowC, hev⟩
  · intro p' row' hp' hL' ev' hev' hn
    obtain ⟨hold, hne⟩ := hann p' row' hp'
    rw [hhint, List.mem_append, List.mem_singleton] at hev'
    rw [hcom]
    rcases hev' with hev' | rfl
    · exact hi.unheard p' row' hold hL' ev' hev' hn
    · -- no other process is about to publish this run
      have hrow' := hi.announced p' row' hold hL'
      have heq : row' = row := htable.unique.eq_of_runNumber hrow' hrow (hL'.trans hL.symm)
        (hn.symm.trans hev.runNumber)
      exact absurd (hi.single hold hp hL' hL (by rw [heq])) hne
  · rw [hhint, hcom, List.pairwise_append]
    refine ⟨hi.ordered, List.pairwise_singleton _ _, fun ev₀ hev₀ ev' hev' => ?_⟩
    rw [List.mem_singleton] at hev'
    subst hev'
    obtain ⟨r, hr, hrev⟩ := hi.hints ev₀ hev₀
    have hsorted : Precedes r row → InCommitOrder (commitsOf s L) ev₀ ev' := fun hlt =>
      ⟨r, row, pair_sublist hi.commits Precedes.asymm hr hrowC hlt, hrev, hev⟩
    -- the earlier hint is of an earlier run, of this run, or of a later one
    rcases Nat.lt_trichotomy r.runNumber row.runNumber with hlt | heq | hgt
    · exact Or.inl (hsorted (Or.inl hlt))
    · obtain ⟨r', hr', hrev', hlt⟩ :=
        hi.unheard p row hp hL ev₀ hev₀ (hrev.runNumber.trans heq)
      exact Or.inl ⟨r', row, pair_sublist hi.commits Precedes.asymm hr' hrowC hlt, hrev', hev⟩
    · -- a later run was inserted, so this one has settled
      refine Or.inr ⟨by rw [hev.runNumber, hrev.runNumber]; exact hgt, ?_⟩
      obtain ⟨row₁, hrow₁, hL₁, hn₁, -⟩ := hi.committed r hr
      by_contra hfl
      have hlatest := hi.latest.eq_topRun (System.run_cons_eq_some.2 ⟨s', hs, hrest⟩) hrow hL
        (by rw [TaskRunModel.inFlight_eq_of_hasStatus hev.hasStatus]; simpa using hfl)
      have htop := runNumber_le_topRun hrow₁ hL₁
      omega

/-- **Every step keeps the invariant of the hints.** -/
theorem hintInv_of_step : HintInv m F L s' := by
  obtain ⟨fx, hlog, hrows, hnotes⟩ := notes_of_step hs hrest
  have hcom := commitsOf_of_log hi hlog
  have hhint : hintsOf s' L = _ := hintsOf_of_log hlog
  have hreplay : s'.log.foldl Effect.apply [] = s'.rows := by
    rw [hlog, List.foldl_append, hi.replay, hrows]
  cases hnotes with
  | quiet hc hh hsame hann =>
    rw [hc, List.filter_nil, List.append_nil] at hcom
    rw [hh, List.filter_nil, List.append_nil] at hhint
    exact hintInv_of_quiet hi hs hrest hseq hreplay hcom hhint hsame hann
  | commit hc hh hrow hann =>
    rw [hc] at hcom
    rw [hh, List.filter_nil, List.append_nil] at hhint
    exact hintInv_of_commit hi hs hrest hseq hreplay hcom hhint hrow hann
  | @publish p row estimate hc hh hsame hp hann =>
    rw [hc, List.filter_nil, List.append_nil] at hcom
    rw [hh] at hhint
    have hquiet : hintsOf s' L = hintsOf s L → HintInv m F L s' := fun hsameh =>
      hintInv_of_quiet hi hs hrest hseq hreplay hcom hsameh hsame fun p' row' hp' =>
        (hann p' row' hp').1
    cases hpub : m.publish row estimate with
    | none =>
      rw [hpub, Option.toList_none, List.filter_nil, List.append_nil] at hhint
      exact hquiet hhint
    | some ev =>
      have hev : Announces row ev := by
        rw [TaskMaster.publish] at hpub
        split_ifs at hpub
        exact ⟨estimate, hpub⟩
      rw [hpub, Option.toList_some] at hhint
      by_cases hL : row.logicalId = L
      · rw [List.filter_cons_of_pos (by simpa using hev.logicalId.trans hL), List.filter_nil]
          at hhint
        exact hintInv_of_publish hi hs hrest hseq hreplay hcom hhint hsame hp hL hev hann
      · rw [List.filter_cons_of_neg (by simpa [hev.logicalId] using hL), List.filter_nil,
          List.append_nil] at hhint
        exact hquiet hhint

end Step

/-! ## The hints of a task -/

/-- No hint is out of order before the first. -/
theorem hintInv_start : HintInv m F L (TaskState.start [] []) where
  latest := latestInv_start
  announce := announceInv_start
  replay := rfl
  commits := List.Pairwise.nil
  committed _ hr := by cases hr
  current _ hr := by cases hr
  announced p row hp := by
    cases p with
    | call c => obtain ⟨call, hc, -⟩ := hp; cases hc
    | delivery d => obtain ⟨delivery, hd, -⟩ := hp; cases hd
  hints _ hev := by cases hev
  unheard _ _ _ _ _ hev := by cases hev
  ordered := List.Pairwise.nil

/-- **The status writes of a logical task are committed in the order of its
runs and their attempts, and its hints are published in commit order, but
for one thing**: the hint that a run has settled may come after hints of
later runs. -/
theorem hints_in_order {evs : List (Ev T)}
    (hrun : (system T m).run (TaskState.start [] []) evs = some s)
    (hseq : (system T m).Along (Sequential s L) (TaskState.start [] []) evs) :
    (commitsOf s L).Pairwise Precedes ∧
      (hintsOf s L).Pairwise fun ev ev' => InCommitOrder (commitsOf s L) ev ev' ∨ Late ev ev' := by
  obtain ⟨hi, -⟩ := System.run_inv_to (I := HintInv m s L) (Q := fun _ _ _ => True)
    (fun s₁ e t es hi hs hrest hseq => ⟨hintInv_of_step hi hs hrest hseq, trivial⟩)
    hintInv_start hrun hseq
  exact ⟨hi.commits, hi.ordered⟩

/-- Run 1 settles; before its success is published, run 2 is submitted and
published. -/
def lateSchedule : List (Ev SearchIndexTask) :=
  Ev.submission 0 ⟨7, 1⟩ none "run-1" 0 ++ [.accept 0] ++
    (Ev.attempt 0 0 (.ok ()) 10).dropLast ++ Ev.submission 1 ⟨7, 1⟩ none "run-2" 20 ++
    [.delivery 0 (.publish none)]

/-- The state after that. -/
def lateState : TaskState SearchIndexTask :=
  ((system SearchIndexTask ⟨3, true⟩).run (TaskState.start [] []) lateSchedule).get (by decide)

/-- The hint of run 1's success comes behind those of run 2: late, and out of
order for that reason alone. -/
theorem hints_in_order_late :
    (commitsOf lateState "u1-search_index-capture7").Pairwise Precedes ∧
      (hintsOf lateState "u1-search_index-capture7").Pairwise fun ev ev' =>
        InCommitOrder (commitsOf lateState "u1-search_index-capture7") ev ev' ∨ Late ev ev' :=
  hints_in_order (Option.some_get _).symm (by decide)

/-- **The old run's success is published after the new run's `Queued`.** -/
theorem hints_out_of_order :
    ¬ ∀ (evs : List (Ev SearchIndexTask)) (s : TaskState SearchIndexTask) (L : String),
      (system SearchIndexTask ⟨3, true⟩).run (TaskState.start [] []) evs = some s →
      (system SearchIndexTask ⟨3, true⟩).Along (Sequential s L) (TaskState.start [] []) evs →
      (hintsOf s L).Pairwise fun ev ev' => ev.payload.runNumber ≤ ev'.payload.runNumber := by
  intro h
  have hsorted := h lateSchedule lateState "u1-search_index-capture7" (Option.some_get _).symm
    (by decide)
  exact absurd hsorted (by decide)

end TaskMaster

end Dreamscroll
