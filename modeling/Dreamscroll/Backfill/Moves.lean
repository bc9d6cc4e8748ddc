import Dreamscroll.Backfill.Engine
import Dreamscroll.Task.Deliveries
/-!
# What a pump can do

The inversion of the engine, said once: `PumpMove` lists what a pump can
do at each of its statements, `EngineMove` what an event can do. Below,
every event of the engine is a step of the task machine or none at all.
-/

namespace Dreamscroll

namespace Engine

/-- **What a pump does at its next statement.** -/
inductive PumpMove (g : Engine) (m : TaskMaster) (s : BackfillState) (i : ℕ) (p : Pump) :
    PumpChoice → BackfillState → Prop
  | passed : p.pc = .ensureNotDry →
      g.ensureNotDry (s.backfills g.definition.id) p.force = .ok () →
      PumpMove g m s i p .read (s.setPump i { p with pc := .select })
  | refused {err : ApiError} : p.pc = .ensureNotDry →
      g.ensureNotDry (s.backfills g.definition.id) p.force = .error err →
      PumpMove g m s i p .read (s.setPump i { p with pc := .returned (.error err) })
  | selected {relation : List BackfillTarget} : p.pc = .select →
      PumpMove g m s i p (.select relation) (s.setPump i
        { p with
          targets := selectTargets g.definition s.tasks.rows relation p.limit
          pc := .submit (selectTargets g.definition s.tasks.rows relation p.limit) })
  | denied {target : BackfillTarget} {rest : List BackfillTarget} {err : ApiError} :
      p.pc = .submit (target :: rest) →
      (g.definition.makeTask target).submitCheck g.context = .error err →
      PumpMove g m s i p .submit (s.setPump i
        { p with tally := p.tally.add target (.error err), pc := .submit rest })
  | submitted {target : BackfillTarget} {rest : List BackfillTarget} {tasks : TaskState AnyTask} :
      p.pc = .submit (target :: rest) →
      (g.definition.makeTask target).submitCheck g.context = .ok () →
      m.step s.tasks (.submit (g.definition.makeTask target) (some g.definition.id)) =
        some tasks →
      PumpMove g m s i p .submit ({ s with tasks := tasks }.setPump i
        { p with pc := .awaiting target s.tasks.calls.length rest })
  | collected {target : BackfillTarget} {c : ℕ} {rest : List BackfillTarget} {call : Call AnyTask}
      {outcome : Except SubmitError SubmitOutcome} : p.pc = .awaiting target c rest →
      s.tasks.calls[c]? = some call → call.pc = .returned outcome →
      PumpMove g m s i p .collect (s.setPump i
        { p with tally := p.tally.add target (submitResult outcome), pc := .submit rest })
  | recorded {now : Timestamp} {record : BackfillModel} : p.pc = .submit [] →
      record = recordPump (s.backfills g.definition.id) p.targets.isEmpty now →
      PumpMove g m s i p (.record now)
        ((s.setRecord g.definition.id record).setPump i
          { p with pc := .returned (.ok (g.response p record)) })

/-- **What an event does.** -/
inductive EngineMove (g : Engine) (m : TaskMaster) (s : BackfillState) :
    BackfillEv → BackfillState → Prop
  | task {e : Ev AnyTask} {tasks : TaskState AnyTask} : m.step s.tasks e = some tasks →
      EngineMove g m s (.task e) { s with tasks := tasks }
  | pump {limit : ℕ} {force : Bool} :
      EngineMove g m s (.pump limit force) { s with pumps := s.pumps ++ [Pump.start limit force] }
  | next {i : ℕ} {choice : PumpChoice} {p : Pump} {s' : BackfillState} : s.pumps[i]? = some p →
      PumpMove g m s i p choice s' → EngineMove g m s (.next i choice) s'

variable {g : Engine} {m : TaskMaster} {s s' : BackfillState} {e : BackfillEv} {i : ℕ}
variable {p : Pump} {choice : PumpChoice} {es : List BackfillEv}

/-- **The inversion of `pump_definition`.** -/
theorem pumpMove_of_step (h : g.pumpStep m s i p choice = some s') : PumpMove g m s i p choice s' := by
  unfold pumpStep at h
  split at h
  · rename_i hpc
    split at h
    · rename_i hok
      cases h
      exact .passed hpc hok
    · rename_i herr
      cases h
      exact .refused hpc herr
  · rename_i hpc
    cases h
    exact .selected hpc
  · rename_i hpc
    dsimp only at h
    split at h
    · rename_i herr
      cases h
      exact .denied hpc herr
    · rename_i hok
      obtain ⟨tasks, htasks, rfl⟩ := Option.map_eq_some_iff.1 h
      exact .submitted hpc hok htasks
  · rename_i hpc
    obtain ⟨outcome, hout, rfl⟩ := Option.map_eq_some_iff.1 h
    obtain ⟨call, hc, hcall⟩ := Option.bind_eq_some_iff.1 hout
    unfold Call.outcome at hcall
    split at hcall
    · rename_i hret
      cases hcall
      exact .collected hpc hc hret
    · cases hcall
  · rename_i hpc
    cases h
    exact .recorded hpc rfl
  · cases h

/-- **The inversion of the engine.** -/
theorem engineMove_of_step (h : (g.system m).step s e = some s') : EngineMove g m s e s' := by
  cases e with
  | task e =>
    obtain ⟨tasks, htasks, rfl⟩ := Option.map_eq_some_iff.1 h
    exact .task htasks
  | pump limit force =>
    cases h
    exact .pump
  | next i choice =>
    obtain ⟨p, hp, hstep⟩ := Option.bind_eq_some_iff.1 h
    exact .next hp (pumpMove_of_step hstep)

/-- And what a pump can do, it does. -/
theorem step_of_pumpMove (hp : s.pumps[i]? = some p) (h : PumpMove g m s i p choice s') :
    (g.system m).step s (.next i choice) = some s' := by
  simp only [system, step, hp, Option.bind_some]
  cases h with
  | passed hpc hok => simp only [pumpStep, hpc, hok]
  | refused hpc herr => simp only [pumpStep, hpc, herr]
  | selected hpc => simp only [pumpStep, hpc]
  | denied hpc herr => simp only [pumpStep, hpc, herr]
  | submitted hpc hok hs => simp only [pumpStep, hpc, hok, hs, Option.map_some]
  | collected hpc hc hret =>
    simp only [pumpStep, hpc, hc, Option.bind_some, Call.outcome, hret, Option.map_some]
  | recorded hpc hrecord => simp only [pumpStep, hpc, hrecord]

/-! ## What becomes of the pumps -/

/-- A pump that has returned takes no step. -/
theorem not_pumpMove_returned {result : Except ApiError BackfillPumpResponse}
    (h : PumpMove g m s i p choice s') (hpc : p.pc = .returned result) : False := by
  cases h with
  | _ hpc' => rw [hpc] at hpc'; cases hpc'

/-! ## The task machine below -/

/-- **An event takes the tasks one step, or leaves them alone.** -/
theorem tasks_of_engineMove (h : EngineMove g m s e s') :
    s'.tasks = s.tasks ∨ ∃ e', (TaskMaster.system AnyTask m).step s.tasks e' = some s'.tasks := by
  cases h with
  | task h => exact Or.inr ⟨_, h⟩
  | pump => exact Or.inl rfl
  | next _ hm =>
    cases hm with
    | submitted _ _ hs => exact Or.inr ⟨.submit _ _, hs⟩
    | _ => exact Or.inl rfl

/-- The states of the engine from the empty tables. -/
abbrev Reaches (g : Engine) (m : TaskMaster) (s : BackfillState) : Prop :=
  (g.system m).Reachable BackfillState.start s

/-- **So its tasks are a state of the task machine.** -/
theorem Reaches.tasks (h : g.Reaches m s) : m.Reaches s.tasks := by
  obtain ⟨es, hrun⟩ := h
  refine System.run_inv (I := fun s : BackfillState => m.Reaches s.tasks) ?_
    System.Reachable.refl hrun
  intro s e s' hi hs
  rcases tasks_of_engineMove (engineMove_of_step hs) with heq | ⟨e', he'⟩
  · rw [heq]
    exact hi
  · exact hi.step he'

end Engine

end Dreamscroll
