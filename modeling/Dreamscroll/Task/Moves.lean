import Dreamscroll.Task.Machine
/-!
# What a step can do

The inversion of the machine, said once: `SubmitMove` and `DeliveryMove`
list what a call and a delivery can do at each statement, with the facts
the guard established, and `step_rows` says what that makes of the table.
Every invariant is derived from these, none from the step function.
-/

namespace Dreamscroll

variable {T : Type} [WebhookTask T]

namespace TaskMaster

/-! ## The moves of a call -/

/-- **What a call does at its next statement.** -/
inductive SubmitMove (m : TaskMaster) (rows : List TaskRunModel) (c : ℕ) (call : Call T) :
    Choice → SubmitPc T → List (Effect T) → Prop
  /-- An earlier run of the backfill answers the call. -/
  | found {outcome : SubmitOutcome} :
      call.pc = .dedup ∨ call.pc = .recheckInFlight ∨ call.pc = .recheckConflict →
      alreadySubmitted rows call.backfillId call.logicalId = some outcome →
      SubmitMove m rows c call .read (.returned (.ok outcome))
        [.respond c call.logicalId (.ok outcome)]
  | fresh : call.pc = .dedup →
      alreadySubmitted rows call.backfillId call.logicalId = none →
      SubmitMove m rows c call .read .latest []
  | decided {nextRun : ℕ} {runId : String} : call.pc = .latest →
      decideNextRun (queryRunStatus rows call.logicalId none none) = some nextRun →
      SubmitMove m rows c call (.latest runId) (.insert (call.newRun nextRun runId)) []
  | sawInFlight {runId : String} : call.pc = .latest →
      decideNextRun (queryRunStatus rows call.logicalId none none) = none →
      SubmitMove m rows c call (.latest runId) .recheckInFlight []
  | refused : call.pc = .recheckInFlight ∨ call.pc = .recheckConflict →
      alreadySubmitted rows call.backfillId call.logicalId = none →
      SubmitMove m rows c call .read (.returned (.ok .refusedAlreadyInFlight))
        [.respond c call.logicalId (.ok .refusedAlreadyInFlight)]
  | inserted {run : TaskRun T} {now : Timestamp} {reported : String} :
      call.pc = .insert run → violatedKeys rows (queuedRow run now) = [] →
      SubmitMove m rows c call (.insert now reported) (.publishQueued run (queuedRow run now))
        [.insert c (queuedRow run now)]
  /-- A lost race: the ordinal or the backfill claim is taken. -/
  | conflict {run : TaskRun T} {now : Timestamp} {reported : String} : call.pc = .insert run →
      (∃ r ∈ rows, r.logicalId = run.logicalId ∧ r.runNumber = run.runNumber) ∨
        (∃ r ∈ rows, r.backfillId = run.backfillId ∧ r.logicalId = run.logicalId ∧
          run.backfillId.isSome) →
      SubmitMove m rows c call (.insert now reported) .recheckConflict []
  | insertFailed {run : TaskRun T} {now : Timestamp} {reported : String} {err : DbErr} :
      call.pc = .insert run →
      SubmitMove m rows c call (.insert now reported) (.returned (.error (.db err)))
        [.respond c call.logicalId (.error (.db err))]
  | published {run : TaskRun T} {row : TaskRunModel} {estimate : Option TaskTimingEstimate} :
      call.pc = .publishQueued run row →
      SubmitMove m rows c call (.publish estimate) (.enqueue run)
        (m.publishEffects row estimate ++ [.hand c run])
  | enqueued {run : TaskRun T} : call.pc = .enqueue run →
      SubmitMove m rows c call .enqueued (.returned (.ok (.enqueued run.runId run.runNumber)))
        [.respond c call.logicalId (.ok (.enqueued run.runId run.runNumber))]
  | enqueueFailed {run : TaskRun T} {error : String} : call.pc = .enqueue run →
      SubmitMove m rows c call (.enqueueFailed error)
        (.failWrite run (ApiError.internal error)) []
  | failWrote {run : TaskRun T} {err : ApiError} {now : Timestamp} {row : TaskRunModel} :
      call.pc = .failWrite run err →
      (setStatus run .submissionFailed 0 (some err) now).returning rows = some row →
      SubmitMove m rows c call (.write now) (.publishFailed row err)
        [.write (setStatus run .submissionFailed 0 (some err) now)]
  | failMissed {run : TaskRun T} {err : ApiError} {now : Timestamp} :
      call.pc = .failWrite run err →
      (setStatus run .submissionFailed 0 (some err) now).returning rows = none →
      SubmitMove m rows c call (.write now) (.returned (.error (.enqueue err)))
        [.write (setStatus run .submissionFailed 0 (some err) now),
          .respond c call.logicalId (.error (.enqueue err))]
  | failPublished {row : TaskRunModel} {err : ApiError} {estimate : Option TaskTimingEstimate} :
      call.pc = .publishFailed row err →
      SubmitMove m rows c call (.publish estimate) (.returned (.error (.enqueue err)))
        (m.publishEffects row estimate ++ [.respond c call.logicalId (.error (.enqueue err))])

variable {m : TaskMaster} {rows : List TaskRunModel} {c d : ℕ} {call : Call T}
variable {delivery : Delivery T} {choice : Choice} {fx : List (Effect T)}
variable {s s' : TaskState T} {e : Ev T}

/-- The case of `already_submitted`, at the three statements that run it. -/
theorem submitMove_read (call : Call T) {pc' : SubmitPc T} (pc : SubmitPc T)
    (h : m.submitStep rows c { call with pc := pc } .read = some (pc', fx))
    (hpc : pc = .dedup ∨ pc = .recheckInFlight ∨ pc = .recheckConflict) :
    SubmitMove m rows c { call with pc := pc } .read pc' fx := by
  cases ha : alreadySubmitted rows call.backfillId
      (Call.logicalId { call with pc := pc }) with
  | some outcome =>
    rcases hpc with rfl | rfl | rfl
    all_goals
      simp only [submitStep, ha, Option.some.injEq, Prod.mk.injEq] at h
      obtain ⟨rfl, rfl⟩ := h
      exact .found (by simp) ha
  | none =>
    rcases hpc with rfl | rfl | rfl
    · simp only [submitStep, ha, Option.some.injEq, Prod.mk.injEq] at h
      obtain ⟨rfl, rfl⟩ := h
      exact .fresh rfl ha
    all_goals
      simp only [submitStep, ha, Option.some.injEq, Prod.mk.injEq] at h
      obtain ⟨rfl, rfl⟩ := h
      exact .refused (by simp) ha

/-- **The inversion of `submit_inner`.** -/
theorem submitMove_of_step {pc' : SubmitPc T}
    (h : m.submitStep rows c call choice = some (pc', fx)) :
    SubmitMove m rows c call choice pc' fx := by
  obtain ⟨task, backfillId, pc⟩ := call
  cases pc with
  | dedup =>
    cases choice with
    | read => exact submitMove_read ⟨task, backfillId, .dedup⟩ _ h (by simp)
    | _ => simp [submitStep] at h
  | recheckInFlight =>
    cases choice with
    | read => exact submitMove_read ⟨task, backfillId, .dedup⟩ _ h (by simp)
    | _ => simp [submitStep] at h
  | recheckConflict =>
    cases choice with
    | read => exact submitMove_read ⟨task, backfillId, .dedup⟩ _ h (by simp)
    | _ => simp [submitStep] at h
  | latest =>
    cases choice with
    | latest runId =>
      cases hd : decideNextRun (queryRunStatus rows
          (Call.logicalId (⟨task, backfillId, .latest⟩ : Call T)) none none) with
      | some nextRun =>
        simp only [submitStep, hd, Option.some.injEq, Prod.mk.injEq] at h
        obtain ⟨rfl, rfl⟩ := h
        exact .decided rfl hd
      | none =>
        simp only [submitStep, hd, Option.some.injEq, Prod.mk.injEq] at h
        obtain ⟨rfl, rfl⟩ := h
        exact .sawInFlight rfl hd
    | _ => simp [submitStep] at h
  | insert run =>
    cases choice with
    | insert now reported =>
      cases hi : insertRun rows run now reported with
      | none => simp [submitStep, hi] at h
      | some answer =>
        cases answer with
        | inserted row =>
          obtain ⟨rfl, hv⟩ := insertRun_inserted hi
          simp only [submitStep, hi, Option.some.injEq, Prod.mk.injEq] at h
          obtain ⟨rfl, rfl⟩ := h
          exact .inserted rfl hv
        | conflict =>
          simp only [submitStep, hi, Option.some.injEq, Prod.mk.injEq] at h
          obtain ⟨rfl, rfl⟩ := h
          exact .conflict rfl (insertRun_conflict hi)
        | failed err =>
          simp only [submitStep, hi, Option.some.injEq, Prod.mk.injEq] at h
          obtain ⟨rfl, rfl⟩ := h
          exact .insertFailed rfl
    | _ => simp [submitStep] at h
  | publishQueued run row =>
    cases choice with
    | publish estimate =>
      simp only [submitStep, Option.some.injEq, Prod.mk.injEq] at h
      obtain ⟨rfl, rfl⟩ := h
      exact .published rfl
    | _ => simp [submitStep] at h
  | enqueue run =>
    cases choice with
    | enqueued =>
      simp only [submitStep, Option.some.injEq, Prod.mk.injEq] at h
      obtain ⟨rfl, rfl⟩ := h
      exact .enqueued rfl
    | enqueueFailed error =>
      simp only [submitStep, Option.some.injEq, Prod.mk.injEq] at h
      obtain ⟨rfl, rfl⟩ := h
      exact .enqueueFailed rfl
    | _ => simp [submitStep] at h
  | failWrite run err =>
    cases choice with
    | write now =>
      cases hw : (setStatus run .submissionFailed 0 (some err) now).returning rows with
      | some row =>
        simp only [submitStep, hw, Option.some.injEq, Prod.mk.injEq] at h
        obtain ⟨rfl, rfl⟩ := h
        exact .failWrote rfl hw
      | none =>
        simp only [submitStep, hw, Option.some.injEq, Prod.mk.injEq] at h
        obtain ⟨rfl, rfl⟩ := h
        exact .failMissed rfl hw
    | _ => simp [submitStep] at h
  | publishFailed row err =>
    cases choice with
    | publish estimate =>
      simp only [submitStep, Option.some.injEq, Prod.mk.injEq] at h
      obtain ⟨rfl, rfl⟩ := h
      exact .failPublished rfl
    | _ => simp [submitStep] at h
  | returned outcome => simp [submitStep] at h

/-! ## The moves of a delivery -/

/-- **What a delivery does at its next statement.** -/
inductive DeliveryMove (m : TaskMaster) (rows : List TaskRunModel) (delivery : Delivery T) :
    Choice → DeliveryPc → List (Effect T) → Prop
  | rejected {err : ApiError} : delivery.pc = .beginRead →
      WebhookTask.reject delivery.run.task = some err →
      DeliveryMove m rows delivery .read (.responded none err.httpStatusCode) []
  | attempt {attempt : ℕ} : delivery.pc = .beginRead →
      decideNextAttempt (queryRunById rows delivery.run.runId none) = some attempt →
      DeliveryMove m rows delivery .read (.beginWrite attempt) []
  /-- The run already completed, or its submission failed. -/
  | ignored : delivery.pc = .beginRead →
      decideNextAttempt (queryRunById rows delivery.run.runId none) = none →
      DeliveryMove m rows delivery .read (.responded none noContent) []
  | began {attempt : ℕ} {now : Timestamp} {row : TaskRunModel} :
      delivery.pc = .beginWrite attempt →
      (markInProgress delivery.run attempt now).returning rows = some row →
      DeliveryMove m rows delivery (.write now) (.publishBegin attempt row)
        [.write (markInProgress delivery.run attempt now)]
  | beganMissing {attempt : ℕ} {now : Timestamp} : delivery.pc = .beginWrite attempt →
      (markInProgress delivery.run attempt now).returning rows = none →
      DeliveryMove m rows delivery (.write now) (.running attempt)
        [.write (markInProgress delivery.run attempt now)]
  | publishedBegin {attempt : ℕ} {row : TaskRunModel}
      {estimate : Option TaskTimingEstimate} : delivery.pc = .publishBegin attempt row →
      DeliveryMove m rows delivery (.publish estimate) (.running attempt)
        (m.publishEffects row estimate)
  | finished {attempt : ℕ} {result : Except ApiError Unit} {now : Timestamp}
      {row : TaskRunModel} : delivery.pc = .running attempt →
      (m.finishWrite delivery.run attempt result now).returning rows = some row →
      DeliveryMove m rows delivery (.finish result now)
        (.publishFinish attempt (m.outcomeStatus attempt result) row)
        [.write (m.finishWrite delivery.run attempt result now)]
  | finishedMissing {attempt : ℕ} {result : Except ApiError Unit} {now : Timestamp} :
      delivery.pc = .running attempt →
      (m.finishWrite delivery.run attempt result now).returning rows = none →
      DeliveryMove m rows delivery (.finish result now)
        (.responded (some attempt) (httpStatusForTaskRun (m.outcomeStatus attempt result)))
        [.write (m.finishWrite delivery.run attempt result now)]
  | publishedFinish {attempt : ℕ} {status : TaskRunStatus} {row : TaskRunModel}
      {estimate : Option TaskTimingEstimate} :
      delivery.pc = .publishFinish attempt status row →
      DeliveryMove m rows delivery (.publish estimate)
        (.responded (some attempt) (httpStatusForTaskRun status)) (m.publishEffects row estimate)

/-- **The inversion of a webhook delivery.** -/
theorem deliveryMove_of_step {pc' : DeliveryPc}
    (h : m.deliveryStep rows delivery choice = some (pc', fx)) :
    DeliveryMove m rows delivery choice pc' fx := by
  obtain ⟨run, pc⟩ := delivery
  cases pc with
  | beginRead =>
    cases choice with
    | read =>
      cases hr : WebhookTask.reject run.task with
      | some err =>
        simp only [deliveryStep, hr, Option.some.injEq, Prod.mk.injEq] at h
        obtain ⟨rfl, rfl⟩ := h
        exact .rejected rfl hr
      | none =>
        cases hd : decideNextAttempt (queryRunById rows run.runId none) with
        | some attempt =>
          simp only [deliveryStep, hr, hd, Option.some.injEq, Prod.mk.injEq] at h
          obtain ⟨rfl, rfl⟩ := h
          exact .attempt rfl hd
        | none =>
          simp only [deliveryStep, hr, hd, Option.some.injEq, Prod.mk.injEq] at h
          obtain ⟨rfl, rfl⟩ := h
          exact .ignored rfl hd
    | _ => simp [deliveryStep] at h
  | beginWrite attempt =>
    cases choice with
    | write now =>
      cases hw : (markInProgress run attempt now).returning rows with
      | some row =>
        simp only [deliveryStep, hw, Option.some.injEq, Prod.mk.injEq] at h
        obtain ⟨rfl, rfl⟩ := h
        exact .began rfl hw
      | none =>
        simp only [deliveryStep, hw, Option.some.injEq, Prod.mk.injEq] at h
        obtain ⟨rfl, rfl⟩ := h
        exact .beganMissing rfl hw
    | _ => simp [deliveryStep] at h
  | publishBegin attempt row =>
    cases choice with
    | publish estimate =>
      simp only [deliveryStep, Option.some.injEq, Prod.mk.injEq] at h
      obtain ⟨rfl, rfl⟩ := h
      exact .publishedBegin rfl
    | _ => simp [deliveryStep] at h
  | running attempt =>
    cases choice with
    | finish result now =>
      cases hw : (m.finishWrite run attempt result now).returning rows with
      | some row =>
        simp only [deliveryStep, hw, Option.some.injEq, Prod.mk.injEq] at h
        obtain ⟨rfl, rfl⟩ := h
        exact .finished rfl hw
      | none =>
        simp only [deliveryStep, hw, Option.some.injEq, Prod.mk.injEq] at h
        obtain ⟨rfl, rfl⟩ := h
        exact .finishedMissing rfl hw
    | _ => simp [deliveryStep] at h
  | publishFinish attempt status row =>
    cases choice with
    | publish estimate =>
      simp only [deliveryStep, Option.some.injEq, Prod.mk.injEq] at h
      obtain ⟨rfl, rfl⟩ := h
      exact .publishedFinish rfl
    | _ => simp [deliveryStep] at h
  | responded attempt code => simp [deliveryStep] at h

/-! ## The events of the machine -/

/-- **What an event does**, the processes' moves in their inverted form. -/
inductive Move (m : TaskMaster) (s : TaskState T) : Ev T → TaskState T → Prop
  | submit {task : T} {backfillId : Option String} :
      Move m s (.submit task backfillId)
        (TaskState.perform { s with calls := s.calls ++ [⟨task, backfillId, .dedup⟩] }
          [.invoke s.calls.length (TaskRun.makeLogicalId task) backfillId])
  | call {c : ℕ} {choice : Choice} {call : Call T} {pc : SubmitPc T} {fx : List (Effect T)} :
      s.calls[c]? = some call → SubmitMove m s.rows c call choice pc fx →
      Move m s (.call c choice) ((s.setCall c { call with pc := pc }).perform fx)
  | accept {i c : ℕ} {run : TaskRun T} : s.handed[i]? = some (c, run) →
      Move m s (.accept i) { s with accepted := s.accepted ++ [run] }
  | deliver {i : ℕ} {run : TaskRun T} : s.accepted[i]? = some run →
      Move m s (.deliver i) { s with deliveries := s.deliveries ++ [⟨run, .beginRead⟩] }
  | delivery {d : ℕ} {choice : Choice} {delivery : Delivery T} {pc : DeliveryPc}
      {fx : List (Effect T)} :
      s.deliveries[d]? = some delivery → DeliveryMove m s.rows delivery choice pc fx →
      Move m s (.delivery d choice) ((s.setDelivery d { delivery with pc := pc }).perform fx)

/-- **The inversion of the machine.** -/
theorem move_of_step (h : m.step s e = some s') : Move m s e s' := by
  cases e with
  | submit task backfillId =>
    simp only [step, Option.some.injEq] at h
    rw [← h]
    exact .submit
  | call c choice =>
    simp only [step, Option.bind_eq_some_iff, Option.map_eq_some_iff] at h
    obtain ⟨call, hc, ⟨pc, fx⟩, hstep, rfl⟩ := h
    exact .call hc (submitMove_of_step hstep)
  | accept i =>
    simp only [step, Option.map_eq_some_iff] at h
    obtain ⟨⟨c, run⟩, hi, rfl⟩ := h
    exact .accept hi
  | deliver i =>
    simp only [step, Option.map_eq_some_iff] at h
    obtain ⟨run, hi, rfl⟩ := h
    exact .deliver hi
  | delivery d choice =>
    simp only [step, Option.bind_eq_some_iff, Option.map_eq_some_iff] at h
    obtain ⟨delivery, hd, ⟨pc, fx⟩, hstep, rfl⟩ := h
    exact .delivery hd (deliveryMove_of_step hstep)

theorem move_of_system (h : (system T m).step s e = some s') : Move m s e s' := move_of_step h

end TaskMaster

end Dreamscroll
