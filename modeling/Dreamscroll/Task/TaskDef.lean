import Dreamscroll.Common.Json
import Mathlib.Data.Nat.Notation
/-!
# Tasks and their runs

A task is a serializable specification of a unit of work, and a `TaskRun`
one invocation of it. `makeLogicalId` names the work, the same for every
run; `runId` names the invocation.

`task_type` and `entity_type` take no value in the source. Here they take
the task, so that the sum of the three task types of the application is a
task as well.
-/

namespace Dreamscroll

/-- A concrete task: what its rows and its logical id are made of. -/
class Task (T : Type) where
  taskType : T → String
  entityType : T → String
  entityId : T → ℤ
  entityOwnerId : T → ℤ
  /-- The serialized parameters. -/
  toJson : T → Json

/-- **One invocation of a task**, unchanged across its retries. -/
structure TaskRun (T : Type) where
  logicalId : String
  runId : String
  /-- 1-based ordinal among runs of the same logical task, an `i32` in the
  source. -/
  runNumber : ℕ
  backfillId : Option String
  task : T

namespace TaskRun

variable {T : Type} [Task T]

/-- The deterministic ID of logical work shared across runs. -/
def makeLogicalId (task : T) : String :=
  "u" ++ toString (Task.entityOwnerId task) ++ "-" ++ Task.taskType task ++ "-" ++
    Task.entityType task ++ toString (Task.entityId task)

/-- A new invocation. The source draws `run_id` from `Uuid::new_v4`; here
the caller supplies it, and nothing says it is fresh. -/
def new (task : T) (runNumber : ℕ) (runId : String) : TaskRun T where
  logicalId := makeLogicalId task
  runId := runId
  runNumber := runNumber
  backfillId := none
  task := task

end TaskRun

end Dreamscroll
