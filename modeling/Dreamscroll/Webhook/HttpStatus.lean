import Dreamscroll.Logic.Tasks
import Dreamscroll.Task.TaskMaster
/-!
# What a webhook answers the queue

Cloud Tasks retries a non-2xx response and acknowledges a 2xx one, so the
status a finished attempt is answered with is the retry decision itself.
The three webhook routes are one procedure; what the spark route checks
before it begins an attempt is `WebhookTask.reject`.
-/

namespace Dreamscroll

/-- `StatusCode::NO_CONTENT`, which also acknowledges an ignored delivery. -/
def noContent : ℕ := 204

/-- Map a finished task run to the HTTP status Cloud Tasks should see. -/
def httpStatusForTaskRun : TaskRunStatus → ℕ
  | .submissionFailed => 500
  | .completeSuccess => noContent
  | .completeFailure => 200
  | .errorWillRetry => 500
  | .queued | .inProgress => 500

/-- **A finished attempt is acknowledged when its run is settled**, the
statuses `finish_attempt` never records aside. -/
theorem isSuccess_httpStatusForTaskRun {st : TaskRunStatus} (h : st ≠ .submissionFailed) :
    isSuccess (httpStatusForTaskRun st) = !st.isInFlight := by
  cases st <;> first | rfl | exact absurd rfl h

/-- A task together with what its webhook refuses before any attempt. -/
class WebhookTask (T : Type) extends Task T where
  reject : T → Option ApiError

instance : WebhookTask IlluminationTask where
  reject _ := none

instance : WebhookTask SearchIndexTask where
  reject _ := none

instance : WebhookTask SparkTask where
  reject t := if t.captureIds.isEmpty then
    some (ApiError.badRequest "capture_ids must contain at least one capture ID") else none

instance : WebhookTask AnyTask where
  reject
    | .illuminate t => WebhookTask.reject t
    | .searchIndex t => WebhookTask.reject t
    | .spark t => WebhookTask.reject t

end Dreamscroll
