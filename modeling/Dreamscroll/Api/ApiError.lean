import Mathlib.Data.Int.Notation
import Mathlib.Data.Nat.Notation
/-!
# Errors of the API layer

`ApiError` as the task layer reads it: the HTTP status it produces for its
caller, the rendered error chain, and the more specific status persisted
with a failed attempt.
-/

namespace Dreamscroll

/-- A status code in one of the ranges `http::StatusCode` names. -/
def isSuccess (code : ℕ) : Bool := 200 ≤ code && code < 300

/-- The 5xx range. -/
def isServerError (code : ℕ) : Bool := 500 ≤ code && code < 600

/-- An error of the API: what its caller sees, and what a run records. -/
structure ApiError where
  /-- The HTTP status this error produces for its caller. -/
  httpStatusCode : ℕ
  /-- The annotated error chain on one line. -/
  error : String
  /-- The status persisted as `task_runs.last_error_code`. -/
  innerStatusCode : ℤ
  deriving DecidableEq, Repr

namespace ApiError

/-- An error that is recorded as it is answered. -/
def new (code : ℕ) (error : String) : ApiError := ⟨code, error, code⟩

/-- A more specific code for failure triage; `none` keeps the default. -/
def withInnerStatusCode (e : ApiError) (innerStatusCode : Option ℤ) : ApiError :=
  { e with innerStatusCode := innerStatusCode.getD e.innerStatusCode }

/-- 400. -/
def badRequest (error : String) : ApiError := new 400 error
/-- 409. -/
def conflict (error : String) : ApiError := new 409 error
/-- 403. -/
def forbidden (error : String) : ApiError := new 403 error
/-- 500. -/
def internal (error : String) : ApiError := new 500 error
/-- 404. -/
def notFound (error : String) : ApiError := new 404 error
/-- 415. -/
def unsupportedMediaType (error : String) : ApiError := new 415 error

/-- The failing layer's own message. -/
def message (e : ApiError) : String := e.error

/-- Whether a task that failed with this error is worth retrying. -/
def isRetryable (e : ApiError) : Bool := isServerError e.httpStatusCode

end ApiError

end Dreamscroll
