import Courier.Breaker.Basic
import Courier.Collaborator.Basic
import Courier.Disposition
import Courier.Job
import Courier.Template.Render

/-!
# Failures of a job

A job fails permanently if trying again cannot help, and is then rejected; it fails transiently if
trying again may help, and then goes around with one more failure on its count.

## Main definitions

* `PermanentFailure`, `PermanentFailure.rejectReason`.
* `TransientFailure`.
-/

namespace Courier

/-- A failure that trying again cannot mend. -/
inductive PermanentFailure where
  /-- The message is no job. -/
  | malformed (error : Job.DecodeError)
  /-- The job has been through as many failures as it may. -/
  | budgetExhausted (retryCount maxRetries : UInt32)
  /-- A part of the template cannot be rendered. -/
  | render (part : Template.Part) (reason : String)
  deriving DecidableEq, Repr

namespace PermanentFailure

/-- The words for a failure. -/
def text : PermanentFailure → String
  | malformed error => "malformed job payload: " ++ error.text
  | budgetExhausted retryCount maxRetries =>
    "max retries reached (" ++ toString retryCount.toNat ++ "/" ++ toString maxRetries.toNat ++ ")"
  | render part reason => "failed to render template: " ++ part.failureText reason

/-- The reason that the message is rejected for. -/
def rejectReason : PermanentFailure → RejectReason
  | malformed _ => .malformed
  | budgetExhausted .. => .budgetExhausted
  | render .. => .renderFailed

end PermanentFailure

/-- Why a notification was not delivered. -/
inductive SendFailure where
  /-- The breaker did not let the delivery through. -/
  | rejected (reason : Breaker.Rejection)
  /-- The delivery was made and failed. -/
  | failed (error : DeliveryError)
  deriving DecidableEq, Repr

/-- The words for a failure. -/
def SendFailure.text : SendFailure → String
  | rejected reason => reason.text
  | failed error => error.text

/-- A failure that trying again may mend. -/
inductive TransientFailure where
  /-- The user is not known. -/
  | userLookup (error : LookupError)
  /-- The template is not known. -/
  | templateLookup (error : LookupError)
  /-- The notification was not delivered; the breaker's state is told with it. -/
  | delivery (state : Breaker.State) (failure : SendFailure)
  deriving DecidableEq, Repr

/-- The words for a failure. -/
def TransientFailure.text : TransientFailure → String
  | userLookup error => "user lookup failed: " ++ error.text
  | templateLookup error => "template lookup failed: " ++ error.text
  | delivery state failure =>
    "push delivery failed (circuit breaker: " ++ state.text ++ "): " ++ failure.text

end Courier
