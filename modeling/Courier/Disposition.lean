/-!
# Dispositions

The one answer that the broker gets for a message: it is acknowledged, or rejected for good, which
sends it on to the queue of failed messages. Either way there is a reason.

## Main definitions

* `Disposition`, `Disposition.isAck`, `Disposition.text`.
-/

namespace Courier

/-- Why a message is acknowledged. -/
inductive AckReason where
  /-- The notification was delivered. -/
  | delivered
  /-- The job has been taken care of before, or is just now. -/
  | duplicate
  /-- There is nowhere to deliver to. -/
  | noEndpoint
  /-- A copy with this count of failures goes around again. -/
  | resubmitted (retryCount : UInt32)
  deriving DecidableEq, Repr

/-- Why a message is rejected. -/
inductive RejectReason where
  /-- It is no job. -/
  | malformed
  /-- The job has gone around often enough. -/
  | budgetExhausted
  /-- The template cannot be rendered. -/
  | renderFailed
  /-- No copy could be sent around. -/
  | resubmitFailed
  deriving DecidableEq, Repr

/-- What becomes of a message. -/
inductive Disposition where
  | ack (reason : AckReason)
  | reject (reason : RejectReason)
  deriving DecidableEq, Repr

namespace Disposition

/-- The message is acknowledged. -/
def isAck : Disposition → Bool
  | ack _ => true
  | reject _ => false

/-- The words for a disposition. -/
def text : Disposition → String
  | ack .delivered => "ack:delivered"
  | ack .duplicate => "ack:duplicate"
  | ack .noEndpoint => "ack:no_endpoint"
  | ack (.resubmitted retryCount) => "ack:resubmitted(retry=" ++ toString retryCount.toNat ++ ")"
  | reject .malformed => "reject:malformed"
  | reject .budgetExhausted => "reject:retry_budget_exhausted"
  | reject .renderFailed => "reject:render_failed"
  | reject .resubmitFailed => "reject:resubmit_failed"

end Disposition

end Courier
