import Courier.Collaborator.Basic
import Courier.Notification
import Courier.Profile
import Courier.Status

/-!
# Calls

While a job is processed it makes calls, one at a time, and each of them has an answer of its own
type. Some calls are bounded: if no answer comes in time, that there was none is an answer too. The
others wait as long as it takes.

## Main definitions

* `Call`, `Call.kind`.
* `Call.Kind.Answer`: the type of a call's answer.
* `Call.Kind.timedOut?`: the answer of a bounded call when the time is over.
-/

namespace Courier

open Time (Stamp)

/-- The store did not answer a claim. -/
inductive ClaimError where
  /-- It answered that it failed. -/
  | failed (error : StoreError)
  /-- It did not answer in time. -/
  | timedOut
  deriving DecidableEq, Repr

/-- Something that a job asks a collaborator for. -/
inductive Call where
  /-- Claim the job for a span of time. -/
  | claim (requestId : String) (span : Nat)
  /-- Write down for a span of time that the job is done. -/
  | mark (requestId : String) (span : Nat)
  /-- Release the claim on the job. -/
  | remove (requestId : String)
  /-- Look up the user. -/
  | user (userId : String)
  /-- Look up the template. -/
  | template (templateId : String)
  /-- Deliver the notification. -/
  | send (notification : Notification)
  /-- Send a copy of the job around. -/
  | publish (copy : Job)
  /-- Tell how the notification ended. -/
  | status (event : StatusEvent)

namespace Call

/-- The kinds of calls. -/
inductive Kind where
  | claim
  | mark
  | remove
  | user
  | template
  | send
  | publish
  | status
  deriving DecidableEq, Repr

/-- The kind of a call. -/
def kind : Call → Kind
  | claim .. => .claim
  | mark .. => .mark
  | remove _ => .remove
  | user _ => .user
  | template _ => .template
  | send _ => .send
  | publish _ => .publish
  | status _ => .status

namespace Kind

/-- What a call of the kind is answered with. -/
def Answer : Kind → Type
  | claim => Except ClaimError Claim
  | mark | remove => Except StoreError Unit
  | user => Except LookupError Recipient
  | template => Except LookupError Template
  | send => Except DeliveryError Unit
  | publish | status => Except BrokerError Unit

/-- The answer of a bounded call when the time for it is over. -/
def timedOut? : (kind : Kind) → Option kind.Answer
  | claim => some (Except.error ClaimError.timedOut)
  | user => some (Except.error (LookupError.unreachable "user lookup timed out"))
  | template => some (Except.error (LookupError.unreachable "template lookup timed out"))
  | send => some (Except.error DeliveryError.timeout)
  | mark | remove | publish | status => none

/-- Calls of the kind are bounded. -/
def isBounded (kind : Kind) : Bool :=
  kind.timedOut?.isSome

/-- The word for a kind. -/
def text : Kind → String
  | claim => "claim"
  | mark => "mark"
  | remove => "remove"
  | user => "user"
  | template => "template"
  | send => "send"
  | publish => "publish"
  | status => "status"

/-- All kinds. -/
def all : List Kind := [claim, mark, remove, user, template, send, publish, status]

end Kind

end Call

end Courier
