import Courier.Failure
import Courier.Status

/-!
# Notices

What the service says about things that went wrong: warnings and errors, each a message with named
details. Everything else it might tell is left unsaid.

## Main definitions

* `Notice`, with `Notice.level`, `Notice.message` and `Notice.details`.
-/

namespace Courier

/-- How bad something is. -/
inductive Notice.Level where
  | warning
  | error
  deriving DecidableEq, Repr

/-- The word for a level. -/
def Notice.Level.text : Notice.Level → String
  | warning => "WARN"
  | error => "ERROR"

/-- Something that went wrong. -/
inductive Notice where
  /-- A template refers to a variable that the job does not give. -/
  | missingVariable (missing : Template.Missing)
  /-- The store could not say whether the job is a duplicate. -/
  | claimFailed (error : StoreError)
  /-- The store did not say in time whether the job is a duplicate. -/
  | claimTimedOut
  /-- The store did not keep that the job is done. -/
  | markFailed (error : StoreError)
  /-- The store did not release the claim on a job that goes around again. -/
  | releaseFailed (error : StoreError)
  /-- A message is no job. -/
  | messageRejected (failure : PermanentFailure)
  /-- A job fails for good. -/
  | jobRejected (failure : PermanentFailure)
  /-- A job goes around again. -/
  | jobRequeued (retryCount maxRetries : UInt32) (failure : TransientFailure)
  /-- A job could not be sent around again. -/
  | resubmissionFailed (error : BrokerError)
  /-- A status event was not published. -/
  | statusUnpublished (error : BrokerError) (status : Status)
  /-- A breaker opened. -/
  | breakerOpened (name : String) (source : Breaker.State)
  /-- An operation failed as often as it was tried. -/
  | retriesExhausted (operation : String) (attempts : Nat) (error : String)
  /-- The store does not answer a ping. -/
  | storeUnhealthy (error : StoreError)
  /-- The broker's channel is gone. -/
  | brokerDisconnected
  /-- The stream of one slot's messages has ended. -/
  | streamClosed (slot : Nat)
  /-- The stream of one slot's messages has failed. -/
  | streamFailed (slot : Nat) (error : String)
  /-- The broker was not told how a message has been disposed of. -/
  | dispositionUnapplied (disposition : Disposition) (error : String)
  /-- The task of a message has broken off. -/
  | taskBrokenOff (slot : Nat) (error : String)
  /-- The streams of all slots have ended. -/
  | slotsStopped
  /-- Jobs were still under way when the time for them was over. -/
  | jobsAbandoned (graceSeconds : Nat)
  /-- Notifications are only logged. -/
  | deliveriesLogged
  deriving DecidableEq, Repr

namespace Notice

/-- How bad it is. -/
def level : Notice → Level
  | messageRejected _ | jobRejected _ | resubmissionFailed _ | streamFailed .. => .error
  | dispositionUnapplied .. | taskBrokenOff .. => .error
  | _ => .warning

/-- The words for it. -/
def message : Notice → String
  | missingVariable _ => "Template references unknown variable, rendering it empty"
  | claimFailed _ => "Idempotency check failed, cannot guarantee idempotency"
  | claimTimedOut => "Idempotency check timed out, cannot guarantee idempotency"
  | markFailed _ => "Failed to mark job as processed"
  | releaseFailed _ => "Failed to remove idempotency key after resubmission"
  | messageRejected _ => "Permanent failure, rejecting message"
  | jobRejected _ => "Permanent failure, rejecting job"
  | jobRequeued .. => "Transient failure, re-queuing job"
  | resubmissionFailed _ => "Resubmission failed, rejecting original delivery"
  | statusUnpublished .. => "Failed to publish status event"
  | breakerOpened .. => "Circuit breaker opened"
  | retriesExhausted .. => "Retry failed after exhausting all attempts"
  | storeUnhealthy _ => "Redis health check failed"
  | brokerDisconnected => "RabbitMQ channel is not connected"
  | streamClosed _ => "Consumer stream closed"
  | streamFailed .. => "Consumer stream failed"
  | dispositionUnapplied .. => "Failed to apply disposition"
  | taskBrokenOff .. => "Job task panicked"
  | slotsStopped => "All consumer slots stopped"
  | jobsAbandoned _ => "In-flight jobs did not finish within the grace period, abandoning them"
  | deliveriesLogged =>
    "Using log delivery sink, notifications will not leave this process"

/-- The details, by name. -/
def details : Notice → List (String × String)
  | missingVariable m => [("field", m.part.name), ("missing_variable", m.name)]
  | claimFailed e | markFailed e | releaseFailed e | storeUnhealthy e => [("error", e.text)]
  | messageRejected f | jobRejected f => [("error", f.text)]
  | jobRequeued retryCount maxRetries f =>
    [("retry_count", toString retryCount.toNat), ("max_retries", toString maxRetries.toNat),
      ("error", f.text)]
  | resubmissionFailed e => [("error", e.resubmissionText)]
  | statusUnpublished e status => [("error", e.text), ("status", status.text)]
  | breakerOpened name source =>
    [("breaker", name), ("from", source.text), ("to", Breaker.State.opened.text)]
  | retriesExhausted operation attempts error =>
    [("operation", operation), ("max_attempts", toString attempts), ("error", error)]
  | streamClosed slot => [("slot", toString slot)]
  | streamFailed slot error | taskBrokenOff slot error =>
    [("slot", toString slot), ("error", error)]
  | dispositionUnapplied disposition error =>
    [("disposition", disposition.text), ("error", error)]
  | jobsAbandoned graceSeconds => [("grace_seconds", toString graceSeconds)]
  | _ => []

/-- What is said about a breaker's changes of state: that it opened. -/
def ofTransitions (name : String) (transitions : List Breaker.Transition) : List Notice :=
  transitions.filterMap fun t =>
    if t.target = .opened then some (breakerOpened name t.source) else none

end Notice

end Courier
