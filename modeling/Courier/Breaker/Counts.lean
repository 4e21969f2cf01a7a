import Courier.Binary64.Basic

/-!
# Tallies of a breaker

What a circuit breaker counts within one generation: calls, and how they came out, with the lengths
of the latest runs of equal outcomes. The tallies stop at the greatest number of 32 bits.

## Main definitions

* `Counts`, `Counts.onRequest`, `Counts.onSuccess`, `Counts.onFailure`.
* `Counts.failureRatio`: failures by calls, and zero before the first call.
-/

namespace Courier

/-- The greatest tally. -/
def tallyLimit : Nat := UInt32.size - 1

/-- One more, up to the greatest tally. -/
def tallyNext (n : Nat) : Nat := min tallyLimit (n + 1)

theorem le_tallyNext {n : Nat} (h : n ≤ tallyLimit) : n ≤ tallyNext n := by
  unfold tallyNext; omega

theorem tallyNext_of_lt {n : Nat} (h : n < tallyLimit) : tallyNext n = n + 1 := by
  unfold tallyNext; omega

/-- The tallies of one generation. -/
structure Counts where
  requests : Nat := 0
  totalSuccesses : Nat := 0
  totalFailures : Nat := 0
  consecutiveSuccesses : Nat := 0
  consecutiveFailures : Nat := 0
  deriving DecidableEq, Repr, Inhabited

namespace Counts

/-- A call was admitted. -/
def onRequest (c : Counts) : Counts :=
  { c with requests := tallyNext c.requests }

/-- A call succeeded. -/
def onSuccess (c : Counts) : Counts :=
  { c with
    totalSuccesses := tallyNext c.totalSuccesses
    consecutiveSuccesses := tallyNext c.consecutiveSuccesses
    consecutiveFailures := 0 }

/-- A call failed. -/
def onFailure (c : Counts) : Counts :=
  { c with
    totalFailures := tallyNext c.totalFailures
    consecutiveFailures := tallyNext c.consecutiveFailures
    consecutiveSuccesses := 0 }

/-- A call came out one way or the other. -/
def onOutcome (c : Counts) (succeeded : Bool) : Counts :=
  if succeeded then c.onSuccess else c.onFailure

/-- The share of the calls that failed. -/
def failureRatio (c : Counts) : Binary64 :=
  if c.requests = 0 then .zero else .ofRatio c.totalFailures c.requests

/-- What can happen to the tallies. -/
inductive Event where
  | request
  | success
  | failure
  deriving DecidableEq, Repr

/-- The tallies after an event. -/
def apply (c : Counts) : Event → Counts
  | .request => c.onRequest
  | .success => c.onSuccess
  | .failure => c.onFailure

end Counts

end Courier
