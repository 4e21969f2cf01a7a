import Courier.Breaker.Basic

/-!
# A clock with an end

A clock counts seconds with a sign and 63 bits, and cannot tell a moment beyond. A breaker asks it
for one whenever a state begins that is to run out. If the clock cannot tell it the operation breaks
off there: state, number and tallies are those of the new generation already, the expiry is still
that of the generation before, and nobody is told of the change. The breaker is used on as it was
left.

As long as that does not happen the operations here are those of a clock without an end.

## Main definitions

* `Breaker.clockEnd`, `Breaker.Config.tells`: which moments the clock can tell.
* `Breaker.start?`: a new breaker.
* `Breaker.renew?`, `Breaker.refresh?`, `Breaker.permit?`, `Breaker.settle?`: the operations; an
  error is the breaker that is left where one breaks off.
-/

namespace Courier.Breaker

/-- The first moment that the clock cannot tell. -/
def clockEnd : Nat := (1 <<< 63) * 1000

/-- What the clock says then. -/
def clockEndText : String := "overflow when adding duration to instant"

/-- The clock can tell when a state that begins now runs out. -/
def Config.tells (config : Config) (now : Nat) (state : State) : Bool :=
  (expiryOf config now state).all (· < clockEnd)

/-- A new breaker, if the clock can tell when it runs out. -/
def start? (config : Config) (now : Nat) : Option Breaker :=
  if config.tells now .closed then some (start config now) else none

/-- Begin a generation in the given state. The expiry comes last. -/
def renew? (config : Config) (now : Nat) (b : Breaker) (state : State) : Except Breaker Breaker :=
  if config.tells now state then .ok (b.renew config now state)
  else .error { b.renew config now state with expiry := b.expiry }

/-- Go over to another state. The change is reported if it is brought to its end. -/
def Changed.moveTo? (c : Changed) (config : Config) (now : Nat) (state : State) :
    Except Breaker Changed := do
  let b ← c.breaker.renew? config now state
  return ⟨b, c.transitions ++ [⟨c.breaker.state, state⟩]⟩

/-- Leave a state that has run out. -/
def refresh? (config : Config) (now : Nat) (b : Breaker) : Except Breaker Changed := do
  if b.hasExpired now then
    match b.state with
    | .closed => return ⟨← b.renew? config now .closed, []⟩
    | .opened => Changed.moveTo? ⟨b, []⟩ config now .halfOpen
    | .halfOpen => return ⟨b, []⟩
  else return ⟨b, []⟩

/-- Ask for a call to be made. -/
def permit? (config : Config) (now : Nat) (b : Breaker) :
    Except Breaker (Changed × Except Rejection UInt64) := do
  let c ← b.refresh? config now
  match c.breaker.state with
  | .opened => return (c, .error .opened)
  | .halfOpen =>
    if config.halfOpenRequests ≤ c.breaker.counts.requests then return (c, .error .tooManyRequests)
    else return permit.admitted c
  | .closed => return permit.admitted c

/-- Say how a call of the given generation came out. -/
def settle? (config : Config) (now : Nat) (b : Breaker) (generation : UInt64) (succeeded : Bool) :
    Except Breaker Changed := do
  let c ← b.refresh? config now
  if c.breaker.generation = generation then
    let counts := c.breaker.counts.onOutcome succeeded
    let c := { c with breaker := { c.breaker with counts } }
    match c.breaker.state with
    | .closed => if config.trips counts then c.moveTo? config now .opened else return c
    | .halfOpen =>
      if !succeeded then c.moveTo? config now .opened
      else if config.halfOpenRequests ≤ counts.consecutiveSuccesses then
        c.moveTo? config now .closed
      else return c
    | .opened => return c
  else return c

end Courier.Breaker
