import Courier.Breaker.Counts

/-!
# Circuit breaker

The breaker stands in front of the gateway. While it is closed it admits every call and trips when
too many of them fail; while it is open it admits none; after a cooldown it is half open and admits
a few on trial, which close it again if all of them succeed.

Nothing happens by itself when time passes. A state that has run out is left at the next operation,
whichever that is, and all operations take the moment at which they happen. A call belongs to the
generation that admitted it; once the generation has ended its outcome no longer counts.

Moments and spans are in milliseconds.

## Main definitions

* `Breaker`, `Breaker.Config`, `Breaker.State`, `Breaker.Transition`, `Breaker.start`.
* `Breaker.refresh`: leave a state that has run out.
* `Breaker.permit`: ask for a call to be made; the answer is its generation, or why it must not.
* `Breaker.settle`: say how an admitted call came out.
-/

namespace Courier

namespace Breaker

/-- What a breaker does with calls. -/
inductive State where
  | closed
  | opened
  | halfOpen
  deriving DecidableEq, Repr, Inhabited

/-- The word for a state. -/
def State.text : State → String
  | closed => "closed"
  | opened => "open"
  | halfOpen => "half_open"

/-- The state of a word. -/
def State.ofText? (word : String) : Option State :=
  [closed, opened, halfOpen].find? (·.text == word)

/-- When a breaker trips and how it recovers. -/
structure Config where
  /-- So many calls must have been made in a window before it may trip. -/
  minRequests : Nat := 10
  /-- It trips once this share of them has failed. -/
  failureRatio : Binary64 := ⟨false, 0x3FE3333333333333⟩
  /-- So long it stays open. -/
  cooldown : Nat := 5000
  /-- So many calls are admitted on trial, and all of them must succeed. -/
  halfOpenRequests : Nat := 1
  /-- So often the tallies of a closed breaker start afresh; never, if zero. -/
  window : Nat := 60000
  deriving DecidableEq, Repr

/-- A change of state. -/
structure Transition where
  source : State
  target : State
  deriving DecidableEq, Repr

/-- Why a call must not be made. -/
inductive Rejection where
  /-- The breaker is open. -/
  | opened
  /-- All trial calls have been given out. -/
  | tooManyRequests
  deriving DecidableEq, Repr

/-- The words for a rejection. -/
def Rejection.text : Rejection → String
  | opened => "Circuit breaker is open"
  | tooManyRequests => "Circuit breaker is half-open and a trial call is already in flight"

end Breaker

/-- A circuit breaker between two operations. -/
structure Breaker where
  state : Breaker.State := .closed
  /-- The number of the generation; after the last of 64 bits comes the first again. -/
  generation : UInt64 := 0
  counts : Counts := {}
  /-- When the state runs out. -/
  expiry : Option Nat := none
  deriving DecidableEq, Repr, Inhabited

namespace Breaker

/-- When a state that begins now runs out. -/
def expiryOf (config : Config) (now : Nat) : State → Option Nat
  | .closed => if config.window = 0 then none else some (now + config.window)
  | .opened => some (now + config.cooldown)
  | .halfOpen => none

/-- A new breaker. -/
def start (config : Config) (now : Nat) : Breaker :=
  { expiry := expiryOf config now .closed }

/-- Begin a generation in the given state. -/
def renew (config : Config) (now : Nat) (b : Breaker) (state : State) : Breaker :=
  ⟨state, b.generation + 1, {}, expiryOf config now state⟩

/-- The state has run out. -/
def hasExpired (b : Breaker) (now : Nat) : Bool :=
  b.expiry.any (· ≤ now)

/-- A breaker after an operation, with the changes of state that it brought about. -/
structure Changed where
  breaker : Breaker
  transitions : List Transition := []
  deriving DecidableEq, Repr

/-- Go over to another state. -/
def Changed.moveTo (c : Changed) (config : Config) (now : Nat) (state : State) : Changed :=
  ⟨c.breaker.renew config now state, c.transitions ++ [⟨c.breaker.state, state⟩]⟩

/-- Leave a state that has run out: an open breaker goes over to trials, and a closed one starts its
tallies afresh. -/
def refresh (config : Config) (now : Nat) (b : Breaker) : Changed :=
  if b.hasExpired now then
    match b.state with
    | .closed => ⟨b.renew config now .closed, []⟩
    | .opened => Changed.moveTo ⟨b, []⟩ config now .halfOpen
    | .halfOpen => ⟨b, []⟩
  else ⟨b, []⟩

/-- Ask for a call to be made. An admitted one is counted. -/
def permit (config : Config) (now : Nat) (b : Breaker) : Changed × Except Rejection UInt64 :=
  let c := b.refresh config now
  match c.breaker.state with
  | .opened => (c, .error .opened)
  | .halfOpen =>
    if config.halfOpenRequests ≤ c.breaker.counts.requests then (c, .error .tooManyRequests)
    else admitted c
  | .closed => admitted c
where
  /-- The breaker with one more call, and its generation. -/
  admitted (c : Changed) : Changed × Except Rejection UInt64 :=
    ({ c with breaker := { c.breaker with counts := c.breaker.counts.onRequest } },
      .ok c.breaker.generation)

/-- The tallies are reason to trip. -/
def Config.trips (config : Config) (c : Counts) : Bool :=
  config.minRequests ≤ c.requests && config.failureRatio.le c.failureRatio

/-- Say how a call of the given generation came out. If the generation has ended nothing is
counted. -/
def settle (config : Config) (now : Nat) (b : Breaker) (generation : UInt64) (succeeded : Bool) :
    Changed :=
  let c := b.refresh config now
  if c.breaker.generation = generation then
    let counts := c.breaker.counts.onOutcome succeeded
    let c := { c with breaker := { c.breaker with counts } }
    match c.breaker.state with
    | .closed => if config.trips counts then c.moveTo config now .opened else c
    | .halfOpen =>
      if !succeeded then c.moveTo config now .opened
      else if config.halfOpenRequests ≤ counts.consecutiveSuccesses then
        c.moveTo config now .closed
      else c
    | .opened => c
  else c

end Breaker

end Courier
