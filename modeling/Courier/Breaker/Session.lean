import Courier.Breaker.Basic

/-!
# Sessions with a breaker

A session is a breaker together with a clock and the calls that are on their way through it. Calls
may overlap: each is begun, and later either finishes or is dropped, which counts as a failure.

## Main definitions

* `Breaker.Session`, `Breaker.Action`, `Breaker.Reply`, `Breaker.Session.act`.
-/

namespace Courier.Breaker

/-- How a call through a breaker came out. -/
inductive CallOutcome where
  /-- The call was made and succeeded. -/
  | succeeded
  /-- The call was made and failed. -/
  | failed
  /-- The call was not made. -/
  | rejected (reason : Rejection)
  deriving DecidableEq, Repr

/-- The call was made. -/
def CallOutcome.wasMade : CallOutcome → Bool
  | rejected _ => false
  | _ => true

/-- The outcome of a call that was made. -/
def CallOutcome.ofBool (succeeded : Bool) : CallOutcome :=
  if succeeded then .succeeded else .failed

/-- A breaker, the moment, and the generations of the calls that are on their way. -/
structure Session where
  config : Config
  breaker : Breaker
  now : Nat := 0
  pending : List (String × UInt64) := []

/-- Something done with a breaker. -/
inductive Action where
  /-- So many calls, one after another, that finish at once. -/
  | call (succeeds : Bool) (times : Nat)
  /-- Begin a call. A call of the same name that is on its way is dropped once this is admitted. -/
  | begin (name : String)
  /-- A call finishes. -/
  | finish (name : String) (succeeds : Bool)
  /-- A call is dropped. -/
  | drop (name : String)
  /-- Time passes. -/
  | advance (span : Nat)
  /-- Ask for the state. -/
  | readState
  /-- Ask for the tallies. -/
  | readCounts
  deriving DecidableEq, Repr

/-- What an action shows. -/
inductive Reply where
  | calls (outcomes : List CallOutcome)
  | pending
  | outcome (outcome : CallOutcome)
  | dropped
  | noSuchCall
  | nothing
  | state (state : State)
  | counts (counts : Counts)
  deriving DecidableEq, Repr

namespace Session

/-- A session with a new breaker. -/
def start (config : Config) : Session :=
  { config, breaker := .start config 0 }

/-- The session with the breaker after an operation. -/
def after (s : Session) (c : Changed) : Session :=
  { s with breaker := c.breaker }

/-- A call of the given generation comes out. -/
def settle (s : Session) (generation : UInt64) (succeeded : Bool) : Session × List Transition :=
  let c := s.breaker.settle s.config s.now generation succeeded
  (s.after c, c.transitions)

/-- Forget a call that was on its way. -/
def forget (s : Session) (name : String) : Session :=
  { s with pending := s.pending.filter (·.1 != name) }

/-- Calls that finish at once, one after another. -/
def calls (succeeds : Bool) : Nat → Session → Session × List Transition × List CallOutcome
  | 0, s => (s, [], [])
  | n + 1, s =>
    let (c, answer) := s.breaker.permit s.config s.now
    let s := s.after c
    let (s, transitions, outcome) :=
      match answer with
      | .error reason => (s, c.transitions, CallOutcome.rejected reason)
      | .ok generation =>
        let (s, more) := s.settle generation succeeds
        (s, c.transitions ++ more, .ofBool succeeds)
    let (s, more, outcomes) := calls succeeds n s
    (s, transitions ++ more, outcome :: outcomes)

/-- Do something with the breaker. -/
def act (s : Session) : Action → Session × List Transition × Reply
  | .call succeeds times =>
    let (s, transitions, outcomes) := s.calls succeeds times
    (s, transitions, .calls outcomes)
  | .begin name =>
    let (c, answer) := s.breaker.permit s.config s.now
    let s := s.after c
    match answer with
    | .error reason => (s, c.transitions, .outcome (.rejected reason))
    | .ok generation =>
      let (dropped, more) :=
        match s.pending.lookup name with
        | some old => s.settle old false
        | none => (s, [])
      let others := dropped.forget name
      let s := { others with pending := (name, generation) :: others.pending }
      (s, c.transitions ++ more, .pending)
  | .finish name succeeds =>
    match s.pending.lookup name with
    | none => (s, [], .noSuchCall)
    | some generation =>
      let (s, transitions) := (s.forget name).settle generation succeeds
      (s, transitions, .outcome (.ofBool succeeds))
  | .drop name =>
    match s.pending.lookup name with
    | none => (s, [], .noSuchCall)
    | some generation =>
      let (s, transitions) := (s.forget name).settle generation false
      (s, transitions, .dropped)
  | .advance span => ({ s with now := s.now + span }, [], .nothing)
  | .readState =>
    let c := s.breaker.refresh s.config s.now
    (s.after c, c.transitions, .state c.breaker.state)
  | .readCounts =>
    let c := s.breaker.refresh s.config s.now
    (s.after c, c.transitions, .counts c.breaker.counts)

end Session

end Courier.Breaker
