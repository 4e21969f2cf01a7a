import Courier.Disposition
import Courier.Notice

/-!
# Slots

A slot takes messages from a stream of its own and has each of them processed in a task. Tasks end
in any order; the end of one is its disposition, which is told to the broker once. A slot that is
told to stop, or whose stream ends or fails, takes no more messages, but it waits for its tasks. If
that takes too long the tasks that are left are given up, and so is a slot that has not noticed yet
that it was told to stop.

What happens to a slot comes one event after another, in any order, and an event that cannot be does
nothing.

## Main definitions

* `Slot`, `Slot.Event`, `Slot.Effect`.
* `Slot.step`: what an event brings about.
-/

namespace Courier

/-- How far a task is. -/
inductive Slot.Task where
  /-- The message is being processed. -/
  | processing
  /-- The broker is being told of the disposition. -/
  | applying (disposition : Disposition)
  deriving DecidableEq, Repr

/-- A slot. -/
structure Slot where
  number : Nat
  /-- It still takes messages. -/
  isTaking : Bool := true
  /-- The tasks under way, by the tags of their messages. -/
  tasks : List (Nat × Slot.Task) := []
  deriving DecidableEq, Repr

namespace Slot

/-- What happens to a slot. -/
inductive Event where
  /-- The stream brings a message. -/
  | delivered (tag : Nat)
  /-- A message has been processed. -/
  | processed (tag : Nat) (disposition : Disposition)
  /-- The broker has been told; or that failed, for some reason. -/
  | applied (tag : Nat) (failure : Option String)
  /-- The service stops. -/
  | stopped
  /-- The stream has ended. -/
  | streamEnded
  /-- The stream has failed. -/
  | streamFailed (error : String)
  /-- Waiting has taken too long. -/
  | graceOver
  deriving DecidableEq, Repr

/-- What a slot does. -/
inductive Effect where
  /-- Have a message processed. -/
  | process (tag : Nat)
  /-- Tell the broker that a message is done with, or all messages up to it. -/
  | acknowledge (tag : Nat) (multiple : Bool)
  /-- Tell the broker that a message is not wanted, and whether it is to be handed out again. -/
  | reject (tag : Nat) (requeue : Bool)
  /-- Give a task up. -/
  | abandon (tag : Nat)
  /-- Say something. -/
  | say (notice : Notice)
  deriving DecidableEq, Repr

/-- What tells the broker of a disposition. It is about this message alone, and a message that is
rejected is not handed out again. -/
def Effect.ofDisposition (tag : Nat) : Disposition → Effect
  | .ack _ => .acknowledge tag false
  | .reject _ => .reject tag false

/-- There is nothing left to do. -/
def hasEnded (s : Slot) : Bool :=
  !s.isTaking && s.tasks.isEmpty

/-- Take no more messages. -/
def close (s : Slot) (effects : List Effect) : Slot × List Effect :=
  if s.isTaking then ({ s with isTaking := false }, effects) else (s, [])

/-- Replace what is known of a task. -/
def setTask (s : Slot) (tag : Nat) (task : Task) : Slot :=
  { s with tasks := s.tasks.map fun t => if t.1 = tag then (tag, task) else t }

/-- One event. -/
def step (s : Slot) : Event → Slot × List Effect
  | .delivered tag =>
    if s.isTaking then ({ s with tasks := s.tasks ++ [(tag, .processing)] }, [.process tag])
    else (s, [])
  | .processed tag disposition =>
    match s.tasks.lookup tag with
    | some .processing => (s.setTask tag (.applying disposition), [.ofDisposition tag disposition])
    | _ => (s, [])
  | .applied tag failure =>
    match s.tasks.lookup tag with
    | some (.applying disposition) =>
      ({ s with tasks := s.tasks.filter (·.1 ≠ tag) },
        failure.toList.map fun e => .say (.dispositionUnapplied disposition e))
    | _ => (s, [])
  | .stopped => s.close []
  | .streamEnded => s.close [.say (.streamClosed s.number)]
  | .streamFailed e => s.close [.say (.streamFailed s.number e)]
  | .graceOver => ({ s with isTaking := false, tasks := [] }, s.tasks.map fun t => .abandon t.1)

/-- A slot that takes no more messages never does again. -/
theorem isTaking_step_of_not {s : Slot} (h : s.isTaking = false) (e : Event) :
    (s.step e).1.isTaking = false := by
  cases e with
  | graceOver => rfl
  | delivered | processed | applied | stopped | streamEnded | streamFailed =>
    simp only [step, close, setTask]
    split <;> simp_all

end Slot

end Courier
