import Courier.Broker.Method
import Courier.Collaborator.Basic

/-!
# Sessions with the broker

A session is what has been asked of the broker so far. The broker grants what it is asked for, but
for one method at most: it may refuse a method of some name at one of its turns, and that ends the
session. Of the messages that are published it may refuse any.

## Main definitions

* `Broker.Session`.
* `Broker.Session.ask`, `Broker.Session.askAll`: asking for methods.
* `Broker.Session.publish`: publishing a message.
-/

namespace Courier.Broker

open Json (Value)

/-- A session with the broker. -/
structure Session where
  /-- What has been asked. -/
  methods : List Method := []
  /-- The method of this name is refused when it is asked for after so many others of the name. -/
  refusal : Option (String × Nat) := none
  /-- The messages that are refused, by their numbers. -/
  nacks : List Nat := []
  isOpen : Bool := true
  deriving Repr

namespace Session

/-- How often a method of the name has been asked for. -/
def count (s : Session) (name : String) : Nat :=
  s.methods.countP (·.name == name)

/-- Ask for a method. Whether it is granted is the answer. -/
def ask (s : Session) (m : Method) : Session × Bool :=
  let granted := s.refusal != some (m.name, s.count m.name)
  ({ s with methods := s.methods ++ [m], isOpen := s.isOpen && granted }, granted)

/-- Ask for one method after another, each with what it means that it is refused, until one is. -/
def askAll {ε : Type} (s : Session) : List (Method × ε) → Session × Except ε Unit
  | [] => (s, .ok ())
  | (m, e) :: rest =>
    match s.ask m with
    | (s, true) => askAll s rest
    | (s, false) => (s, .error e)

/-- Publish a message and wait for its confirmation. -/
def publish (s : Session) (exchange routingKey : String) (body : Value) :
    Session × Except BrokerError Unit :=
  let number := s.count (Method.publish exchange routingKey body).name
  let s := (s.ask (.publish exchange routingKey body)).1
  (s, if s.nacks.contains number then .error .nacked else .ok ())

/-- Why sessions are closed. -/
def farewell : String := "Worker shutting down"

/-- Close the session. -/
def close (s : Session) : Session :=
  { s with methods := s.methods ++ [.closeChannel farewell, .closeConnection farewell]
           isOpen := false }

end Session

end Courier.Broker
