import Courier.Breaker.Clock
import Courier.Broker.Session
import Courier.Gateway
import Courier.Lookup
import Courier.Settings.Basic

/-!
# Starting up

The service starts by finding its collaborators, one after another, and does not start at all if one
of them is not to be had. The broker is told what exchanges and queues there have to be: jobs come
into one queue, and rejected ones go through the dead letter exchange into another.

## Main definitions

* `StartupError`, `StartupError.text`, `StartupError.exitCode`.
* `Settings.topology`: what the broker is asked for, and what each refusal means.
* `Settings.consumers`: the consumers, one for each slot.
-/

namespace Courier

open Broker (Method)

/-- Why the service does not start. -/
inductive StartupError where
  /-- The address of the record server is none. -/
  | storeAddress
  /-- The record server is not reached. -/
  | storeUnreachable
  /-- The broker is not reached. -/
  | brokerUnreachable
  /-- There is no channel to the broker. -/
  | channel
  /-- Messages are not confirmed. -/
  | confirms
  /-- Messages are handed out without a limit. -/
  | prefetch
  /-- An exchange cannot be had. -/
  | exchange (name : String)
  /-- The queue of rejected jobs cannot be had. -/
  | failedQueue
  /-- The queue of rejected jobs gets nothing from an exchange. -/
  | failedBinding (exchange : String)
  /-- The queue of jobs cannot be had. -/
  | pushQueue
  /-- The queue of jobs gets nothing. -/
  | pushBinding
  /-- The clock cannot tell when the window of the breaker is over. -/
  | clock
  /-- The gateway has no project. -/
  | gateway
  /-- A lookup service has an address that is none. -/
  | lookup (error : LookupService.AddressError)
  /-- The queue of jobs cannot be consumed. -/
  | consumer
  deriving DecidableEq, Repr

/-- The words for an error. What a collaborator says about it is left out. -/
def StartupError.text : StartupError → String
  | storeAddress => "Failed to create redis client"
  | storeUnreachable => "Failed to connect to redis"
  | brokerUnreachable => "Failed to connect to RabbitMQ"
  | channel => "RabbitMQ channel creation failed"
  | confirms => "Failed to enable publisher confirms"
  | prefetch => "Failed to set up QoS"
  | exchange name => "Failed to declare exchange '" ++ name ++ "'"
  | failedQueue => "Failed to declare failed queue"
  | failedBinding name => "Failed to bind failed queue to '" ++ name ++ "'"
  | pushQueue => "Failed to declare push queue"
  | pushBinding => "Failed to bind push queue"
  | clock => Breaker.clockEndText
  | gateway => Gateway.projectMissingText
  | lookup e => e.text
  | consumer => "Failed to create consumer"

/-- The code with which the program ends. What the clock cannot tell breaks it off. -/
def StartupError.exitCode : StartupError → Nat
  | clock => 101
  | _ => 1

namespace Settings

/-- What the broker is asked for before anything else, and what each refusal means. -/
def topology (s : Settings) : List (Method × StartupError) :=
  [(.openConnection "/", .brokerUnreachable), (.openChannel, .channel),
    (.confirmPublishes, .confirms), (.limitPrefetch s.prefetch, .prefetch),
    (.declareExchange s.exchange, .exchange s.exchange),
    (.declareExchange s.deadLetterExchange, .exchange s.deadLetterExchange),
    (.declareQueue s.failedQueue [], .failedQueue),
    (.bindQueue s.failedQueue s.deadLetterExchange s.failedRoutingKey,
      .failedBinding s.deadLetterExchange),
    (.bindQueue s.failedQueue s.exchange s.failedRoutingKey, .failedBinding s.exchange),
    (.declareQueue s.pushQueue
      [("x-dead-letter-exchange", s.deadLetterExchange),
        ("x-dead-letter-routing-key", s.failedRoutingKey)], .pushQueue),
    (.bindQueue s.pushQueue s.exchange s.pushRoutingKey, .pushBinding)]

/-- The tag of a slot's consumer; what makes it unique is left out. -/
def consumerTag (slot : Nat) : String :=
  "push_worker-" ++ toString slot ++ "-"

/-- A consumer for each slot. -/
def consumers (s : Settings) : List (Method × StartupError) :=
  (List.range s.slots).map fun slot => (.consume s.pushQueue (consumerTag slot), .consumer)

/-- The lookup services, users first. -/
def lookupServices (s : Settings) : Except StartupError (LookupService × LookupService) :=
  match LookupService.ofAddress LookupService.users s.userServiceUrl with
  | .error e => .error (.lookup e)
  | .ok users =>
    match LookupService.ofAddress LookupService.templates s.templateServiceUrl with
    | .error e => .error (.lookup e)
    | .ok templates => .ok (users, templates)

end Settings

end Courier
