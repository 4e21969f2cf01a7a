import Courier.Json.Value

/-!
# Methods of the broker

What the broker is asked to do, one method after another, each with its arguments. Exchanges and
queues outlive the broker, and so do the messages that are published.

## Main definitions

* `Broker.Method`, with `Broker.Method.name` and `Broker.Method.arguments`.
-/

namespace Courier.Broker

open Json (Value)

/-- Something that the broker is asked to do. -/
inductive Method where
  /-- Begin a conversation with a part of the broker. -/
  | openConnection (part : String)
  /-- Begin a channel of the conversation. -/
  | openChannel
  /-- Confirm every message from now on. -/
  | confirmPublishes
  /-- Hand out so many messages that have not been disposed of. -/
  | limitPrefetch (count : Nat)
  /-- Let there be an exchange that hands messages to the queues bound under their routing key. -/
  | declareExchange (exchange : String)
  /-- Let there be a queue. -/
  | declareQueue (queue : String) (arguments : List (String × String))
  /-- Let messages of an exchange with the routing key come into a queue. -/
  | bindQueue (queue exchange routingKey : String)
  /-- Hand out the messages of a queue under a tag. -/
  | consume (queue tag : String)
  /-- Take a message. -/
  | publish (exchange routingKey : String) (body : Value)
  /-- A message is done with, or all messages up to it. -/
  | acknowledge (deliveryTag : Nat) (multiple : Bool)
  /-- A message is not wanted, and is handed out again or not. -/
  | reject (deliveryTag : Nat) (requeue : Bool)
  /-- End the channel. -/
  | closeChannel (reason : String)
  /-- End the conversation. -/
  | closeConnection (reason : String)
  deriving Repr

namespace Method

/-- The name of a method. -/
def name : Method → String
  | openConnection _ => "connection.open"
  | openChannel => "channel.open"
  | confirmPublishes => "confirm.select"
  | limitPrefetch _ => "basic.qos"
  | declareExchange _ => "exchange.declare"
  | declareQueue .. => "queue.declare"
  | bindQueue .. => "queue.bind"
  | consume .. => "basic.consume"
  | publish .. => "basic.publish"
  | acknowledge .. => "basic.ack"
  | reject .. => "basic.reject"
  | closeChannel _ => "channel.close"
  | closeConnection _ => "connection.close"

/-- A conversation or channel that ends as it should. -/
def orderlyEnd : Nat := 200

/-- Messages that outlive the broker. -/
def persistent : Nat := 2

/-- The arguments of a method, by name but for an end. -/
def arguments : Method → Value
  | openConnection part => .object [("vhost", .string part)]
  | openChannel | confirmPublishes => .object []
  | limitPrefetch count => .object [("global", .bool false), ("prefetch_count", .nat count)]
  | declareExchange exchange =>
    .object [("arguments", .object []), ("auto_delete", .bool false), ("durable", .bool true),
      ("exchange", .string exchange), ("internal", .bool false), ("kind", .string "direct"),
      ("passive", .bool false)]
  | declareQueue queue arguments =>
    .object [("arguments", .object (arguments.map fun e => (e.1, .string e.2))),
      ("auto_delete", .bool false), ("durable", .bool true), ("exclusive", .bool false),
      ("passive", .bool false), ("queue", .string queue)]
  | bindQueue queue exchange routingKey =>
    .object [("arguments", .object []), ("exchange", .string exchange), ("queue", .string queue),
      ("routing_key", .string routingKey)]
  | consume queue tag =>
    .object [("arguments", .object []), ("exclusive", .bool false), ("no_ack", .bool false),
      ("no_local", .bool false), ("queue", .string queue), ("tag", .string tag)]
  | publish exchange routingKey body =>
    .object [("body", body), ("content_type", .string "application/json"),
      ("delivery_mode", .nat persistent), ("exchange", .string exchange),
      ("mandatory", .bool false), ("routing_key", .string routingKey)]
  | acknowledge deliveryTag multiple =>
    .object [("delivery_tag", .nat deliveryTag), ("multiple", .bool multiple)]
  | reject deliveryTag requeue =>
    .object [("delivery_tag", .nat deliveryTag), ("requeue", .bool requeue)]
  | closeChannel reason | closeConnection reason =>
    .array [.nat orderlyEnd, .string reason]

end Method

end Courier.Broker
