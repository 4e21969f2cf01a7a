import Courier.Health
import Courier.Run.Clock
import Courier.Service.Startup
import Courier.Slot
import Courier.Store.Address
import Courier.Store.Client

/-!
# The service

The whole service with what is around it: a broker that hands out messages, a record server, two
lookup services and a gateway. Each of these answers from what it is given beforehand and keeps what
it has been asked. Messages come one at a time, so of the runs that share the breaker and the store
only one is under way.

## Main definitions

* `Service.Surroundings`: what the collaborators are given.
* `Service`, `Service.start`.
* `Service.answer?`: how calls of a run are answered.
* `Service.deliver`: one message.
* `Service.health`, `Service.stop`, `Service.cancel`, `Service.close`.
-/

namespace Courier

open Run (Await)
open Time (Stamp)

/-- What the collaborators of the service are given beforehand. -/
structure Service.Surroundings where
  /-- Where the broker is found, and nowhere else. -/
  brokerUrl : String
  /-- Where the record server is found, and nowhere else. -/
  storeUrl : String
  /-- Who is asked for users and templates. -/
  lookupAuthority : Url.Authority
  /-- What is answered to lookups, by path and query. -/
  lookups : List (String × Exchange) := []
  /-- What the gateway answers to one request after another. -/
  gatewayAnswers : List Exchange := []
  token : AccessToken
  moment : Stamp
  broker : Broker.Session := {}
  store : Store.Server := {}

/-- The service between two events. -/
structure Service where
  settings : Settings
  surroundings : Service.Surroundings
  users : LookupService
  templates : LookupService
  /-- Without a gateway notifications are only logged. -/
  gateway : Option Gateway
  breaker : Breaker
  slots : List Slot
  broker : Broker.Session
  store : Store.Server
  /-- The record server is not there any more. -/
  storeIsGone : Bool := false
  /-- The service is about to stop, so it does not wait for what hangs. -/
  isLeaving : Bool := false
  /-- The runs that hang, by the tags of their messages. -/
  hanging : List (Nat × Await) := []
  /-- The number of messages so far. -/
  delivered : Nat := 0
  /-- The requests to lookup services so far. -/
  lookups : List String := []
  /-- The requests to the gateway so far. -/
  sent : List Gateway.Request := []
  gatewayAnswers : List Exchange
  notices : List Notice := []

namespace Service

/-! ## Starting -/

/-- An attempt to start the service. -/
structure Start where
  /-- The session with the broker, as far as it has come. -/
  broker : Broker.Session
  notices : List Notice := []
  result : Except StartupError Service

/-- The service has its breaker, and its collaborators but for the broker's consumers. -/
def assemble (settings : Settings) (around : Surroundings) (broker : Broker.Session)
    (breaker : Breaker) (notices : List Notice) (gateway : Option Gateway) : Start :=
  match settings.lookupServices with
  | .error e => ⟨broker, notices, .error e⟩
  | .ok (users, templates) =>
    match broker.askAll settings.consumers with
    | (broker, .error e) => ⟨broker, notices, .error e⟩
    | (broker, .ok ()) =>
      ⟨broker, notices, .ok
        { settings, users, templates, gateway, breaker, broker, notices
          surroundings := around
          slots := (List.range settings.slots).map fun number => { number }
          store := around.store
          gatewayAnswers := around.gatewayAnswers }⟩

/-- Start the service: store, broker, breaker, sink, lookup services, consumers. -/
def start (settings : Settings) (around : Surroundings) : Start :=
  if settings.storeUrl ≠ around.storeUrl then
    ⟨around.broker, [], .error
      (if Store.isAddress settings.storeUrl then .storeUnreachable else .storeAddress)⟩
  else if settings.brokerUrl ≠ around.brokerUrl then
    ⟨around.broker, [], .error .brokerUnreachable⟩
  else
    match around.broker.askAll settings.topology with
    | (broker, .error e) => ⟨broker, [], .error e⟩
    | (broker, .ok ()) =>
      match Breaker.start? settings.breaker 0 with
      | none => ⟨broker, [], .error .clock⟩
      | some breaker =>
        match settings.sink with
        | .log => assemble settings around broker breaker [.deliveriesLogged] none
        | .gateway =>
          match Gateway.ofProject? settings.gatewayProject with
          | none => ⟨broker, [], .error .gateway⟩
          | some gateway => assemble settings around broker breaker [] (some gateway)

/-! ## Calls -/

/-- What the runs of the service have in common. -/
def setup (s : Service) : Run.Setup where
  limits := s.settings.limits
  breaker := s.settings.breaker
  reportsStatus := s.settings.publishesStatus

/-- The record server is asked something, and if it hangs there is no use in waiting. -/
def hangs (s : Service) : Bool :=
  s.isLeaving && s.store.faults.head? == some .hang

/-- A command without an answer. -/
def leave (s : Service) (command : Store.Command) : Service :=
  { s with store := (s.store.answer command).1 }

/-- Ask a lookup service for a thing. -/
def ask (s : Service) (service : LookupService) (id : String) : Service × Exchange :=
  let url := service.urlFor id
  if url.scheme = "http" ∧ url.authority = some s.surroundings.lookupAuthority then
    let answer := (s.surroundings.lookups.lookup (String.ofList url.target)).getD
      (.answered 404 (.ok []))
    ({ s with lookups := s.lookups ++ [url.requestLine "GET"] }, answer)
  else (s, .failed "connection refused")

/-- Deliver a notification. -/
def send (s : Service) (n : Notification) : Service × Except DeliveryError Unit :=
  match s.gateway with
  | none => (s, .ok ())
  | some gateway =>
    let (request, result, rest) := gateway.send (.ok s.surroundings.token) n s.gatewayAnswers
    ({ s with sent := s.sent ++ request.toList, gatewayAnswers := rest }, result)

/-- Publish a document. -/
def publish (s : Service) (routingKey : String) (body : Json.Value) :
    Service × Except BrokerError Unit :=
  let (broker, result) := s.broker.publish s.settings.exchange routingKey body
  ({ s with broker }, result)

/-- The answer to the call that a run waits for, unless it hangs. -/
def answer? (s : Service) (job : Job) : (await : Await) → Service × Option await.kind.Answer
  | .claim =>
    let span := s.settings.limits.recordSpan
    let (result, store) := Store.claim job.requestId span s.surroundings.moment s.store
    let answer : Except ClaimError Claim := result.mapError .failed
    ({ s with store }, if s.hangs then none else some answer)
  | .mark =>
    let span := s.settings.limits.recordSpan
    if s.hangs then
      (s.leave (Store.markCommand job.requestId span s.surroundings.moment), none)
    else
      let (result, notices, store) :=
        Store.mark s.settings.storeRetry job.requestId span s.surroundings.moment s.store
      ({ s with store, notices := s.notices ++ notices }, some result)
  | .release =>
    let (result, store) := Store.remove job.requestId s.store
    ({ s with store }, if s.hangs then none else some result)
  | .user =>
    let (s, e) := s.ask s.users job.userId
    (s, some (s.users.interpretUser e))
  | .template _ =>
    let (s, e) := s.ask s.templates job.templateId
    (s, some (s.templates.interpretTemplate e))
  | .send _ notification =>
    let (s, result) := s.send notification
    (s, some result)
  | .resubmit =>
    let (s, result) := s.publish s.settings.pushRoutingKey job.next.toJson
    (s, some result)
  | .reportDelivered =>
    let event := StatusEvent.delivered job.requestId s.surroundings.moment
    let (s, result) := s.publish s.settings.statusRoutingKey event.toJson
    (s, some result)
  | .reportFailed error _ =>
    let event := StatusEvent.failed job.requestId error s.surroundings.moment
    let (s, result) := s.publish s.settings.statusRoutingKey event.toJson
    (s, some result)

/-- Something is said. -/
def say (s : Service) (notices : List Notice) : Service :=
  { s with notices := s.notices ++ notices }

/-- What a run comes to. -/
inductive Ending where
  | disposed (disposition : Disposition)
  | hanging (await : Await)
  /-- Its task has broken off. -/
  | brokenOff

/-- A run goes on as far as it gets. -/
def proceed (s : Service) (job : Job) (await : Await) : Service × Ending :=
  match s.answer? job await with
  | (s, none) => (s, .hanging await)
  | (s, some answer) =>
    match Run.brokenOff? s.setup 0 s.breaker job await answer with
    | some (breaker, notices) => ({ s with breaker }.say notices, .brokenOff)
    | none =>
      let step := Run.resume s.setup 0 job s.breaker await answer
      let after := { s with breaker := step.breaker }.say step.notices
      match _h : step.progress with
      | .ends disposition => (after, .disposed disposition)
      | .waits next => proceed after job next
termination_by await.rank
decreasing_by
  have := Run.rank_lt_of_resume s.setup 0 job s.breaker await answer
  simp only [step] at _h
  rw [_h] at this
  exact this

/-- A message is processed. -/
def process (s : Service) (payload : List UInt8) : Service × Ending :=
  match Run.begin payload with
  | .error failure =>
    (s.say [.messageRejected failure], .disposed (.reject failure.rejectReason))
  | .ok job => s.proceed job .claim

/-! ## Slots -/

/-- What a slot does besides having messages processed. -/
def carryOut (s : Service) : Slot.Effect → Service
  | .process _ => s
  | .acknowledge tag multiple => { s with broker := (s.broker.ask (.acknowledge tag multiple)).1 }
  | .reject tag requeue => { s with broker := (s.broker.ask (.reject tag requeue)).1 }
  | .say notice => s.say [notice]
  | .abandon tag =>
    match s.hanging.lookup tag with
    | none => s
    | some await =>
      let (breaker, notices) := Run.abandonAt s.setup 0 s.breaker await
      { s with breaker, hanging := s.hanging.filter (·.1 ≠ tag) }.say notices

/-- Something happens to a slot. -/
def happen (s : Service) (number : Nat) (event : Slot.Event) : Service × List Slot.Effect :=
  match s.slots[number]? with
  | none => (s, [])
  | some slot =>
    let (slot, effects) := slot.step event
    (effects.foldl carryOut { s with slots := s.slots.set number slot }, effects)

/-- The same happens to all slots. -/
def happenToAll (s : Service) (event : Slot.Event) : Service :=
  (List.range s.slots.length).foldl (fun s number => (s.happen number event).1) s

/-- The task of a message has broken off, and its slot notices. -/
def lose (s : Service) (number tag : Nat) : Service :=
  let slots := s.slots.modify number fun slot =>
    { slot with tasks := slot.tasks.filter (·.1 ≠ tag) }
  { s with slots }.say [.taskBrokenOff number Breaker.clockEndText]

/-- A message comes into a slot. -/
def deliver (s : Service) (slot : Nat) (payload : List UInt8) : Service :=
  let number := slot % s.slots.length
  let tag := s.delivered + 1
  let (s, effects) := { s with delivered := tag }.happen number (.delivered tag)
  if effects.contains (.process tag) then
    match s.process payload with
    | (s, .hanging await) => { s with hanging := s.hanging ++ [(tag, await)] }
    | (s, .brokenOff) => s.lose number tag
    | (s, .disposed disposition) =>
      let s := (s.happen number (.processed tag disposition)).1
      (s.happen number (.applied tag none)).1
  else s

/-- The service stops: it waits for its slots, but not for ever. -/
def stop (s : Service) : Service :=
  let s := s.happenToAll .stopped
  if s.slots.all Slot.hasEnded then s
  else (s.say [.jobsAbandoned s.settings.graceSeconds]).happenToAll .graceOver

/-- The broker takes the consumers away, so the service stops. -/
def cancel (s : Service) : Service :=
  let s := s.happenToAll .streamEnded
  if s.slots.all Slot.hasEnded then s.say [.slotsStopped] else s.stop

/-- The service ends its session with the broker. -/
def close (s : Service) : Service :=
  { s with broker := s.broker.close }

/-! ## Health -/

/-- Whether the record server answers. -/
def checkStore (s : Service) : Service × HealthCheck :=
  let (result, store) :=
    if s.storeIsGone then (.error (.server "connection lost"), s.store) else Store.ping s.store
  match result with
  | .ok () => ({ s with store }, .answered 0)
  | .error e => ({ s with store }.say [.storeUnhealthy e], .failed ("Ping failed: " ++ e.text))

/-- Whether the session with the broker is open. -/
def checkBroker (s : Service) : Service × HealthCheck :=
  if s.broker.isOpen then (s, .answered 0)
  else (s.say [.brokerDisconnected], .failed "Channel not connected")

/-- The state of the breaker. Looking at it is an event for the breaker too. -/
def checkBreaker (s : Service) : Service × HealthCheck :=
  let read := s.breaker.refresh s.settings.breaker 0
  let notices := Notice.ofTransitions s.setup.breakerName read.transitions
  ({ s with breaker := read.breaker }.say notices,
    .breaker read.breaker.state read.breaker.counts)

/-- A report on everything the service depends on. -/
def health (s : Service) : Service × HealthReport :=
  let (s, store) := s.checkStore
  let (s, broker) := s.checkBroker
  let (s, breaker) := s.checkBreaker
  (s, ⟨s.surroundings.moment,
    [("cache_service", store), ("delivery", breaker), ("message_broker", broker)]⟩)

end Service

end Courier
