import Courier.Service.Basic

/-!
# The life of a service

A service that has been started takes its messages, is asked for its health once they are all
disposed of, and comes to its end in one of several ways.

## Main definitions

* `Service.Response`, `Service.respond`: the interface that tells the service's health.
* `Service.Finish`, `Service.Life`, `Service.live`.
-/

namespace Courier.Service

/-- The answer to a request. -/
structure Response where
  status : Nat
  /-- What is in the body, if there is one. -/
  report : Option HealthReport := none
  deriving Repr

/-- The path at which the service tells its health. -/
def healthPath : String := "/health"

/-- Answer a request. -/
def respond (s : Service) (method path : String) : Service × Response :=
  if path ≠ healthPath then (s, { status := 404 })
  else if method ≠ "GET" then (s, { status := 405 })
  else
    let (s, report) := s.health
    (s, { status := report.statusCode, report := some report })

/-- Answer one request after another. -/
def respondAll (s : Service) : List (String × String) → Service × List Response
  | [] => (s, [])
  | (method, path) :: rest =>
    let (s, response) := s.respond method path
    let (s, responses) := s.respondAll rest
    (s, response :: responses)

/-- How a service comes to its end. -/
inductive Finish where
  /-- It is told to stop when nothing is left to do. -/
  | idle
  /-- Its consumers are taken away. -/
  | cancelled
  /-- It is told to stop while its last message is being processed. -/
  | inFlight
  deriving DecidableEq, Repr

/-- Messages come in, each into a slot. -/
def deliverAll (s : Service) (messages : List (Nat × List UInt8)) : Service :=
  messages.foldl (fun s m => s.deliver m.1 m.2) s

/-- A stop comes before a call that hangs is over. -/
def leavesEarly (s : Service) : Bool :=
  s.settings.graceSeconds ≤ s.settings.requestSeconds

/-- A service at its end, and what it has told about its health. -/
structure Life where
  service : Service
  /-- While it was running. -/
  health : List Response := []
  /-- After its session with the broker had ended. -/
  afterwards : List Response := []

/-- Take messages, answer requests, and come to the end. -/
def live (s : Service) (messages : List (Nat × List UInt8)) (requests : List (String × String)) :
    Finish → Life
  | .idle =>
    let (s, health) := (s.deliverAll messages).respondAll requests
    { service := s.stop.close, health }
  | .cancelled =>
    let (s, health) := (s.deliverAll messages).respondAll requests
    let (s, first) := s.cancel.close.respond "GET" healthPath
    let (s, second) := { s with storeIsGone := true }.respond "GET" healthPath
    { service := s, health, afterwards := [first, second] }
  | .inFlight =>
    let s := s.deliverAll messages.dropLast
    let s := { s with isLeaving := s.leavesEarly }.deliverAll (messages.drop (messages.length - 1))
    { service := s.stop.close }

end Courier.Service
