import Courier.Breaker.Basic
import Courier.Json.Printer
import Courier.Time.Stamp

/-!
# Health

A report on the things that the service depends on. The service is unhealthy if the store or the
broker is, degraded if anything else is not healthy, and healthy otherwise. An open breaker only
degrades it, since jobs then wait for their turn.

## Main definitions

* `HealthStatus`, `HealthCheck`, `HealthReport`.
* `HealthReport.status`, `HealthReport.toJson`.
-/

namespace Courier

open Json (Value)

/-- The state of health of a thing, or of the service. -/
inductive HealthStatus where
  | healthy
  | degraded
  | unhealthy
  deriving DecidableEq, Repr

/-- The word for a status. -/
def HealthStatus.text : HealthStatus → String
  | healthy => "healthy"
  | degraded => "degraded"
  | unhealthy => "unhealthy"

/-- What a check of one thing found. -/
inductive HealthCheck where
  /-- It answered within so many milliseconds. -/
  | answered (millis : Nat)
  /-- It did not answer as it should. -/
  | failed (error : String)
  /-- A breaker, which has a state and tallies. -/
  | breaker (state : Breaker.State) (counts : Counts)
  deriving DecidableEq, Repr

/-- The tallies as JSON. -/
def Counts.toJson (c : Counts) : Value :=
  .object [("requests", .nat c.requests), ("total_successes", .nat c.totalSuccesses),
    ("total_failures", .nat c.totalFailures),
    ("consecutive_successes", .nat c.consecutiveSuccesses),
    ("consecutive_failures", .nat c.consecutiveFailures)]

namespace HealthCheck

/-- The health of the thing. -/
def status : HealthCheck → HealthStatus
  | answered _ => .healthy
  | failed _ => .unhealthy
  | breaker .closed _ => .healthy
  | breaker _ _ => .degraded

/-- What is wrong with it. -/
def error : HealthCheck → Option String
  | answered _ => none
  | failed error => some error
  | breaker .closed _ => none
  | breaker .halfOpen _ => some "Circuit breaker in recovery mode"
  | breaker .opened _ => some "Circuit breaker open, deliveries are being deferred"

/-- What was found, as JSON. -/
def toJson (c : HealthCheck) : Value :=
  let found := match c with
    | answered millis => [("response_time_ms", Value.nat millis)]
    | failed _ => []
    | breaker state counts => [("circuit_breaker", .string state.text), ("counts", counts.toJson)]
  .object <| ("status", .string c.status.text) :: found
    ++ Value.optionalMember "error" (c.error.map .string)

end HealthCheck

/-- What checks found, by the names of the things, in the order of the names. -/
structure HealthReport where
  timestamp : Time.Stamp
  checks : List (String × HealthCheck)
  deriving DecidableEq, Repr

namespace HealthReport

/-- The things that the service cannot work without. -/
def critical : List String := ["cache_service", "message_broker"]

/-- The health of the service. -/
def status (r : HealthReport) : HealthStatus :=
  if r.checks.any fun (name, c) => critical.contains name && c.status == .unhealthy then .unhealthy
  else if r.checks.any fun (_, c) => c.status != .healthy then .degraded
  else .healthy

/-- The code of the answer that carries the report. -/
def statusCode (r : HealthReport) : Nat :=
  if r.status = .unhealthy then 503 else 200

/-- The report as JSON. -/
def toJson (r : HealthReport) : Value :=
  .object [("status", .string r.status.text), ("timestamp", .string r.timestamp.text),
    ("checks", .object (r.checks.map fun (name, c) => (name, c.toJson)))]

end HealthReport

end Courier
