import Courier.Breaker.Clock
import Courier.Run.Basic

/-!
# Runs at a clock with an end

A run ends where its operation on the breaker breaks off. Its message is not disposed of, and the
breaker stays as the operation has left it.

## Main definitions

* `Run.brokenOff?`: whether a step breaks off.
* `Run.abandonAt`: what is left of the breaker when a run is given up.
-/

namespace Courier.Run

variable (setup : Setup) (now : Nat) (breaker : Breaker)

/-- If the operation of a step on the breaker breaks off, the breaker that it leaves and what has
been said by then. -/
def brokenOff? (job : Job) : (await : Await) → await.kind.Answer → Option (Breaker × List Notice)
  | .template _, .ok template =>
    match template.render job.variables, breaker.permit? setup.breaker now with
    | (missing, .ok _), .error left => some (left, missing.map .missingVariable)
    | _, _ => none
  | .send generation _, answer =>
    match breaker.settle? setup.breaker now generation (answer matches .ok ()) with
    | .error left => some (left, [])
    | .ok _ => none
  | _, _ => none

/-- A run is given up while it waits; if the breaker breaks off there nobody hears of it. -/
def abandonAt : Await → Breaker × List Notice
  | .send generation _ =>
    match breaker.settle? setup.breaker now generation false with
    | .error left => (left, [])
    | .ok changed => (changed.breaker, Notice.ofTransitions setup.breakerName changed.transitions)
  | _ => (breaker, [])

end Courier.Run
