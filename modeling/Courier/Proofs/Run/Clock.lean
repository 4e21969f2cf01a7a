import Courier.Proofs.Breaker.Clock
import Courier.Run.Clock

/-!
# Runs and the end of the clock

From a moment at which the clock can tell the end of every state no step of a run breaks off.
Otherwise a run that breaks off leaves a generation that is half begun, for all other runs to find.

## Main results

* `Run.brokenOff?_eq_none`, `Run.abandonAt_eq_abandon`: nothing breaks off.
* `Run.isHalfBegun_of_brokenOff?`: what is left where a step breaks off.
-/

namespace Courier.Run

open Breaker (IsHalfBegun)

variable {setup : Setup} {now : Nat}

/-- A step breaks off with its operation on the breaker, and leaves what that has left. -/
theorem isHalfBegun_of_brokenOff? {breaker left : Breaker} {job : Job} {await : Await}
    {answer : await.kind.Answer} {notices : List Notice}
    (h : brokenOff? setup now breaker job await answer = some (left, notices)) :
    IsHalfBegun setup.breaker now left := by
  unfold brokenOff? at h
  split at h
  · split at h
    · next hpermit =>
      cases h
      exact (Breaker.permit?_attempted setup.breaker now breaker).isHalfBegun hpermit
    · cases h
  · split at h
    · next hsettle =>
      cases h
      exact (Breaker.settle?_attempted setup.breaker now breaker _ _).isHalfBegun hsettle
    · cases h
  · cases h

theorem brokenOff?_eq_none (told : ∀ state, setup.breaker.tells now state = true)
    (breaker : Breaker) (job : Job) (await : Await) (answer : await.kind.Answer) :
    brokenOff? setup now breaker job await answer = none := by
  rw [Option.eq_none_iff_forall_ne_some]
  rintro ⟨left, notices⟩ h
  obtain ⟨-, state, untold, -⟩ := isHalfBegun_of_brokenOff? h
  rw [told state] at untold
  cases untold

theorem abandonAt_eq_abandon (told : ∀ state, setup.breaker.tells now state = true)
    (breaker : Breaker) (await : Await) :
    abandonAt setup now breaker await = abandon setup now breaker await := by
  cases await with
  | send generation notification =>
    have hattempted := Breaker.settle?_attempted setup.breaker now breaker generation false
    rw [abandonAt, hattempted.eq_ok told]
    rfl
  | claim | user | template | mark | resubmit | release | reportDelivered | reportFailed => rfl

end Courier.Run
