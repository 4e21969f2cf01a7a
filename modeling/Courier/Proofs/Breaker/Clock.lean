import Courier.Breaker.Clock
import Courier.Proofs.Breaker.Threshold
import Courier.Proofs.Settings

/-!
# Breakers and the end of the clock

An operation of a breaker breaks off if it begins a generation whose end the clock cannot tell.
Otherwise it does what it does at a clock without an end. What is said about breakers elsewhere is
said for such a clock, so it holds of every run at a clock with an end in which nothing breaks off.
It matters then which settings keep the clock from its end.

Settings are accepted with any window and any cooldown that 64 bits can tell, which is more than the
clock can. A window too long for the clock breaks off the making of the breaker. A cooldown too long
for it breaks off the first trip, which leaves the breaker open, but until the end of its window
instead of its cooldown, or for ever if it has no window.

## Main definitions

* `Breaker.IsHalfBegun`: what is left where an operation breaks off.
* `Breaker.Attempted`: what an operation does at a clock with an end.
* `Breaker.Chronicle.Timed`: what a breaker can come to up to some moment if nothing breaks off.
* `Breaker.KeepsTime`: nothing breaks off up to some moment.

## Main results

* `Breaker.settle?_of_trip`: a trip that breaks off, and what it leaves.
* `Breaker.Chronicle.Timed.reachable`: what holds at a clock without an end holds of such runs.
* `Breaker.permit?_of_left_open`: if there is no window, that is a breaker that stays open for ever.
* `Breaker.keepsTime_iff`: which accepted settings keep breakers from the end of the clock.
-/

namespace Courier.Breaker

variable {config : Config} {now : Nat} {b : Breaker} {c : Changed} {state : State}

/-! ## What the clock can tell -/

theorem tells_halfOpen : config.tells now .halfOpen = true := rfl

theorem tells_opened_iff : config.tells now .opened = true ↔ now + config.cooldown < clockEnd := by
  rw [Config.tells, expiryOf, Option.all_some, decide_eq_true_iff]

theorem tells_closed_iff :
    config.tells now .closed = true ↔ config.window = 0 ∨ now + config.window < clockEnd := by
  rw [Config.tells, expiryOf]
  split
  · next never => simp [never]
  · next window => simp [window]

/-! ## Operations -/

/-- A generation has begun whose end the clock cannot tell, and it has the expiry of the generation
before it. -/
def IsHalfBegun (config : Config) (now : Nat) (left : Breaker) : Prop :=
  ∃ (before : Breaker) (state : State), config.tells now state = false ∧
    left = { before.renew config now state with expiry := before.expiry }

/-- An operation is done as at a clock without an end, or it breaks off. -/
inductive Attempted (config : Config) (now : Nat) {α : Type} (whole : α) :
    Except Breaker α → Prop where
  | done : Attempted config now whole (.ok whole)
  | brokenOff {left : Breaker} (half : IsHalfBegun config now left) :
      Attempted config now whole (.error left)

namespace Attempted

variable {α β : Type} {whole : α} {attempt : Except Breaker α}

/-- One operation after another. -/
theorem bind {last : β} {next : α → Except Breaker β} (first : Attempted config now whole attempt)
    (second : Attempted config now last (next whole)) :
    Attempted config now last (attempt >>= next) := by
  cases first with
  | done => exact second
  | brokenOff half => exact .brokenOff half

/-- At a moment from which the clock can tell the end of every state nothing breaks off. -/
theorem eq_ok (h : Attempted config now whole attempt)
    (told : ∀ state, config.tells now state = true) : attempt = .ok whole := by
  cases h with
  | done => rfl
  | brokenOff half =>
    obtain ⟨-, state, untold, -⟩ := half
    rw [told state] at untold
    cases untold

/-- What is left where an operation breaks off. -/
theorem isHalfBegun {left : Breaker} (h : Attempted config now whole attempt)
    (brokenOff : attempt = .error left) : IsHalfBegun config now left := by
  subst brokenOff
  cases h with
  | brokenOff half => exact half

end Attempted

theorem renew?_attempted (config : Config) (now : Nat) (b : Breaker) (state : State) :
    Attempted config now (b.renew config now state) (b.renew? config now state) := by
  unfold renew?
  split
  · exact .done
  · next untold => exact .brokenOff ⟨b, state, eq_false_of_ne_true untold, rfl⟩

theorem moveTo?_attempted (config : Config) (now : Nat) (c : Changed) (state : State) :
    Attempted config now (c.moveTo config now state) (c.moveTo? config now state) :=
  (renew?_attempted config now c.breaker state).bind .done

theorem refresh?_attempted (config : Config) (now : Nat) (b : Breaker) :
    Attempted config now (b.refresh config now) (b.refresh? config now) := by
  unfold refresh refresh?
  split
  · cases b.state with
    | closed => exact (renew?_attempted config now b .closed).bind .done
    | opened => exact moveTo?_attempted config now ⟨b, []⟩ .halfOpen
    | halfOpen => exact .done
  · exact .done

theorem permit?_attempted (config : Config) (now : Nat) (b : Breaker) :
    Attempted config now (b.permit config now) (b.permit? config now) := by
  refine (refresh?_attempted config now b).bind ?_
  simp only [permit]
  cases (b.refresh config now).breaker.state with
  | opened => exact .done
  | halfOpen =>
    dsimp only
    split
    · exact .done
    · exact .done
  | closed => exact .done

theorem settle?_attempted (config : Config) (now : Nat) (b : Breaker) (generation : UInt64)
    (succeeded : Bool) :
    Attempted config now (b.settle config now generation succeeded)
      (b.settle? config now generation succeeded) := by
  refine (refresh?_attempted config now b).bind ?_
  simp only [settle]
  split
  · cases (b.refresh config now).breaker.state with
    | closed =>
      dsimp only
      split
      · exact moveTo?_attempted config now _ .opened
      · exact .done
    | halfOpen =>
      dsimp only
      split
      · exact moveTo?_attempted config now _ .opened
      · split
        · exact moveTo?_attempted config now _ .closed
        · exact .done
    | opened => exact .done
  · exact .done

theorem refresh?_of_current (current : b.hasExpired now = false) :
    b.refresh? config now = .ok ⟨b, []⟩ := by
  rw [refresh?, if_neg (by simp [current])]
  rfl

/-- A trip breaks off if the clock cannot tell the end of the cooldown. It leaves the breaker open
until the end of its window. -/
theorem settle?_of_trip (current : b.hasExpired now = false) (closed : b.state = .closed)
    {succeeded : Bool} (trips : config.trips (b.counts.onOutcome succeeded))
    (untold : config.tells now .opened = false) :
    b.settle? config now b.generation succeeded =
      .error { state := .opened, generation := b.generation + 1, expiry := b.expiry } := by
  have hlook : b.refresh? config now = .ok ⟨b, []⟩ := refresh?_of_current current
  have hrenew : (b.withCounts (b.counts.onOutcome succeeded)).renew? config now .opened =
      .error { state := .opened, generation := b.generation + 1, expiry := b.expiry } := by
    rw [renew?, if_neg (by simp [untold])]
    rfl
  obtain ⟨state, generation, counts, expiry⟩ := b
  obtain rfl : state = .closed := closed
  calc settle? config now ⟨.closed, generation, counts, expiry⟩ generation succeeded
      = Changed.moveTo? ⟨⟨.closed, generation, counts.onOutcome succeeded, expiry⟩, []⟩ config now
          .opened := by
        rw [settle?, hlook]
        exact (if_pos rfl).trans (if_pos trips)
    _ = .error { state := .opened, generation := generation + 1, expiry := expiry } := by
        exact congrArg (· >>= _) hrenew

/-- A breaker that was left open without an expiry lets no call through ever again. -/
theorem permit?_of_left_open (opened : b.state = .opened) (never : b.expiry = none) (now : Nat) :
    b.permit? config now = .ok (⟨b, []⟩, .error .opened) := by
  have current : b.hasExpired now = false := by rw [hasExpired, never, Option.any_none]
  have hlook : b.refresh? config now = .ok ⟨b, []⟩ := refresh?_of_current current
  obtain ⟨state, generation, counts, expiry⟩ := b
  obtain rfl : state = .opened := opened
  rw [permit?, hlook]
  rfl

/-! ## Runs -/

namespace Chronicle

variable {w : Chronicle} {latest : Nat}

/-- The breaker that an event leaves at a clock with an end, be it with an error. -/
def attempt (config : Config) (w : Chronicle) : Event → Except Breaker Breaker
  | .asked => do return (← w.breaker.permit? config w.now).1.breaker
  | .finished call succeeded => do
    return (← w.breaker.settle? config w.now call.generation succeeded).breaker
  | .dropped call => do return (← w.breaker.settle? config w.now call.generation false).breaker
  | .looked => do return (← w.breaker.refresh? config w.now).breaker
  | .passed _ => return w.breaker

theorem attempted (config : Config) (w : Chronicle) (e : Event) :
    Attempted config w.now (w.step config e).breaker (w.attempt config e) := by
  cases e with
  | asked =>
    rw [Chronicle.step, ask_breaker]
    exact (permit?_attempted config w.now w.breaker).bind .done
  | finished call succeeded =>
    rw [Chronicle.step, settle_breaker]
    exact (settle?_attempted config w.now w.breaker call.generation succeeded).bind .done
  | dropped call =>
    rw [Chronicle.step, settle_breaker]
    exact (settle?_attempted config w.now w.breaker call.generation false).bind .done
  | looked =>
    rw [Chronicle.step, look_breaker]
    exact (refresh?_attempted config w.now w.breaker).bind .done
  | passed span => exact .done

/-- What a breaker can come to at a clock with an end, up to the given moment, if nothing breaks
off. -/
inductive Timed (config : Config) (latest : Nat) : Chronicle → Prop where
  | start {now : Nat} (inTime : now ≤ latest)
      (made : start? config now = some (.start config now)) :
      Timed config latest (.start config now)
  | step {w : Chronicle} {e : Event} (before : Timed config latest w) (possible : e.CanHappen w)
      (inTime : (w.step config e).now ≤ latest)
      (whole : w.attempt config e = .ok (w.step config e).breaker) :
      Timed config latest (w.step config e)

theorem Timed.inTime (h : Timed config latest w) : w.now ≤ latest := by
  cases h with
  | start inTime made => exact inTime
  | step before possible inTime whole => exact inTime

/-- Whatever a breaker does at a clock with an end while nothing breaks off, it can do at a clock
without one. So what is said of all that is `Reachable` is said of it too. -/
theorem Timed.reachable (h : Timed config latest w) : Reachable config w := by
  induction h with
  | start inTime made => exact .start _
  | step before possible inTime whole ih => exact ih.step possible

end Chronicle

/-- Up to the given moment every breaker is made and no operation breaks off. -/
structure KeepsTime (config : Config) (latest : Nat) : Prop where
  made : ∀ now ≤ latest, start? config now = some (start config now)
  whole : ∀ w, Chronicle.Timed config latest w → ∀ e : Chronicle.Event, e.CanHappen w →
    w.attempt config e = .ok (w.step config e).breaker

variable {latest : Nat}

/-- If the clock can tell the end of every state that begins in time nothing breaks off. -/
theorem keepsTime_of_lt (window : config.window = 0 ∨ latest + config.window < clockEnd)
    (cooldown : latest + config.cooldown < clockEnd) : KeepsTime config latest := by
  have told (now : Nat) (inTime : now ≤ latest) (state : State) :
      config.tells now state = true := by
    cases state with
    | closed => exact tells_closed_iff.2 (window.imp id (by omega))
    | opened => exact tells_opened_iff.2 (by omega)
    | halfOpen => exact tells_halfOpen
  exact {
    made := fun now inTime => if_pos (told now inTime .closed)
    whole := fun w timed e _ => (w.attempted config e).eq_ok (told w.now timed.inTime) }

namespace KeepsTime

open Chronicle

/-- The making of a breaker does not break off. -/
theorem window (h : KeepsTime config latest) :
    config.window = 0 ∨ latest + config.window < clockEnd := by
  by_contra long
  have hmade := h.made latest (Nat.le_refl latest)
  rw [start?, if_neg (mt tells_closed_iff.1 long)] at hmade
  cases hmade

/-- A new breaker does not run out at once. -/
theorem lt_of_expiry {moment : Nat} (hexpiry : (start config latest).expiry = some moment) :
    latest < moment := by
  change expiryOf config latest .closed = some moment at hexpiry
  rw [expiryOf] at hexpiry
  split at hexpiry
  · cases hexpiry
  · next window =>
    obtain rfl := Option.some.inj hexpiry
    omega

/-- One more call is asked for at the last moment, and is on its way then. -/
theorem ask (h : KeepsTime config latest) {calls : Nat} {w : Chronicle}
    (timed : Timed config latest w) (now : w.now = latest)
    (counting : Counting (Chronicle.start config latest) calls calls w)
    (few : calls + 1 < UInt32.size) :
    ∃ v, Timed config latest v ∧ v.now = latest ∧
      Counting (Chronicle.start config latest) (calls + 1) calls v ∧
      v.breaker.hasExpired v.now = false ∧
      ∃ call ∈ v.calls, call.generation = (Chronicle.start config latest).breaker.generation := by
  have hcurrent := counting.hasExpired_eq_false fun moment hmoment => now ▸ lt_of_expiry hmoment
  have hasked : Counting (Chronicle.start config latest) (calls + 1) calls (w.ask config) :=
    counting.ask few hcurrent
  have hnow : (w.ask config).now = latest := ask_now.trans now
  refine ⟨w.ask config, .step (e := .asked) timed trivial hnow.le (h.whole w timed .asked trivial),
    hnow, hasked, ?_, ?_⟩
  · exact hasked.hasExpired_eq_false fun moment hmoment => hnow ▸ lt_of_expiry hmoment
  · rw [counting.ask_eq hcurrent, letThrough_calls]
    exact ⟨_, List.mem_cons_self, counting.generation⟩

/-- Calls fail at the last moment, one after another, as long as they are too few to trip. -/
theorem fail (h : KeepsTime config latest) (calls : Nat) (few : calls < UInt32.size)
    (calm : calls < config.minRequests ∨ calls = 0) :
    ∃ w, Timed config latest w ∧ w.now = latest ∧
      Counting (Chronicle.start config latest) calls calls w := by
  induction calls with
  | zero =>
    exact ⟨_, .start (Nat.le_refl latest) (h.made latest (Nat.le_refl latest)), rfl,
      (begins_start config latest).counting⟩
  | succ calls ih =>
    obtain ⟨w, timed, hnow, hcounting⟩ := ih (by omega) (by omega)
    obtain ⟨v, timed, hnow, hcounting, hcurrent, call, pending, own⟩ :=
      h.ask timed hnow hcounting few
    have hmore : ¬ config.IsReached (calls + 1) (calls + 1) := by
      rintro ⟨hcalls, -⟩
      omega
    have hlast : (v.settle config call false).now = latest := (settle_now call false).trans hnow
    exact ⟨_, .step (e := .finished call false) timed pending hlast.le
      (h.whole v timed (.finished call false) pending), hlast,
      (hcounting.settle config few hcurrent pending own false).2 hmore⟩

/-- A breaker that can trip at all can tell the end of its cooldown. -/
theorem cooldown (h : KeepsTime config latest) (few : config.minRequests < UInt32.size)
    (share : config.failureRatio.le (.ofNat 1)) : latest + config.cooldown < clockEnd := by
  -- with one call more there are enough to trip, and all of them have failed
  obtain ⟨n, hn⟩ : ∃ n, n = config.minRequests - 1 := ⟨_, rfl⟩
  have hroom : n < tallyLimit := by
    unfold tallyLimit
    unfold UInt32.size at few ⊢
    omega
  obtain ⟨w, timed, hnow, hcounting⟩ := h.fail n (by omega) (by omega)
  obtain ⟨v, timed, hnow, hcounting, hcurrent, call, pending, own⟩ :=
    h.ask timed hnow hcounting (by unfold tallyLimit at hroom; omega)
  have hrequests : (v.breaker.counts.onOutcome false).requests = n + 1 := hcounting.requests
  have hfailures : (v.breaker.counts.onOutcome false).totalFailures = n + 1 :=
    calc tallyNext v.breaker.counts.totalFailures
      _ = tallyNext n := by rw [hcounting.totalFailures]
      _ = n + 1 := tallyNext_of_lt hroom
  have htrips : config.trips (v.breaker.counts.onOutcome false) := by
    rw [trips_iff (by omega), hrequests, hfailures]
    refine ⟨by omega, ?_⟩
    rw [Binary64.ofRatio_self (Nat.succ_pos n)]
    exact share
  by_contra long
  have huntold : config.tells v.now .opened = false := by
    rw [hnow]
    exact eq_false_of_ne_true (mt tells_opened_iff.1 long)
  have hwhole := h.whole v timed (.finished call false) pending
  rw [attempt, own, ← hcounting.generation,
    settle?_of_trip hcurrent hcounting.state htrips huntold] at hwhole
  cases hwhole

end KeepsTime

/-- The latest moment that a clock is likely to tell, some 35 thousand years after its beginning. -/
def farMoment : Nat := 2 ^ 40 * 1000

/-- **Breakers come to the end of the clock unless their settings keep them from it.** Of the
settings that are accepted, those with which nothing ever breaks off up to the far moment are the
ones whose cooldown and whose window, if there is one, the clock can tell from there. -/
theorem keepsTime_iff {given : List (String × String)} {s : Settings}
    (accepted : Settings.load given = .ok s) :
    KeepsTime s.breaker farMoment ↔
      (s.breakerWindowSeconds = 0 ∨ s.breakerWindowSeconds + 2 ^ 40 < 2 ^ 63) ∧
        s.breakerCooldownSeconds + 2 ^ 40 < 2 ^ 63 := by
  have haccepted := Settings.accepted_of_load accepted
  have hwindow : s.breaker.window = s.breakerWindowSeconds * 1000 := rfl
  have hcooldown : s.breaker.cooldown = s.breakerCooldownSeconds * 1000 := rfl
  constructor
  · intro keeps
    have hlate := keeps.window
    have hcool := keeps.cooldown haccepted.breakerMinRequests_lt haccepted.breakerFailureRatio_le
    unfold farMoment clockEnd at hlate hcool
    omega
  · rintro ⟨window, cooldown⟩
    apply keepsTime_of_lt
    · unfold farMoment clockEnd
      omega
    · unfold farMoment clockEnd
      omega

/-- Settings that are left as they are by default keep the time. -/
theorem keepsTime_of_defaults :
    ∃ s, Settings.load [("DELIVERY_SINK", "log")] = .ok s ∧ KeepsTime s.breaker farMoment := by
  have hspans : (Settings.load [("DELIVERY_SINK", "log")]).toOption.any fun s =>
      s.breakerWindowSeconds = 60 ∧ s.breakerCooldownSeconds = 5 := by
    decide +kernel
  obtain ⟨s, accepted, hspans⟩ := Settings.exists_of_any_load hspans
  obtain ⟨hwindow, hcooldown⟩ := of_decide_eq_true hspans
  refine ⟨s, accepted, (keepsTime_iff accepted).2 ?_⟩
  rw [hwindow, hcooldown]
  decide

/-- Settings are accepted with the longest window that 64 bits can tell, and no breaker is made of
them. They are accepted with the longest cooldown too: the first trip, at five seconds, leaves the
breaker open with the expiry of its window. -/
theorem accepted_and_brokenOff :
    (∃ s, Settings.load [("DELIVERY_SINK", "log"),
        ("CIRCUIT_BREAKER_WINDOW_SECONDS", "18446744073709551615")] = .ok s ∧
      start? s.breaker 0 = none ∧ ¬ KeepsTime s.breaker farMoment) ∧
    ∃ s, Settings.load [("DELIVERY_SINK", "log"), ("CIRCUIT_BREAKER_MIN_REQUESTS", "1"),
        ("CIRCUIT_BREAKER_TIMEOUT_SECONDS", "18446744073709551615")] = .ok s ∧
      ∃ b, start? s.breaker 0 = some b ∧ b.expiry = some 60000 ∧
        ∃ c, b.permit? s.breaker 5000 = .ok (c, .ok 0) ∧
          c.breaker.settle? s.breaker 5000 0 false =
            .error { state := .opened, generation := 1, expiry := some 60000 } := by
  constructor
  · have hnone : (Settings.load [("DELIVERY_SINK", "log"),
        ("CIRCUIT_BREAKER_WINDOW_SECONDS", "18446744073709551615")]).toOption.any fun s =>
          start? s.breaker 0 = none := by
      decide +kernel
    obtain ⟨s, accepted, hnone⟩ := Settings.exists_of_any_load hnone
    have hnone := of_decide_eq_true hnone
    refine ⟨s, accepted, hnone, fun keeps => ?_⟩
    have hmade := keeps.made 0 (Nat.zero_le farMoment)
    rw [hnone] at hmade
    cases hmade
  · have htrip : (Settings.load [("DELIVERY_SINK", "log"), ("CIRCUIT_BREAKER_MIN_REQUESTS", "1"),
        ("CIRCUIT_BREAKER_TIMEOUT_SECONDS", "18446744073709551615")]).toOption.any fun s =>
          let made : Breaker := { expiry := some 60000 }
          let asked : Breaker := { made with counts := { requests := 1 } }
          start? s.breaker 0 = some made ∧
            made.permit? s.breaker 5000 = .ok (⟨asked, []⟩, .ok 0) ∧
            asked.settle? s.breaker 5000 0 false =
              .error { state := .opened, generation := 1, expiry := some 60000 } := by
      decide +kernel
    obtain ⟨s, accepted, htrip⟩ := Settings.exists_of_any_load htrip
    obtain ⟨hmade, hasked, htrip⟩ := of_decide_eq_true htrip
    exact ⟨s, accepted, _, hmade, rfl, _, hasked, htrip⟩

end Courier.Breaker
