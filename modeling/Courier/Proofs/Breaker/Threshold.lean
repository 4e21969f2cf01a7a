import Courier.Proofs.Breaker.Beginning
import Mathlib.Algebra.GroupWithZero.Nat
import Mathlib.Data.List.Infix
import Mathlib.Data.List.Induction

/-!
# The threshold of a breaker

A closed breaker trips when enough calls have been made and enough of them have failed. Calls are
counted when they are let through and failures when they come out, so the calls on their way count
as not failed; and it is asked only when a call comes out whether the threshold is reached, be it
that the call failed or that it succeeded. Whatever the order of calls and outcomes, the breaker
opens at the first outcome at which it is reached, and at nothing else.

Calls that are made one after another are made up to the first at which enough of them have failed,
and the rest are refused until the cooldown is over.

## Main definitions

* `Breaker.Config.IsReached`: the threshold, as a condition on two numbers.
* `Breaker.Chronicle.admissions`, `Breaker.Chronicle.failures`, `Breaker.Chronicle.Trips`: what the
  events since the beginning of a generation come to.
* `Breaker.Turn`, `Breaker.Chronicle.serve`: calls made one after another.
* `Breaker.Chronicle.trips_at_threshold`.
-/

namespace Courier.Breaker

/-- What begins a list does not go beyond it. -/
theorem ne_append_singleton {α : Type} {before xs : List α} (h : before <+: xs) (x : α) :
    before ≠ xs ++ [x] := by
  rintro rfl
  have hlength := h.length_le
  rw [List.length_append, List.length_singleton] at hlength
  omega

variable {config : Config} {now : Nat} {b : Breaker}

/-! ## Closed breakers -/

/-- Of so many calls so many have failed that the breaker trips. -/
def Config.IsReached (config : Config) (failures calls : Nat) : Prop :=
  config.minRequests ≤ calls ∧ config.failureRatio.le (.ofRatio failures calls)

instance (failures calls : Nat) : Decidable (config.IsReached failures calls) :=
  inferInstanceAs (Decidable (_ ∧ _))

theorem trips_iff {c : Counts} (some : c.requests ≠ 0) :
    config.trips c ↔ config.IsReached c.totalFailures c.requests := by
  simp [Config.trips, Config.IsReached, Counts.failureRatio, some]

/-- Within its window a closed breaker lets every call through. -/
theorem permit_of_closed (current : b.hasExpired now = false) (closed : b.state = .closed) :
    b.permit config now = (⟨b.withCounts b.counts.onRequest, []⟩, .ok b.generation) := by
  simp only [permit, refresh_of_current current, closed]
  rfl

/-- Within its window a closed breaker trips at an outcome, or counts it. -/
theorem settle_of_closed (config : Config) (current : b.hasExpired now = false)
    (closed : b.state = .closed) (succeeded : Bool) :
    (b.settle config now b.generation succeeded).breaker =
      if config.trips (b.counts.onOutcome succeeded) then b.renew config now .opened
      else b.withCounts (b.counts.onOutcome succeeded) := by
  obtain ⟨state, generation, counts, expiry⟩ := b
  obtain rfl : state = .closed := closed
  simp only [settle, refresh_of_current current, if_true]
  split <;> rfl

/-- A call that is asked for after a while and, if it is let through, comes out some time later. A
call that is dropped counts as one that failed. -/
structure Turn where
  wait : Nat
  work : Nat
  succeeds : Bool
  deriving DecidableEq, Repr

/-- How many of the calls fail. -/
def failed (turns : List Turn) : Nat :=
  turns.countP (!·.succeeds)

/-- How long it takes if all calls are made. -/
def duration (turns : List Turn) : Nat :=
  (turns.map fun t => t.wait + t.work).sum

theorem failed_cons (t : Turn) (ts : List Turn) :
    failed (t :: ts) = (!t.succeeds).toNat + failed ts := by
  rw [failed, List.countP_cons, failed, Nat.add_comm]
  cases t.succeeds <;> rfl

theorem failed_concat (ts : List Turn) (t : Turn) :
    failed (ts ++ [t]) = failed ts + (!t.succeeds).toNat := by
  rw [failed, List.countP_append, List.countP_singleton, failed]
  cases t.succeeds <;> rfl

theorem duration_cons (t : Turn) (ts : List Turn) :
    duration (t :: ts) = t.wait + t.work + duration ts := by
  rw [duration, List.map_cons, List.sum_cons, duration]

theorem duration_concat (ts : List Turn) (t : Turn) :
    duration (ts ++ [t]) = duration ts + (t.wait + t.work) := by
  rw [duration, List.map_append, List.sum_append, duration, List.map_singleton,
    List.sum_singleton]

namespace Chronicle

variable {w v : Chronicle} {e : Event} {es : List Event} {generation : UInt64}

/-! ## What events come to -/

/-- The event is the outcome of a call with the given number. -/
def Event.isOutcomeOf (generation : UInt64) (e : Event) : Bool :=
  e.outcome?.any fun o => o.1.generation == generation

/-- The event is the failure of a call with the given number. -/
def Event.isFailureOf (generation : UInt64) (e : Event) : Bool :=
  e.outcome?.any fun o => o.1.generation == generation && !o.2

/-- How many calls have been asked for. -/
def admissions (es : List Event) : Nat :=
  es.count .asked

/-- How many calls with the given number have failed. -/
def failures (generation : UInt64) (es : List Event) : Nat :=
  es.countP (·.isFailureOf generation)

/-- The last of the events is the outcome of a call of the generation, and the threshold is reached
with it. -/
def Trips (config : Config) (generation : UInt64) (es : List Event) : Prop :=
  (∃ e ∈ es.getLast?, e.isOutcomeOf generation) ∧
    config.IsReached (failures generation es) (admissions es)

instance (config : Config) (generation : UInt64) (es : List Event) :
    Decidable (Trips config generation es) :=
  inferInstanceAs (Decidable (_ ∧ _))

theorem admissions_concat (es : List Event) (e : Event) :
    admissions (es ++ [e]) = admissions es + (e == .asked).toNat := by
  rw [admissions, List.count_append, List.count_singleton, admissions]
  cases e == Event.asked <;> rfl

theorem failures_concat (generation : UInt64) (es : List Event) (e : Event) :
    failures generation (es ++ [e]) =
      failures generation es + (e.isFailureOf generation).toNat := by
  rw [failures, List.countP_append, List.countP_singleton, failures]
  cases e.isFailureOf generation <;> rfl

theorem trips_concat_iff : Trips config generation (es ++ [e]) ↔ e.isOutcomeOf generation ∧
    config.IsReached (failures generation (es ++ [e])) (admissions (es ++ [e])) := by
  simp [Trips]

/-! ## Counting -/

/-- Since a closed generation has begun so many calls have been let through, and so many have
failed; the others have succeeded or are on their way. -/
structure Counting (first : Chronicle) (calls fails : Nat) (w : Chronicle) : Prop where
  state : w.breaker.state = .closed
  generation : w.breaker.generation = first.breaker.generation
  expiry : w.breaker.expiry = first.breaker.expiry
  requests : w.breaker.counts.requests = calls
  totalFailures : w.breaker.counts.totalFailures = fails
  pending : fails + w.calls.countP (·.generation == first.breaker.generation) ≤ calls

theorem Begins.counting (h : Begins w) : Counting w 0 0 w where
  state := h.state
  generation := rfl
  expiry := rfl
  requests := by rw [h.counts]
  totalFailures := by rw [h.counts]
  pending := by simpa using h.calls

namespace Counting

variable {first : Chronicle} {calls fails : Nat}

/-- The window is not over. -/
theorem hasExpired_eq_false (h : Counting first calls fails w)
    (current : ∀ moment, first.breaker.expiry = some moment → w.now < moment) :
    w.breaker.hasExpired w.now = false := by
  rw [hasExpired, h.expiry, Option.any_eq_false]
  intro moment hmoment
  simpa using current moment hmoment

theorem pass (h : Counting first calls fails w) (span : Nat) :
    Counting first calls fails (w.step config (.passed span)) :=
  { h with }

/-- A call that is asked for is let through. -/
theorem permit_eq (h : Counting first calls fails w)
    (current : w.breaker.hasExpired w.now = false) :
    (w.breaker.permit config w.now).2 = .ok first.breaker.generation := by
  rw [permit_of_closed current h.state, h.generation]

theorem ask_eq (h : Counting first calls fails w)
    (current : w.breaker.hasExpired w.now = false) : w.ask config = w.letThrough := by
  simp only [Chronicle.ask, permit_of_closed current h.state,
    look_of_refresh_eq (refresh_of_current current), become_withCounts]
  rfl

theorem ask (h : Counting first calls fails w) (few : calls + 1 < UInt32.size)
    (current : w.breaker.hasExpired w.now = false) :
    Counting first (calls + 1) fails (w.ask config) := by
  rw [h.ask_eq current]
  exact {
    state := h.state
    generation := h.generation
    expiry := h.expiry
    requests := by
      rw [← h.requests]
      apply tallyNext_of_lt
      rw [h.requests]
      unfold tallyLimit
      omega
    totalFailures := h.totalFailures
    pending := by
      have hpending := h.pending
      rw [letThrough_calls, List.countP_cons_of_pos (by simp [h.generation])]
      omega }

/-- A call of an earlier generation comes out. -/
theorem stale (h : Counting first calls fails w)
    (current : w.breaker.hasExpired w.now = false) {call : Admission}
    (other : call.generation ≠ first.breaker.generation) (succeeded : Bool) :
    Counting first calls fails (w.settle config call succeeded) := by
  have hlook : w.look config = w := look_of_refresh_eq (refresh_of_current current)
  have hother : (w.look config).breaker.generation ≠ call.generation := by
    rw [hlook, h.generation]
    exact other.symm
  rw [settle_of_generation_ne hother, hlook]
  have hfewer : (w.calls.erase call).countP (·.generation == first.breaker.generation) ≤
      w.calls.countP (·.generation == first.breaker.generation) :=
    List.erase_sublist.countP_le
  exact { h with pending := Nat.le_trans (Nat.add_le_add_left hfewer fails) h.pending }

/-- A call of the generation comes out. -/
theorem settle (h : Counting first calls fails w) (config : Config) (few : calls < UInt32.size)
    (current : w.breaker.hasExpired w.now = false) {call : Admission} (pending : call ∈ w.calls)
    (own : call.generation = first.breaker.generation) (succeeded : Bool) :
    (config.IsReached (fails + (!succeeded).toNat) calls →
      (w.settle config call succeeded).breaker = w.breaker.renew config w.now .opened) ∧
    (¬ config.IsReached (fails + (!succeeded).toNat) calls →
      Counting first calls (fails + (!succeeded).toNat) (w.settle config call succeeded)) := by
  have hcount : w.calls.countP (·.generation == first.breaker.generation) =
      (w.calls.erase call).countP (·.generation == first.breaker.generation) + 1 := by
    rw [(List.perm_cons_erase pending).countP_eq, List.countP_cons_of_pos (by simp [own])]
  have hpending := h.pending
  -- The call itself is one of those that have been let through, so the tallies have room for it.
  have hroom : fails < tallyLimit := by
    unfold tallyLimit
    omega
  have hfailures : (w.breaker.counts.onOutcome succeeded).totalFailures =
      fails + (!succeeded).toNat := by
    rw [← h.totalFailures] at hroom ⊢
    cases succeeded with
    | true => rfl
    | false => exact tallyNext_of_lt hroom
  have hrequests : (w.breaker.counts.onOutcome succeeded).requests = calls := by
    rw [← h.requests]
    cases succeeded <;> rfl
  have htrips : config.trips (w.breaker.counts.onOutcome succeeded) ↔
      config.IsReached (fails + (!succeeded).toNat) calls := by
    rw [trips_iff (by omega), hfailures, hrequests]
  have hlast := settle_of_closed config current h.state succeeded
  rw [h.generation, ← own, ← settle_breaker] at hlast
  constructor
  · intro reached
    rwa [if_pos (htrips.2 reached)] at hlast
  · intro calm
    rw [if_neg (mt htrips.1 calm)] at hlast
    constructor
    · rw [hlast]
      exact h.state
    · rw [hlast]
      exact h.generation
    · rw [hlast]
      exact h.expiry
    · rw [hlast]
      exact hrequests
    · rw [hlast]
      exact hfailures
    · have hfailed : (!succeeded).toNat ≤ 1 := Bool.toNat_le _
      rw [settle_calls]
      omega

/-- After events since the beginning of the generation one more happens. -/
theorem step (h : Counting first (admissions es) (failures first.breaker.generation es) w)
    (possible : e.CanHappen w) (few : admissions (es ++ [e]) < UInt32.size)
    (current : w.breaker.hasExpired w.now = false) :
    (Trips config first.breaker.generation (es ++ [e]) →
      (w.step config e).breaker.state = .opened) ∧
    (¬ Trips config first.breaker.generation (es ++ [e]) →
      Counting first (admissions (es ++ [e])) (failures first.breaker.generation (es ++ [e]))
        (w.step config e)) := by
  rw [trips_concat_iff, admissions_concat, failures_concat]
  rw [admissions_concat] at few
  -- Only outcomes trip, and of these only the ones of the generation's own calls.
  cases outcome : e.outcome? with
  | none =>
    have hother : e.isOutcomeOf first.breaker.generation = false := by
      rw [Event.isOutcomeOf, outcome, Option.any_none]
    have hnofailure : e.isFailureOf first.breaker.generation = false := by
      rw [Event.isFailureOf, outcome, Option.any_none]
    rw [hother, hnofailure]
    refine ⟨fun trips => absurd trips.1 Bool.false_ne_true, fun _ => ?_⟩
    cases e with
    | asked => exact h.ask few current
    | finished call succeeded => cases outcome
    | dropped call => cases outcome
    | looked =>
      change Counting _ _ _ (w.look config)
      rw [look_of_refresh_eq (refresh_of_current current)]
      exact h
    | passed span => exact h.pass span
  | some o =>
    obtain ⟨call, succeeded⟩ := o
    have hasked : (e == .asked) = false := by
      apply beq_false_of_ne
      rintro rfl
      cases outcome
    have hpending : call ∈ w.calls := (canHappen_of_outcome outcome).1 possible
    rw [step_of_outcome outcome, hasked, Event.isOutcomeOf, Event.isFailureOf, outcome]
    rw [hasked] at few
    simp only [Option.any_some, Bool.toNat_false, Nat.add_zero, beq_iff_eq]
    by_cases own : call.generation = first.breaker.generation
    · simp only [own, beq_self_eq_true, Bool.true_and, true_and]
      refine (h.settle config few current hpending own succeeded).imp (fun opens reached => ?_) id
      rw [opens reached, renew_state]
    · refine ⟨fun trips => absurd trips.1 own, fun _ => ?_⟩
      rw [beq_false_of_ne own, Bool.false_and, Bool.toNat_false, Nat.add_zero]
      exact h.stale current own succeeded

end Counting

/-- As long as the threshold is not reached with an outcome everything is counted, and the breaker
opens when it is. -/
theorem Begins.counting_or_opened (begins : Begins w) (played : play config w es = some v)
    (few : admissions es < UInt32.size)
    (current : ∀ moment, w.breaker.expiry = some moment → v.now < moment)
    (earlier : ∀ before, before <+: es → before ≠ es →
      ¬ Trips config w.breaker.generation before) :
    (Trips config w.breaker.generation es → v.breaker.state = .opened) ∧
      (¬ Trips config w.breaker.generation es →
        Counting w (admissions es) (failures w.breaker.generation es) v) := by
  -- From the last event, since the threshold is asked about at the last only.
  induction es using List.reverseRecOn generalizing v with
  | nil =>
    obtain rfl : w = v := Option.some.inj played
    exact ⟨fun trips => by simp [Trips] at trips, fun _ => begins.counting⟩
  | append_singleton es e ih =>
    obtain ⟨u, hbefore, hlast⟩ := play_append_iff.1 played
    obtain ⟨hcan, hstep⟩ := play_cons_iff.1 hlast
    obtain rfl : u.step config e = v := Option.some.inj hstep
    have hnow : u.now ≤ (u.step config e).now := (le_now_of_play hlast).1
    have hcurrent : ∀ moment, w.breaker.expiry = some moment → u.now < moment :=
      fun moment h => Nat.lt_of_le_of_lt hnow (current moment h)
    have hfewer : admissions es < UInt32.size := by
      rw [admissions_concat] at few
      omega
    have hproper {before : List Event} (h : before <+: es) :
        ¬ Trips config w.breaker.generation before :=
      earlier before (h.trans (List.prefix_append es [e])) (ne_append_singleton h e)
    have hcounting := (ih hbefore hfewer hcurrent fun before h _ => hproper h).2
      (hproper List.prefix_rfl)
    exact hcounting.step hcan few (hcounting.hasExpired_eq_false hcurrent)

/-! ## One call after another -/

/-- A turn: time passes, a call is asked for, and if it is let through it comes out later. The
answer is what the asking was told. -/
def turn (config : Config) (w : Chronicle) (t : Turn) : Chronicle × Except Rejection UInt64 :=
  let w := w.step config (.passed t.wait)
  match (w.breaker.permit config w.now).2 with
  | .ok generation =>
    let call := (w.look config).ticket generation
    let w := (w.step config .asked).step config (.passed t.work)
    (w.step config (.finished call t.succeeds), .ok generation)
  | .error reason => (w.step config .asked, .error reason)

/-- One turn after another, with the answers. -/
def serve (config : Config) (w : Chronicle) : List Turn →
    Chronicle × List (Except Rejection UInt64)
  | [] => (w, [])
  | t :: ts =>
    let (v, answer) := w.turn config t
    let (last, answers) := v.serve config ts
    (last, answer :: answers)

theorem serve_append (config : Config) (w : Chronicle) (ts us : List Turn) :
    w.serve config (ts ++ us) =
      (((w.serve config ts).1.serve config us).1,
        (w.serve config ts).2 ++ ((w.serve config ts).1.serve config us).2) := by
  induction ts generalizing w with
  | nil => rfl
  | cons t ts ih => simp only [List.cons_append, serve, ih]

/-- An open breaker refuses them all. -/
theorem serve_of_isCooling {deadline : Nat} (ts : List Turn)
    (cooling : IsCooling deadline generation w.breaker)
    (early : w.now + (ts.map (·.wait)).sum < deadline) :
    (w.serve config ts).2 = List.replicate ts.length (.error .opened) := by
  induction ts generalizing w with
  | nil => rfl
  | cons t ts ih =>
    rw [List.map_cons, List.sum_cons] at early
    have hwait : (w.step config (.passed t.wait)).now < deadline := by
      rw [step_now]
      change w.now + t.wait < deadline
      omega
    have hturn : w.turn config t = (w.step config (.passed t.wait), .error .opened) := by
      have hcooling : IsCooling deadline generation (w.step config (.passed t.wait)).breaker :=
        cooling
      simp only [turn, hcooling.permit_of_lt hwait]
      exact congrArg (·, _) (ask_of_lt hcooling hwait)
    have hrest := ih (w := w.step config (.passed t.wait)) cooling (by
      rw [step_now]
      change w.now + t.wait + _ < deadline
      omega)
    simp only [serve, hturn, hrest, List.length_cons, List.replicate_succ]

/-- A closed breaker makes the call, and opens if the threshold is reached with its outcome. -/
theorem Counting.turn {first : Chronicle} {calls fails : Nat} (h : Counting first calls fails w)
    (t : Turn) (few : calls + 1 < UInt32.size)
    (current : ∀ moment, first.breaker.expiry = some moment → w.now + t.wait + t.work < moment) :
    (w.turn config t).2 = .ok first.breaker.generation ∧
    (w.turn config t).1.now = w.now + t.wait + t.work ∧
    (config.IsReached (fails + (!t.succeeds).toNat) (calls + 1) →
      IsCooling (w.now + t.wait + t.work + config.cooldown) (first.breaker.generation + 1)
        (w.turn config t).1.breaker) ∧
    (¬ config.IsReached (fails + (!t.succeeds).toNat) (calls + 1) →
      Counting first (calls + 1) (fails + (!t.succeeds).toNat) (w.turn config t).1) := by
  let waited := w.step config (.passed t.wait)
  let worked := (waited.ask config).step config (.passed t.work)
  let call := waited.ticket first.breaker.generation
  have hwaited : Counting first calls fails waited := h.pass t.wait
  have hwindow := hwaited.hasExpired_eq_false fun moment hmoment =>
    Nat.lt_of_le_of_lt (Nat.le_add_right _ _) (current moment hmoment)
  have hworked : Counting first (calls + 1) fails worked := (hwaited.ask few hwindow).pass t.work
  have hnow : worked.now = w.now + t.wait + t.work :=
    congrArg (· + t.work) (ask_now (w := waited))
  have hpending : call ∈ worked.calls := by
    simp only [worked, call, Chronicle.step, hwaited.ask_eq hwindow, letThrough_calls,
      hwaited.generation]
    exact List.mem_cons_self
  have hturn : w.turn config t =
      (worked.settle config call t.succeeds, .ok first.breaker.generation) := by
    simp only [Chronicle.turn, waited, hwaited.permit_eq hwindow,
      look_of_refresh_eq (refresh_of_current hwindow)]
    rfl
  have hsettle := hworked.settle config few (hworked.hasExpired_eq_false (by rwa [hnow])) hpending
    rfl t.succeeds
  rw [hturn]
  refine ⟨rfl, (settle_now call t.succeeds).trans hnow, fun reached => ?_, hsettle.2⟩
  rw [hsettle.1 reached, hnow, ← hworked.generation]
  exact isCooling_renew

/-- As long as the threshold is not reached all calls are made. -/
theorem Counting.serve {first : Chronicle} {calls fails : Nat} (h : Counting first calls fails w)
    (config : Config) (ts : List Turn) (few : calls + ts.length < UInt32.size)
    (current : ∀ moment, first.breaker.expiry = some moment → w.now + duration ts < moment)
    (calm : ∀ before, before <+: ts → before ≠ [] →
      ¬ config.IsReached (fails + failed before) (calls + before.length)) :
    (w.serve config ts).2 = List.replicate ts.length (.ok first.breaker.generation) ∧
    (w.serve config ts).1.now = w.now + duration ts ∧
    Counting first (calls + ts.length) (fails + failed ts) (w.serve config ts).1 := by
  induction ts generalizing w calls fails with
  | nil => exact ⟨rfl, rfl, h⟩
  | cons t ts ih =>
    rw [List.length_cons] at few
    simp only [duration_cons] at current ⊢
    have hfirst : ¬ config.IsReached (fails + (!t.succeeds).toNat) (calls + 1) := by
      have hcalm := calm [t] (List.prefix_append [t] ts) (List.cons_ne_nil t [])
      rwa [failed_cons] at hcalm
    obtain ⟨hanswer, hnow, -, hcounting⟩ := h.turn t (by omega) fun moment hmoment => by
      have hcurrent := current moment hmoment
      omega
    have hrest := ih (hcounting hfirst) (by omega) (by
      intro moment hmoment
      have hcurrent := current moment hmoment
      omega) (by
      intro before hinit hsome
      have hcalm := calm (t :: before) (List.cons_prefix_cons.2 ⟨rfl, hinit⟩)
        (List.cons_ne_nil t before)
      rw [failed_cons, List.length_cons] at hcalm
      rwa [Nat.add_assoc, Nat.add_assoc, Nat.add_comm 1])
    obtain ⟨hanswers, hlast, hcounted⟩ := hrest
    refine ⟨?_, ?_, ?_⟩
    · simp only [Chronicle.serve, hanswer, hanswers, List.length_cons, List.replicate_succ]
    · simp only [Chronicle.serve, hlast, hnow]
      omega
    · simp only [Chronicle.serve, failed_cons, List.length_cons]
      rwa [Nat.add_assoc, Nat.add_assoc, Nat.add_comm 1] at hcounted

/-- The last call of a row with which the threshold may be reached for the first time. -/
theorem Begins.serve_concat (begins : Begins w) (ts : List Turn) (t : Turn)
    (few : ts.length + 1 < UInt32.size)
    (current : ∀ moment, w.breaker.expiry = some moment → w.now + duration (ts ++ [t]) < moment)
    (calm : ∀ before, before <+: ts → before ≠ [] →
      ¬ config.IsReached (failed before) before.length) :
    (w.serve config (ts ++ [t])).2 =
        List.replicate (ts ++ [t]).length (.ok w.breaker.generation) ∧
    (w.serve config (ts ++ [t])).1.now = w.now + duration (ts ++ [t]) ∧
    (config.IsReached (failed (ts ++ [t])) (ts ++ [t]).length →
      IsCooling (w.now + duration (ts ++ [t]) + config.cooldown) (w.breaker.generation + 1)
        (w.serve config (ts ++ [t])).1.breaker) := by
  rw [duration_concat, ← Nat.add_assoc, ← Nat.add_assoc] at current ⊢
  obtain ⟨hanswers, hnow, hcounting⟩ := begins.counting.serve config ts (by omega)
    (fun moment hmoment => by
      have hlast := current moment hmoment
      omega)
    (by simpa using calm)
  rw [Nat.zero_add, Nat.zero_add] at hcounting
  rw [← hnow] at current ⊢
  obtain ⟨hanswer, hlast, hopens, -⟩ := hcounting.turn t few current
  rw [serve_append, failed_concat, List.length_append, List.length_singleton]
  refine ⟨?_, hlast, hopens⟩
  rw [hanswers, List.replicate_succ']
  exact congrArg (_ ++ [·]) hanswer

/-- **A closed breaker trips exactly at its threshold.** Let a closed generation begin, and let
anything happen within its window. Every call that is asked for is let through, until for the first
time a call of the generation comes out with which the threshold is reached: with that outcome the
breaker opens, and with nothing before it. Whenever a breaker is closed it has come to this from
such a beginning (`Reachable.hasBegun`).

Calls made one after another are made up to the first of them with which the threshold is reached.
The rest are refused as long as the cooldown lasts. -/
theorem trips_at_threshold (config : Config) (begins : Begins w) :
    (∀ es v, play config w es = some v → admissions es < UInt32.size →
      (∀ moment, w.breaker.expiry = some moment → v.now < moment) →
      (∀ before, before <+: es → before ≠ es →
        ¬ Trips config w.breaker.generation before) →
      (Trips config w.breaker.generation es → v.breaker.state = .opened) ∧
      (¬ Trips config w.breaker.generation es →
        v.breaker.state = .closed ∧ v.breaker.generation = w.breaker.generation ∧
          (v.breaker.permit config v.now).2 = .ok w.breaker.generation)) ∧
    (∀ made rest : List Turn, made.length < UInt32.size →
      (∀ moment, w.breaker.expiry = some moment → w.now + duration made < moment) →
      (∀ before, before <+: made → before ≠ made → before ≠ [] →
        ¬ config.IsReached (failed before) before.length) →
      (w.serve config made).2 = List.replicate made.length (.ok w.breaker.generation) ∧
      (made ≠ [] → config.IsReached (failed made) made.length →
        (rest.map (·.wait)).sum < config.cooldown →
        (w.serve config (made ++ rest)).2 =
          List.replicate made.length (.ok w.breaker.generation) ++
            List.replicate rest.length (.error .opened))) := by
  constructor
  · intro es v played few current earlier
    obtain ⟨hopens, hcounts⟩ := begins.counting_or_opened played few current earlier
    refine ⟨hopens, fun calm => ?_⟩
    have hcounting := hcounts calm
    exact ⟨hcounting.state, hcounting.generation,
      hcounting.permit_eq (hcounting.hasExpired_eq_false current)⟩
  · intro made rest few current earlier
    cases made using List.reverseRecOn with
    | nil => exact ⟨rfl, fun some => absurd rfl some⟩
    | append_singleton ts t =>
      rw [List.length_append, List.length_singleton] at few
      have hcalm : ∀ before, before <+: ts → before ≠ [] →
          ¬ config.IsReached (failed before) before.length := by
        intro before hinit
        exact earlier before (hinit.trans (List.prefix_append ts [t]))
          (ne_append_singleton hinit t)
      obtain ⟨hanswers, hnow, hopens⟩ := begins.serve_concat ts t few current hcalm
      refine ⟨hanswers, fun _ reached cool => ?_⟩
      rw [serve_append, hanswers, serve_of_isCooling rest (hopens reached)]
      rw [hnow]
      omega

/-- Two calls fail before there are enough to trip. The third succeeds, and with it the breaker
opens; whoever comes while it cools down is refused. -/
theorem opens_at_success :
    ∃ v ∈ play { minRequests := 3 } (.start { minRequests := 3 } 7)
        [.asked, .dropped ⟨0, 0, 0, 7⟩, .asked, .finished ⟨0, 0, 1, 7⟩ false, .asked,
          .finished ⟨0, 0, 2, 7⟩ true],
      v.breaker.state = .opened ∧
        ((start { minRequests := 3 } 7).serve { minRequests := 3 }
            ([⟨1, 2, false⟩, ⟨0, 5, false⟩, ⟨3, 1, true⟩] ++ [⟨4, 0, true⟩, ⟨90, 0, true⟩])).2 =
          [.ok 0, .ok 0, .ok 0, .error .opened, .error .opened] := by
  have hplays : ∃ v ∈ play { minRequests := 3 } (.start { minRequests := 3 } 7)
        [.asked, .dropped ⟨0, 0, 0, 7⟩, .asked, .finished ⟨0, 0, 1, 7⟩ false, .asked,
          .finished ⟨0, 0, 2, 7⟩ true],
      v.now < 60007 := by
    decide +kernel
  obtain ⟨v, hv, hnow⟩ := hplays
  obtain ⟨hevents, hturns⟩ :=
    trips_at_threshold { minRequests := 3 } (begins_start { minRequests := 3 } 7)
  refine ⟨v, hv, ?_, ?_⟩
  · refine (hevents _ v hv (by decide) ?_ ?_).1 (by decide +kernel)
    · rintro moment ⟨⟩
      exact hnow
    · intro before hinit
      rw [← List.mem_inits] at hinit
      revert before
      decide +kernel
  · refine (hturns [⟨1, 2, false⟩, ⟨0, 5, false⟩, ⟨3, 1, true⟩] [⟨4, 0, true⟩, ⟨90, 0, true⟩]
      (by decide) ?_ ?_).2 (by decide) (by decide +kernel) (by decide)
    · rintro moment ⟨⟩
      decide
    · intro before hinit
      rw [← List.mem_inits] at hinit
      revert before
      decide +kernel

end Chronicle

end Courier.Breaker
