import Courier.Retry
import Mathlib.Algebra.Order.Ring.Nat
import Mathlib.Data.List.Iterate

/-!
# How often, and how long in between

The attempts at an operation are a loop with two registers: a counter of 32 bits, and the next pause
in 64 bits. What the loop does is told here turn by turn, as it is seen from outside: attempts with
what comes of them, and pauses between them. The loop always ends, before its counter overflows, and
what it does is what `RetryPolicy.run` says. Its pauses have a closed form in which nothing is left
of the saturation, since what is cut off at 64 bits is beyond the limit too.

The attempts made and those that are left are together the attempts of the policy, in every turn.
So the counter of the loop and the recursion of `tryAgain`, which counts down, go in step.

## Main definitions

* `RetryPolicy.nominal`: the pauses in closed form.
* `RetryPolicy.outcomes`: what the attempts at an operation come out as, one after another.
* `RetryPolicy.Loop`, `RetryPolicy.Runs`: the loop, and what is seen of it.
* `RetryPolicy.Follows`: what comes of trying, said by the outcomes.

## Main results

* `RetryPolicy.iterate_nextDelay`: the closed form.
* `RetryPolicy.Runs.unique`, `RetryPolicy.runs_tryAgain`: the loop ends, and in one way.
* `RetryPolicy.run_exact`: all of it.
-/

namespace Courier.RetryPolicy

variable {σ ε α : Type} {p : RetryPolicy} {attempt : σ → Except ε α × σ} {s : σ}

/-! ## Pauses -/

/-- The pause between two attempts, counted from zero: the first is the initial one, and each later
one is the initial one times a power of the multiplier, up to the limit. -/
def nominal (p : RetryPolicy) : Nat → Nat
  | 0 => p.initialDelay
  | k + 1 => min p.maxDelay (p.initialDelay * p.multiplier ^ (k + 1))

/-- The saturation is not seen below a limit of 64 bits. -/
theorem nextDelay_eq (limit : p.maxDelay < UInt64.size) (delay : Nat) :
    p.nextDelay delay = min p.maxDelay (delay * p.multiplier) := by
  simp only [nextDelay]
  omega

theorem nextDelay_le (p : RetryPolicy) (delay : Nat) : p.nextDelay delay ≤ p.maxDelay :=
  Nat.min_le_right _ _

/-- A product that is cut off at the limit and multiplied again is as good as one that is cut off
only in the end. -/
theorem min_mul_min (limit n m : Nat) : min limit (min limit n * m) = min limit (n * m) := by
  by_cases hm : m = 0
  · simp [hm]
  · have hlimit : limit ≤ limit * m := Nat.le_mul_of_pos_right limit (Nat.pos_of_ne_zero hm)
    rw [← Nat.mul_min_mul_right]
    omega

/-- All pauses but the first in closed form. -/
theorem iterate_nextDelay (limit : p.maxDelay < UInt64.size) (delay k : Nat) :
    p.nextDelay^[k + 1] delay = min p.maxDelay (delay * p.multiplier ^ (k + 1)) := by
  induction k with
  | zero => simp [nextDelay_eq limit]
  | succ k ih =>
    calc p.nextDelay^[k + 2] delay
      _ = p.nextDelay (p.nextDelay^[k + 1] delay) := Function.iterate_succ_apply' _ _ _
      _ = min p.maxDelay (min p.maxDelay (delay * p.multiplier ^ (k + 1)) * p.multiplier) := by
        rw [nextDelay_eq limit, ih]
      _ = min p.maxDelay (delay * p.multiplier ^ (k + 2)) := by
        rw [min_mul_min, mul_assoc, ← pow_succ]

theorem iterate_nextDelay_initialDelay (limit : p.maxDelay < UInt64.size) (k : Nat) :
    p.nextDelay^[k] p.initialDelay = p.nominal k := by
  cases k with
  | zero => rfl
  | succ k => exact iterate_nextDelay limit _ k

/-! ## The loop -/

/-- The state after so many attempts. -/
def stateAfter (attempt : σ → Except ε α × σ) (s : σ) (n : Nat) : σ :=
  (fun s => (attempt s).2)^[n] s

/-- What the attempts come out as, one after another, whether they are made or not. -/
def outcomes (attempt : σ → Except ε α × σ) (s : σ) (k : Nat) : Except ε α :=
  (attempt (stateAfter attempt s k)).1

/-- What the loop does that is seen from outside. -/
inductive Deed (ε α : Type) where
  /-- An attempt, with what comes of it. -/
  | attempt (outcome : Except ε α)
  /-- A pause. -/
  | pause (delay : Nat)
  deriving DecidableEq

/-- The loop between two turns. -/
structure Loop (σ : Type) where
  /-- The number of attempts made, in 32 bits. -/
  made : Nat
  /-- The next pause. -/
  delay : Nat
  state : σ

/-- What comes of the loop. -/
inductive Ending (σ ε α : Type) where
  | returned (result : Except ε α) (state : σ)
  /-- The counter of attempts overflows. -/
  | overflowed

/-- What the loop does from one of its states to its end: in every turn the counter goes up and the
operation is attempted; after a failure that is not the last one allowed there is a pause and
another turn. -/
inductive Runs (p : RetryPolicy) (attempt : σ → Except ε α × σ) :
    Loop σ → List (Deed ε α) → Ending σ ε α → Prop where
  | overflowed {l : Loop σ} (full : UInt32.size ≤ l.made + 1) : Runs p attempt l [] .overflowed
  | succeeded {l : Loop σ} {a : α} {s : σ} (fits : l.made + 1 < UInt32.size)
      (outcome : attempt l.state = (.ok a, s)) :
      Runs p attempt l [.attempt (.ok a)] (.returned (.ok a) s)
  | failed {l : Loop σ} {e : ε} {s : σ} (fits : l.made + 1 < UInt32.size)
      (outcome : attempt l.state = (.error e, s)) (last : p.attempts ≤ l.made + 1) :
      Runs p attempt l [.attempt (.error e)] (.returned (.error e) s)
  | again {l : Loop σ} {e : ε} {s : σ} {deeds : List (Deed ε α)} {ending : Ending σ ε α}
      (fits : l.made + 1 < UInt32.size) (outcome : attempt l.state = (.error e, s))
      (more : l.made + 1 < p.attempts)
      (later : Runs p attempt ⟨l.made + 1, p.nextDelay l.delay, s⟩ deeds ending) :
      Runs p attempt l (.attempt (.error e) :: .pause l.delay :: deeds) ending

/-- The loop comes to one end, if to any. -/
theorem Runs.unique {l : Loop σ} {deeds deeds' : List (Deed ε α)} {ending ending' : Ending σ ε α}
    (h : Runs p attempt l deeds ending) (h' : Runs p attempt l deeds' ending') :
    deeds = deeds' ∧ ending = ending' := by
  induction h generalizing deeds' with
  | overflowed full =>
    cases h' with
    | overflowed => exact ⟨rfl, rfl⟩
    | succeeded fits | failed fits | again fits => omega
  | succeeded fits outcome =>
    cases h' with
    | overflowed => omega
    | succeeded _ outcome' =>
      obtain ⟨hresult, rfl⟩ := Prod.mk.inj (outcome.symm.trans outcome')
      obtain rfl := Except.ok.inj hresult
      exact ⟨rfl, rfl⟩
    | failed _ outcome' | again _ outcome' =>
      rw [outcome] at outcome'
      cases outcome'
  | failed fits outcome last =>
    cases h' with
    | overflowed => omega
    | again => omega
    | succeeded _ outcome' =>
      rw [outcome] at outcome'
      cases outcome'
    | failed _ outcome' =>
      obtain ⟨hresult, rfl⟩ := Prod.mk.inj (outcome.symm.trans outcome')
      obtain rfl := Except.error.inj hresult
      exact ⟨rfl, rfl⟩
  | again fits outcome more later ih =>
    cases h' with
    | overflowed => omega
    | failed => omega
    | succeeded _ outcome' =>
      rw [outcome] at outcome'
      cases outcome'
    | again _ outcome' _ later' =>
      obtain ⟨hresult, rfl⟩ := Prod.mk.inj (outcome.symm.trans outcome')
      obtain rfl := Except.error.inj hresult
      obtain ⟨rfl, rfl⟩ := ih later'
      exact ⟨rfl, rfl⟩

/-! ## What is seen -/

/-- So many attempts, with a pause after each but the last. -/
def alternating (outcome : Nat → Except ε α) (pause : Nat → Nat) (n : Nat) : List (Deed ε α) :=
  (List.range n).flatMap fun k =>
    .attempt (outcome k) :: if k + 1 < n then [.pause (pause k)] else []

theorem alternating_one (outcome : Nat → Except ε α) (pause : Nat → Nat) :
    alternating outcome pause 1 = [.attempt (outcome 0)] := rfl

theorem alternating_add_one (outcome : Nat → Except ε α) (pause : Nat → Nat) {n : Nat}
    (h : 0 < n) :
    alternating outcome pause (n + 1) = .attempt (outcome 0) :: .pause (pause 0) ::
      alternating (fun k => outcome (k + 1)) (fun k => pause (k + 1)) n := by
  rw [alternating, alternating, List.range_succ_eq_map, List.flatMap_cons, List.flatMap_map,
    if_pos (by omega)]
  simp only [Nat.succ_eq_add_one, Nat.add_lt_add_iff_right, List.cons_append, List.nil_append]

/-- After a failure the outcomes of the operation are those from the state that it left. -/
theorem outcomes_add_one (s : σ) (k : Nat) :
    outcomes attempt s (k + 1) = outcomes attempt (attempt s).2 k := rfl

theorem stateAfter_add_one (s : σ) (n : Nat) :
    stateAfter attempt s (n + 1) = stateAfter attempt (attempt s).2 n := rfl

/-! ## What comes of trying -/

/-- The attempts are all that there are up to the first success, but no more than one and the given
number again, and the pauses go on from the given one. -/
structure Follows (p : RetryPolicy) (attempt : σ → Except ε α × σ) (again delay : Nat) (s : σ)
    (t : Tried σ ε α) : Prop where
  pos : 0 < t.attempts
  le : t.attempts ≤ again + 1
  state : t.state = stateAfter attempt s t.attempts
  result : t.result = outcomes attempt s (t.attempts - 1)
  failures : ∀ k, k + 1 < t.attempts → ∃ e, outcomes attempt s k = .error e
  success : t.attempts < again + 1 → ∃ a, t.result = .ok a
  delays : t.delays = List.iterate p.nextDelay delay (t.attempts - 1)

theorem Follows.of_last (p : RetryPolicy) (attempt : σ → Except ε α × σ) (delay : Nat) (s : σ) :
    Follows p attempt 0 delay s ⟨(attempt s).1, (attempt s).2, 1, []⟩ where
  pos := Nat.one_pos
  le := Nat.le_refl 1
  state := rfl
  result := rfl
  failures := by
    intro k hk
    simp only at hk
    omega
  success := fun h => absurd h (Nat.lt_irrefl 1)
  delays := rfl

theorem Follows.of_ok {a : α} {s' : σ} (h : attempt s = (.ok a, s')) (again delay : Nat) :
    Follows p attempt again delay s ⟨.ok a, s', 1, []⟩ where
  pos := Nat.one_pos
  le := Nat.le_add_left 1 again
  state := (congrArg Prod.snd h).symm
  result := (congrArg Prod.fst h).symm
  failures := by
    intro k hk
    simp only at hk
    omega
  success := fun _ => ⟨a, rfl⟩
  delays := rfl

/-- A failure in front of what comes of trying again. -/
theorem Follows.of_error {e : ε} {s' : σ} {again delay : Nat} {t : Tried σ ε α}
    (h : attempt s = (.error e, s')) (later : Follows p attempt again (p.nextDelay delay) s' t) :
    Follows p attempt (again + 1) delay s
      ⟨t.result, t.state, t.attempts + 1, delay :: t.delays⟩ := by
  have hnext : (attempt s).2 = s' := by rw [h]
  obtain ⟨n, hn⟩ : ∃ n, t.attempts = n + 1 := Nat.exists_eq_add_one.2 later.pos
  have hresult : t.result = outcomes attempt s' n := by
    rw [later.result, hn, Nat.add_sub_cancel]
  exact {
    pos := Nat.succ_pos _
    le := Nat.succ_le_succ later.le
    state := by
      change t.state = stateAfter attempt s (t.attempts + 1)
      rw [stateAfter_add_one, hnext, later.state]
    result := by
      change t.result = outcomes attempt s t.attempts
      rw [hn, outcomes_add_one, hnext, hresult]
    failures := by
      intro k hk
      cases k with
      | zero => exact ⟨e, congrArg Prod.fst h⟩
      | succ k =>
        rw [outcomes_add_one, hnext]
        exact later.failures k (Nat.lt_of_succ_lt_succ hk)
    success := fun hlt => later.success (Nat.lt_of_succ_lt_succ hlt)
    delays := by
      change delay :: t.delays = List.iterate p.nextDelay delay t.attempts
      rw [later.delays, hn, Nat.add_sub_cancel, List.iterate] }

theorem tryAgain_of_ok {a : α} {s' : σ} (h : attempt s = (.ok a, s')) (again delay : Nat) :
    p.tryAgain attempt again delay s = ⟨.ok a, s', 1, []⟩ := by
  cases again <;> simp [tryAgain, h]

theorem tryAgain_of_error {e : ε} {s' : σ} (h : attempt s = (.error e, s')) (again delay : Nat) :
    p.tryAgain attempt (again + 1) delay s =
      let t := p.tryAgain attempt again (p.nextDelay delay) s'
      ⟨t.result, t.state, t.attempts + 1, delay :: t.delays⟩ := by
  simp [tryAgain, h]

theorem follows_tryAgain (p : RetryPolicy) (attempt : σ → Except ε α × σ) (again delay : Nat)
    (s : σ) : Follows p attempt again delay s (p.tryAgain attempt again delay s) := by
  induction again generalizing delay s with
  | zero => exact Follows.of_last p attempt delay s
  | succ again ih =>
    cases hattempt : attempt s with
    | mk outcome s' =>
      cases outcome with
      | ok a =>
        rw [tryAgain_of_ok hattempt]
        exact Follows.of_ok hattempt (again + 1) delay
      | error e =>
        rw [tryAgain_of_error hattempt]
        exact Follows.of_error hattempt (ih (p.nextDelay delay) s')

/-- The loop does what trying does: it ends with the same result in the same state, after attempts
and pauses in turn. -/
theorem runs_tryAgain (attempt : σ → Except ε α × σ) (counted : p.attempts < UInt32.size)
    {again made : Nat} (left : made + (again + 1) = p.attempts) (delay : Nat) (s : σ) :
    let t := p.tryAgain attempt again delay s
    Runs p attempt ⟨made, delay, s⟩
      (alternating (outcomes attempt s) (fun k => p.nextDelay^[k] delay) t.attempts)
      (.returned t.result t.state) := by
  induction again generalizing made delay s with
  | zero =>
    cases hattempt : attempt s with
    | mk outcome s' =>
      have houtcome : outcomes attempt s 0 = outcome := congrArg Prod.fst hattempt
      simp only [tryAgain, hattempt, alternating_one, houtcome]
      cases outcome with
      | ok a => exact .succeeded (by simp only; omega) hattempt
      | error e => exact .failed (by simp only; omega) hattempt (by simp only; omega)
  | succ again ih =>
    cases hattempt : attempt s with
    | mk outcome s' =>
      have houtcome : outcomes attempt s 0 = outcome := congrArg Prod.fst hattempt
      cases outcome with
      | ok a =>
        simp only [tryAgain_of_ok hattempt, alternating_one, houtcome]
        exact .succeeded (by simp only; omega) hattempt
      | error e =>
        have hnext : outcomes attempt s' = fun k => outcomes attempt s (k + 1) := by
          funext k
          rw [outcomes_add_one, hattempt]
        have hpos := (follows_tryAgain p attempt again (p.nextDelay delay) s').pos
        have hleft : made + 1 + (again + 1) = p.attempts := by omega
        have hlater := ih hleft (p.nextDelay delay) s'
        simp only [tryAgain_of_error hattempt, alternating_add_one _ _ hpos, houtcome]
        rw [hnext] at hlater
        exact .again (by simp only; omega) hattempt (by simp only; omega) hlater

theorem attempts_pos (p : RetryPolicy) : 0 < p.attempts :=
  Nat.le_max_left 1 p.maxAttempts

theorem attempts_lt (counted : p.maxAttempts < UInt32.size) : p.attempts < UInt32.size :=
  Nat.max_lt.2 ⟨by decide, counted⟩

/-- All attempts at an operation. -/
theorem follows_run (p : RetryPolicy) (attempt : σ → Except ε α × σ) (s : σ) :
    Follows p attempt (p.attempts - 1) p.initialDelay s (p.run attempt s) :=
  follows_tryAgain p attempt _ _ s

/-- The first success is the last attempt, if there are attempts enough. -/
theorem Follows.eq_of_first {again delay k : Nat} {t : Tried σ ε α} {a : α}
    (h : Follows p attempt again delay s t) (allowed : k ≤ again)
    (success : outcomes attempt s k = .ok a)
    (first : ∀ j < k, ∃ e, outcomes attempt s j = .error e) :
    t.attempts = k + 1 ∧ t.result = .ok a := by
  have hk : t.attempts = k + 1 := by
    apply Nat.le_antisymm
    · by_contra later
      obtain ⟨e, failure⟩ := h.failures k (by omega)
      rw [success] at failure
      cases failure
    · by_contra earlier
      obtain ⟨b, hb⟩ := h.success (by omega)
      obtain ⟨e, failure⟩ := first (t.attempts - 1) (by have := h.pos; omega)
      rw [h.result, failure] at hb
      cases hb
  refine ⟨hk, ?_⟩
  rw [h.result, hk, Nat.add_sub_cancel, success]

/-- Without a success all attempts are made that there are. -/
theorem Follows.eq_of_failures {again delay : Nat} {t : Tried σ ε α}
    (h : Follows p attempt again delay s t)
    (failures : ∀ k ≤ again, ∃ e, outcomes attempt s k = .error e) :
    t.attempts = again + 1 ∧ t.result = outcomes attempt s again := by
  have hall : t.attempts = again + 1 := by
    apply Nat.le_antisymm h.le
    by_contra earlier
    obtain ⟨a, ha⟩ := h.success (by omega)
    obtain ⟨e, failure⟩ := failures (t.attempts - 1) (by omega)
    rw [h.result, failure] at ha
    cases ha
  refine ⟨hall, ?_⟩
  rw [h.result, hall, Nat.add_sub_cancel]

/-- **Trying again makes exactly the attempts and the pauses that the policy says.** Whatever the
operation does, the loop comes to one end, and its counter does not overflow. It attempts the
operation up to the first success, whose result it returns, or as often as the policy allows, one
attempt at least, and returns the last failure then. Between two attempts it makes one pause, and
after the last none. The pauses are the initial one times the powers of the multiplier, with no
other bound than the limit. -/
theorem run_exact (p : RetryPolicy) (counted : p.maxAttempts < UInt32.size)
    (limit : p.maxDelay < UInt64.size) (attempt : σ → Except ε α × σ) (s : σ) :
    let t := p.run attempt s
    (∀ deeds ending, Runs p attempt ⟨0, p.initialDelay, s⟩ deeds ending ↔
        deeds = alternating (outcomes attempt s) p.nominal t.attempts ∧
          ending = .returned t.result t.state) ∧
      t.state = stateAfter attempt s t.attempts ∧
      t.delays = (List.range (t.attempts - 1)).map p.nominal ∧
      (∀ k < p.attempts, ∀ a, outcomes attempt s k = .ok a →
        (∀ j < k, ∃ e, outcomes attempt s j = .error e) →
          t.attempts = k + 1 ∧ t.result = .ok a) ∧
      ((∀ k < p.attempts, ∃ e, outcomes attempt s k = .error e) →
        t.attempts = p.attempts ∧ t.result = outcomes attempt s (p.attempts - 1)) := by
  intro t
  have hpos := p.attempts_pos
  have h : Follows p attempt (p.attempts - 1) p.initialDelay s t := follows_run p attempt s
  have hpauses : (fun k => p.nextDelay^[k] p.initialDelay) = p.nominal :=
    funext fun k => iterate_nextDelay_initialDelay limit k
  have hleft : 0 + (p.attempts - 1 + 1) = p.attempts := by omega
  have hruns := runs_tryAgain attempt (attempts_lt counted) hleft p.initialDelay s
  rw [hpauses] at hruns
  refine ⟨fun deeds ending => ⟨fun other => other.unique hruns, ?_⟩, h.state, ?_, ?_, ?_⟩
  · rintro ⟨rfl, rfl⟩
    exact hruns
  · rw [h.delays, ← List.range_map_iterate, hpauses]
  · intro k hk a success first
    exact h.eq_of_first (by omega) success first
  · intro failures
    have hall := h.eq_of_failures fun k hk => failures k (by omega)
    rwa [Nat.sub_add_cancel hpos] at hall

/-- The second product is beyond 64 bits and the limit is the greatest number of 64 bits; the third
attempt succeeds, and a fourth would have been allowed. -/
theorem saturated_run_exact :
    let p : RetryPolicy :=
      { maxAttempts := 4, initialDelay := 2 ^ 63, maxDelay := 2 ^ 64 - 1, multiplier := 3 }
    let s := (0, [false, false, true, false])
    p.maxAttempts < UInt32.size ∧ p.maxDelay < UInt64.size ∧
      (∀ deeds ending, Runs p scripted ⟨0, p.initialDelay, s⟩ deeds ending ↔
        deeds = [.attempt (.error 1), .pause (2 ^ 63), .attempt (.error 2),
            .pause (2 ^ 64 - 1), .attempt (.ok 3)] ∧
          ending = .returned (.ok 3) (3, [false])) ∧
      (p.run scripted s).delays = [2 ^ 63, 2 ^ 64 - 1] := by
  intro p s
  have counted : p.maxAttempts < UInt32.size := by decide
  have limit : p.maxDelay < UInt64.size := by decide
  obtain ⟨hruns, -, hdelays, -, -⟩ := run_exact p counted limit scripted s
  have hdeeds : alternating (outcomes scripted s) p.nominal (p.run scripted s).attempts =
      [.attempt (.error 1), .pause (2 ^ 63), .attempt (.error 2), .pause (2 ^ 64 - 1),
        .attempt (.ok 3)] := by
    decide +kernel
  have hresult : (p.run scripted s).result = .ok 3 := by decide +kernel
  have hstate : (p.run scripted s).state = (3, [false]) := by decide +kernel
  rw [hdeeds, hresult, hstate] at hruns
  refine ⟨counted, limit, hruns, ?_⟩
  rw [hdelays]
  decide +kernel

end Courier.RetryPolicy
