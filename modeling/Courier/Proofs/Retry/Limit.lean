import Courier.Proofs.Retry.Attempts
import Courier.Proofs.Settings

/-!
# The limit of the pauses

All pauses but the first are within the limit of a policy. The first is as it is set, and nothing
keeps it within the limit, not the loop and not the settings: every policy whose numbers fit into
their words is that of some accepted settings.

## Main definitions

* `RetryPolicy.Fits`: the policies that can be set.
* `RetryPolicy.KeepsLimit`: no pause is beyond the limit.

## Main results

* `RetryPolicy.fits_iff_exists_load`: every policy that fits can be set.
* `RetryPolicy.keepsLimit_iff`, `RetryPolicy.le_of_mem_tail_delays`: pauses within the limit.
* `RetryPolicy.only_first_pause_unlimited`.
-/

namespace Courier.RetryPolicy

open Settings (load lowerCase schema)

variable {σ ε α : Type} {p : RetryPolicy} {attempt : σ → Except ε α × σ} {s : σ}

/-- The numbers of a policy fit into the words that settings keep them in. -/
structure Fits (p : RetryPolicy) : Prop where
  maxAttempts : p.maxAttempts ≤ UInt32.size - 1
  initialDelay : p.initialDelay ≤ UInt64.size - 1
  maxDelay : p.maxDelay ≤ UInt64.size - 1
  multiplier : p.multiplier ≤ UInt64.size - 1

/-- Whatever the operation is and does, no pause is beyond the limit. -/
def KeepsLimit (p : RetryPolicy) : Prop :=
  ∀ {σ ε α : Type} (attempt : σ → Except ε α × σ) (s : σ),
    ∀ delay ∈ (p.run attempt s).delays, delay ≤ p.maxDelay

/-! ## Policies that can be set -/

theorem fits_of_accepted {s : Settings} (h : s.Accepted) : s.storeRetry.Fits := by
  obtain ⟨assigned, hadmitted, rfl⟩ := h.read
  exact {
    maxAttempts := hadmitted.getD_le (by decide +kernel) (by decide)
    initialDelay := hadmitted.getD_le (by decide +kernel) (by decide)
    maxDelay := hadmitted.getD_le (by decide +kernel) (by decide)
    multiplier := hadmitted.getD_le (by decide +kernel) (by decide) }

/-- The variables that set a policy, for a service that delivers to the log. -/
def given (p : RetryPolicy) : List (String × String) :=
  let digits (n : Nat) : String := String.ofList (Nat.toDigits 10 n)
  [("DELIVERY_SINK", "log"), ("CACHE_RETRY_ATTEMPTS", digits p.maxAttempts),
    ("CACHE_RETRY_INITIAL_DELAY_MS", digits p.initialDelay),
    ("CACHE_RETRY_MAX_DELAY_MS", digits p.maxDelay),
    ("CACHE_RETRY_BACKOFF_MULTIPLIER", digits p.multiplier)]

/-- The values that the variables set. -/
def assigned (p : RetryPolicy) : List (String × Settings.Assigned) :=
  [("cache_retry_backoff_multiplier", .natural p.multiplier),
    ("cache_retry_max_delay_ms", .natural p.maxDelay),
    ("cache_retry_initial_delay_ms", .natural p.initialDelay),
    ("cache_retry_attempts", .natural p.maxAttempts), ("delivery_sink", .sink .log)]

theorem readVariables_given (h : p.Fits) : Settings.readVariables [] p.given = .ok p.assigned := by
  have hsink (rest : List (String × String)) :
      Settings.readVariables [] (("DELIVERY_SINK", "log") :: rest) =
        Settings.readVariables [("delivery_sink", .sink .log)] rest := by
    have hname : lowerCase "DELIVERY_SINK" = "delivery_sink" := by decide +kernel
    have hkind : schema.lookup "delivery_sink" = some .sink := by decide +kernel
    have hvalue : Settings.Kind.sink.read "DELIVERY_SINK" "log" = .ok (.sink .log) := by
      decide +kernel
    rw [Settings.readVariables, hname]
    simp only [hkind, hvalue, List.lookup_nil, Option.isSome_none, Bool.false_eq_true, if_false]
  have hattempts : lowerCase "CACHE_RETRY_ATTEMPTS" = "cache_retry_attempts" := by decide +kernel
  have hinitial : lowerCase "CACHE_RETRY_INITIAL_DELAY_MS" = "cache_retry_initial_delay_ms" := by
    decide +kernel
  have hlimit : lowerCase "CACHE_RETRY_MAX_DELAY_MS" = "cache_retry_max_delay_ms" := by
    decide +kernel
  have hmultiplier : lowerCase "CACHE_RETRY_BACKOFF_MULTIPLIER" =
      "cache_retry_backoff_multiplier" := by
    decide +kernel
  rw [given, hsink,
    Settings.readVariables_natural hattempts (by decide +kernel) rfl h.maxAttempts,
    Settings.readVariables_natural hinitial (by decide +kernel) rfl h.initialDelay,
    Settings.readVariables_natural hlimit (by decide +kernel) rfl h.maxDelay,
    Settings.readVariables_natural hmultiplier (by decide +kernel) rfl h.multiplier]
  rfl

/-- A policy can be set just if its numbers fit into their words: nothing else is asked of it. -/
theorem fits_iff_exists_load :
    p.Fits ↔ ∃ given s, load given = .ok s ∧ s.storeRetry = p := by
  constructor
  · intro h
    refine ⟨p.given, Settings.ofAssigned p.assigned, ?_, rfl⟩
    have hvalid : (Settings.ofAssigned p.assigned).validate = .ok () :=
      Settings.validate_of_log rfl rfl rfl rfl rfl
    simp only [load, readVariables_given h, hvalid]
  · rintro ⟨given, s, hload, rfl⟩
    exact fits_of_accepted (Settings.accepted_of_load hload)

/-! ## Pauses within the limit -/

/-- There is no pause with one attempt alone. Else the first pause is the given one, and the others
are within the limit. -/
theorem Follows.delays_cases {again delay : Nat} {t : Tried σ ε α}
    (h : Follows p attempt again delay s t) :
    (t.attempts = 1 ∧ t.delays = []) ∨
      (1 < t.attempts ∧
        ∃ later, t.delays = delay :: later ∧ ∀ pause ∈ later, pause ≤ p.maxDelay) := by
  have hpos := h.pos
  have hdelays := h.delays
  cases hn : t.attempts - 1 with
  | zero =>
    rw [hn, List.iterate] at hdelays
    exact .inl ⟨by omega, hdelays⟩
  | succ n =>
    rw [hn, List.iterate] at hdelays
    refine .inr ⟨by omega, _, hdelays, ?_⟩
    intro pause hpause
    obtain ⟨k, -, rfl⟩ := List.mem_iterate.1 hpause
    rw [← Function.iterate_succ_apply, Function.iterate_succ_apply']
    exact p.nextDelay_le _

theorem le_of_mem_tail_delays (p : RetryPolicy) (attempt : σ → Except ε α × σ) (s : σ) :
    ∀ delay ∈ (p.run attempt s).delays.tail, delay ≤ p.maxDelay := by
  intro delay hdelay
  rcases (follows_run p attempt s).delays_cases with ⟨-, hnone⟩ | ⟨-, later, hdelays, hlater⟩
  · rw [hnone] at hdelay
    cases hdelay
  · rw [hdelays] at hdelay
    exact hlater delay hdelay

/-- The limit is kept just if there is no first pause or it is within the limit. -/
theorem keepsLimit_iff : p.KeepsLimit ↔ p.maxAttempts ≤ 1 ∨ p.initialDelay ≤ p.maxDelay := by
  constructor
  · intro keeps
    by_contra beyond
    -- an operation that always fails comes to the first pause
    let attempt : Unit → Except Unit Unit × Unit := fun _ => (.error (), ())
    have h : Follows p attempt (p.attempts - 1) p.initialDelay () (p.run attempt ()) :=
      follows_run p attempt ()
    have hall := (h.eq_of_failures fun k _ => ⟨(), rfl⟩).1
    have hattempts : p.maxAttempts ≤ p.attempts := Nat.le_max_right 1 p.maxAttempts
    rcases h.delays_cases with ⟨hone, -⟩ | ⟨-, later, hdelays, -⟩
    · omega
    · have hfirst := keeps attempt () p.initialDelay (by rw [hdelays]; exact List.mem_cons_self)
      omega
  · intro kept σ ε α attempt s delay hdelay
    have h := follows_run p attempt s
    rcases h.delays_cases with ⟨-, hnone⟩ | ⟨more, later, hdelays, hlater⟩
    · rw [hnone] at hdelay
      cases hdelay
    · rw [hdelays] at hdelay
      rcases List.mem_cons.1 hdelay with rfl | hdelay
      · have hle := h.le
        simp only [attempts] at hle
        omega
      · exact hlater delay hdelay

/-- **Only the first pause can be beyond the limit.** Settings are accepted with every policy whose
numbers fit into their words. The policies that keep the limit, whatever the operation does, are
those with one attempt alone and those whose initial pause is within the limit; all pauses but the
first are within it in any case. -/
theorem only_first_pause_unlimited (p : RetryPolicy) :
    (p.Fits ↔ ∃ given s, load given = .ok s ∧ s.storeRetry = p) ∧
      (p.KeepsLimit ↔ p.maxAttempts ≤ 1 ∨ p.initialDelay ≤ p.maxDelay) ∧
      ∀ {σ ε α : Type} (attempt : σ → Except ε α × σ) (s : σ),
        ∀ delay ∈ (p.run attempt s).delays.tail, delay ≤ p.maxDelay := by
  refine ⟨fits_iff_exists_load, keepsLimit_iff, ?_⟩
  intro σ ε α attempt s
  exact p.le_of_mem_tail_delays attempt s

/-- Settings are accepted with an initial pause of four times the limit. An operation that fails
three times is tried again after that pause first, and then after the limit. -/
theorem accepted_and_beyond_limit :
    ∃ s, load [("DELIVERY_SINK", "log"), ("CACHE_RETRY_INITIAL_DELAY_MS", "1024"),
        ("CACHE_RETRY_MAX_DELAY_MS", "256")] = .ok s ∧
      s.storeRetry.maxDelay = 256 ∧
      (s.storeRetry.run scripted (0, [false])).delays = [1024, 256] ∧
      ¬ s.storeRetry.KeepsLimit := by
  have hdelays : (load [("DELIVERY_SINK", "log"), ("CACHE_RETRY_INITIAL_DELAY_MS", "1024"),
      ("CACHE_RETRY_MAX_DELAY_MS", "256")]).toOption.any fun s => s.storeRetry.maxDelay = 256 ∧
        (s.storeRetry.run scripted (0, [false])).delays = [1024, 256] := by
    decide +kernel
  obtain ⟨s, hload, hdelays⟩ := Settings.exists_of_any_load hdelays
  obtain ⟨hlimit, hdelays⟩ := of_decide_eq_true hdelays
  refine ⟨s, hload, hlimit, hdelays, fun keeps => ?_⟩
  have hfirst := keeps scripted (0, [false]) 1024 (by rw [hdelays]; exact List.mem_cons_self)
  omega

end Courier.RetryPolicy
