import Courier.Breaker.Counts
import Mathlib.Data.List.DropRight
import Mathlib.Data.List.Infix
import Mathlib.Order.Bounds.Basic

/-!
# Tallies and their history

The tallies of a generation are all that is kept of its calls and outcomes. They tell how often each
kind of event has happened, and how long the run of equal outcomes is that the history ends with, up
to the greatest number of 32 bits. A call that is let through neither begins nor ends a run.

## Main definitions

* `Counts.after`: the tallies of a history.
* `Counts.outcomes`, `Counts.latestRun`: the run of equal outcomes that a history ends with.
* `Counts.Tells`: tallies tell a history; `Counts.tells_after`.
* `Counts.Advances`: what an event does to tallies none of which wraps.
* `Counts.tallies_of_history`.
-/

namespace Courier.Counts

variable {events before : List Event} {e other : Event} {c : Counts}

/-- The tallies after events, from the first to the last. -/
def after (events : List Event) : Counts :=
  events.foldl apply {}

theorem after_append_singleton (events : List Event) (e : Event) :
    after (events ++ [e]) = (after events).apply e := by
  simp [after]

/-! ## The latest run -/

/-- The outcomes among events. -/
def outcomes (events : List Event) : List Event :=
  events.filter (· ≠ .request)

theorem outcomes_append_request (events : List Event) :
    outcomes (events ++ [.request]) = outcomes events := by
  simp [outcomes]

theorem outcomes_append_outcome (events : List Event) (he : e ≠ .request) :
    outcomes (events ++ [e]) = outcomes events ++ [e] := by
  simp [outcomes, he]

/-- How many outcomes of one kind stand in a row at the end of the outcomes. -/
def latestRun (e : Event) (events : List Event) : Nat :=
  ((outcomes events).rtakeWhile (· == e)).length

theorem latestRun_append_request (e : Event) (events : List Event) :
    latestRun e (events ++ [.request]) = latestRun e events := by
  rw [latestRun, outcomes_append_request, latestRun]

theorem latestRun_append_self (events : List Event) (he : e ≠ .request) :
    latestRun e (events ++ [e]) = latestRun e events + 1 := by
  rw [latestRun, outcomes_append_outcome events he,
    List.rtakeWhile_concat, if_pos (beq_self_eq_true e), List.length_append, latestRun]
  rfl

theorem latestRun_append_other (events : List Event) (he : e ≠ .request) (hne : e ≠ other) :
    latestRun other (events ++ [e]) = 0 := by
  rw [latestRun, outcomes_append_outcome events he,
    List.rtakeWhile_concat, if_neg (by simpa using hne)]
  rfl

/-- The run is as long as it can be. -/
theorem isGreatest_latestRun (e : Event) (events : List Event) :
    IsGreatest {n | List.replicate n e <:+ outcomes events} (latestRun e events) := by
  constructor
  · have hsame : (outcomes events).rtakeWhile (· == e) = List.replicate (latestRun e events) e :=
      List.eq_replicate_of_mem fun x hx => by simpa using List.mem_rtakeWhile_imp hx
    show List.replicate (latestRun e events) e <:+ outcomes events
    rw [← hsame]
    exact List.rtakeWhile_suffix _ _
  · rintro n ⟨start, hend⟩
    have hlong : ∀ k, k ≤ ((start ++ List.replicate k e).rtakeWhile (· == e)).length := by
      intro k
      induction k with
      | zero => exact Nat.zero_le _
      | succ k ih =>
        rw [List.replicate_succ', ← List.append_assoc,
          List.rtakeWhile_concat, if_pos (beq_self_eq_true e), List.length_append]
        exact Nat.succ_le_succ ih
    rw [latestRun, ← hend]
    exact hlong n

theorem latestRun_le_count (events : List Event) (he : e ≠ .request) :
    latestRun e events ≤ events.count e :=
  calc latestRun e events
    _ = (List.replicate (latestRun e events) e).count e := List.count_replicate_self.symm
    _ ≤ (outcomes events).count e := (isGreatest_latestRun e events).1.sublist.count_le e
    _ = events.count e := List.count_filter (by simpa using he)

/-- Not both kinds of outcomes stand at the end. -/
theorem latestRun_eq_zero_or (hne : e ≠ other) (events : List Event) :
    latestRun e events = 0 ∨ latestRun other events = 0 := by
  by_contra hboth
  obtain ⟨he, hother⟩ : 0 < latestRun e events ∧ 0 < latestRun other events := by omega
  have hlast : ∀ kind, 0 < latestRun kind events → ∃ start, start ++ [kind] = outcomes events := by
    intro kind hkind
    obtain ⟨start, hend⟩ := (isGreatest_latestRun kind events).1
    obtain ⟨n, hn⟩ := Nat.exists_eq_succ_of_ne_zero (Nat.ne_of_gt hkind)
    refine ⟨start ++ List.replicate n kind, ?_⟩
    rw [List.append_assoc, ← List.replicate_succ', ← hend, hn]
  obtain ⟨start, hstart⟩ := hlast e he
  obtain ⟨start', hstart'⟩ := hlast other hother
  have hsame := List.append_inj' (hstart.trans hstart'.symm) rfl
  exact hne (List.singleton_inj.1 hsame.2)

/-! ## What tallies tell -/

/-- The tallies are those of the events, up to the greatest tally. -/
structure Tells (c : Counts) (events : List Event) : Prop where
  requests : c.requests = min tallyLimit (events.count .request)
  totalSuccesses : c.totalSuccesses = min tallyLimit (events.count .success)
  totalFailures : c.totalFailures = min tallyLimit (events.count .failure)
  consecutiveSuccesses : c.consecutiveSuccesses = min tallyLimit (latestRun .success events)
  consecutiveFailures : c.consecutiveFailures = min tallyLimit (latestRun .failure events)

theorem tallyNext_min (n : Nat) : tallyNext (min tallyLimit n) = min tallyLimit (n + 1) := by
  unfold tallyNext
  omega

/-- One more event is told by the tallies after it. -/
theorem Tells.apply (h : Tells c events) (e : Event) : Tells (c.apply e) (events ++ [e]) := by
  have hlimit : min tallyLimit 0 = 0 := Nat.min_zero _
  cases e with
  | request =>
    refine ⟨?_, ?_, ?_, ?_, ?_⟩
    · simp [Counts.apply, onRequest, h.requests, tallyNext_min]
    · simp [Counts.apply, onRequest, h.totalSuccesses]
    · simp [Counts.apply, onRequest, h.totalFailures]
    · rw [latestRun_append_request]
      exact h.consecutiveSuccesses
    · rw [latestRun_append_request]
      exact h.consecutiveFailures
  | success =>
    refine ⟨?_, ?_, ?_, ?_, ?_⟩
    · simp [Counts.apply, onSuccess, h.requests]
    · simp [Counts.apply, onSuccess, h.totalSuccesses, tallyNext_min]
    · simp [Counts.apply, onSuccess, h.totalFailures]
    · rw [latestRun_append_self events (by decide), ← tallyNext_min, ← h.consecutiveSuccesses]
      rfl
    · rw [latestRun_append_other events (by decide) (by decide), hlimit]
      rfl
  | failure =>
    refine ⟨?_, ?_, ?_, ?_, ?_⟩
    · simp [Counts.apply, onFailure, h.requests]
    · simp [Counts.apply, onFailure, h.totalSuccesses]
    · simp [Counts.apply, onFailure, h.totalFailures, tallyNext_min]
    · rw [latestRun_append_other events (by decide) (by decide), hlimit]
      rfl
    · rw [latestRun_append_self events (by decide), ← tallyNext_min, ← h.consecutiveFailures]
      rfl

theorem tells_after (events : List Event) : Tells (after events) events := by
  induction events using List.reverseRecOn with
  | nil => exact ⟨rfl, rfl, rfl, rfl, rfl⟩
  | append_singleton events e ih =>
    rw [after_append_singleton]
    exact ih.apply e

/-- No run is longer than there are outcomes of its kind. -/
theorem Tells.runs_le (h : Tells c events) :
    c.consecutiveSuccesses ≤ c.totalSuccesses ∧ c.consecutiveFailures ≤ c.totalFailures := by
  have hsuccesses := latestRun_le_count events (e := .success) (by decide)
  have hfailures := latestRun_le_count events (e := .failure) (by decide)
  rw [h.consecutiveSuccesses, h.totalSuccesses, h.consecutiveFailures, h.totalFailures]
  omega

/-- Tallies of no calls and no outcomes are empty. -/
theorem Tells.eq_empty (h : Tells c events) (requests : c.requests = 0)
    (outcomes : c.totalSuccesses + c.totalFailures = 0) : c = {} := by
  obtain ⟨hsuccesses, hfailures⟩ := h.runs_le
  obtain ⟨requests, totalSuccesses, totalFailures, consecutiveSuccesses, consecutiveFailures⟩ := c
  simp only [Counts.mk.injEq] at *
  omega

/-- An outcome ends the run of the other kind. -/
theorem Tells.one_run (h : Tells c events) :
    ¬ (0 < c.consecutiveSuccesses ∧ 0 < c.consecutiveFailures) := by
  have hne : Event.success ≠ .failure := by decide
  have hruns := latestRun_eq_zero_or hne events
  rw [h.consecutiveSuccesses, h.consecutiveFailures]
  omega

/-! ## Steps -/

/-- Every tally fits into 32 bits. -/
structure Fits (c : Counts) : Prop where
  requests : c.requests ≤ tallyLimit
  totalSuccesses : c.totalSuccesses ≤ tallyLimit
  totalFailures : c.totalFailures ≤ tallyLimit
  consecutiveSuccesses : c.consecutiveSuccesses ≤ tallyLimit
  consecutiveFailures : c.consecutiveFailures ≤ tallyLimit

theorem Tells.fits (h : Tells c events) : Fits c where
  requests := h.requests.trans_le (Nat.min_le_left ..)
  totalSuccesses := h.totalSuccesses.trans_le (Nat.min_le_left ..)
  totalFailures := h.totalFailures.trans_le (Nat.min_le_left ..)
  consecutiveSuccesses := h.consecutiveSuccesses.trans_le (Nat.min_le_left ..)
  consecutiveFailures := h.consecutiveFailures.trans_le (Nat.min_le_left ..)

/-- An event leads from tallies to tallies none of which has wrapped: what is counted over the whole
history has not become less, and a run has become shorter only by an outcome of the other kind. -/
structure Advances (c : Counts) (e : Event) (d : Counts) : Prop where
  fits : Fits d
  requests : c.requests ≤ d.requests
  totalSuccesses : c.totalSuccesses ≤ d.totalSuccesses
  totalFailures : c.totalFailures ≤ d.totalFailures
  consecutiveSuccesses : e ≠ .failure → c.consecutiveSuccesses ≤ d.consecutiveSuccesses
  consecutiveFailures : e ≠ .success → c.consecutiveFailures ≤ d.consecutiveFailures

theorem Tells.advances (h : Tells c events) (e : Event) : Advances c e (c.apply e) := by
  have hfits := h.fits
  have hnext := (h.apply e).fits
  cases e with
  | request =>
    exact ⟨hnext, le_tallyNext hfits.requests, le_rfl, le_rfl, fun _ => le_rfl, fun _ => le_rfl⟩
  | success =>
    exact ⟨hnext, le_rfl, le_tallyNext hfits.totalSuccesses, le_rfl,
      fun _ => le_tallyNext hfits.consecutiveSuccesses, fun hne => absurd rfl hne⟩
  | failure =>
    exact ⟨hnext, le_rfl, le_rfl, le_tallyNext hfits.totalFailures, fun hne => absurd rfl hne,
      fun _ => le_tallyNext hfits.consecutiveFailures⟩

/-! ## Shares -/

/-- Every outcome is that of a call that was let through before it. -/
def IsAnswering (events : List Event) : Prop :=
  ∀ before, before <+: events → (outcomes before).length ≤ before.count .request

theorem count_failure_le (events : List Event) :
    events.count .failure ≤ (outcomes events).length := by
  have hsame : (outcomes events).count .failure = events.count .failure :=
    List.count_filter (by decide)
  rw [← hsame]
  exact List.count_le_length

/-- No more calls have failed than were let through. -/
theorem Tells.totalFailures_le (h : Tells c events) (answering : IsAnswering events) :
    c.totalFailures ≤ c.requests := by
  have hfailures := (count_failure_le events).trans (answering events (List.prefix_refl _))
  rw [h.totalFailures, h.requests]
  omega

/-- At most all calls have failed. -/
theorem failureRatio_le_one (h : c.totalFailures ≤ c.requests) :
    c.failureRatio.le (.ofNat 1) := by
  rw [failureRatio]
  split
  · decide +kernel
  · next hsome => exact Binary64.ofRatio_le_one h (Nat.pos_of_ne_zero hsome)

/-- **Tallies are those of their history.** After any events, calls and outcomes are counted up to
the greatest number of 32 bits, and so is the run of equal outcomes at the end, calls left out; only
one kind of outcome has such a run, and no event makes a tally wrap. If outcomes are those of calls
that were let through before them, no more calls have failed than were let through, and their share
is at most one. -/
theorem tallies_of_history (events : List Event) :
    (after events).Tells events ∧
    (∀ e, IsGreatest {n | List.replicate n e <:+ outcomes events} (latestRun e events)) ∧
    ¬ (0 < (after events).consecutiveSuccesses ∧ 0 < (after events).consecutiveFailures) ∧
    (∀ before e, before ++ [e] <+: events →
      Advances (after before) e (after (before ++ [e]))) ∧
    (IsAnswering events → (after events).totalFailures ≤ (after events).requests ∧
      (after events).failureRatio.le (.ofNat 1)) := by
  have htells := tells_after events
  refine ⟨htells, fun e => isGreatest_latestRun e events, htells.one_run, ?_, fun answering => ?_⟩
  · intro before e _
    rw [after_append_singleton]
    exact (tells_after before).advances e
  · have hle := htells.totalFailures_le answering
    exact ⟨hle, failureRatio_le_one hle⟩

/-- Three of four calls have come out, the last two of them badly. -/
theorem two_failures_at_the_end :
    ∃ events, events = [.request, .success, .request, .request, .failure, .request, .failure] ∧
      IsAnswering events ∧ (after events).Tells events ∧ latestRun .failure events = 2 ∧
      (after events).totalFailures ≤ (after events).requests ∧
      (after events).failureRatio.le (.ofNat 1) := by
  let events : List Event :=
    [.request, .success, .request, .request, .failure, .request, .failure]
  have hall : ∀ before ∈ events.inits, (outcomes before).length ≤ before.count .request := by
    decide
  have hanswering : IsAnswering events := fun before hbefore =>
    hall before ((List.mem_inits before events).2 hbefore)
  obtain ⟨htells, -, -, -, hshare⟩ := tallies_of_history events
  exact ⟨events, rfl, hanswering, htells, by decide, hshare hanswering⟩

end Courier.Counts
