import Courier.Proofs.Breaker.Chronicle
import Courier.Proofs.Breaker.Tallies

/-!
# The accounts of a breaker

The tallies of a breaker are numbers and nothing else. The chronicle says what they are numbers of:
the requests are the calls that the current generation has let through, and the outcomes are those
that it has counted. A call that it has let through has either come out, and then it has been
counted, or it is on its way; so whatever the tallies lack of the requests is on its way.

This is so whatever comes out and however late. That the outcomes are those of the generation's own
calls and of no others rests on the numbers of the generations, and holds until these come round.

## Main definitions

* `Breaker.Chronicle.IsHistory`: what the tallies are tallies of.
* `Breaker.Chronicle.Upright`: what the tallies and the expiry have to do with the state.
* `Breaker.Chronicle.Accounted`: every call of the generation has come out or is on its way.

## Main results

* `Breaker.Chronicle.Reachable.upright`, `Breaker.Chronicle.Reachable.accounted`: both always hold.
* `Breaker.Chronicle.tallies_and_expiry`: what follows for each of the three states.
-/

namespace Courier

/-- An outcome, as something that happens to the tallies. -/
def Counts.Event.ofOutcome (succeeded : Bool) : Counts.Event :=
  if succeeded then .success else .failure

theorem Counts.onOutcome_eq_apply (c : Counts) (succeeded : Bool) :
    c.onOutcome succeeded = c.apply (.ofOutcome succeeded) := by
  cases succeeded <;> rfl

namespace Breaker.Chronicle

variable {config : Config} {w w' : Chronicle} {call : Admission} {succeeded : Bool}

/-! ## Tallies and expiry -/

/-- Every outcome is a success or a failure. -/
theorem length_outcomes (w : Chronicle) :
    w.outcomes.length = w.outcomes.countP (·.2) + w.outcomes.countP (!·.2) := by
  simpa using w.outcomes.length_eq_countP_add_countP (·.2)

/-- As many of the events are requests as calls have been let through, and as many are outcomes of
either kind as have been counted. -/
structure IsHistory (admitted : List Admission) (outcomes : List (Admission × Bool))
    (events : List Counts.Event) : Prop where
  requests : events.count .request = admitted.length
  successes : events.count .success = outcomes.countP (·.2)
  failures : events.count .failure = outcomes.countP (!·.2)

namespace IsHistory

variable {admitted : List Admission} {outcomes : List (Admission × Bool)}
  {events : List Counts.Event}

theorem request (h : IsHistory admitted outcomes events) (call : Admission) :
    IsHistory (call :: admitted) outcomes (events ++ [.request]) where
  requests := by simp [h.requests]
  successes := by simp [h.successes]
  failures := by simp [h.failures]

theorem outcome (h : IsHistory admitted outcomes events) (call : Admission) (succeeded : Bool) :
    IsHistory admitted (outcomes ++ [(call, succeeded)]) (events ++ [.ofOutcome succeeded]) where
  requests := by cases succeeded <;> simp [h.requests, Counts.Event.ofOutcome]
  successes := by cases succeeded <;> simp [h.successes, Counts.Event.ofOutcome]
  failures := by cases succeeded <;> simp [h.failures, Counts.Event.ofOutcome]

end IsHistory

/-- What the tallies and the expiry have to do with the state. If a half-open breaker gives out
trials at all, none of them has failed and not all of them have succeeded yet. -/
structure Upright (config : Config) (w : Chronicle) : Prop where
  expiry : w.breaker.expiry = expiryOf config w.since w.breaker.state
  told : ∃ events, IsHistory w.admitted w.outcomes events ∧ w.breaker.counts.Tells events
  opened : w.breaker.state = .opened → w.admitted = []
  halfOpen : 0 < config.halfOpenRequests → w.breaker.state = .halfOpen →
    w.breaker.counts.totalFailures = 0 ∧
    w.breaker.counts.requests ≤ config.halfOpenRequests ∧
    w.breaker.counts.consecutiveSuccesses = w.breaker.counts.totalSuccesses ∧
    w.breaker.counts.totalSuccesses < config.halfOpenRequests

theorem told_of_empty (counts : w.breaker.counts = {}) (admitted : w.admitted = [])
    (outcomes : w.outcomes = []) :
    ∃ events, IsHistory w.admitted w.outcomes events ∧ w.breaker.counts.Tells events := by
  rw [counts, admitted, outcomes]
  exact ⟨[], ⟨rfl, rfl, rfl⟩, Counts.tells_after []⟩

namespace Upright

theorem start (config : Config) (now : Nat) : Upright config (Chronicle.start config now) where
  expiry := rfl
  told := told_of_empty rfl rfl rfl
  opened := fun _ => rfl
  halfOpen := by simp [Chronicle.start, Breaker.start]

/-- Every generation begins so. -/
theorem renewed (state : State) : Upright config (w.renewed config state) where
  expiry := by cases state <;> rfl
  told := told_of_empty rfl rfl rfl
  opened := fun _ => rfl
  halfOpen := fun trials _ => ⟨rfl, Nat.zero_le _, rfl, trials⟩

theorem letThrough (h : Upright config w) (state : w.breaker.state ≠ .opened)
    (room : w.breaker.state = .halfOpen →
      w.breaker.counts.requests < config.halfOpenRequests) : Upright config w.letThrough where
  expiry := h.expiry
  told := by
    obtain ⟨events, hhistory, htells⟩ := h.told
    refine ⟨_, ?_, htells.apply .request⟩
    rw [letThrough_admitted, letThrough_outcomes]
    exact hhistory.request _
  opened := fun hopened => absurd hopened state
  halfOpen := by
    intro trials hhalf
    obtain ⟨hfailures, -, hstreak, hmore⟩ := h.halfOpen trials hhalf
    exact ⟨hfailures, Nat.le_trans (Nat.min_le_right _ _) (room hhalf), hstreak, hmore⟩

/-- The outcome of a call with another number is not counted. -/
theorem stale (h : Upright config w) (other : w.breaker.generation ≠ call.generation)
    (succeeded : Bool) : Upright config (w.record call succeeded) where
  expiry := h.expiry
  told := by
    rw [record_outcomes_of_ne other]
    exact h.told
  opened := h.opened
  halfOpen := h.halfOpen

/-- The outcome of a call that ends nothing. Of a trial that is a success, and not yet the last. -/
theorem counted (h : Upright config w) (current : w.breaker.generation = call.generation)
    (trial : w.breaker.state = .halfOpen → succeeded ∧
      (w.breaker.counts.onOutcome succeeded).consecutiveSuccesses < config.halfOpenRequests) :
    Upright config
      ((w.record call succeeded).withCounts (w.breaker.counts.onOutcome succeeded)) where
  expiry := h.expiry
  told := by
    obtain ⟨events, hhistory, htells⟩ := h.told
    refine ⟨events ++ [.ofOutcome succeeded], ?_, ?_⟩
    · change IsHistory w.admitted (w.record call succeeded).outcomes _
      rw [record_outcomes_of_eq current]
      exact hhistory.outcome call succeeded
    · rw [withCounts_breaker, withCounts_counts, Counts.onOutcome_eq_apply]
      exact htells.apply _
  opened := h.opened
  halfOpen := by
    intro trials hhalf
    obtain ⟨rfl, hmore⟩ := trial hhalf
    obtain ⟨hfailures, hroom, hstreak, -⟩ := h.halfOpen trials hhalf
    have hnext : tallyNext w.breaker.counts.consecutiveSuccesses =
        tallyNext w.breaker.counts.totalSuccesses := by rw [hstreak]
    refine ⟨hfailures, hroom, hnext, ?_⟩
    change tallyNext w.breaker.counts.totalSuccesses < config.halfOpenRequests
    rw [← hnext]
    exact hmore

theorem move (h : Upright config w) (hmove : Move config w w') : Upright config w' := by
  cases hmove with
  | roll expired closed => exact .renewed .closed
  | cool expired opened => exact .renewed .halfOpen
  | letIn state room => exact h.letThrough state room
  | stale pending other => exact h.stale other _
  | counted pending current calm trial => exact h.counted current trial
  | ended pending current reason => exact .renewed _
  | pass span => exact { h with }

end Upright

theorem Reachable.upright (h : Reachable config w) : Upright config w :=
  h.preserves (Upright.start config) fun hmove hbefore => hbefore.move hmove

/-! ## Calls -/

/-- Every call of the current generation has come out and been counted, or is on its way. Whatever
else it has counted is of calls that have been on their way for as many generations as there are
numbers. -/
structure Accounted (w : Chronicle) : Prop extends Numbered w where
  accounted : w.admitted.Perm
    ((w.outcomes.map (·.1)).filter w.isOwn ++ w.calls.filter w.isOwn)
  counted : ∀ o ∈ w.outcomes,
    o.1.place = w.ended.length ∨ o.1.place + UInt64.size ≤ w.ended.length

namespace Accounted

theorem start (config : Config) (now : Nat) : Accounted (Chronicle.start config now) where
  toNumbered := Numbered.start config now
  accounted := .refl _
  counted := by simp [Chronicle.start]

/-- None of the calls on their way belongs to a generation that begins. -/
theorem renewed (numbered : Numbered w) (config : Config) (state : State) :
    Accounted (w.renewed config state) where
  toNumbered := numbered.renewed state
  accounted := by
    have hnone : w.calls.filter (w.renewed config state).isOwn = [] := by
      refine List.filter_eq_nil_iff.2 fun call pending own => ?_
      have hplace : call.place = w.ended.length + 1 := of_decide_eq_true own
      have hpast := numbered.past call pending
      omega
    rw [renewed_calls, hnone]
    exact .refl _
  counted := by simp [Chronicle.renewed]

theorem letThrough (h : Accounted w) : Accounted w.letThrough where
  toNumbered := h.toNumbered.letThrough
  accounted := by
    rw [letThrough_admitted, letThrough_outcomes, letThrough_calls, letThrough_isOwn,
      List.filter_cons_of_pos (isOwn_ticket _)]
    exact (h.accounted.cons _).trans List.perm_middle.symm
  counted := h.counted

theorem withCounts (h : Accounted w) (counts : Counts) :
    Accounted (w.withCounts counts) :=
  ⟨h.toNumbered.withCounts counts, h.accounted, h.counted⟩

/-- A call that comes out is no longer on its way, and if it is one of the generation's own it has
been counted. -/
theorem record (h : Accounted w) (pending : call ∈ w.calls) (succeeded : Bool) :
    Accounted (w.record call succeeded) where
  toNumbered := h.toNumbered.record call succeeded
  accounted := by
    have hperm := (List.perm_cons_erase pending).filter w.isOwn
    rw [record_admitted, record_isOwn, record_calls]
    by_cases own : w.isOwn call
    · have current := h.generation_of_isOwn pending own
      rw [List.filter_cons_of_pos own] at hperm
      rw [record_outcomes_of_eq current, List.map_append, List.filter_append, List.map_singleton,
        List.filter_cons_of_pos own, List.filter_nil, List.append_assoc]
      exact h.accounted.trans (hperm.append_left _)
    · have hsame : ((w.record call succeeded).outcomes.map (·.1)).filter w.isOwn =
          (w.outcomes.map (·.1)).filter w.isOwn := by
        unfold Chronicle.record
        dsimp only
        split
        · simp [own]
        · rfl
      rw [List.filter_cons_of_neg own] at hperm
      rw [hsame]
      exact h.accounted.trans (hperm.append_left _)
  counted := by
    by_cases current : w.breaker.generation = call.generation
    · rw [record_outcomes_of_eq current, List.forall_mem_append]
      exact ⟨h.counted, List.forall_mem_singleton.2 (h.place_eq_or_le pending current)⟩
    · rw [record_outcomes_of_ne current]
      exact h.counted

theorem move (h : Accounted w) (hmove : Move config w w') : Accounted w' := by
  cases hmove with
  | roll expired closed => exact .renewed h.toNumbered config .closed
  | cool expired opened => exact .renewed h.toNumbered config .halfOpen
  | letIn state room => exact h.letThrough
  | stale pending other => exact h.record pending _
  | counted pending current calm trial => exact (h.record pending _).withCounts _
  | ended pending current reason => exact .renewed (h.toNumbered.record _ _) config _
  | pass span => exact { h with }

/-- Each of the generation's own calls is on its way or among the outcomes. -/
theorem length_admitted (h : Accounted w) :
    w.admitted.length = w.calls.countP w.isOwn + w.outcomes.countP (w.isOwn ·.1) := by
  have hlength := h.accounted.length_eq
  rw [List.length_append, ← List.countP_eq_length_filter, ← List.countP_eq_length_filter,
    List.countP_map] at hlength
  rw [hlength, Nat.add_comm]
  rfl

/-- Until the numbers come round all outcomes are of the generation's own calls. -/
theorem isOwn_of_mem (h : Accounted w) (numbers : w.ended.length < UInt64.size) :
    ∀ o ∈ w.outcomes, w.isOwn o.1 := by
  intro o mem
  have hplace := h.counted o mem
  exact decide_eq_true (by omega)

/-- Until then the outcomes and the calls on their way that have the current number make up for all
the calls that have been let through. -/
theorem length_admitted_of_lt (h : Accounted w) (numbers : w.ended.length < UInt64.size) :
    w.admitted.length =
      w.calls.countP (·.generation = w.breaker.generation) + w.outcomes.length := by
  have hcalls : w.calls.countP w.isOwn = w.calls.countP (·.generation = w.breaker.generation) := by
    refine List.countP_congr fun call pending => ?_
    rw [h.isOwn_iff numbers pending, eq_comm, decide_eq_true_iff]
  have houtcomes : w.outcomes.countP (w.isOwn ·.1) = w.outcomes.length :=
    List.countP_eq_length.2 (h.isOwn_of_mem numbers)
  rw [h.length_admitted, hcalls, houtcomes]

end Accounted

theorem Reachable.accounted (h : Reachable config w) : Accounted w :=
  h.preserves (Accounted.start config) fun hmove hbefore => hbefore.move hmove

/-! ## The three states -/

/-- The tallies are those of the generation's own calls, as long as these are not too many to be
counted. -/
theorem Upright.tallied (h : Upright config w) (accounted : Accounted w)
    (numbers : w.ended.length < UInt64.size) (few : w.admitted.length < UInt32.size) :
    w.breaker.counts.requests = w.admitted.length ∧
      w.breaker.counts.totalSuccesses = w.outcomes.countP (·.2) ∧
      w.breaker.counts.totalFailures = w.outcomes.countP (!·.2) := by
  obtain ⟨events, hhistory, htells⟩ := h.told
  have hlength := accounted.length_admitted_of_lt numbers
  have hsuccesses : w.outcomes.countP (·.2) ≤ w.outcomes.length := List.countP_le_length
  have hfailures : w.outcomes.countP (!·.2) ≤ w.outcomes.length := List.countP_le_length
  rw [htells.requests, htells.totalSuccesses, htells.totalFailures, hhistory.requests,
    hhistory.successes, hhistory.failures]
  unfold tallyLimit
  omega

/-- In every state the tallies account for exactly the calls of the generation that have come out
or are on their way, and the expiry is what the state and the beginning of its time say. This holds
while the numbers of the generations have not come round and the current one has not let too many
calls through to be counted. -/
theorem tallies_and_expiry (trials : 1 ≤ config.halfOpenRequests) (h : Reachable config w)
    (numbers : w.ended.length < UInt64.size) (few : w.admitted.length < UInt32.size) :
    (w.breaker.counts.totalSuccesses + w.breaker.counts.totalFailures ≤
        w.breaker.counts.requests ∧
      w.breaker.counts.requests - w.breaker.counts.totalSuccesses -
        w.breaker.counts.totalFailures =
          w.calls.countP (·.generation = w.breaker.generation)) ∧
    (w.breaker.counts.consecutiveSuccesses ≤ w.breaker.counts.totalSuccesses ∧
      w.breaker.counts.consecutiveFailures ≤ w.breaker.counts.totalFailures ∧
      ¬ (0 < w.breaker.counts.consecutiveSuccesses ∧
        0 < w.breaker.counts.consecutiveFailures)) ∧
    (w.breaker.state = .opened → w.breaker.counts = {} ∧
      (∀ call ∈ w.calls, call.generation ≠ w.breaker.generation) ∧
      w.breaker.expiry = some (w.since + config.cooldown)) ∧
    (w.breaker.state = .halfOpen → w.breaker.expiry = none ∧
      w.breaker.counts.totalFailures = 0 ∧
      w.breaker.counts.requests ≤ config.halfOpenRequests ∧
      w.breaker.counts.consecutiveSuccesses = w.breaker.counts.totalSuccesses ∧
      w.breaker.counts.totalSuccesses < config.halfOpenRequests) ∧
    (w.breaker.state = .closed → (w.breaker.expiry.isSome ↔ config.window ≠ 0) ∧
      ∀ moment, w.breaker.expiry = some moment → moment = w.since + config.window) := by
  have hupright := h.upright
  have hexpiry := hupright.expiry
  have hlength := h.accounted.length_admitted_of_lt numbers
  have hkinds := length_outcomes w
  obtain ⟨hrequests, htotalSuccesses, htotalFailures⟩ := hupright.tallied h.accounted numbers few
  obtain ⟨events, -, htells⟩ := hupright.told
  obtain ⟨hsuccesses, hfailures⟩ := htells.runs_le
  refine ⟨?_, ⟨hsuccesses, hfailures, htells.one_run⟩, ?_, ?_, ?_⟩
  · constructor <;> omega
  · intro hstate
    rw [hupright.opened hstate, List.length_nil] at hlength hrequests
    refine ⟨?_, ?_, ?_⟩
    · exact htells.eq_empty hrequests (by omega)
    · intro call pending current
      have hpos : 0 < w.calls.countP (·.generation = w.breaker.generation) :=
        List.countP_pos_iff.2 ⟨call, pending, decide_eq_true current⟩
      omega
    · rw [hexpiry, hstate]
      rfl
  · intro hstate
    refine ⟨?_, hupright.halfOpen trials hstate⟩
    rw [hexpiry, hstate]
    rfl
  · intro hstate
    rw [hexpiry, hstate, expiryOf]
    by_cases hwindow : config.window = 0
    · simp [hwindow]
    · rw [if_neg hwindow]
      refine ⟨by simp [hwindow], fun moment hmoment => ?_⟩
      exact (Option.some.inj hmoment).symm

/-- Two of three calls fail, and the breaker opens while the third is on its way. -/
theorem tallies_of_tripped :
    ∃ w ∈ play { minRequests := 2 } (.start { minRequests := 2 } 7)
        [.asked, .asked, .asked, .finished ⟨0, 0, 0, 7⟩ false, .passed 3, .dropped ⟨0, 0, 1, 7⟩],
      w.calls = [⟨0, 0, 2, 7⟩] ∧ w.breaker.counts = {} ∧
        (∀ call ∈ w.calls, call.generation ≠ w.breaker.generation) ∧
        w.breaker.expiry = some (10 + 5000) := by
  have hplays : ∃ w ∈ play { minRequests := 2 } (.start { minRequests := 2 } 7)
      [.asked, .asked, .asked, .finished ⟨0, 0, 0, 7⟩ false, .passed 3, .dropped ⟨0, 0, 1, 7⟩],
      w.breaker.state = .opened ∧ w.calls = [⟨0, 0, 2, 7⟩] ∧ w.since = 10 ∧
        w.ended.length < UInt64.size ∧ w.admitted.length < UInt32.size := by
    decide +kernel
  obtain ⟨w, hw, hstate, hcalls, hsince, hnumbers, hfew⟩ := hplays
  have hreach : Reachable { minRequests := 2 } w := (Reachable.start 7).of_play hw
  obtain ⟨-, -, hopened, -, -⟩ := tallies_and_expiry (Nat.le_refl 1) hreach hnumbers hfew
  obtain ⟨hcounts, hothers, hexpiry⟩ := hopened hstate
  rw [hsince] at hexpiry
  exact ⟨w, hw, hcalls, hcounts, hothers, hexpiry⟩

end Breaker.Chronicle

end Courier
