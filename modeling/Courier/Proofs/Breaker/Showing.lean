import Courier.Proofs.Breaker.Chronicle

/-!
# What a breaker shows

Whoever uses a breaker sees little of it: whether a call may be made, the state and the tallies if
he asks for them, and the changes of state that are reported. Calls of a generation that has ended
are not among the things that can be seen through it: two runs in which the same happens at the same
moments, except that such calls come out differently, look the same from beginning to end.

Whether a generation has ended is itself decided late. A call may come out just when its window is
over or the breaker has cooled down, and it is the look that its own outcome takes which ends the
generation. So it is asked after that look whether a call is late.

## Main definitions

* `Breaker.Chronicle.Shown`, `Breaker.Chronicle.shown`, `Breaker.Chronicle.showing`.
* `Breaker.Chronicle.Alike`: two courses of events that differ in the outcomes of late calls only.
* `Breaker.Chronicle.late_outcomes_unseen`.
-/

namespace Courier.Breaker.Chronicle

variable {config : Config} {w v : Chronicle} {call : Admission}

/-- What is seen of a breaker when something happens to it. -/
structure Shown where
  /-- The changes of state that are reported. -/
  transitions : List Transition := []
  /-- Whether a call that was asked for may be made, with the number of its generation. -/
  answer : Option (Except Rejection UInt64) := none
  /-- The state and the tallies, for someone who looks. -/
  seen : Option (State × Counts) := none

/-- What an event shows. -/
def shown (config : Config) (w : Chronicle) : Event → Shown
  | .asked =>
    let (c, answer) := w.breaker.permit config w.now
    { transitions := c.transitions, answer := some answer }
  | .finished call succeeded =>
    { transitions := (w.breaker.settle config w.now call.generation succeeded).transitions }
  | .dropped call =>
    { transitions := (w.breaker.settle config w.now call.generation false).transitions }
  | .looked =>
    let c := w.breaker.refresh config w.now
    { transitions := c.transitions, seen := some (c.breaker.state, c.breaker.counts) }
  | .passed _ => {}

/-- What events show, one after the other. -/
def showing (config : Config) (w : Chronicle) : List Event → List Shown
  | [] => []
  | e :: es => w.shown config e :: (w.step config e).showing config es

/-! ## Outcomes -/

section

variable {e : Event} {succeeded : Bool}

theorem step_of_outcome (h : e.outcome? = some (call, succeeded)) :
    w.step config e = w.settle config call succeeded := by
  cases e <;> cases h <;> rfl

theorem shown_of_outcome (h : e.outcome? = some (call, succeeded)) :
    w.shown config e =
      { transitions := (w.breaker.settle config w.now call.generation succeeded).transitions } := by
  cases e <;> cases h <;> rfl

theorem canHappen_of_outcome (h : e.outcome? = some (call, succeeded)) :
    e.CanHappen w ↔ call ∈ w.calls := by
  cases e <;> cases h <;> rfl

end

/-! ## Late calls -/

theorem length_ended_le_become (b : Breaker) : w.ended.length ≤ (w.become b).ended.length := by
  unfold become
  split
  · exact Nat.le_refl _
  · exact Nat.le_succ _

theorem length_ended_look_le_settle (call : Admission) (succeeded : Bool) :
    (w.look config).ended.length ≤ (w.settle config call succeeded).ended.length :=
  length_ended_le_become (w := (w.look config).record call succeeded) _

theorem length_ended_le_step (config : Config) (w : Chronicle) (e : Event) :
    w.ended.length ≤ (w.step config e).ended.length := by
  have hlook : w.ended.length ≤ (w.look config).ended.length := length_ended_le_become _
  cases e with
  | asked =>
    apply Nat.le_trans hlook
    simp only [step, ask]
    split
    · exact length_ended_le_become _
    · exact length_ended_le_become _
  | finished call succeeded => exact Nat.le_trans hlook (length_ended_look_le_settle call succeeded)
  | dropped call => exact Nat.le_trans hlook (length_ended_look_le_settle call false)
  | looked => exact hlook
  | passed span => exact Nat.le_refl _

theorem length_ended_le_of_play {es : List Event} (h : play config w es = some v) :
    w.ended.length ≤ v.ended.length := by
  induction es generalizing w with
  | nil =>
    obtain rfl : w = v := Option.some.inj h
    exact Nat.le_refl _
  | cons e es ih =>
    obtain ⟨-, hrest⟩ := play_cons_iff.1 h
    exact Nat.le_trans (length_ended_le_step config w e) (ih hrest)

/-- A late call has another number, as long as the numbers have not come round. -/
theorem Reachable.generation_ne_of_late (h : Reachable config w) (pending : call ∈ w.calls)
    (few : (w.look config).ended.length < UInt64.size) (late : ¬ (w.look config).isOwn call) :
    (w.look config).breaker.generation ≠ call.generation := by
  have hlook : Reachable config (w.look config) := .step (e := .looked) h trivial
  exact mt (hlook.numbered.isOwn_iff few (by rwa [look_calls])).2 late

/-- The outcome of a call with another number is a look, after which it is no longer on its way. -/
theorem settle_of_generation_ne (other : (w.look config).breaker.generation ≠ call.generation)
    (succeeded : Bool) :
    w.settle config call succeeded = { w.look config with calls := w.calls.erase call } := by
  have hlook := other
  rw [look_breaker] at hlook
  rw [settle, settle_of_ne hlook, ← look_breaker, record_become_self, record, if_neg other,
    look_calls]

/-! ## Two courses of events -/

/-- The same events, except that calls which are late when they come out may come out otherwise. -/
inductive Alike (config : Config) : Chronicle → List Event → List Event → Prop where
  | nil {w : Chronicle} : Alike config w [] []
  | same {w : Chronicle} {e : Event} {es fs : List Event}
      (rest : Alike config (w.step config e) es fs) : Alike config w (e :: es) (e :: fs)
  | late {w : Chronicle} {call : Admission} {s t : Bool} {e f : Event} {es fs : List Event}
      (first : e.outcome? = some (call, s)) (second : f.outcome? = some (call, t))
      (ended : ¬ (w.look config).isOwn call) (rest : Alike config (w.step config e) es fs) :
      Alike config w (e :: es) (f :: fs)

/-- **How late calls come out is not seen.** Whatever happens to a breaker could also have happened
had the calls that came out after their generation come out otherwise: everyone who asked for a call
would have had the same answer, everyone who looked would have seen the same, and the same changes
of state would have been reported. -/
theorem late_outcomes_unseen {es fs : List Event} (reached : Reachable config w)
    (possible : play config w es = some v) (few : v.ended.length < UInt64.size)
    (alike : Alike config w es fs) :
    play config w fs = some v ∧ showing config w fs = showing config w es := by
  induction alike with
  | nil => exact ⟨possible, rfl⟩
  | @same w e es fs rest ih =>
    obtain ⟨hcan, hrest⟩ := play_cons_iff.1 possible
    obtain ⟨hplay, hshowing⟩ := ih (.step reached hcan) hrest
    exact ⟨play_cons_iff.2 ⟨hcan, hplay⟩, congrArg (w.shown config e :: ·) hshowing⟩
  | @late w call s t e f es fs first second ended rest ih =>
    obtain ⟨hcan, hrest⟩ := play_cons_iff.1 possible
    obtain ⟨hplay, hshowing⟩ := ih (.step reached hcan) hrest
    have hpending : call ∈ w.calls := (canHappen_of_outcome first).1 hcan
    have hfew : (w.look config).ended.length < UInt64.size := by
      have hstep : (w.look config).ended.length ≤ (w.step config e).ended.length := by
        rw [step_of_outcome first]
        exact length_ended_look_le_settle call s
      have hlast := length_ended_le_of_play hrest
      omega
    have hother := reached.generation_ne_of_late hpending hfew ended
    -- Either way the outcome is a look and nothing else.
    have hstep : w.step config f = w.step config e := by
      rw [step_of_outcome first, step_of_outcome second, settle_of_generation_ne hother,
        settle_of_generation_ne hother]
    have hshown : w.shown config f = w.shown config e := by
      rw [look_breaker] at hother
      rw [shown_of_outcome first, shown_of_outcome second, settle_of_ne hother,
        settle_of_ne hother]
    constructor
    · rw [play_cons_iff, hstep]
      exact ⟨(canHappen_of_outcome second).2 hpending, hplay⟩
    · rw [showing, showing, hstep, hshown, hshowing]

/-- Two of three calls are dropped, and the breaker opens. The third comes out when it has cooled
down, so that its own outcome begins the trials: whether it succeeds then or is dropped, the next
call is let through on trial. -/
theorem third_of_three_unseen :
    ∃ v ∈ play { minRequests := 3, cooldown := 3 } (.start { minRequests := 3, cooldown := 3 } 7)
        [.asked, .asked, .asked, .dropped ⟨0, 0, 0, 7⟩, .dropped ⟨0, 0, 1, 7⟩, .passed 3,
          .finished ⟨0, 0, 2, 7⟩ true, .asked],
      v.term = ⟨.halfOpen, 2, [⟨2, 2, 3, 10⟩], [], none⟩ ∧
      play { minRequests := 3, cooldown := 3 } (.start { minRequests := 3, cooldown := 3 } 7)
        [.asked, .asked, .asked, .dropped ⟨0, 0, 0, 7⟩, .dropped ⟨0, 0, 1, 7⟩, .passed 3,
          .dropped ⟨0, 0, 2, 7⟩, .asked] = some v ∧
      showing { minRequests := 3, cooldown := 3 } (.start { minRequests := 3, cooldown := 3 } 7)
          [.asked, .asked, .asked, .dropped ⟨0, 0, 0, 7⟩, .dropped ⟨0, 0, 1, 7⟩, .passed 3,
            .dropped ⟨0, 0, 2, 7⟩, .asked] =
        showing { minRequests := 3, cooldown := 3 } (.start { minRequests := 3, cooldown := 3 } 7)
          [.asked, .asked, .asked, .dropped ⟨0, 0, 0, 7⟩, .dropped ⟨0, 0, 1, 7⟩, .passed 3,
            .finished ⟨0, 0, 2, 7⟩ true, .asked] := by
  have hplays : ∃ v ∈ play { minRequests := 3, cooldown := 3 }
        (.start { minRequests := 3, cooldown := 3 } 7)
        [.asked, .asked, .asked, .dropped ⟨0, 0, 0, 7⟩, .dropped ⟨0, 0, 1, 7⟩, .passed 3,
          .finished ⟨0, 0, 2, 7⟩ true, .asked],
      v.term = ⟨.halfOpen, 2, [⟨2, 2, 3, 10⟩], [], none⟩ ∧ v.ended.length < UInt64.size := by
    decide +kernel
  obtain ⟨v, hv, hterm, hfew⟩ := hplays
  refine ⟨v, hv, hterm, late_outcomes_unseen (.start 7) hv hfew ?_⟩
  refine .same (.same (.same (.same (.same (.same (.late rfl rfl ?_ (.same .nil)))))))
  decide +kernel

end Courier.Breaker.Chronicle
