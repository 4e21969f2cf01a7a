import Courier.Proofs.Breaker.Showing

/-!
# The cooldown of a breaker

A breaker that opens stays open for its cooldown, to the moment: until then every call is refused,
and nothing that comes out in the meantime makes the time longer or shorter. When the time is over
the first who comes, whether to ask for a call, to look, or because a call comes out, finds it half
open, and the first call that is asked for is let through on trial.

The time is stored once, when the breaker opens. What has to be seen is that nothing done to an open
breaker stores another, and that a call let through before the breaker opened is never taken for a
trial. The latter rests on the numbers of the generations: a call that has been on its way for as
many generations as there are numbers could be taken for one.

## Main definitions

* `Breaker.Chronicle.timeline`: events with the moments at which they happen.
* `Breaker.IsCooling`, `Breaker.IsUntried`: an open breaker and its time, a half-open one without
  calls.
* `Breaker.Chronicle.Resting`: from the opening of a breaker to the first call after its cooldown.
* `Breaker.Chronicle.cooldown_exact`.
-/

namespace Courier.Breaker

variable {config : Config} {now deadline : Nat} {b : Breaker} {generation : UInt64}

/-! ## Open breakers -/

/-- The breaker is open until a moment, with the given number. -/
structure IsCooling (deadline : Nat) (generation : UInt64) (b : Breaker) : Prop where
  state : b.state = .opened
  generation : b.generation = generation
  expiry : b.expiry = some deadline

namespace IsCooling

theorem hasExpired_eq (h : IsCooling deadline generation b) (now : Nat) :
    b.hasExpired now = decide (deadline ≤ now) := by
  rw [hasExpired, h.expiry, Option.any_some]

/-- Before its time is over a look changes nothing. -/
theorem refresh_of_lt (h : IsCooling deadline generation b) (early : now < deadline) :
    b.refresh config now = ⟨b, []⟩ := by
  apply refresh_of_current
  rw [h.hasExpired_eq]
  exact decide_eq_false (Nat.not_le.2 early)

/-- When its time is over a look begins the trials. -/
theorem refresh_of_le (h : IsCooling deadline generation b) (due : deadline ≤ now) :
    b.refresh config now = ⟨b.renew config now .halfOpen, [⟨.opened, .halfOpen⟩]⟩ := by
  apply refresh_of_cooled _ h.state
  rw [h.hasExpired_eq]
  exact decide_eq_true due

theorem permit_of_lt (h : IsCooling deadline generation b) (early : now < deadline) :
    b.permit config now = (⟨b, []⟩, .error .opened) := by
  simp only [permit, h.refresh_of_lt early, h.state]

/-- What comes out before the time is over is counted at most. -/
theorem settle_of_lt (h : IsCooling deadline generation b) (early : now < deadline)
    (other : UInt64) (succeeded : Bool) :
    IsCooling deadline generation (b.settle config now other succeeded).breaker := by
  have houtcome := settled config now b other succeeded
  rw [h.refresh_of_lt early] at houtcome
  generalize (b.settle config now other succeeded).breaker = last at houtcome ⊢
  cases houtcome with
  | stale other => exact h
  | counted current calm trial => exact ⟨h.state, h.generation, h.expiry⟩
  | ended current reason =>
    cases reason with
    | tripped state | relapsed state | recovered state => simp [h.state] at state

end IsCooling

theorem isCooling_renew :
    IsCooling (now + config.cooldown) (b.generation + 1) (b.renew config now .opened) :=
  ⟨rfl, rfl, rfl⟩

/-! ## Half-open breakers -/

/-- The breaker is half open, with the given number, and has not let a call through yet. -/
structure IsUntried (generation : UInt64) (b : Breaker) : Prop where
  state : b.state = .halfOpen
  generation : b.generation = generation
  counts : b.counts = {}

theorem isUntried_renew : IsUntried (b.generation + 1) (b.renew config now .halfOpen) :=
  ⟨rfl, rfl, rfl⟩

/-- The first call is let through on trial. -/
theorem IsUntried.permit_eq (h : IsUntried generation (b.refresh config now).breaker)
    (trials : 0 < config.halfOpenRequests) : (b.permit config now).2 = .ok generation := by
  have hroom : ¬ config.halfOpenRequests ≤ (b.refresh config now).breaker.counts.requests := by
    rw [h.counts]
    exact Nat.not_le.2 trials
  simp only [permit, h.state, if_neg hroom, permit.admitted, h.generation]

namespace Chronicle

variable {w v : Chronicle} {e : Event} {es : List Event}

/-! ## Moments -/

/-- How much time an event takes. -/
def Event.span : Event → Nat
  | passed span => span
  | _ => 0

/-- Nothing happens but that time passes. -/
def Event.IsPassing : Event → Prop
  | passed _ => True
  | _ => False

theorem outcome?_of_isPassing (h : e.IsPassing) : e.outcome? = none := by
  cases e with
  | passed span => rfl
  | asked | finished | dropped | looked => exact h.elim

/-- Events with the moments at which they happen. -/
def timeline (now : Nat) : List Event → List (Nat × Event)
  | [] => []
  | e :: es => (now, e) :: timeline (now + e.span) es

theorem step_now (config : Config) (w : Chronicle) (e : Event) :
    (w.step config e).now = w.now + e.span := by
  cases e with
  | asked => exact ask_now
  | finished call succeeded => exact settle_now call succeeded
  | dropped call => exact settle_now call false
  | looked => exact look_now
  | passed span => rfl

theorem forall_timeline_cons_iff (config : Config) {P : Nat × Event → Prop} :
    (∀ x ∈ timeline w.now (e :: es), P x) ↔
      P (w.now, e) ∧ ∀ x ∈ timeline (w.step config e).now es, P x := by
  rw [timeline, List.forall_mem_cons, step_now]

/-- Time does not go back, and nothing happens after the last moment. -/
theorem le_now_of_play (h : play config w es = some v) :
    w.now ≤ v.now ∧ ∀ x ∈ timeline w.now es, x.1 ≤ v.now := by
  induction es generalizing w with
  | nil =>
    obtain rfl : w = v := Option.some.inj h
    exact ⟨Nat.le_refl _, by simp [timeline]⟩
  | cons e es ih =>
    obtain ⟨hnow, hline⟩ := ih (play_cons_iff.1 h).2
    have hfirst : w.now ≤ v.now := by
      rw [step_now] at hnow
      exact Nat.le_trans (Nat.le_add_right _ _) hnow
    exact ⟨hfirst, (forall_timeline_cons_iff config).2 ⟨hfirst, hline⟩⟩

/-- What comes of the look is reported first. -/
theorem isPrefix_shown_transitions (config : Config) (w : Chronicle) (acts : ¬ e.IsPassing) :
    (w.breaker.refresh config w.now).transitions <+: (w.shown config e).transitions := by
  cases e with
  | asked =>
    change _ <+: (w.breaker.permit config w.now).1.transitions
    simp [permit_transitions]
  | finished call succeeded => exact isPrefix_settle_transitions _ _
  | dropped call => exact isPrefix_settle_transitions _ _
  | looked => exact List.prefix_rfl
  | passed span => exact absurd trivial acts

/-! ## Until the time is over -/

section

variable {deadline : Nat} {generation : UInt64}
  (cooling : IsCooling deadline generation w.breaker)

include cooling

/-- Whoever asks before the time is over leaves everything as it is. -/
theorem ask_of_lt (early : w.now < deadline) : w.ask config = w := by
  simp only [ask, cooling.permit_of_lt early, look_of_refresh_eq (cooling.refresh_of_lt early)]
  exact become_self

theorem isCooling_step (early : ¬ e.IsPassing → w.now < deadline) :
    IsCooling deadline generation (w.step config e).breaker := by
  have hsettle (call : Admission) (succeeded : Bool) (early : w.now < deadline) :
      IsCooling deadline generation (w.settle config call succeeded).breaker := by
    rw [settle_breaker]
    exact cooling.settle_of_lt early call.generation succeeded
  cases e with
  | asked =>
    change IsCooling _ _ (w.ask config).breaker
    rw [ask_of_lt cooling (early id)]
    exact cooling
  | finished call succeeded => exact hsettle call succeeded (early id)
  | dropped call => exact hsettle call false (early id)
  | looked =>
    change IsCooling _ _ (w.look config).breaker
    rw [look_of_refresh_eq (cooling.refresh_of_lt (early id))]
    exact cooling
  | passed span => exact cooling

end

/-- Nobody does anything to the breaker once its time is over. -/
theorem isCooling_of_play {deadline : Nat} {generation : UInt64}
    (cooling : IsCooling deadline generation w.breaker) (played : play config w es = some v)
    (left : ∀ x ∈ timeline w.now es, deadline ≤ x.1 → x.2.IsPassing) :
    IsCooling deadline generation v.breaker := by
  induction es generalizing w with
  | nil =>
    obtain rfl : w = v := Option.some.inj played
    exact cooling
  | cons e es ih =>
    obtain ⟨hfirst, hleft⟩ := (forall_timeline_cons_iff config).1 left
    have hstep : IsCooling deadline generation (w.step config e).breaker := by
      apply isCooling_step cooling
      intro acts
      exact Nat.lt_of_not_le fun due => acts (hfirst due)
    exact ih hstep (play_cons_iff.1 played).2 hleft

/-! ## Until the first call -/

/-- Since the breaker opened its time has not been over, or it has been and no call has been let
through since. No call on its way will be taken for a trial, unless it is too old. -/
structure Resting (deadline : Nat) (first w : Chronicle) : Prop where
  phase : IsCooling deadline first.breaker.generation w.breaker ∨
    deadline ≤ w.now ∧ IsUntried (first.breaker.generation + 1) w.breaker
  calls : ∀ call ∈ w.calls, first.IsRecent call →
    call.generation ≠ first.breaker.generation + 1

namespace Resting

variable {deadline : Nat} {first : Chronicle}

/-- Whoever comes when the time is over finds the breaker half open. -/
theorem look (h : Resting deadline first w) (config : Config) (due : deadline ≤ w.now) :
    IsUntried (first.breaker.generation + 1) (w.look config).breaker := by
  rw [look_breaker]
  rcases h.phase with cooling | ⟨-, untried⟩
  · rw [cooling.refresh_of_le due, ← cooling.generation]
    exact isUntried_renew
  · rwa [refresh_of_trying untried.state]

/-- A call that comes out when the time is over takes a look. -/
theorem settle (h : Resting deadline first w) (due : deadline ≤ w.now) {call : Admission}
    (pending : call ∈ w.calls) (recent : first.IsRecent call) (succeeded : Bool) :
    IsUntried (first.breaker.generation + 1) (w.settle config call succeeded).breaker := by
  have hlook := h.look config due
  have hother : (w.look config).breaker.generation ≠ call.generation := by
    rw [hlook.generation]
    exact (h.calls call pending recent).symm
  rwa [settle_of_generation_ne hother]

theorem cooling (h : Resting deadline first w) (early : w.now < deadline) :
    IsCooling deadline first.breaker.generation w.breaker := by
  rcases h.phase with cooling | ⟨due, -⟩
  · exact cooling
  · exact absurd early (Nat.not_lt.2 due)

theorem step (h : Resting deadline first w) (possible : e.CanHappen w)
    (asks : e = .asked → w.now < deadline)
    (recent : deadline ≤ w.now → ∀ o ∈ e.outcome?, first.IsRecent o.1) :
    Resting deadline first (w.step config e) := by
  have hsettle (call : Admission) (succeeded : Bool) (pending : call ∈ w.calls)
      (recent : deadline ≤ w.now → first.IsRecent call) :
      Resting deadline first (w.settle config call succeeded) := by
    constructor
    · rw [settle_now]
      rcases Nat.lt_or_ge w.now deadline with early | due
      · rw [settle_breaker]
        exact .inl ((h.cooling early).settle_of_lt early call.generation succeeded)
      · exact .inr ⟨due, h.settle due pending (recent due) succeeded⟩
    · rw [settle_calls]
      exact fun other hmem => h.calls other (List.mem_of_mem_erase hmem)
  cases e with
  | asked =>
    change Resting _ _ (w.ask config)
    rw [ask_of_lt (h.cooling (asks rfl)) (asks rfl)]
    exact h
  | finished call succeeded =>
    exact hsettle call succeeded possible fun due => recent due (call, succeeded) rfl
  | dropped call => exact hsettle call false possible fun due => recent due (call, false) rfl
  | looked =>
    change Resting _ _ (w.look config)
    constructor
    · rw [look_now]
      rcases Nat.lt_or_ge w.now deadline with early | due
      · exact .inl (isCooling_step (e := .looked) (h.cooling early) fun _ => early)
      · exact .inr ⟨due, h.look config due⟩
    · rw [look_calls]
      exact h.calls
  | passed span =>
    refine ⟨?_, h.calls⟩
    rcases h.phase with cooling | ⟨due, untried⟩
    · exact .inl cooling
    · exact .inr ⟨Nat.le_trans due (Nat.le_add_right _ _), untried⟩

theorem of_play (h : Resting deadline first w) (played : play config w es = some v)
    (asks : ∀ x ∈ timeline w.now es, x.2 = .asked → x.1 < deadline)
    (recent : ∀ x ∈ timeline w.now es, deadline ≤ x.1 →
      ∀ o ∈ x.2.outcome?, first.IsRecent o.1) :
    Resting deadline first v := by
  induction es generalizing w with
  | nil =>
    obtain rfl : w = v := Option.some.inj played
    exact h
  | cons e es ih =>
    obtain ⟨hcan, hrest⟩ := play_cons_iff.1 played
    obtain ⟨hask, hasks⟩ := (forall_timeline_cons_iff config).1 asks
    obtain ⟨hfirst, hrecent⟩ := (forall_timeline_cons_iff config).1 recent
    exact ih (h.step hcan hask hfirst) hrest hasks hrecent

/-- Whatever is done to the breaker when its time is over leaves it half open. -/
theorem state_step (h : Resting deadline first w) (due : deadline ≤ w.now)
    (possible : e.CanHappen w) (acts : ¬ e.IsPassing)
    (recent : ∀ o ∈ e.outcome?, first.IsRecent o.1) :
    (w.step config e).breaker.state = .halfOpen := by
  have hlook := (h.look config due).state
  cases e with
  | asked =>
    change (w.ask config).breaker.state = .halfOpen
    rw [ask_breaker, permit_state, ← look_breaker]
    exact hlook
  | finished call succeeded =>
    exact (h.settle due possible (recent (call, succeeded) rfl) succeeded).state
  | dropped call => exact (h.settle due possible (recent (call, false) rfl) false).state
  | looked => exact hlook
  | passed span => exact absurd trivial acts

end Resting

/-! ## Opening -/

/-- Someone's report that the breaker has opened: it has opened just then. -/
theorem isCooling_of_opens (h : ∃ t ∈ (w.shown config e).transitions, t.target = .opened) :
    (w.step config e).now = w.now ∧ IsCooling (w.now + config.cooldown)
      (w.step config e).breaker.generation (w.step config e).breaker := by
  have hlook : ¬ ∃ t ∈ (w.breaker.refresh config w.now).transitions, t.target = .opened := by
    rcases refresh_transitions config w.now w.breaker with hnone | hone
    · simp [hnone]
    · simp [hone]
  have hsettle (call : Admission) (succeeded : Bool)
      (h : ∃ t ∈ (w.breaker.settle config w.now call.generation succeeded).transitions,
        t.target = .opened) :
      IsCooling (w.now + config.cooldown) (w.settle config call succeeded).breaker.generation
        (w.settle config call succeeded).breaker := by
    obtain ⟨b, hb⟩ := exists_eq_renew_of_opens h
    rw [settle_breaker, hb]
    exact isCooling_renew
  cases e with
  | asked =>
    change ∃ t ∈ (w.breaker.permit config w.now).1.transitions, _ at h
    rw [permit_transitions] at h
    exact absurd h hlook
  | finished call succeeded => exact ⟨settle_now call succeeded, hsettle call succeeded h⟩
  | dropped call => exact ⟨settle_now call false, hsettle call false h⟩
  | looked => exact absurd h hlook
  | passed span => simp [shown] at h

/-- **The cooldown is exact.** Once a breaker is reported to have opened, every call is refused
until its cooldown is over, whatever comes out in the meantime, and nothing is left behind by
asking. When it is over, the first thing done to the breaker begins the trials, which is reported.
And however much has come out or been looked at since, the first call to be asked for is let
through, if trials are given out at all.

A call that was let through as many generations before the trials as there are numbers has their
number, and if it comes out during them it may end them. Of the calls that come out when the
cooldown is over none must be so old. -/
theorem cooldown_exact (reached : Reachable config w) (possible : e.CanHappen w)
    (opens : ∃ t ∈ (w.shown config e).transitions, t.target = .opened)
    (played : play config (w.step config e) es = some v) :
    (v.now < w.now + config.cooldown →
      v.breaker.permit config v.now = (⟨v.breaker, []⟩, .error .opened) ∧
        v.step config .asked = v) ∧
    (w.now + config.cooldown ≤ v.now →
      (∀ x ∈ timeline w.now es, w.now + config.cooldown ≤ x.1 → x.2.IsPassing) →
      ∀ f : Event, f.CanHappen v → ¬ f.IsPassing →
        [⟨.opened, .halfOpen⟩] <+: (v.shown config f).transitions ∧
          ((∀ o ∈ f.outcome?, (w.step config e).IsRecent o.1) →
            (v.step config f).breaker.state = .halfOpen)) ∧
    (w.now + config.cooldown ≤ v.now →
      (∀ x ∈ timeline w.now es, x.2 = .asked → x.1 < w.now + config.cooldown) →
      (∀ x ∈ timeline w.now es, w.now + config.cooldown ≤ x.1 →
        ∀ o ∈ x.2.outcome?, (w.step config e).IsRecent o.1) →
      1 ≤ config.halfOpenRequests →
        (v.breaker.permit config v.now).2 =
          .ok ((w.step config e).breaker.generation + 1)) := by
  obtain ⟨hnow, hcooling⟩ := isCooling_of_opens opens
  have hresting : Resting (w.now + config.cooldown) (w.step config e) (w.step config e) :=
    ⟨.inl hcooling, fun call => (reached.step possible).numbered.generation_ne_next⟩
  rw [← hnow]
  rw [← hnow] at hcooling hresting
  refine ⟨fun early => ?_, fun due left f hcan acts => ⟨?_, fun recent => ?_⟩,
    fun due asks recent trials => ?_⟩
  · have hlast := isCooling_of_play hcooling played fun x hmem due =>
      absurd (Nat.le_trans due ((le_now_of_play played).2 x hmem)) (Nat.not_le.2 early)
    exact ⟨hlast.permit_of_lt early, ask_of_lt hlast early⟩
  · have hlast := isCooling_of_play hcooling played left
    have hreport := isPrefix_shown_transitions config v acts
    rwa [hlast.refresh_of_le due] at hreport
  · -- Since the time was over nobody has asked and nothing has come out.
    have hlast : Resting ((w.step config e).now + config.cooldown) (w.step config e) v := by
      apply hresting.of_play played
      · intro x hmem hasked
        refine Nat.lt_of_not_le fun due => ?_
        have hpassing := left x hmem due
        rwa [hasked] at hpassing
      · intro x hmem due o hout
        rw [outcome?_of_isPassing (left x hmem due)] at hout
        cases hout
    exact hlast.state_step due hcan acts recent
  · have hlook := (hresting.of_play played asks recent).look config due
    rw [look_breaker] at hlook
    exact hlook.permit_eq trials

/-- The second of three calls is dropped at moment 7, and the breaker opens for a span of 5. At 11 a
call is refused. At 12 the third one comes out, and then a call is let through on trial. -/
theorem let_through_at_twelve :
    ∃ w ∈ play { minRequests := 3, cooldown := 5 } (.start { minRequests := 3, cooldown := 5 } 7)
        [.asked, .asked, .asked, .dropped ⟨0, 0, 0, 7⟩],
      ∃ u ∈ play { minRequests := 3, cooldown := 5 }
          (w.step { minRequests := 3, cooldown := 5 } (.dropped ⟨0, 0, 1, 7⟩)) [.passed 4],
      ∃ v ∈ play { minRequests := 3, cooldown := 5 }
          (w.step { minRequests := 3, cooldown := 5 } (.dropped ⟨0, 0, 1, 7⟩))
          [.passed 4, .asked, .passed 1, .finished ⟨0, 0, 2, 7⟩ true],
        u.breaker.permit { minRequests := 3, cooldown := 5 } 11 =
            (⟨u.breaker, []⟩, .error .opened) ∧
          (v.breaker.permit { minRequests := 3, cooldown := 5 } 12).2 = .ok 2 := by
  have hplays :
      ∃ w ∈ play { minRequests := 3, cooldown := 5 } (.start { minRequests := 3, cooldown := 5 } 7)
          [.asked, .asked, .asked, .dropped ⟨0, 0, 0, 7⟩],
        ∃ u ∈ play { minRequests := 3, cooldown := 5 }
            (w.step { minRequests := 3, cooldown := 5 } (.dropped ⟨0, 0, 1, 7⟩)) [.passed 4],
        ∃ v ∈ play { minRequests := 3, cooldown := 5 }
            (w.step { minRequests := 3, cooldown := 5 } (.dropped ⟨0, 0, 1, 7⟩))
            [.passed 4, .asked, .passed 1, .finished ⟨0, 0, 2, 7⟩ true],
          (Event.dropped ⟨0, 0, 1, 7⟩).CanHappen w ∧
          (∃ t ∈ (w.shown { minRequests := 3, cooldown := 5 } (.dropped ⟨0, 0, 1, 7⟩)).transitions,
            t.target = .opened) ∧
          (w.step { minRequests := 3, cooldown := 5 } (.dropped ⟨0, 0, 1, 7⟩)).IsRecent
            ⟨0, 0, 2, 7⟩ ∧
          (w.step { minRequests := 3, cooldown := 5 }
            (.dropped ⟨0, 0, 1, 7⟩)).breaker.generation = 1 ∧
          w.now = 7 ∧ u.now = 11 ∧ v.now = 12 := by
    decide +kernel
  obtain ⟨w, hw, u, hu, v, hv, hpending, hopens, hrecent, hnumber, hwnow, hunow, hvnow⟩ := hplays
  have hreached := (Reachable.start 7).of_play hw
  obtain ⟨hrefused, -, -⟩ := cooldown_exact hreached hpending hopens hu
  obtain ⟨-, -, hfirst⟩ := cooldown_exact hreached hpending hopens hv
  rw [hwnow, hunow] at hrefused
  rw [hwnow, hvnow, hnumber] at hfirst
  refine ⟨w, hw, u, hu, v, hv, (hrefused (by decide)).1, ?_⟩
  refine hfirst (by decide) (by decide) ?_ (by decide)
  simpa [timeline, Event.span, Event.outcome?] using hrecent

end Chronicle

end Courier.Breaker
