import Courier.Proofs.Breaker.Showing

/-!
# What a listener hears

Every change of state is reported, and nothing else is. Put one after the other, as the operations
that bring them about are, the reports are a way along the edges between the three states, from the
closed one to where the breaker is. The number of its generation counts them, and with them the
windows that were found to be over, of which there is no report.

An operation may report what came of its look and what it did after it. It does both only in an
outcome that counts in a generation which its own look began, and no call that is on its way belongs
to that one, unless the numbers have come round since it was let through.

## Main definitions

* `Breaker.edges`, `Breaker.Leads`: the ways from state to state.
* `Breaker.Chronicle.reports`, `Breaker.Chronicle.rolls`: what is reported, and what is not.
* `Breaker.Chronicle.reports_lead_to_state`.
-/

namespace Courier.Breaker

variable {config : Config} {now : Nat} {b : Breaker}

/-! ## Ways -/

/-- The changes of state that there are. -/
def edges : List Transition :=
  [⟨.closed, .opened⟩, ⟨.opened, .halfOpen⟩, ⟨.halfOpen, .closed⟩, ⟨.halfOpen, .opened⟩]

/-- Changes, each from where the one before it has led to, are a way from one state to another. -/
inductive Leads : State → List Transition → State → Prop where
  | nil {s : State} : Leads s [] s
  | cons {t : Transition} {ts : List Transition} {s : State} (edge : t ∈ edges)
      (rest : Leads t.target ts s) : Leads t.source (t :: ts) s

namespace Leads

variable {s t u : State} {ts us : List Transition}

theorem append (h : Leads s ts t) (hnext : Leads t us u) : Leads s (ts ++ us) u := by
  induction h with
  | nil => exact hnext
  | cons edge rest ih => exact .cons edge (ih hnext)

theorem single (edge : ⟨s, t⟩ ∈ edges) : Leads s [⟨s, t⟩] t :=
  .cons edge .nil

/-- A way ends where its last change leads to. -/
theorem eq_getLast (h : Leads s ts t) : t = (ts.getLast?.map Transition.target).getD s := by
  induction h with
  | nil => rfl
  | @cons first ts s edge rest ih =>
    rw [ih]
    cases ts with
    | nil => rfl
    | cons second ts =>
      rw [List.getLast?_cons_cons, List.getLast?_eq_some_getLast (List.cons_ne_nil second ts)]
      rfl

end Leads

/-! ## Operations -/

/-- The look finds the window of a closed breaker over. -/
def rollsAt (now : Nat) (b : Breaker) : Bool :=
  b.state = .closed && b.hasExpired now

theorem edge_of_ends {succeeded : Bool} {next : State} (h : Ends config b succeeded next) :
    ⟨b.state, next⟩ ∈ edges := by
  cases h with
  | tripped state | relapsed state | recovered state =>
    rw [state]
    decide

/-- If an outcome has the breaker go over to another state, there is an edge to it. -/
theorem edge_of_settle {generation : UInt64} {succeeded : Bool} {state : State}
    (h : b.settle config now generation succeeded =
      (b.refresh config now).moveTo config now state) :
    ⟨(b.refresh config now).breaker.state, state⟩ ∈ edges := by
  have houtcome := settled config now b generation succeeded
  rw [h, moveTo_breaker] at houtcome
  generalize (b.refresh config now).breaker = c at houtcome ⊢
  generalize hlast : c.renew config now state = last at houtcome
  have hstate : last.state = state := by rw [← hlast, renew_state]
  have hnumber : last.generation ≠ c.generation := by
    rw [← hlast, renew_generation]
    exact add_one_ne _
  cases houtcome with
  | stale other => exact absurd rfl hnumber
  | counted current calm trial => exact absurd rfl hnumber
  | ended current reason =>
    rw [renew_state] at hstate
    subst hstate
    exact edge_of_ends reason

namespace Chronicle

variable {w v : Chronicle} {e : Event} {es : List Event}

/-- The look that an event takes finds the window of a closed breaker over. -/
def rolls (w : Chronicle) : Event → Bool
  | .passed _ => false
  | _ => w.breaker.rollsAt w.now

/-- The changes of state that are reported in the course of events. -/
def reports (config : Config) (w : Chronicle) (es : List Event) : List Transition :=
  (w.showing config es).flatMap Shown.transitions

@[simp] theorem reports_nil : w.reports config [] = [] := rfl

theorem reports_cons (w : Chronicle) (e : Event) (es : List Event) :
    w.reports config (e :: es) =
      (w.shown config e).transitions ++ (w.step config e).reports config es :=
  List.flatMap_cons

/-- How many windows are found to be over in the course of events. -/
def countRolls (config : Config) : Chronicle → List Event → Nat
  | _, [] => 0
  | w, e :: es => (w.rolls e).toNat + countRolls config (w.step config e) es

/-- What is reported leads from state to state, and as many generations have ended as there are
reports and windows over. -/
structure Reported (w : Chronicle) (ts : List Transition) (windows : Nat) (v : Chronicle) :
    Prop where
  leads : Leads w.breaker.state ts v.breaker.state
  ended : v.ended.length = w.ended.length + ts.length + windows

namespace Reported

theorem rfl (w : Chronicle) : Reported w [] 0 w :=
  ⟨.nil, Eq.refl _⟩

theorem trans {u : Chronicle} {ts us : List Transition} {m n : Nat} (h : Reported w ts m v)
    (hnext : Reported v us n u) : Reported w (ts ++ us) (m + n) u where
  leads := h.leads.append hnext.leads
  ended := by
    rw [hnext.ended, h.ended, List.length_append]
    omega

end Reported

theorem look_of_rolled (expired : w.breaker.hasExpired w.now) (closed : w.breaker.state = .closed) :
    w.look config = w.renewed config .closed := by
  rw [look, refresh_of_rolled expired closed, become_renew]

theorem look_of_cooled (expired : w.breaker.hasExpired w.now) (opened : w.breaker.state = .opened) :
    w.look config = w.renewed config .halfOpen := by
  rw [look, refresh_of_cooled expired opened, become_renew]

theorem reported_look (config : Config) (w : Chronicle) :
    Reported w (w.breaker.refresh config w.now).transitions (w.breaker.rollsAt w.now).toNat
      (w.look config) := by
  by_cases expired : w.breaker.hasExpired w.now = true
  · cases state : w.breaker.state with
    | closed =>
      rw [look_of_rolled expired state, refresh_of_rolled expired state, rollsAt, state, expired]
      refine ⟨?_, rfl⟩
      rw [state]
      exact .nil
    | opened =>
      rw [look_of_cooled expired state, refresh_of_cooled expired state, rollsAt, state, expired]
      refine ⟨?_, rfl⟩
      rw [state]
      exact .single (by decide)
    | halfOpen =>
      rw [look_of_refresh_eq (refresh_of_trying state), refresh_of_trying state, rollsAt, state]
      exact .rfl w
  · have current : w.breaker.hasExpired w.now = false := eq_false_of_ne_true expired
    rw [look_of_refresh_eq (refresh_of_current current), refresh_of_current current, rollsAt,
      current, Bool.and_false]
    exact .rfl w

theorem reported_ask (config : Config) (w : Chronicle) :
    Reported w (w.breaker.permit config w.now).1.transitions (w.breaker.rollsAt w.now).toNat
      (w.ask config) := by
  have hlook := reported_look config w
  have hanswer := permitted config w.now w.breaker
  rw [← look_breaker] at hanswer
  rw [permit_transitions]
  simp only [ask]
  generalize w.look config = v at hanswer hlook ⊢
  generalize (w.breaker.permit config w.now).1.breaker = b at hanswer ⊢
  generalize (w.breaker.permit config w.now).2 = answer at hanswer ⊢
  cases hanswer with
  | opened state =>
    rw [become_self]
    exact hlook
  | spent state full =>
    rw [become_self]
    exact hlook
  | admitted state room =>
    rw [become_withCounts]
    exact ⟨hlook.leads, hlook.ended⟩

theorem reported_settle (config : Config) (w : Chronicle) (call : Admission) (succeeded : Bool) :
    Reported w (w.breaker.settle config w.now call.generation succeeded).transitions
      (w.breaker.rollsAt w.now).toNat (w.settle config call succeeded) := by
  have hlook := reported_look config w
  rcases settle_changes config w.now w.breaker call.generation succeeded with
    ⟨counts, h⟩ | ⟨state, -, h⟩
  · rw [settle, h, ← look_breaker, record_become_withCounts]
    exact ⟨hlook.leads, hlook.ended⟩
  · have hedge := edge_of_settle h
    rw [← look_breaker] at hedge
    have hgone : Reported (w.look config) [⟨(w.look config).breaker.state, state⟩] 0
        (w.settle config call succeeded) := by
      rw [settle, h, moveTo_breaker, ← look_breaker, ← look_now, record_become_renew]
      exact ⟨.single hedge, rfl⟩
    have htransitions : (w.breaker.settle config w.now call.generation succeeded).transitions =
        (w.breaker.refresh config w.now).transitions ++
          [⟨(w.look config).breaker.state, state⟩] := by
      rw [h, look_breaker]
      rfl
    rw [htransitions]
    exact hlook.trans hgone

theorem reported_step (config : Config) (w : Chronicle) (e : Event) :
    Reported w (w.shown config e).transitions (w.rolls e).toNat (w.step config e) := by
  cases e with
  | asked => exact reported_ask config w
  | finished call succeeded => exact reported_settle config w call succeeded
  | dropped call => exact reported_settle config w call false
  | looked => exact reported_look config w
  | passed span => exact ⟨.nil, rfl⟩

theorem reported_of_play (h : play config w es = some v) :
    Reported w (w.reports config es) (w.countRolls config es) v := by
  induction es generalizing w with
  | nil =>
    obtain rfl : w = v := Option.some.inj h
    exact .rfl w
  | cons e es ih =>
    obtain ⟨-, hrest⟩ := play_cons_iff.1 h
    exact (reported_step config w e).trans (ih hrest)

/-! ## One at a time -/

theorem length_refresh_transitions_le (config : Config) (now : Nat) (b : Breaker) :
    (b.refresh config now).transitions.length ≤ 1 := by
  rcases refresh_transitions config now b with h | h <;> simp [h]

/-- A look that reports something has begun a generation. -/
theorem generation_refresh_of_reported (h : (b.refresh config now).transitions ≠ []) :
    (b.refresh config now).breaker.generation = b.generation + 1 := by
  by_cases expired : b.hasExpired now = true
  · cases state : b.state with
    | closed => exact absurd (by rw [refresh_of_rolled expired state]) h
    | opened => rw [refresh_of_cooled expired state, renew_generation]
    | halfOpen => exact absurd (by rw [refresh_of_trying state]) h
  · exact absurd (by rw [refresh_of_current (eq_false_of_ne_true expired)]) h

/-- An outcome reports one change at most, unless the call is so old that it has the number of the
generation that its own look begins. -/
theorem length_settle_transitions_le (numbered : Numbered w) {call : Admission}
    (pending : call ∈ w.calls) (recent : w.IsRecent call) (succeeded : Bool) :
    (w.breaker.settle config w.now call.generation succeeded).transitions.length ≤ 1 := by
  by_cases current : (w.breaker.refresh config w.now).breaker.generation = call.generation
  · have hlook : (w.breaker.refresh config w.now).transitions = [] := by
      refine Decidable.byContradiction fun cooled => ?_
      rw [generation_refresh_of_reported cooled] at current
      exact numbered.generation_ne_next pending recent current.symm
    rcases settle_changes config w.now w.breaker call.generation succeeded with
      ⟨counts, h⟩ | ⟨state, -, h⟩
    · simp [h, hlook]
    · simp [h, hlook, Changed.moveTo]
  · rw [settle_of_ne current]
    exact length_refresh_transitions_le config w.now w.breaker

theorem length_shown_transitions_le (numbered : Numbered w) (possible : e.CanHappen w)
    (recent : ∀ o ∈ e.outcome?, w.IsRecent o.1) :
    (w.shown config e).transitions.length ≤ 1 := by
  cases e with
  | asked =>
    change (w.breaker.permit config w.now).1.transitions.length ≤ 1
    rw [permit_transitions]
    exact length_refresh_transitions_le config w.now w.breaker
  | finished call succeeded =>
    exact length_settle_transitions_le numbered possible (recent (call, succeeded) rfl) succeeded
  | dropped call =>
    exact length_settle_transitions_le numbered possible (recent (call, false) rfl) false
  | looked => exact length_refresh_transitions_le config w.now w.breaker
  | passed span => exact Nat.zero_le 1

/-- **The reports lead to the state.** Whatever has happened to a new breaker, the changes of state
that have been reported are a way from the closed state, along the edges that there are, to the
state it is in, which is where the last of them leads. Its generation is the number of these reports
and of the windows that were found to be over, as far as 64 bits can tell. And the same is true of
the next operation alone: it reports a way from the old state to the new one, and the generation is
so many numbers further on. That way is one change at most, unless a call comes out that was let
through as many generations before the next one as there are numbers. -/
theorem reports_lead_to_state {now : Nat}
    (played : play config (Chronicle.start config now) es = some v) :
    Leads .closed ((Chronicle.start config now).reports config es) v.breaker.state ∧
      v.breaker.state =
        (((Chronicle.start config now).reports config es).getLast?.map Transition.target).getD
          .closed ∧
      v.breaker.generation =
        UInt64.ofNat (((Chronicle.start config now).reports config es).length +
          (Chronicle.start config now).countRolls config es) ∧
      ∀ e : Event, e.CanHappen v →
        Leads v.breaker.state (v.shown config e).transitions (v.step config e).breaker.state ∧
          (v.step config e).breaker.generation = v.breaker.generation +
            UInt64.ofNat ((v.shown config e).transitions.length + (v.rolls e).toNat) ∧
          ((v.shown config e).transitions.length ≤ 1 ∨
            ∃ o ∈ e.outcome?, o.1.place + UInt64.size ≤ v.ended.length + 1) := by
  have hreached : Reachable config v := (Reachable.start now).of_play played
  have hreported := reported_of_play played
  refine ⟨hreported.leads, hreported.leads.eq_getLast, ?_, fun e possible => ⟨?_, ?_, ?_⟩⟩
  · rw [hreached.numbered.current, hreported.ended]
    simp [Chronicle.start]
  · exact (reported_step config v e).leads
  · rw [(hreached.step possible).numbered.current, hreached.numbered.current,
      (reported_step config v e).ended, Nat.add_assoc, UInt64.ofNat_add]
  · by_cases old : ∃ o ∈ e.outcome?, o.1.place + UInt64.size ≤ v.ended.length + 1
    · exact .inr old
    · left
      apply length_shown_transitions_le hreached.numbered possible
      intro o hout
      exact Nat.lt_of_not_le fun hle => old ⟨o, hout, hle⟩

/-- A breaker opens, begins trials and closes again; then its window is over. That makes three
reports and the number 4. The next call to fail has it open once more. -/
theorem three_reports_lead_to_closed :
    ∃ config es, ∃ v ∈ play config (.start config 7) es,
      (Chronicle.start config 7).reports config es =
          [⟨.closed, .opened⟩, ⟨.opened, .halfOpen⟩, ⟨.halfOpen, .closed⟩] ∧
        v.breaker.state = .closed ∧ v.breaker.generation = 4 ∧
        (Event.finished ⟨4, 4, 2, 20⟩ false).CanHappen v ∧
        Leads .closed [⟨.closed, .opened⟩]
          (v.step config (.finished ⟨4, 4, 2, 20⟩ false)).breaker.state ∧
        (v.step config (.finished ⟨4, 4, 2, 20⟩ false)).breaker.generation = 4 + 1 := by
  have hplays : ∃ config es, ∃ v ∈ play config (.start config 7) es,
      (Chronicle.start config 7).reports config es =
          [⟨.closed, .opened⟩, ⟨.opened, .halfOpen⟩, ⟨.halfOpen, .closed⟩] ∧
        (Chronicle.start config 7).countRolls config es = 1 ∧
        (Event.finished ⟨4, 4, 2, 20⟩ false).CanHappen v ∧
        (v.shown config (.finished ⟨4, 4, 2, 20⟩ false)).transitions = [⟨.closed, .opened⟩] ∧
        v.rolls (.finished ⟨4, 4, 2, 20⟩ false) = false := by
    refine ⟨{ minRequests := 1, cooldown := 3, window := 10 },
      [.asked, .dropped ⟨0, 0, 0, 7⟩, .passed 3, .asked, .finished ⟨2, 2, 1, 10⟩ true, .passed 10,
        .looked, .asked], ?_⟩
    decide +kernel
  obtain ⟨config, es, v, hv, hreports, hrolls, hcan, hshown, hcurrent⟩ := hplays
  obtain ⟨-, hstate, hnumber, hnext⟩ := reports_lead_to_state hv
  obtain ⟨hleads, hlast, -⟩ := hnext _ hcan
  rw [hreports] at hstate hnumber
  rw [hrolls] at hnumber
  have hclosed : v.breaker.state = .closed := hstate
  have hfour : v.breaker.generation = 4 := hnumber
  rw [hshown, hclosed] at hleads
  rw [hshown, hcurrent, hfour] at hlast
  exact ⟨config, es, v, hv, hreports, hclosed, hfour, hcan, hleads, hlast⟩

end Chronicle

end Courier.Breaker
