import Courier.Proofs.Breaker.Accounts
import Mathlib.Data.List.Count

/-!
# Trials of a half-open breaker

A half-open breaker lets a few calls through on trial. It closes with the last of them to succeed,
if all of them do, and opens with the first that fails or is dropped. It is never stuck: whoever is
refused because too many calls have been let through is refused while one of them is on its way.

No bound is set to the length of a run. So a call may come out so late that the numbers of the
generations have come round; the breaker then takes it for a trial of another generation, and so
does what is said here of outcomes. What is said of calls let through and on their way is about the
generation's own calls.

## Main definitions

* `Breaker.Fate`: how a half-open generation ends, by the outcomes that it has counted.
* `Breaker.Term.IsTried`, `Breaker.Chronicle.Tested`: what is true of a half-open generation, and
  that it is true of all of them.

## Main results

* `Breaker.Chronicle.Upright.lasting`: a half-open generation lasts while its trials succeed.
* `Breaker.Chronicle.Tested.move`: whatever happens to a breaker keeps its generations tried.
* `Breaker.Chronicle.trials_bounded_and_never_stuck`.
-/

namespace Courier.Breaker

variable {config : Config}

/-- How a half-open generation fares with so many trials. -/
inductive Fate (trials : Nat) : List Bool → Option State → Prop where
  /-- As long as there are trials to come and none has failed, it lasts. -/
  | lasting {n : Nat} (more : n < trials) : Fate trials (List.replicate n true) none
  /-- The last trial has succeeded. -/
  | closed : Fate trials (List.replicate trials true) (some .closed)
  /-- A trial has failed. -/
  | opened {n : Nat} (more : n < trials) :
      Fate trials (List.replicate n true ++ [false]) (some .opened)

namespace Fate

variable {trials : Nat} {results : List Bool} {next : Option State}

theorem next_eq_closed_iff (h : Fate trials results next) :
    next = some .closed ↔ results.count true = trials ∧ results.count false = 0 := by
  cases h with
  | lasting more =>
    simp [List.count_replicate]
    omega
  | closed => simp [List.count_replicate]
  | opened more => simp

theorem next_eq_none_iff (h : Fate trials results next) :
    next = none ↔ results.count true < trials ∧ results.count false = 0 := by
  cases h with
  | lasting more => simpa [List.count_replicate] using more
  | closed => simp [List.count_replicate]
  | opened more => simp

theorem next_eq_opened_iff (h : Fate trials results next) :
    next = some .opened ↔ false ∈ results := by
  cases h with
  | lasting more => simp [List.mem_replicate]
  | closed => simp [List.mem_replicate]
  | opened more => simp

/-- Nothing is counted after a failure. -/
theorem eq_nil_of_eq_append (h : Fate trials results next) {before after : List Bool}
    (split : results = before ++ false :: after) : after = [] := by
  have hfalse : false ∈ results := by
    rw [split]
    exact List.mem_append_right before List.mem_cons_self
  cases h with
  | lasting more => simp [List.mem_replicate] at hfalse
  | closed => simp [List.mem_replicate] at hfalse
  | @opened n more =>
    rcases List.eq_nil_or_concat after with rfl | ⟨rest, last, rfl⟩
    · rfl
    · have hsplit : List.replicate n true ++ [false] = (before ++ false :: rest) ++ [last] := by
        rw [split]
        simp
      obtain ⟨htrue, -⟩ := List.append_inj' hsplit rfl
      have hmem : false ∈ List.replicate n true := by
        rw [htrue]
        exact List.mem_append_right before List.mem_cons_self
      exact absurd (List.mem_replicate.1 hmem).2 Bool.false_ne_true

end Fate

/-- What is true of a half-open generation. -/
structure Term.IsTried (config : Config) (t : Term) : Prop where
  few : t.admitted.length ≤ config.halfOpenRequests
  /-- The outcomes that it has counted are of calls of its own, or of calls of the same number. -/
  own : ∀ o ∈ t.outcomes, o.1.place = t.place ∨ o.1.place + UInt64.size ≤ t.place
  fate : Fate config.halfOpenRequests t.results t.next

namespace Chronicle

variable {w w' : Chronicle}

/-- While a half-open generation lasts it has had successes only, and fewer than it has trials. -/
theorem Upright.lasting (h : Upright config w) (trials : 0 < config.halfOpenRequests)
    (fits : config.halfOpenRequests < UInt32.size) (state : w.breaker.state = .halfOpen) :
    w.term.results = List.replicate w.outcomes.length true ∧
      w.outcomes.length < config.halfOpenRequests ∧
      w.breaker.counts.consecutiveSuccesses = w.outcomes.length := by
  obtain ⟨events, hhistory, htells⟩ := h.told
  obtain ⟨hfailures, -, hstreak, hmore⟩ := h.halfOpen trials state
  rw [htells.totalFailures, hhistory.failures] at hfailures
  rw [hstreak]
  rw [htells.totalSuccesses, hhistory.successes] at hmore ⊢
  have hlimit : config.halfOpenRequests ≤ tallyLimit := Nat.le_sub_one_of_lt fits
  have hkinds := length_outcomes w
  have hnone : w.outcomes.countP (!·.2) = 0 := by omega
  refine ⟨?_, by omega, by omega⟩
  rw [List.eq_replicate_iff, term, Term.results, List.length_map, List.forall_mem_map]
  refine ⟨rfl, fun o mem => ?_⟩
  simpa using List.countP_eq_zero.1 hnone o mem

/-- What is true of every half-open generation, the current one or an ended one. -/
structure Tested (config : Config) (w : Chronicle) : Prop
    extends Upright config w, Accounted w where
  few : w.breaker.state = .halfOpen → w.admitted.length ≤ config.halfOpenRequests
  ended : ∀ t ∈ w.ended, t.state = .halfOpen → t.IsTried config

/-- What the generation has counted once another outcome is counted. -/
theorem results_record {call : Admission} (current : w.breaker.generation = call.generation)
    (succeeded : Bool) :
    (w.record call succeeded).term.results = w.term.results ++ [succeeded] := by
  simp [term, Term.results, record_outcomes_of_eq current]

namespace Tested

theorem start (config : Config) (now : Nat) : Tested config (Chronicle.start config now) where
  toUpright := Upright.start config now
  toAccounted := Accounted.start config now
  few := fun _ => Nat.zero_le _
  ended := by simp [Chronicle.start]

/-- A half-open generation is as it should be as long as it lasts. -/
theorem tried (h : Tested config w) (trials : 0 < config.halfOpenRequests)
    (fits : config.halfOpenRequests < UInt32.size) (state : w.breaker.state = .halfOpen) :
    w.term.IsTried config where
  few := h.few state
  own := h.counted
  fate := by
    obtain ⟨hresults, hmore, -⟩ := h.lasting trials fits state
    rw [hresults]
    exact .lasting hmore

theorem few_move (h : Tested config w) (fits : config.halfOpenRequests < UInt32.size)
    (hmove : Move config w w') (state : w'.breaker.state = .halfOpen) :
    w'.admitted.length ≤ config.halfOpenRequests := by
  cases hmove with
  | roll expired closed => exact Nat.zero_le _
  | cool expired opened => exact Nat.zero_le _
  | letIn admits room =>
    obtain ⟨events, hhistory, htells⟩ := h.told
    have hroom := room state
    rw [htells.requests, hhistory.requests] at hroom
    rw [letThrough_admitted, List.length_cons]
    unfold tallyLimit at hroom
    omega
  | stale pending other => exact h.few state
  | counted pending current calm trial => exact h.few state
  | ended pending current reason => exact Nat.zero_le _
  | pass span => exact h.few state

/-- An outcome that ends a half-open generation is the failure of a trial, or the success of the
last. -/
theorem fate_of_ends (h : Tested config w) (trials : 0 < config.halfOpenRequests)
    (fits : config.halfOpenRequests < UInt32.size) (state : w.breaker.state = .halfOpen)
    {succeeded : Bool} {next : State} (reason : Ends config w.breaker succeeded next) :
    Fate config.halfOpenRequests (w.term.results ++ [succeeded]) (some next) := by
  obtain ⟨hresults, hmore, hstreak⟩ := h.lasting trials fits state
  rw [hresults]
  cases reason with
  | tripped closed trips => simp [state] at closed
  | relapsed _ failed =>
    rw [failed]
    exact .opened hmore
  | recovered _ success enough =>
    subst success
    have hlast : config.halfOpenRequests ≤ tallyNext w.breaker.counts.consecutiveSuccesses :=
      enough
    have hall : w.outcomes.length + 1 = config.halfOpenRequests := by
      rw [hstreak] at hlast
      unfold tallyNext at hlast
      omega
    rw [← List.replicate_succ', hall]
    exact .closed

/-- A half-open generation that has ended is as it should be. -/
theorem tried_record (h : Tested config w) (trials : 0 < config.halfOpenRequests)
    (fits : config.halfOpenRequests < UInt32.size) {call : Admission} (pending : call ∈ w.calls)
    (current : w.breaker.generation = call.generation) {succeeded : Bool} {next : State}
    (reason : Ends config w.breaker succeeded next) (state : w.breaker.state = .halfOpen) :
    { (w.record call succeeded).term with next := some next : Term }.IsTried config where
  few := h.few state
  own := (h.record pending succeeded).counted
  fate := by
    change Fate _ (w.record call succeeded).term.results _
    rw [results_record current]
    exact h.fate_of_ends trials fits state reason

theorem ended_move (h : Tested config w) (trials : 0 < config.halfOpenRequests)
    (fits : config.halfOpenRequests < UInt32.size) (hmove : Move config w w') :
    ∀ t ∈ w'.ended, t.state = .halfOpen → t.IsTried config := by
  cases hmove with
  | roll expired closed =>
    rw [renewed_ended, List.forall_mem_cons]
    exact ⟨by simp [term, closed], h.ended⟩
  | cool expired opened =>
    rw [renewed_ended, List.forall_mem_cons]
    exact ⟨by simp [term, opened], h.ended⟩
  | letIn state room => exact h.ended
  | stale pending other => exact h.ended
  | counted pending current calm trial => exact h.ended
  | ended pending current reason =>
    rw [renewed_ended, List.forall_mem_cons]
    exact ⟨h.tried_record trials fits pending current reason, h.ended⟩
  | pass span => exact h.ended

/-- All that can happen to a breaker keeps it so. -/
theorem move (h : Tested config w) (trials : 0 < config.halfOpenRequests)
    (fits : config.halfOpenRequests < UInt32.size) (hmove : Move config w w') :
    Tested config w' where
  toUpright := h.toUpright.move hmove
  toAccounted := h.toAccounted.move hmove
  few := h.few_move fits hmove
  ended := h.ended_move trials fits hmove

/-- A generation whose trials have all been given out has one on its way. -/
theorem exists_isOwn (h : Tested config w) (trials : 0 < config.halfOpenRequests)
    (fits : config.halfOpenRequests < UInt32.size) (state : w.breaker.state = .halfOpen)
    (full : config.halfOpenRequests ≤ w.breaker.counts.requests) :
    ∃ call ∈ w.calls, w.isOwn call := by
  obtain ⟨events, hhistory, htells⟩ := h.told
  obtain ⟨-, hmore, -⟩ := h.lasting trials fits state
  have hout : w.outcomes.countP (w.isOwn ·.1) ≤ w.outcomes.length := List.countP_le_length
  have hlength := h.length_admitted
  rw [htells.requests, hhistory.requests] at full
  have hpos : 0 < w.calls.countP w.isOwn := by omega
  exact List.countP_pos_iff.1 hpos

end Tested

theorem Reachable.tested (h : Reachable config w) (trials : 0 < config.halfOpenRequests)
    (fits : config.halfOpenRequests < UInt32.size) : Tested config w :=
  h.preserves (Tested.start config) fun hmove hbefore => hbefore.move trials fits hmove

/-- Only a half-open breaker has let too many calls through. -/
theorem full_of_tooManyRequests (trials : 0 < config.halfOpenRequests)
    (refused : (w.breaker.permit config w.now).2 = .error .tooManyRequests) :
    w.breaker.state = .halfOpen ∧ config.halfOpenRequests ≤ w.breaker.counts.requests := by
  have hlook := refreshed config w.now w.breaker
  have hanswer := permitted config w.now w.breaker
  generalize (w.breaker.refresh config w.now).breaker = b at hlook hanswer
  rw [refused] at hanswer
  generalize (w.breaker.permit config w.now).1.breaker = after at hanswer
  cases hanswer with
  | spent state full =>
    cases hlook with
    | kept current => exact ⟨state, full⟩
    | rolled expired closed => simp at state
    | cooled expired opened =>
      rw [renew_counts] at full
      exact absurd full (Nat.not_le.2 trials)

/-- Whatever happens to a breaker and in whichever order, no half-open generation lets more calls
through than its trials. It ends closed when so many outcomes are successes and none is a failure,
and open when one is a failure, which is then the last; and it does not end otherwise. Each of its
own calls is on its way or among the outcomes, and the outcomes are those of its own calls, or of
calls that have been on their way for as many generations as there are numbers. A call is refused
because there are too many only while one of the generation's own is on its way. -/
theorem trials_bounded_and_never_stuck (trials : 1 ≤ config.halfOpenRequests)
    (fits : config.halfOpenRequests < UInt32.size) (h : Reachable config w) :
    (∀ t ∈ w.terms, t.state = .halfOpen →
      t.admitted.length ≤ config.halfOpenRequests ∧
      (t.next = some .closed ↔
        t.results.count true = config.halfOpenRequests ∧ t.results.count false = 0) ∧
      (t.next = some .opened ↔ false ∈ t.results) ∧
      (∀ before after, t.results = before ++ false :: after → after = []) ∧
      (t.next = none ↔
        t.results.count true < config.halfOpenRequests ∧ t.results.count false = 0) ∧
      ∀ o ∈ t.outcomes, o.1.place = t.place ∨ o.1.place + UInt64.size ≤ t.place) ∧
    (w.breaker.state = .halfOpen →
      w.admitted.length = w.calls.countP w.isOwn + w.outcomes.countP (w.isOwn ·.1)) ∧
    ((w.breaker.permit config w.now).2 = .error .tooManyRequests →
      w.breaker.state = .halfOpen ∧ ∃ call ∈ w.calls, w.isOwn call) ∧
    (w.breaker.state = .halfOpen → (∀ call ∈ w.calls, ¬ w.isOwn call) →
      (w.breaker.permit config w.now).2 = .ok w.breaker.generation) := by
  have htested := h.tested trials fits
  refine ⟨?_, ?_, ?_, ?_⟩
  · intro t hmem hstate
    have htried : t.IsTried config := by
      rcases List.mem_cons.1 hmem with rfl | hmem
      · exact htested.tried trials fits hstate
      · exact htested.ended t hmem hstate
    have hfate := htried.fate
    exact ⟨htried.few, hfate.next_eq_closed_iff, hfate.next_eq_opened_iff,
      fun before after => hfate.eq_nil_of_eq_append, hfate.next_eq_none_iff, htried.own⟩
  · exact fun _ => htested.length_admitted
  · intro hrefused
    obtain ⟨hstate, hfull⟩ := full_of_tooManyRequests trials hrefused
    exact ⟨hstate, htested.exists_isOwn trials fits hstate hfull⟩
  · intro hstate hnone
    have hanswer := permitted config w.now w.breaker
    rw [refresh_of_trying hstate] at hanswer
    generalize (w.breaker.permit config w.now).1.breaker = after at hanswer
    generalize (w.breaker.permit config w.now).2 = answer at hanswer ⊢
    cases hanswer with
    | opened state => simp [hstate] at state
    | spent state full =>
      obtain ⟨call, hmem, hown⟩ := htested.exists_isOwn trials fits hstate full
      exact absurd hown (hnone call hmem)
    | admitted state room => rfl

/-- Of two trials one has succeeded: the breaker refuses a third call while the other is on its
way. -/
theorem trial_on_its_way_of_refused :
    ∃ w ∈ play { minRequests := 1, halfOpenRequests := 2, cooldown := 3 }
        (.start { minRequests := 1, halfOpenRequests := 2, cooldown := 3 } 7)
        [.asked, .dropped ⟨0, 0, 0, 7⟩, .passed 3, .asked, .asked, .finished ⟨2, 2, 1, 10⟩ true],
      w.term = ⟨.halfOpen, 2, [⟨2, 2, 2, 10⟩, ⟨2, 2, 1, 10⟩], [(⟨2, 2, 1, 10⟩, true)], none⟩ ∧
        w.admitted.length ≤ 2 ∧
        ∃ call ∈ w.calls, w.isOwn call := by
  have hplays : ∃ w ∈ play { minRequests := 1, halfOpenRequests := 2, cooldown := 3 }
        (.start { minRequests := 1, halfOpenRequests := 2, cooldown := 3 } 7)
        [.asked, .dropped ⟨0, 0, 0, 7⟩, .passed 3, .asked, .asked, .finished ⟨2, 2, 1, 10⟩ true],
      w.term = ⟨.halfOpen, 2, [⟨2, 2, 2, 10⟩, ⟨2, 2, 1, 10⟩], [(⟨2, 2, 1, 10⟩, true)], none⟩ ∧
        (w.breaker.permit { minRequests := 1, halfOpenRequests := 2, cooldown := 3 } w.now).2 =
          .error .tooManyRequests := by
    decide +kernel
  obtain ⟨w, hw, hterm, hrefused⟩ := hplays
  have hreach : Reachable { minRequests := 1, halfOpenRequests := 2, cooldown := 3 } w :=
    (Reachable.start 7).of_play hw
  obtain ⟨hterms, -, hstuck, -⟩ :=
    trials_bounded_and_never_stuck (Nat.le_add_left 1 1) (by decide) hreach
  obtain ⟨hstate, hflying⟩ := hstuck hrefused
  have hfew : w.admitted.length ≤ 2 := (hterms w.term List.mem_cons_self hstate).1
  exact ⟨w, hw, hterm, hfew, hflying⟩

end Chronicle

end Courier.Breaker
