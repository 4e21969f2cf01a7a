import Courier.Proofs.Breaker.Operations
import Mathlib.Logic.Relation

/-!
# The chronicle of a breaker

A breaker knows one generation, the current one, and forgets everything when the next begins. A
chronicle keeps what is forgotten: which generations there have been, which calls each of them let
through, whose outcomes it counted and in which state it ended. It also keeps the calls on their
way. A call is known by its serial number, and it is known when it was let through and which place
its generation has among all of them.

Everything that is said of runs of a breaker is said of chronicles: the tallies and the expiry, what
can be seen, trips and trials each take from them what they need.

The number of a generation has 64 bits and comes round; its place does not. Nothing here assumes
that a call comes out before the numbers have come round.

## Main definitions

* `Breaker.Admission`, `Breaker.Term`: a call that was let through, and a generation.
* `Breaker.Chronicle`, `Breaker.Chronicle.step`.
* `Breaker.Chronicle.earlier`: the calls of the generations that have ended.
* `Breaker.Chronicle.Reachable`: what any run of a breaker comes to.
* `Breaker.Chronicle.Move`: what steps are made of; `Reachable.preserves` goes through them.
* `Breaker.Chronicle.Numbered`: numbers are places as far as 64 bits can tell.
-/

namespace Courier.Breaker

/-- A call that was let through. -/
structure Admission where
  /-- The number of its generation, as the breaker gave it. -/
  generation : UInt64
  /-- How many generations there had been before that one. -/
  place : Nat
  /-- How many calls had been let through before it. -/
  serial : Nat
  /-- When it was let through. -/
  moment : Nat
  deriving DecidableEq, Repr

/-- A generation, as far as it has come. -/
structure Term where
  state : State
  /-- How many generations there had been before it. -/
  place : Nat
  /-- The calls that it has let through, from the last. -/
  admitted : List Admission
  /-- The calls whose outcomes it has counted, from the first, with their outcomes. -/
  outcomes : List (Admission × Bool)
  /-- The state of the generation after it, if there is one. -/
  next : Option State
  deriving DecidableEq, Repr

/-- The outcomes alone. -/
def Term.results (t : Term) : List Bool :=
  t.outcomes.map (·.2)

/-- A breaker with all that has become of it. -/
structure Chronicle where
  breaker : Breaker
  now : Nat
  /-- When the time of the current generation began. Trials have none and leave this as it is, so it
  makes no difference who is the first to notice that a breaker has cooled down. -/
  since : Nat
  /-- The calls that have neither come out nor been dropped. -/
  calls : List Admission := []
  /-- The generations that have ended, from the last. -/
  ended : List Term := []
  /-- The calls that the current generation has let through, from the last. -/
  admitted : List Admission := []
  /-- The calls whose outcomes it has counted. -/
  outcomes : List (Admission × Bool) := []
  deriving DecidableEq, Repr

namespace Chronicle

variable {config : Config} {w : Chronicle} {b : Breaker}

/-- The current generation. -/
def term (w : Chronicle) : Term :=
  ⟨w.breaker.state, w.ended.length, w.admitted, w.outcomes, none⟩

/-- All generations, from the current one. -/
def terms (w : Chronicle) : List Term :=
  w.term :: w.ended

/-- The calls that the generations before the current one have let through, from the last. -/
def earlier (w : Chronicle) : List Admission :=
  w.ended.flatMap (·.admitted)

/-- A call on its way belongs to the current generation. -/
def isOwn (w : Chronicle) (call : Admission) : Bool :=
  call.place = w.ended.length

/-- A new breaker. -/
def start (config : Config) (now : Nat) : Chronicle :=
  { breaker := .start config now, now, since := now }

/-- When the time of a generation began that begins now in the given state. -/
def sinceOf (w : Chronicle) : State → Nat
  | .closed | .opened => w.now
  | .halfOpen => w.since

/-- An operation has left the given breaker. If that has another number, a generation has ended. -/
def become (w : Chronicle) (b : Breaker) : Chronicle :=
  if b.generation = w.breaker.generation then { w with breaker := b }
  else { w with
    breaker := b
    since := w.sinceOf b.state
    ended := { w.term with next := some b.state } :: w.ended
    admitted := []
    outcomes := [] }

/-- Someone looks at the state or at the tallies. -/
def look (config : Config) (w : Chronicle) : Chronicle :=
  w.become (w.breaker.refresh config w.now).breaker

/-- The call that is let through next, with the given number. -/
def ticket (w : Chronicle) (generation : UInt64) : Admission :=
  ⟨generation, w.ended.length, (w.admitted ++ w.earlier).length, w.now⟩

/-- The chronicle with other tallies. -/
def withCounts (w : Chronicle) (counts : Counts) : Chronicle :=
  { w with breaker := w.breaker.withCounts counts }

/-- A call has been let through with the given number. -/
def letIn (w : Chronicle) (generation : UInt64) : Chronicle :=
  { w with
    calls := w.ticket generation :: w.calls
    admitted := w.ticket generation :: w.admitted }

/-- Someone asks for a call. The breaker looks first. -/
def ask (config : Config) (w : Chronicle) : Chronicle :=
  let (c, answer) := w.breaker.permit config w.now
  match answer with
  | .ok generation => ((w.look config).become c.breaker).letIn generation
  | .error _ => (w.look config).become c.breaker

/-- A call is no longer on its way. Its outcome is counted if its number is the current one. -/
def record (w : Chronicle) (call : Admission) (succeeded : Bool) : Chronicle :=
  { w with
    calls := w.calls.erase call
    outcomes := if w.breaker.generation = call.generation then w.outcomes ++ [(call, succeeded)]
      else w.outcomes }

/-- A call comes out. The breaker looks first. -/
def settle (config : Config) (w : Chronicle) (call : Admission) (succeeded : Bool) : Chronicle :=
  ((w.look config).record call succeeded).become
    (w.breaker.settle config w.now call.generation succeeded).breaker

/-- What can happen to a breaker. -/
inductive Event where
  /-- Someone asks for a call. -/
  | asked
  /-- A call comes out. -/
  | finished (call : Admission) (succeeded : Bool)
  /-- A call is dropped, which counts as a failure. -/
  | dropped (call : Admission)
  /-- Someone looks at the state or at the tallies. -/
  | looked
  /-- Time passes. -/
  | passed (span : Nat)
  deriving DecidableEq, Repr

/-- The call that comes out, and how. A call that is dropped has failed. -/
def Event.outcome? : Event → Option (Admission × Bool)
  | finished call succeeded => some (call, succeeded)
  | dropped call => some (call, false)
  | asked | looked | passed _ => none

/-- Only calls that are on their way come out. -/
def Event.CanHappen (w : Chronicle) : Event → Prop
  | finished call _ | dropped call => call ∈ w.calls
  | _ => True

/-- One step of a breaker. -/
def step (config : Config) (w : Chronicle) : Event → Chronicle
  | .asked => w.ask config
  | .finished call succeeded => w.settle config call succeeded
  | .dropped call => w.settle config call false
  | .looked => w.look config
  | .passed span => { w with now := w.now + span }

/-- What a breaker can come to. -/
inductive Reachable (config : Config) : Chronicle → Prop where
  | start (now : Nat) : Reachable config (.start config now)
  | step {w : Chronicle} {e : Event} (before : Reachable config w) (possible : e.CanHappen w) :
      Reachable config (w.step config e)

/-! ## Generations -/

@[simp] theorem become_breaker : (w.become b).breaker = b := by
  unfold become
  split <;> rfl

@[simp] theorem become_now : (w.become b).now = w.now := by
  unfold become
  split <;> rfl

@[simp] theorem become_calls : (w.become b).calls = w.calls := by
  unfold become
  split <;> rfl

theorem become_of_eq (h : b.generation = w.breaker.generation) :
    w.become b = { w with breaker := b } :=
  if_pos h

theorem become_of_ne (h : b.generation ≠ w.breaker.generation) :
    w.become b = { w with
      breaker := b
      since := w.sinceOf b.state
      ended := { w.term with next := some b.state } :: w.ended
      admitted := []
      outcomes := [] } :=
  if_neg h

@[simp] theorem become_self : w.become w.breaker = w :=
  become_of_eq rfl

@[simp] theorem become_withCounts (counts : Counts) :
    w.become (w.breaker.withCounts counts) = w.withCounts counts :=
  become_of_eq rfl

@[simp] theorem withCounts_breaker (counts : Counts) :
    (w.withCounts counts).breaker = w.breaker.withCounts counts := rfl

@[simp] theorem withCounts_ended (counts : Counts) : (w.withCounts counts).ended = w.ended := rfl

/-- The chronicle after a generation has begun in the given state. -/
def renewed (config : Config) (w : Chronicle) (state : State) : Chronicle :=
  { w with
    breaker := w.breaker.renew config w.now state
    since := w.sinceOf state
    ended := { w.term with next := some state } :: w.ended
    admitted := []
    outcomes := [] }

@[simp] theorem become_renew (state : State) :
    w.become (w.breaker.renew config w.now state) = w.renewed config state :=
  become_of_ne (add_one_ne _)

@[simp] theorem renewed_state (state : State) :
    (w.renewed config state).breaker.state = state := rfl

@[simp] theorem renewed_calls (state : State) : (w.renewed config state).calls = w.calls := rfl

@[simp] theorem renewed_ended (state : State) :
    (w.renewed config state).ended = { w.term with next := some state } :: w.ended := rfl

/-- The chronicle after the current generation has let a call through and counted it. -/
def letThrough (w : Chronicle) : Chronicle :=
  (w.letIn w.breaker.generation).withCounts w.breaker.counts.onRequest

@[simp] theorem letThrough_calls :
    w.letThrough.calls = w.ticket w.breaker.generation :: w.calls := rfl

@[simp] theorem letThrough_ended : w.letThrough.ended = w.ended := rfl

@[simp] theorem ticket_generation (generation : UInt64) :
    (w.ticket generation).generation = generation := rfl

@[simp] theorem isOwn_ticket (generation : UInt64) : w.isOwn (w.ticket generation) = true :=
  decide_eq_true rfl

@[simp] theorem letThrough_admitted :
    w.letThrough.admitted = w.ticket w.breaker.generation :: w.admitted := rfl

@[simp] theorem letThrough_outcomes : w.letThrough.outcomes = w.outcomes := rfl

@[simp] theorem letThrough_isOwn : w.letThrough.isOwn = w.isOwn := rfl

@[simp] theorem record_breaker (call : Admission) (succeeded : Bool) :
    (w.record call succeeded).breaker = w.breaker := rfl

@[simp] theorem record_ended (call : Admission) (succeeded : Bool) :
    (w.record call succeeded).ended = w.ended := rfl

@[simp] theorem record_calls (call : Admission) (succeeded : Bool) :
    (w.record call succeeded).calls = w.calls.erase call := rfl

@[simp] theorem record_isOwn (call : Admission) (succeeded : Bool) :
    (w.record call succeeded).isOwn = w.isOwn := rfl

@[simp] theorem record_admitted (call : Admission) (succeeded : Bool) :
    (w.record call succeeded).admitted = w.admitted := rfl

section

variable (call : Admission) (succeeded : Bool)

@[simp] theorem record_become_self :
    (w.record call succeeded).become w.breaker = w.record call succeeded :=
  become_self

@[simp] theorem record_become_withCounts (counts : Counts) :
    (w.record call succeeded).become (w.breaker.withCounts counts) =
      (w.record call succeeded).withCounts counts :=
  become_withCounts counts

@[simp] theorem record_become_renew (state : State) :
    (w.record call succeeded).become (w.breaker.renew config w.now state) =
      (w.record call succeeded).renewed config state :=
  become_renew state

end

theorem record_outcomes_of_eq {call : Admission} (h : w.breaker.generation = call.generation)
    (succeeded : Bool) :
    (w.record call succeeded).outcomes = w.outcomes ++ [(call, succeeded)] :=
  if_pos h

theorem record_outcomes_of_ne {call : Admission} (h : w.breaker.generation ≠ call.generation)
    (succeeded : Bool) : (w.record call succeeded).outcomes = w.outcomes :=
  if_neg h

/-! ## Moves -/

/-- What a step of a breaker consists of: a look at it may begin a generation, and then a call is
let through or comes out. -/
inductive Move (config : Config) (w : Chronicle) : Chronicle → Prop where
  /-- The window of a closed breaker is over. -/
  | roll (expired : w.breaker.hasExpired w.now) (closed : w.breaker.state = .closed) :
      Move config w (w.renewed config .closed)
  /-- An open breaker has cooled down. -/
  | cool (expired : w.breaker.hasExpired w.now) (opened : w.breaker.state = .opened) :
      Move config w (w.renewed config .halfOpen)
  /-- A call is let through. -/
  | letIn (state : w.breaker.state ≠ .opened)
      (room : w.breaker.state = .halfOpen →
        w.breaker.counts.requests < config.halfOpenRequests) :
      Move config w w.letThrough
  /-- A call comes out that has another number. -/
  | stale {call : Admission} {succeeded : Bool} (pending : call ∈ w.calls)
      (other : w.breaker.generation ≠ call.generation) : Move config w (w.record call succeeded)
  /-- A call comes out and is counted, and that is all. -/
  | counted {call : Admission} {succeeded : Bool} (pending : call ∈ w.calls)
      (current : w.breaker.generation = call.generation)
      (calm : w.breaker.state = .closed →
        config.trips (w.breaker.counts.onOutcome succeeded) = false)
      (trial : w.breaker.state = .halfOpen → succeeded ∧
        (w.breaker.counts.onOutcome succeeded).consecutiveSuccesses < config.halfOpenRequests) :
      Move config w
        ((w.record call succeeded).withCounts (w.breaker.counts.onOutcome succeeded))
  /-- A call comes out and ends the generation. -/
  | ended {call : Admission} {succeeded : Bool} {next : State} (pending : call ∈ w.calls)
      (current : w.breaker.generation = call.generation)
      (reason : Ends config w.breaker succeeded next) :
      Move config w ((w.record call succeeded).renewed config next)
  /-- Time passes. -/
  | pass (span : Nat) : Move config w { w with now := w.now + span }

/-- A move stays in its generation and in its state, or one more generation has ended. -/
theorem Move.same_or_ended {v : Chronicle} (h : Move config w v) :
    (v.ended.length = w.ended.length ∧ v.breaker.state = w.breaker.state) ∨
      v.ended.length = w.ended.length + 1 := by
  cases h with
  | roll expired closed => exact .inr rfl
  | cool expired opened => exact .inr rfl
  | letIn state room => exact .inl ⟨rfl, rfl⟩
  | stale pending other => exact .inl ⟨rfl, rfl⟩
  | counted pending current calm trial => exact .inl ⟨rfl, rfl⟩
  | ended pending current reason => exact .inr rfl
  | pass span => exact .inl ⟨rfl, rfl⟩

/-- Any number of moves. -/
abbrev Moves (config : Config) : Chronicle → Chronicle → Prop :=
  Relation.ReflTransGen (Move config)

/-- A look is a move, or nothing. -/
theorem move_look (config : Config) (w : Chronicle) :
    Relation.ReflGen (Move config) w (w.look config) := by
  have hlook := refreshed config w.now w.breaker
  unfold look
  generalize (w.breaker.refresh config w.now).breaker = b at hlook ⊢
  cases hlook with
  | kept current =>
    rw [become_self]
  | rolled expired closed =>
    rw [become_renew]
    exact .single (.roll expired closed)
  | cooled expired opened =>
    rw [become_renew]
    exact .single (.cool expired opened)

@[simp] theorem look_breaker :
    (w.look config).breaker = (w.breaker.refresh config w.now).breaker := become_breaker

@[simp] theorem look_now : (w.look config).now = w.now := become_now

@[simp] theorem look_calls : (w.look config).calls = w.calls := become_calls

theorem look_of_refresh_eq (h : w.breaker.refresh config w.now = ⟨w.breaker, []⟩) :
    w.look config = w := by
  rw [look, h]
  exact become_self

theorem look_look (config : Config) (w : Chronicle) :
    (w.look config).look config = w.look config := by
  apply look_of_refresh_eq
  rw [look_breaker, look_now, refresh_refresh]

@[simp] theorem ask_breaker :
    (w.ask config).breaker = (w.breaker.permit config w.now).1.breaker := by
  simp only [ask]
  split
  · exact become_breaker
  · exact become_breaker

@[simp] theorem ask_now : (w.ask config).now = w.now := by
  simp only [ask]
  split
  · exact become_now.trans look_now
  · exact become_now.trans look_now

@[simp] theorem settle_breaker (call : Admission) (succeeded : Bool) :
    (w.settle config call succeeded).breaker =
      (w.breaker.settle config w.now call.generation succeeded).breaker := become_breaker

@[simp] theorem settle_now (call : Admission) (succeeded : Bool) :
    (w.settle config call succeeded).now = w.now := become_now.trans look_now

@[simp] theorem settle_calls (call : Admission) (succeeded : Bool) :
    (w.settle config call succeeded).calls = w.calls.erase call := by
  rw [settle, become_calls, record_calls, look_calls]

/-- Whoever asks after a look leaves what he would have left without it. -/
theorem ask_look (config : Config) (w : Chronicle) :
    (w.look config).ask config = w.ask config := by
  obtain ⟨hbreaker, hanswer⟩ := permit_refresh config w.now w.breaker
  simp only [ask, look_look, look_now, look_breaker, hbreaker, hanswer]

/-- So does a call that comes out after a look. -/
theorem settle_look (config : Config) (w : Chronicle) (call : Admission) (succeeded : Bool) :
    (w.look config).settle config call succeeded = w.settle config call succeeded := by
  simp only [settle, look_look, look_now, look_breaker, settle_refresh_breaker]

/-- After the look asking is a move, or nothing. -/
theorem move_ask (config : Config) (w : Chronicle) :
    Relation.ReflGen (Move config) (w.look config) (w.ask config) := by
  have hanswer := permitted config w.now w.breaker
  rw [← look_breaker] at hanswer
  simp only [ask]
  generalize w.look config = v at hanswer ⊢
  generalize (w.breaker.permit config w.now).1.breaker = b at hanswer ⊢
  generalize (w.breaker.permit config w.now).2 = answer at hanswer ⊢
  cases hanswer with
  | opened state =>
    rw [become_self]
  | spent state full =>
    rw [become_self]
  | admitted state room =>
    rw [become_withCounts]
    exact .single (.letIn state room)

/-- After the look the outcome of a call is a move. -/
theorem move_settle {call : Admission} (pending : call ∈ w.calls) (succeeded : Bool) :
    Move config (w.look config) (w.settle config call succeeded) := by
  have houtcome : Settled config (w.look config).now (w.look config).breaker call.generation
      succeeded (w.breaker.settle config w.now call.generation succeeded).breaker := by
    rw [look_now, look_breaker]
    exact settled config w.now w.breaker call.generation succeeded
  have pending : call ∈ (w.look config).calls := by rwa [look_calls]
  unfold settle
  generalize w.look config = v at houtcome pending ⊢
  generalize (w.breaker.settle config w.now call.generation succeeded).breaker = last at houtcome ⊢
  cases houtcome with
  | stale other =>
    rw [record_become_self]
    exact .stale pending other
  | counted current calm trial =>
    rw [record_become_withCounts]
    exact .counted pending current calm trial
  | ended current reason =>
    rw [record_become_renew]
    exact .ended pending current reason

/-- A step is made of moves. -/
theorem moves_step {e : Event} (possible : e.CanHappen w) : Moves config w (w.step config e) := by
  have hlook : Moves config w (w.look config) := (move_look config w).to_reflTransGen
  cases e with
  | asked => exact hlook.trans (move_ask config w).to_reflTransGen
  | finished call succeeded => exact hlook.tail (move_settle possible succeeded)
  | dropped call => exact hlook.tail (move_settle possible false)
  | looked => exact hlook
  | passed span => exact .single (.pass span)

/-- A breaker comes to everything by moves. -/
theorem Reachable.moves (h : Reachable config w) :
    ∃ now, Moves config (Chronicle.start config now) w := by
  induction h with
  | start now => exact ⟨now, .refl⟩
  | step before possible ih =>
    obtain ⟨now, hmoves⟩ := ih
    exact ⟨now, hmoves.trans (moves_step possible)⟩

/-- What moves keep is true of everything that a breaker can come to. -/
theorem Reachable.preserves {P : Chronicle → Prop} (h : Reachable config w)
    (start : ∀ now, P (Chronicle.start config now))
    (move : ∀ {v v' : Chronicle}, Move config v v' → P v → P v') : P w := by
  obtain ⟨now, hmoves⟩ := h.moves
  clear h
  induction hmoves with
  | refl => exact start now
  | tail _ last ih => exact move last ih

/-! ## Playing events -/

instance (w : Chronicle) : (e : Event) → Decidable (e.CanHappen w)
  | .finished call _ => inferInstanceAs (Decidable (call ∈ w.calls))
  | .dropped call => inferInstanceAs (Decidable (call ∈ w.calls))
  | .asked | .looked | .passed _ => inferInstanceAs (Decidable True)

/-- The chronicle after an event, if the event can happen. -/
def next? (config : Config) (w : Chronicle) (e : Event) : Option Chronicle :=
  if e.CanHappen w then some (w.step config e) else none

/-- The chronicle after events, one after the other, if all of them can happen. -/
def play (config : Config) (w : Chronicle) (events : List Event) : Option Chronicle :=
  events.foldlM (next? config) w

theorem play_cons_iff {e : Event} {events : List Event} {v : Chronicle} :
    play config w (e :: events) = some v ↔
      e.CanHappen w ∧ play config (w.step config e) events = some v := by
  by_cases possible : e.CanHappen w <;> simp [play, next?, possible]

theorem play_append_iff {before events : List Event} {v : Chronicle} :
    play config w (before ++ events) = some v ↔
      ∃ u, play config w before = some u ∧ play config u events = some v := by
  simp only [play, List.foldlM_append]
  exact Option.bind_eq_some_iff

/-- What is played is reached. -/
theorem Reachable.of_play {events : List Event} {v : Chronicle} (before : Reachable config w)
    (h : play config w events = some v) : Reachable config v := by
  induction events generalizing w with
  | nil =>
    obtain rfl : w = v := Option.some.inj h
    exact before
  | cons e events ih =>
    obtain ⟨u, hu, hrest⟩ := Option.bind_eq_some_iff.1 h
    simp only [next?] at hu
    split at hu
    · next possible =>
      obtain rfl := Option.some.inj hu
      exact ih (.step before possible) hrest
    · cases hu

/-! ## Numbers and places -/

/-- Numbers are places as far as 64 bits can tell, and calls are not of generations to come. -/
structure Numbered (w : Chronicle) : Prop where
  current : w.breaker.generation = UInt64.ofNat w.ended.length
  calls : ∀ call ∈ w.calls, call.generation = UInt64.ofNat call.place
  past : ∀ call ∈ w.calls, call.place ≤ w.ended.length

/-- A call is not so old that the numbers come round before the next generation ends. -/
def IsRecent (w : Chronicle) (call : Admission) : Prop :=
  w.ended.length + 1 < call.place + UInt64.size

instance (w : Chronicle) (call : Admission) : Decidable (w.IsRecent call) :=
  inferInstanceAs (Decidable (_ < _))

namespace Numbered

theorem start (config : Config) (now : Nat) : Numbered (Chronicle.start config now) where
  current := rfl
  calls := by simp [Chronicle.start]
  past := by simp [Chronicle.start]

theorem renewed (h : Numbered w) (state : State) : Numbered (w.renewed config state) where
  current := by
    have hnext : w.breaker.generation + 1 = UInt64.ofNat (w.ended.length + 1) := by
      rw [h.current, UInt64.ofNat_add]
      rfl
    exact hnext
  calls := h.calls
  past := by
    intro call hmem
    exact Nat.le_succ_of_le (h.past call hmem)

theorem record (h : Numbered w) (call : Admission) (succeeded : Bool) :
    Numbered (w.record call succeeded) where
  current := h.current
  calls := by
    intro other hmem
    exact h.calls other (List.mem_of_mem_erase hmem)
  past := by
    intro other hmem
    exact h.past other (List.mem_of_mem_erase hmem)

theorem withCounts (h : Numbered w) (counts : Counts) : Numbered (w.withCounts counts) :=
  ⟨h.current, h.calls, h.past⟩

theorem letThrough (h : Numbered w) : Numbered w.letThrough where
  current := h.current
  calls := by
    intro call hmem
    rcases List.mem_cons.1 hmem with rfl | hmem
    · exact h.current
    · exact h.calls call hmem
  past := by
    intro call hmem
    rcases List.mem_cons.1 hmem with rfl | hmem
    · exact Nat.le_refl w.ended.length
    · exact h.past call hmem

theorem move {w' : Chronicle} (h : Numbered w) (hmove : Move config w w') : Numbered w' := by
  cases hmove with
  | roll expired closed => exact h.renewed .closed
  | cool expired opened => exact h.renewed .halfOpen
  | letIn state room => exact h.letThrough
  | stale pending other => exact h.record _ _
  | counted pending current calm trial => exact (h.record _ _).withCounts _
  | ended pending current reason => exact (h.record _ _).renewed _
  | pass span => exact ⟨h.current, h.calls, h.past⟩

/-- A call that comes out with the current number is of the current generation, or so old that the
numbers have come round since. -/
theorem place_eq_or_le (h : Numbered w) {call : Admission} (pending : call ∈ w.calls)
    (current : w.breaker.generation = call.generation) :
    call.place = w.ended.length ∨ call.place + UInt64.size ≤ w.ended.length := by
  rw [h.current, h.calls call pending] at current
  have hpast := h.past call pending
  have hmod := congrArg UInt64.toNat current
  simp only [UInt64.toNat_ofNat'] at hmod
  unfold UInt64.size
  omega

/-- A call of the current generation has the current number. -/
theorem generation_of_isOwn (h : Numbered w) {call : Admission} (pending : call ∈ w.calls)
    (own : w.isOwn call) : w.breaker.generation = call.generation := by
  have hplace : call.place = w.ended.length := of_decide_eq_true own
  rw [h.current, h.calls call pending, hplace]

/-- No call on its way has the number of the generation to come, unless it is too old. -/
theorem generation_ne_next (h : Numbered w) {call : Admission} (pending : call ∈ w.calls)
    (recent : w.IsRecent call) : call.generation ≠ w.breaker.generation + 1 := by
  intro current
  have hnext : w.breaker.generation + 1 = UInt64.ofNat (w.ended.length + 1) := by
    rw [h.current, UInt64.ofNat_add]
    rfl
  rw [hnext, h.calls call pending] at current
  have hpast := h.past call pending
  have hmod := congrArg UInt64.toNat current
  simp only [UInt64.toNat_ofNat'] at hmod
  unfold IsRecent UInt64.size at recent
  omega

/-- Until the numbers come round the calls of the current generation are those with its number. -/
theorem isOwn_iff (h : Numbered w) (few : w.ended.length < UInt64.size) {call : Admission}
    (pending : call ∈ w.calls) : w.isOwn call ↔ w.breaker.generation = call.generation := by
  refine ⟨h.generation_of_isOwn pending, fun current => decide_eq_true ?_⟩
  have hplace := h.place_eq_or_le pending current
  omega
end Numbered

theorem Reachable.numbered (h : Reachable config w) : Numbered w :=
  h.preserves (Numbered.start config) fun hmove hbefore => hbefore.move hmove

end Chronicle

end Courier.Breaker
