import Courier.Proofs.Breaker.Cooldown

/-!
# Where closed generations begin

A closed generation begins with a new breaker, with a look at one whose window is over, or with the
success of the last trial. However it begins, nothing has been counted then, and no call on its way
belongs to it, unless one is so old that it has the number of the new generation.

A single event may begin a generation and be the first to happen in it, since whatever is done to a
breaker is done after a look. So it is looks and single moves, and not events, that generations are
followed along from one to the next.

## Main definitions

* `Breaker.Chronicle.Begins`: a closed generation begins.
* `Breaker.Chronicle.HasBegun`: something that has come from the beginning of its generation.
* `Breaker.Chronicle.Reachable.hasBegun`.
-/

namespace Courier.Breaker.Chronicle

variable {config : Config} {w v : Chronicle} {e : Event}

/-! ## After a look -/

/-- Whatever is done to a breaker is done after a look. -/
theorem step_look (acts : ¬ e.IsPassing) : (w.look config).step config e = w.step config e := by
  cases e with
  | asked => exact ask_look config w
  | finished call succeeded => exact settle_look config w call succeeded
  | dropped call => exact settle_look config w call false
  | looked => exact look_look config w
  | passed span => exact absurd trivial acts

theorem canHappen_look : e.CanHappen (w.look config) ↔ e.CanHappen w := by
  cases e with
  | asked | looked | passed span => exact Iff.rfl
  | finished call succeeded => exact (congrArg (call ∈ ·) look_calls).to_iff
  | dropped call => exact (congrArg (call ∈ ·) look_calls).to_iff

/-- After a look a step is a move, or nothing. -/
theorem move_step (possible : e.CanHappen w) (acts : ¬ e.IsPassing) :
    Relation.ReflGen (Move config) (w.look config) ((w.look config).step config e) := by
  rw [step_look acts]
  cases e with
  | asked => exact move_ask config w
  | finished call succeeded => exact .single (move_settle possible succeeded)
  | dropped call => exact .single (move_settle possible false)
  | looked => exact .refl
  | passed span => exact absurd trivial acts

/-! ## Beginnings -/

/-- A closed generation begins: nothing has been counted, and no call on its way belongs to it. -/
structure Begins (w : Chronicle) : Prop where
  state : w.breaker.state = .closed
  counts : w.breaker.counts = {}
  calls : ∀ call ∈ w.calls, call.generation ≠ w.breaker.generation

theorem begins_start (config : Config) (now : Nat) : Begins (start config now) where
  state := rfl
  counts := rfl
  calls := by simp [start]

theorem begins_renewed (numbered : Numbered w) (recent : ∀ call ∈ w.calls, w.IsRecent call) :
    Begins (w.renewed config .closed) where
  state := rfl
  counts := rfl
  calls := fun call pending => numbered.generation_ne_next pending (recent call pending)

/-- Every closed generation that follows another begins so, unless a call is too old. -/
theorem begins_of_move (numbered : Numbered w) (recent : ∀ call ∈ w.calls, w.IsRecent call)
    (move : Move config w v) (ended : v.ended.length = w.ended.length + 1)
    (closed : v.breaker.state = .closed) : Begins v := by
  cases move with
  | roll expired state => exact begins_renewed numbered recent
  | cool expired state => simp at closed
  | letIn state room => simp at ended
  | stale pending other => simp at ended
  | counted pending current calm trial => simp at ended
  | @ended call succeeded next pending current reason =>
    obtain rfl : next = .closed := closed
    apply begins_renewed (numbered.record call succeeded)
    intro other hmem
    exact recent other (List.mem_of_mem_erase hmem)
  | pass span => simp at ended

/-! ## From the beginning -/

/-- It has come to this since the current generation began, and that one is closed. -/
def HasBegun (config : Config) (w : Chronicle) : Prop :=
  ∃ first es, Begins first ∧ first.ended.length = w.ended.length ∧ play config first es = some w

/-- An event that is one move goes on with a generation or begins another. -/
theorem hasBegun_of_move (numbered : Numbered w) (possible : e.CanHappen w)
    (move : Relation.ReflGen (Move config) w (w.step config e))
    (few : (w.step config e).ended.length < UInt64.size)
    (closed : (w.step config e).breaker.state = .closed)
    (before : w.breaker.state = .closed → HasBegun config w) :
    HasBegun config (w.step config e) := by
  rcases (Relation.reflGen_iff _ _ _).1 move with same | move
  · rw [same] at closed ⊢
    exact before closed
  rcases move.same_or_ended with ⟨hended, hstate⟩ | hended
  · obtain ⟨first, es, begins, hfirst, hplay⟩ := before (hstate ▸ closed)
    refine ⟨first, es ++ [e], begins, hfirst.trans hended.symm, ?_⟩
    exact play_append_iff.2 ⟨w, hplay, play_cons_iff.2 ⟨possible, rfl⟩⟩
  · refine ⟨_, [], begins_of_move numbered (fun call _ => ?_) move hended closed, rfl, rfl⟩
    unfold IsRecent
    omega

/-- Whenever a breaker is closed it has come to this since its generation began. -/
theorem Reachable.hasBegun (h : Reachable config w) (few : w.ended.length < UInt64.size)
    (closed : w.breaker.state = .closed) : HasBegun config w := by
  induction h with
  | start now => exact ⟨_, [], begins_start config now, rfl, rfl⟩
  | @step w e before possible ih =>
    have hbefore : w.breaker.state = .closed → HasBegun config w :=
      ih (Nat.lt_of_le_of_lt (length_ended_le_step config w e) few)
    by_cases acts : e.IsPassing
    · cases e with
      | passed span =>
        exact hasBegun_of_move before.numbered possible (.single (.pass span)) few closed hbefore
      | asked | finished | dropped | looked => exact acts.elim
    · -- The look may begin a generation, and what is done after it another.
      have hlook : Reachable config (w.look config) := .step (e := .looked) before trivial
      rw [← step_look acts] at few closed ⊢
      have hfew : (w.look config).ended.length < UInt64.size :=
        Nat.lt_of_le_of_lt (length_ended_le_step config _ e) few
      refine hasBegun_of_move hlook.numbered (canHappen_look.2 possible) (move_step possible acts)
        few closed fun closed => ?_
      exact hasBegun_of_move (e := .looked) before.numbered trivial (move_look config w) hfew closed
        hbefore

end Courier.Breaker.Chronicle
