import Courier.Breaker.Basic

/-!
# What the operations of a breaker do

Each operation first leaves a state that has run out, and then does its own. Everything that can
come of it is listed here once, with the reasons for it; what is said about breakers elsewhere goes
through these lists.

## Main definitions

* `Breaker.Refreshed`: what can come of looking at a breaker.
* `Breaker.Permitted`: what can come of asking for a call.
* `Breaker.Ends`: the outcomes that end a generation, and the state of the next.
* `Breaker.Settled`: what can come of the outcome of a call.
-/

namespace Courier.Breaker

variable {config : Config} {now : Nat} {b : Breaker}

@[simp] theorem renew_state (state : State) : (b.renew config now state).state = state := rfl
@[simp] theorem renew_generation (state : State) :
    (b.renew config now state).generation = b.generation + 1 := rfl
@[simp] theorem renew_counts (state : State) : (b.renew config now state).counts = {} := rfl
@[simp] theorem renew_expiry (state : State) :
    (b.renew config now state).expiry = expiryOf config now state := rfl

@[simp] theorem moveTo_breaker (c : Changed) (state : State) :
    (c.moveTo config now state).breaker = c.breaker.renew config now state := rfl

/-- The breaker with other tallies. -/
def withCounts (b : Breaker) (counts : Counts) : Breaker :=
  { b with counts }

@[simp] theorem withCounts_state (counts : Counts) : (b.withCounts counts).state = b.state := rfl
@[simp] theorem withCounts_generation (counts : Counts) :
    (b.withCounts counts).generation = b.generation := rfl
@[simp] theorem withCounts_counts (counts : Counts) : (b.withCounts counts).counts = counts := rfl
@[simp] theorem withCounts_expiry (counts : Counts) : (b.withCounts counts).expiry = b.expiry := rfl

/-- Two generations that follow each other are not the same. -/
theorem add_one_ne (generation : UInt64) : generation + 1 ≠ generation := by
  intro h
  have hnat := congrArg UInt64.toNat h
  have hlt := generation.toNat_lt
  rw [UInt64.toNat_add, UInt64.toNat_one] at hnat
  omega

/-- A generation is new if the numbers have not come round with it or with the one after it. -/
theorem lt_add_one {a b : UInt64} (next : b = a + 1 ∨ b = a + 1 + 1) (onward : a ≤ b) :
    a < a + 1 := by
  have hlt := a.toNat_lt
  rw [UInt64.le_iff_toNat_le] at onward
  rw [UInt64.lt_iff_toNat_lt, UInt64.toNat_add, UInt64.toNat_one]
  rcases next with rfl | rfl
  · rw [UInt64.toNat_add, UInt64.toNat_one] at onward
    omega
  · rw [UInt64.toNat_add, UInt64.toNat_add, UInt64.toNat_one] at onward
    omega

/-! ## Looking -/

/-- A breaker after a look at it. -/
inductive Refreshed (config : Config) (now : Nat) (b : Breaker) : Breaker → Prop where
  /-- Its state has not run out, or never does. -/
  | kept (current : b.hasExpired now = false ∨ b.state = .halfOpen) : Refreshed config now b b
  /-- The window of a closed breaker is over. -/
  | rolled (expired : b.hasExpired now) (closed : b.state = .closed) :
      Refreshed config now b (b.renew config now .closed)
  /-- An open breaker has cooled down. -/
  | cooled (expired : b.hasExpired now) (opened : b.state = .opened) :
      Refreshed config now b (b.renew config now .halfOpen)

theorem refreshed (config : Config) (now : Nat) (b : Breaker) :
    Refreshed config now b (b.refresh config now).breaker := by
  unfold refresh
  split
  · next expired =>
    split
    · next closed => exact .rolled expired closed
    · next opened => exact .cooled expired opened
    · next halfOpen => exact .kept (.inr halfOpen)
  · next current => exact .kept (.inl (eq_false_of_ne_true current))

theorem refresh_of_current (current : b.hasExpired now = false) :
    b.refresh config now = ⟨b, []⟩ := by
  rw [refresh, if_neg (by simp [current])]

theorem refresh_of_trying (state : b.state = .halfOpen) : b.refresh config now = ⟨b, []⟩ := by
  simp only [refresh, state, ite_self]

theorem refresh_of_rolled (expired : b.hasExpired now) (closed : b.state = .closed) :
    b.refresh config now = ⟨b.renew config now .closed, []⟩ := by
  simp only [refresh, if_pos expired, closed]

theorem refresh_of_cooled (expired : b.hasExpired now) (opened : b.state = .opened) :
    b.refresh config now = ⟨b.renew config now .halfOpen, [⟨.opened, .halfOpen⟩]⟩ := by
  simp only [refresh, if_pos expired, opened]
  rw [Changed.moveTo, opened]
  rfl

/-- Whoever looks again at once finds what was left to him. -/
theorem refresh_refresh (config : Config) (now : Nat) (b : Breaker) :
    (b.refresh config now).breaker.refresh config now = ⟨(b.refresh config now).breaker, []⟩ := by
  have hlook := refreshed config now b
  generalize (b.refresh config now).breaker = last at hlook ⊢
  cases hlook with
  | kept current =>
    rcases current with current | state
    · exact refresh_of_current current
    · exact refresh_of_trying state
  | rolled expired closed =>
    apply refresh_of_current
    by_cases hwindow : config.window = 0
    · rw [hasExpired, renew_expiry, expiryOf, if_pos hwindow, Option.any_none]
    · rw [hasExpired, renew_expiry, expiryOf, if_neg hwindow, Option.any_some]
      exact decide_eq_false (by omega)
  | cooled expired opened => exact refresh_of_trying rfl

/-! ## Asking -/

/-- A breaker that has been asked for a call, and its answer. The breaker in between is the one that
has been looked at. -/
inductive Permitted (config : Config) (b : Breaker) : Breaker → Except Rejection UInt64 → Prop where
  /-- An open breaker does not let calls through. -/
  | opened (state : b.state = .opened) : Permitted config b b (.error .opened)
  /-- The trials have been given out. -/
  | spent (state : b.state = .halfOpen)
      (full : config.halfOpenRequests ≤ b.counts.requests) :
      Permitted config b b (.error .tooManyRequests)
  /-- The call is let through and counted. -/
  | admitted (state : b.state ≠ .opened)
      (room : b.state = .halfOpen → b.counts.requests < config.halfOpenRequests) :
      Permitted config b (b.withCounts b.counts.onRequest) (.ok b.generation)

theorem permitted (config : Config) (now : Nat) (b : Breaker) :
    Permitted config (b.refresh config now).breaker (b.permit config now).1.breaker
      (b.permit config now).2 := by
  simp only [permit]
  split
  · next state => exact .opened state
  · next state =>
    split
    · next full => exact .spent state full
    · next room => exact .admitted (by simp [state]) (fun _ => Nat.lt_of_not_le room)
  · next state => exact .admitted (by simp [state]) (by simp [state])

/-- The answer is the same after a look, and so is the breaker. -/
theorem permit_refresh (config : Config) (now : Nat) (b : Breaker) :
    ((b.refresh config now).breaker.permit config now).1.breaker =
        (b.permit config now).1.breaker ∧
      ((b.refresh config now).breaker.permit config now).2 = (b.permit config now).2 := by
  simp only [permit, refresh_refresh]
  split
  · exact ⟨rfl, rfl⟩
  · split
    · exact ⟨rfl, rfl⟩
    · exact ⟨rfl, rfl⟩
  · exact ⟨rfl, rfl⟩

/-! ## Settling -/

/-- An outcome that is counted ends the generation, and the next one has the given state. -/
inductive Ends (config : Config) (b : Breaker) (succeeded : Bool) : State → Prop where
  /-- There are too many failures. -/
  | tripped (state : b.state = .closed) (trips : config.trips (b.counts.onOutcome succeeded)) :
      Ends config b succeeded .opened
  /-- A trial has failed. -/
  | relapsed (state : b.state = .halfOpen) (failed : succeeded = false) :
      Ends config b succeeded .opened
  /-- The last trial has succeeded. -/
  | recovered (state : b.state = .halfOpen) (success : succeeded)
      (enough : config.halfOpenRequests ≤
        (b.counts.onOutcome succeeded).consecutiveSuccesses) :
      Ends config b succeeded .closed

/-- A breaker that has been told how a call of a generation came out. The breaker in between is the
one that has been looked at. -/
inductive Settled (config : Config) (now : Nat) (b : Breaker) (generation : UInt64)
    (succeeded : Bool) : Breaker → Prop where
  /-- The generation of the call has ended. -/
  | stale (other : b.generation ≠ generation) : Settled config now b generation succeeded b
  /-- The outcome is counted, and that is all. -/
  | counted (current : b.generation = generation)
      (calm : b.state = .closed → config.trips (b.counts.onOutcome succeeded) = false)
      (trial : b.state = .halfOpen → succeeded ∧
        (b.counts.onOutcome succeeded).consecutiveSuccesses < config.halfOpenRequests) :
      Settled config now b generation succeeded (b.withCounts (b.counts.onOutcome succeeded))
  /-- The outcome ends the generation, and another one begins. -/
  | ended {next : State} (current : b.generation = generation)
      (reason : Ends config b succeeded next) :
      Settled config now b generation succeeded (b.renew config now next)

theorem settled (config : Config) (now : Nat) (b : Breaker) (generation : UInt64)
    (succeeded : Bool) :
    Settled config now (b.refresh config now).breaker generation succeeded
      (b.settle config now generation succeeded).breaker := by
  simp only [settle]
  split
  · next current =>
    split
    · next state =>
      split
      · next trips => exact .ended current (.tripped state trips)
      · next calm => exact .counted current (fun _ => eq_false_of_ne_true calm) (by simp [state])
    · next state =>
      split
      · next failed => exact .ended current (.relapsed state (by simpa using failed))
      · next success =>
        have success : succeeded = true := by simpa using success
        split
        · next enough => exact .ended current (.recovered state success enough)
        · next more =>
          refine .counted current (by simp [state]) (fun _ => ?_)
          exact ⟨success, Nat.lt_of_not_le more⟩
    · next state => exact .counted current (by simp [state]) (by simp [state])
  · next other => exact .stale other

/-- The outcome of a call whose generation has ended is no more than a look. -/
theorem settle_of_ne {generation : UInt64}
    (other : (b.refresh config now).breaker.generation ≠ generation) (succeeded : Bool) :
    b.settle config now generation succeeded = b.refresh config now := by
  simp only [settle, if_neg other]

/-- An outcome leaves the same breaker after a look. -/
theorem settle_refresh_breaker (config : Config) (now : Nat) (b : Breaker) (generation : UInt64)
    (succeeded : Bool) :
    ((b.refresh config now).breaker.settle config now generation succeeded).breaker =
      (b.settle config now generation succeeded).breaker := by
  simp only [settle, refresh_refresh]
  split
  · split
    · split <;> rfl
    · split
      · rfl
      · split <;> rfl
    · rfl
  · rfl

/-! ## Reported changes -/

/-- A look reports nothing, or that an open breaker goes over to trials. -/
theorem refresh_transitions (config : Config) (now : Nat) (b : Breaker) :
    (b.refresh config now).transitions = [] ∨
      (b.refresh config now).transitions = [⟨.opened, .halfOpen⟩] := by
  by_cases expired : b.hasExpired now = true
  · cases state : b.state with
    | closed => exact .inl (by rw [refresh_of_rolled expired state])
    | opened => exact .inr (by rw [refresh_of_cooled expired state])
    | halfOpen => exact .inl (by rw [refresh_of_trying state])
  · exact .inl (by rw [refresh_of_current (eq_false_of_ne_true expired)])

/-- Asking for a call changes the state by the look alone. -/
theorem permit_state :
    (b.permit config now).1.breaker.state = (b.refresh config now).breaker.state := by
  simp only [permit]
  split
  · rfl
  · split <;> rfl
  · rfl

theorem permit_transitions :
    (b.permit config now).1.transitions = (b.refresh config now).transitions := by
  simp only [permit]
  split
  · rfl
  · split <;> rfl
  · rfl

/-- After the look an outcome leaves the state as it is and reports nothing, or goes over to another
state and reports that. -/
theorem settle_changes (config : Config) (now : Nat) (b : Breaker) (generation : UInt64)
    (succeeded : Bool) :
    (∃ counts, b.settle config now generation succeeded =
      ⟨(b.refresh config now).breaker.withCounts counts, (b.refresh config now).transitions⟩) ∨
    ∃ state ≠ (b.refresh config now).breaker.state,
      b.settle config now generation succeeded =
        (b.refresh config now).moveTo config now state := by
  simp only [settle]
  split
  · split
    · next state =>
      split
      · exact .inr ⟨.opened, by simp [state], rfl⟩
      · exact .inl ⟨_, rfl⟩
    · next state =>
      split
      · exact .inr ⟨.opened, by simp [state], rfl⟩
      · split
        · exact .inr ⟨.closed, by simp [state], rfl⟩
        · exact .inl ⟨_, rfl⟩
    · exact .inl ⟨_, rfl⟩
  · exact .inl ⟨_, rfl⟩

/-- What comes of the look is reported before what comes of the outcome. -/
theorem isPrefix_settle_transitions (generation : UInt64) (succeeded : Bool) :
    (b.refresh config now).transitions <+:
      (b.settle config now generation succeeded).transitions := by
  rcases settle_changes config now b generation succeeded with ⟨counts, h⟩ | ⟨state, -, h⟩
  · simp [h]
  · rw [h]
    exact List.prefix_append _ _

/-- An outcome that is reported to open the breaker leaves it so. -/
theorem exists_eq_renew_of_opens {generation : UInt64} {succeeded : Bool}
    (h : ∃ t ∈ (b.settle config now generation succeeded).transitions, t.target = .opened) :
    ∃ c : Breaker, (b.settle config now generation succeeded).breaker =
      c.renew config now .opened := by
  obtain ⟨t, hmem, htarget⟩ := h
  have hlook : t ∉ (b.refresh config now).transitions := by
    intro hmem
    rcases refresh_transitions config now b with hnone | hone
    · simp [hnone] at hmem
    · rw [hone, List.mem_singleton] at hmem
      simp [hmem] at htarget
  rcases settle_changes config now b generation succeeded with ⟨counts, h⟩ | ⟨state, -, h⟩
  · rw [h] at hmem
    exact absurd hmem hlook
  · rw [h] at hmem ⊢
    rcases List.mem_append.1 hmem with hmem | hmem
    · exact absurd hmem hlook
    · obtain rfl : state = .opened := by rw [← htarget, List.mem_singleton.1 hmem]
      exact ⟨_, rfl⟩

end Courier.Breaker
