import Courier.Proofs.Breaker.Operations

/-!
# The balance of a breaker

Whoever has been let through a breaker owes it one outcome. The breaker itself only has its tallies,
so the balance is kept by those who use it: for every generation, how many calls of it are on their
way. `Balanced` says that what the tallies lack is what is on its way, and each operation keeps it
so for whatever configuration, one that gives out no trials included.

## Main definitions

* `Breaker.Within`: a generation is so many numbers after another.
* `Breaker.Balanced`: the calls on their way make up for what the tallies lack.
* `Breaker.Balanced.refresh`, `Breaker.Balanced.permit_ok`, `Breaker.Balanced.permit_error`,
  `Breaker.Balanced.settle`: operations keep the balance.
-/

namespace Courier.Breaker

variable {config : Config} {now : Nat} {b : Breaker}

/-! ## Generations one after another -/

/-- The second number is at most so many after the first, counting round. -/
def Within (k : Nat) (a b : UInt64) : Prop :=
  ∃ i ≤ k, b.toNat = (a.toNat + i) % UInt64.size

theorem within_zero (a : UInt64) : Within 0 a a :=
  ⟨0, Nat.le_refl 0, (Nat.mod_eq_of_lt a.toNat_lt).symm⟩

theorem within_one (a : UInt64) : Within 1 a (a + 1) :=
  ⟨1, Nat.le_refl 1, by simp [UInt64.toNat_add, UInt64.size]⟩

theorem Within.trans {k l : Nat} {a b c : UInt64} (h : Within k a b) (hnext : Within l b c) :
    Within (k + l) a c := by
  obtain ⟨i, hi, hb⟩ := h
  obtain ⟨j, hj, hc⟩ := hnext
  refine ⟨i + j, by omega, ?_⟩
  rw [hc, hb, Nat.mod_add_mod, Nat.add_assoc]

theorem Within.mono {k l : Nat} {a b : UInt64} (h : Within k a b) (hle : k ≤ l) : Within l a b := by
  obtain ⟨i, hi, hb⟩ := h
  exact ⟨i, Nat.le_trans hi hle, hb⟩

/-- If the numbers have not come round in the end, they have not done so in between. -/
theorem Within.le_and_le {k l : Nat} {a b c : UInt64} (h : Within k a b) (hnext : Within l b c)
    (few : k + l < UInt64.size) (onward : a ≤ c) : a ≤ b ∧ b ≤ c := by
  obtain ⟨i, hi, hb⟩ := h
  obtain ⟨j, hj, hc⟩ := hnext
  have ha := a.toNat_lt
  simp only [UInt64.le_iff_toNat_le, UInt64.size] at *
  omega

theorem within_refresh (config : Config) (now : Nat) (b : Breaker) :
    Within 1 b.generation (b.refresh config now).breaker.generation := by
  have hlook := refreshed config now b
  generalize (b.refresh config now).breaker = last at hlook ⊢
  cases hlook with
  | kept current => exact (within_zero _).mono (Nat.zero_le 1)
  | rolled expired closed => exact within_one _
  | cooled expired opened => exact within_one _

theorem within_permit (config : Config) (now : Nat) (b : Breaker) :
    Within 1 b.generation (b.permit config now).1.breaker.generation := by
  have hlook := within_refresh config now b
  have hanswer := permitted config now b
  generalize (b.refresh config now).breaker = looked at hlook hanswer
  generalize (b.permit config now).1.breaker = last at hanswer ⊢
  generalize (b.permit config now).2 = answer at hanswer
  cases hanswer with
  | opened | spent | admitted => exact hlook

theorem within_settle (config : Config) (now : Nat) (b : Breaker) (generation : UInt64)
    (succeeded : Bool) :
    Within 2 b.generation (b.settle config now generation succeeded).breaker.generation := by
  have hlook := within_refresh config now b
  have houtcome := settled config now b generation succeeded
  generalize (b.refresh config now).breaker = looked at hlook houtcome
  generalize (b.settle config now generation succeeded).breaker = last at houtcome ⊢
  cases houtcome with
  | stale | counted => exact hlook.mono (by decide)
  | ended => exact hlook.trans (within_one _)

/-! ## The balance -/

/-- The calls on their way, so many of each generation, make up for what the tallies lack. There is
a bound on the calls that have been let through. -/
structure Balanced (config : Config) (b : Breaker) (calls : UInt64 → Nat) (total : Nat) :
    Prop where
  /-- Calls belong to this generation or an earlier one. -/
  past : ∀ generation, 0 < calls generation → generation ≤ b.generation
  /-- Every call that has been counted has come out or is on its way. -/
  tallied : b.counts.totalSuccesses + b.counts.totalFailures + calls b.generation =
    b.counts.requests
  few : b.counts.requests ≤ total
  /-- Trials go on while all of them succeed and there are more to come. -/
  trial : b.state = .halfOpen → 0 < config.halfOpenRequests →
    b.counts.totalFailures = 0 ∧ b.counts.consecutiveSuccesses = b.counts.totalSuccesses ∧
      b.counts.totalSuccesses < config.halfOpenRequests

theorem balanced_start (config : Config) (now : Nat) :
    Balanced config (.start config now) (fun _ => 0) 0 where
  past := by simp
  tallied := rfl
  few := Nat.le_refl 0
  trial := by simp [start]

namespace Balanced

variable {calls calls' : UInt64 → Nat} {total : Nat} {generation : UInt64}

/-- A generation begins with empty tallies, and none of the calls on their way is its own. -/
theorem renew (past : ∀ generation, 0 < calls generation → generation ≤ b.generation)
    (onward : b.generation ≤ b.generation + 1) (now : Nat) (state : State) :
    Balanced config (b.renew config now state) calls total where
  past := by
    intro g hpos
    exact UInt64.le_trans (past g hpos) onward
  tallied := by
    have hlt : b.generation < b.generation + 1 := lt_add_one (.inl rfl) onward
    have hnone : calls (b.generation + 1) = 0 :=
      Nat.eq_zero_of_not_pos fun hpos => absurd (past _ hpos) (UInt64.not_le.2 hlt)
    simpa using hnone
  few := Nat.zero_le total
  trial := by
    intro _ hpos
    exact ⟨rfl, rfl, hpos⟩

/-- Looking at a breaker keeps the balance. -/
theorem refresh (h : Balanced config b calls total)
    (onward : b.generation ≤ (b.refresh config now).breaker.generation) :
    Balanced config (b.refresh config now).breaker calls total := by
  have hlook := refreshed config now b
  generalize (b.refresh config now).breaker = last at hlook onward ⊢
  cases hlook with
  | kept current => exact h
  | rolled expired closed => exact renew h.past onward now .closed
  | cooled expired opened => exact renew h.past onward now .halfOpen

/-- A call that is not let through leaves the balance as it is. -/
theorem permit_error (h : Balanced config b calls total) {reason : Rejection}
    (answer : (b.permit config now).2 = .error reason)
    (onward : b.generation ≤ (b.permit config now).1.breaker.generation) :
    Balanced config (b.permit config now).1.breaker calls total := by
  have hlook : b.generation ≤ (b.refresh config now).breaker.generation →
      Balanced config (b.refresh config now).breaker calls total := h.refresh
  have hanswer := permitted config now b
  rw [answer] at hanswer
  generalize (b.refresh config now).breaker = looked at hlook hanswer
  generalize (b.permit config now).1.breaker = last at hanswer onward ⊢
  cases hanswer with
  | opened state => exact hlook onward
  | spent state full => exact hlook onward

/-- A call that is let through is on its way. -/
theorem permit_ok (h : Balanced config b calls total) (few : total < tallyLimit)
    (answer : (b.permit config now).2 = .ok generation)
    (one : ∀ g, calls' g = calls g + if g = generation then 1 else 0)
    (onward : b.generation ≤ (b.permit config now).1.breaker.generation) :
    Balanced config (b.permit config now).1.breaker calls' (total + 1) := by
  have hlook : b.generation ≤ (b.refresh config now).breaker.generation →
      Balanced config (b.refresh config now).breaker calls total := h.refresh
  have hanswer := permitted config now b
  rw [answer] at hanswer
  generalize (b.refresh config now).breaker = looked at hlook hanswer
  generalize (b.permit config now).1.breaker = last at hanswer onward ⊢
  cases hanswer with
  | admitted state room =>
    have hlooked : Balanced config looked calls total := hlook onward
    have htallied := hlooked.tallied
    have htotal := hlooked.few
    have hrequests : looked.counts.onRequest.requests = looked.counts.requests + 1 :=
      tallyNext_of_lt (by omega)
    exact {
      past := by
        intro g hpos
        by_cases hg : g = looked.generation
        · exact UInt64.le_of_eq hg
        · rw [one, if_neg hg] at hpos
          exact hlooked.past g hpos
      tallied := by
        rw [withCounts_counts, withCounts_generation, hrequests, one, if_pos rfl, ← htallied]
        simp only [Counts.onRequest]
        omega
      few := by
        rw [withCounts_counts, hrequests]
        omega
      trial := hlooked.trial }

/-- The outcome of a call of an earlier generation changes nothing. -/
theorem forget (h : Balanced config b calls total)
    (one : ∀ g, calls g = calls' g + if g = generation then 1 else 0)
    (other : b.generation ≠ generation) : Balanced config b calls' total :=
  { h with
    past := fun g hpos => h.past g (by rw [one]; omega)
    tallied := by
      have hsame := one b.generation
      rw [if_neg other, Nat.add_zero] at hsame
      rw [← hsame]
      exact h.tallied }

/-- The outcome of a call of this generation is counted. -/
theorem count (h : Balanced config b calls total) (few : total ≤ tallyLimit) {succeeded : Bool}
    (one : ∀ g, calls g = calls' g + if g = b.generation then 1 else 0)
    (trial : b.state = .halfOpen → succeeded ∧
      (b.counts.onOutcome succeeded).consecutiveSuccesses < config.halfOpenRequests) :
    Balanced config (b.withCounts (b.counts.onOutcome succeeded)) calls' total := by
  have hone := one b.generation
  rw [if_pos rfl] at hone
  have htallied := h.tallied
  have htotal := h.few
  have hpast : ∀ g, 0 < calls' g → g ≤ b.generation :=
    fun g hpos => h.past g (by rw [one]; omega)
  cases succeeded with
  | true =>
    have hs : tallyNext b.counts.totalSuccesses = b.counts.totalSuccesses + 1 :=
      tallyNext_of_lt (by omega)
    exact {
      past := hpast
      tallied := by
        simp only [withCounts_counts, withCounts_generation, Counts.onOutcome, Counts.onSuccess,
          if_true, hs]
        omega
      few := htotal
      trial := by
        intro hstate hpos
        obtain ⟨hnone, hstreak, -⟩ := h.trial hstate hpos
        have hmore := (trial hstate).2
        simp only [withCounts_counts, Counts.onOutcome, Counts.onSuccess, if_true, hstreak,
          hs] at hmore ⊢
        exact ⟨hnone, trivial, hmore⟩ }
  | false =>
    have hf : tallyNext b.counts.totalFailures = b.counts.totalFailures + 1 :=
      tallyNext_of_lt (by omega)
    exact {
      past := hpast
      tallied := by
        simp only [withCounts_counts, withCounts_generation, Counts.onOutcome, Counts.onFailure,
          Bool.false_eq_true, if_false, hf]
        omega
      few := htotal
      trial := fun hstate => absurd (trial hstate).1 Bool.false_ne_true }

/-- The outcome of a call that is on its way keeps the balance. -/
theorem settle (h : Balanced config b calls total) (few : total ≤ tallyLimit) (succeeded : Bool)
    (one : ∀ g, calls g = calls' g + if g = generation then 1 else 0)
    (onward : b.generation ≤ (b.settle config now generation succeeded).breaker.generation) :
    Balanced config (b.settle config now generation succeeded).breaker calls' total := by
  have hlook := refreshed config now b
  have houtcome := settled config now b generation succeeded
  generalize (b.refresh config now).breaker = looked at hlook houtcome
  generalize (b.settle config now generation succeeded).breaker = last at houtcome onward ⊢
  have hpast : ∀ g, 0 < calls' g → g ≤ b.generation :=
    fun g hpos => h.past g (by rw [one]; omega)
  -- The call on its way is of a generation up to the one before the look.
  have hold : generation ≤ b.generation := h.past generation (by rw [one, if_pos rfl]; omega)
  -- So a look that begins a generation leaves nothing more to be done.
  have hstale (state : State) (hout : Settled config now (b.renew config now state) generation
      succeeded last) : Balanced config last calls' total := by
    have hnext : last.generation = b.generation + 1 ∨ last.generation = b.generation + 1 + 1 := by
      cases hout <;> simp
    have hlt : b.generation < b.generation + 1 := lt_add_one hnext onward
    have hother : b.generation + 1 ≠ generation :=
      fun heq => absurd hold (UInt64.not_le.2 (heq ▸ hlt))
    cases hout with
    | stale other => exact renew hpast (UInt64.le_of_lt hlt) now state
    | counted current | ended current => exact absurd current hother
  cases hlook with
  | rolled expired closed => exact hstale .closed houtcome
  | cooled expired opened => exact hstale .halfOpen houtcome
  | kept current =>
    cases houtcome with
    | stale other => exact h.forget one other
    | counted current calm trial =>
      subst current
      exact h.count few one trial
    | ended current reason => exact renew hpast onward now _

/-- If nothing is on its way, the next trial is let through. -/
theorem exists_permit_ok (h : Balanced config b calls total) (idle : calls b.generation = 0)
    (state : b.state = .halfOpen) (trials : 0 < config.halfOpenRequests) (now : Nat) :
    ∃ g, (b.permit config now).2 = .ok g := by
  have hanswer := permitted config now b
  rw [refresh_of_trying state] at hanswer
  generalize (b.permit config now).1.breaker = last at hanswer
  generalize (b.permit config now).2 = answer at hanswer ⊢
  have htallied := h.tallied
  obtain ⟨hnone, -, hmore⟩ := h.trial state trials
  cases hanswer with
  | opened opened => exact absurd (state.symm.trans opened) (by decide)
  | spent _ full =>
    have hfull : config.halfOpenRequests ≤ b.counts.requests := full
    omega
  | admitted admits room => exact ⟨_, rfl⟩

end Balanced

end Courier.Breaker
