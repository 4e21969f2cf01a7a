import Courier.Proofs.Breaker.Accounts
import Courier.Proofs.Breaker.Showing
import Mathlib.Data.List.Nodup
import Mathlib.Data.List.Perm.Subperm

/-!
# Reasons to trip

A trip is decided by the tallies alone, which do not say whose calls they are or when these were let
through. The window of a closed breaker ends at the first operation after its time, whichever that
is, and a call let through before may come out after. What the tallies say is nevertheless about the
calls of the last window only: a generation that is closed began less than a window ago as soon as
it has been looked at, and no call of an earlier one is counted in it.

## Main definitions

* `Breaker.Chronicle.Dated`: serial numbers and moments of the calls that have been let through.
* `Breaker.Chronicle.Justified`: a trip for which recent calls are the reason.

## Main results

* `Breaker.Chronicle.Reachable.dated`: calls are always numbered and dated.
* `Breaker.Chronicle.trip_justified`: every trip is justified.
-/

namespace Courier.Breaker.Chronicle

variable {config : Config} {w w' : Chronicle} {e : Event} {call : Admission} {succeeded : Bool}

/-! ## Serial numbers and moments -/

/-- What is known of the calls that have been let through. -/
structure Dated (w : Chronicle) : Prop where
  begun : w.since ≤ w.now
  /-- No two calls have the same serial number. -/
  serials : (w.admitted ++ w.earlier).map (·.serial) =
    (List.range (w.admitted ++ w.earlier).length).reverse
  moments : ∀ call ∈ w.admitted, w.since ≤ call.moment ∧ call.moment ≤ w.now

namespace Dated

theorem start (config : Config) (now : Nat) : Dated (Chronicle.start config now) where
  begun := Nat.le_refl _
  serials := rfl
  moments := by simp [Chronicle.start]

theorem renewed (h : Dated w) (config : Config) (state : State) :
    Dated (w.renewed config state) where
  begun := by
    cases state with
    | closed | opened => exact Nat.le_refl _
    | halfOpen => exact h.begun
  serials := h.serials
  moments := by simp [Chronicle.renewed]

theorem letThrough (h : Dated w) : Dated w.letThrough where
  begun := h.begun
  serials := by
    have hall : w.letThrough.admitted ++ w.letThrough.earlier =
        w.ticket w.breaker.generation :: (w.admitted ++ w.earlier) := rfl
    rw [hall, List.map_cons, h.serials, List.length_cons, List.range_succ, List.reverse_append]
    rfl
  moments := by
    intro call mem
    rcases List.mem_cons.1 mem with rfl | mem
    · exact ⟨h.begun, Nat.le_refl _⟩
    · exact h.moments call mem

theorem move (h : Dated w) (hmove : Move config w w') : Dated w' := by
  cases hmove with
  | roll expired closed => exact h.renewed config .closed
  | cool expired opened => exact h.renewed config .halfOpen
  | letIn state room => exact h.letThrough
  | stale pending other => exact { h with }
  | counted pending current calm trial => exact { h with }
  | @ended call succeeded next pending current reason =>
    have hrecord : Dated (w.record call succeeded) := { h with }
    exact hrecord.renewed config next
  | pass span =>
    exact { h with
      begun := Nat.le_add_right_of_le h.begun
      moments := by
        intro call mem
        obtain ⟨hsince, hnow⟩ := h.moments call mem
        exact ⟨hsince, Nat.le_add_right_of_le hnow⟩ }

/-- No call has been let through twice. -/
theorem nodup (h : Dated w) : (w.admitted ++ w.earlier).Nodup := by
  apply List.Nodup.of_map (·.serial)
  rw [h.serials, List.nodup_reverse]
  exact List.nodup_range

end Dated

theorem Reachable.dated (h : Reachable config w) : Dated w :=
  h.preserves (Dated.start config) fun hmove hbefore => hbefore.move hmove

/-! ## Trips -/

/-- The outcome of a call makes a breaker trip, and recent calls are the reason. -/
structure Justified (config : Config) (w : Chronicle) (call : Admission) (succeeded : Bool) :
    Prop where
  trips : config.trips (w.breaker.counts.onOutcome succeeded)
  /-- The window began less than its length ago. -/
  window : w.since ≤ w.now ∧ w.now < w.since + config.window
  /-- The requests are the calls that have been let through since. -/
  requests : (w.breaker.counts.onOutcome succeeded).requests = w.admitted.length
  distinct : w.admitted.Nodup
  /-- Each of them was let through less than a window ago. -/
  recent : ∀ c ∈ w.admitted,
    w.since ≤ c.moment ∧ c.moment ≤ w.now ∧ w.now < c.moment + config.window
  /-- The outcomes are those of these calls, each counted once. -/
  counted : ((w.outcomes ++ [(call, succeeded)]).map (·.1)).Subperm w.admitted
  successes : (w.breaker.counts.onOutcome succeeded).totalSuccesses =
    (w.outcomes ++ [(call, succeeded)]).countP (·.2)
  failures : (w.breaker.counts.onOutcome succeeded).totalFailures =
    (w.outcomes ++ [(call, succeeded)]).countP (!·.2)
  /-- No call from before the window is among them. -/
  earlier : ∀ c ∈ w.earlier,
    c ∉ w.admitted ∧ c ∉ (w.outcomes ++ [(call, succeeded)]).map (·.1)

/-- The outcomes are those of calls that the generation has let through, each counted once. -/
theorem Accounted.subperm (h : Accounted w) (numbers : w.ended.length < UInt64.size) :
    (w.outcomes.map (·.1)).Subperm w.admitted := by
  have hown : (w.outcomes.map (·.1)).filter w.isOwn = w.outcomes.map (·.1) := by
    rw [List.filter_eq_self, List.forall_mem_map]
    exact h.isOwn_of_mem numbers
  have hperm := h.accounted
  rw [hown] at hperm
  exact (List.sublist_append_left _ _).subperm.trans hperm.symm.subperm

/-- A closed breaker that has not run out began less than a window ago. -/
theorem Upright.lt_window (h : Upright config w) (hwindow : config.window ≠ 0)
    (closed : w.breaker.state = .closed) (current : w.breaker.hasExpired w.now = false) :
    w.now < w.since + config.window := by
  rw [hasExpired, h.expiry, closed, expiryOf, if_neg hwindow, Option.any_some] at current
  exact Nat.lt_of_not_le (of_decide_eq_false current)

/-- A call whose outcome is counted within the window, and makes the tallies reason to trip,
justifies the trip. -/
theorem Reachable.justified (h : Reachable config w) (hwindow : config.window ≠ 0)
    (pending : call ∈ w.calls) (numbers : w.ended.length < UInt64.size)
    (few : w.admitted.length < UInt32.size) (current : w.breaker.generation = call.generation)
    (closed : w.breaker.state = .closed) (inTime : w.breaker.hasExpired w.now = false)
    (trips : config.trips (w.breaker.counts.onOutcome succeeded)) :
    Justified config w call succeeded := by
  have hdated := h.dated
  have hlt := h.upright.lt_window hwindow closed inTime
  -- what the chronicle says once the outcome has been counted, and before the breaker opens
  have hrecord := h.accounted.record pending succeeded
  have hcounted : Upright config
      ((w.record call succeeded).withCounts (w.breaker.counts.onOutcome succeeded)) :=
    h.upright.counted current (by simp [closed])
  have houtcomes := record_outcomes_of_eq current succeeded
  obtain ⟨hrequests, hsuccesses, hfailures⟩ :=
    hcounted.tallied (hrecord.withCounts _) numbers few
  have hsubperm : ((w.outcomes ++ [(call, succeeded)]).map (·.1)).Subperm w.admitted := by
    rw [← houtcomes]
    exact hrecord.subperm numbers
  obtain ⟨hdistinct, -, happart⟩ := List.nodup_append.1 hdated.nodup
  exact {
    trips
    window := ⟨hdated.begun, hlt⟩
    requests := hrequests
    distinct := hdistinct
    recent := by
      intro c mem
      obtain ⟨hsince, hnow⟩ := hdated.moments c mem
      exact ⟨hsince, hnow, by omega⟩
    counted := hsubperm
    successes := by rw [← houtcomes]; exact hsuccesses
    failures := by rw [← houtcomes]; exact hfailures
    earlier := by
      intro c mem
      have hother : c ∉ w.admitted := fun own => happart c own c mem rfl
      exact ⟨hother, fun own => hother (hsubperm.subset own)⟩ }

/-- The outcome of a call that opens a closed breaker is counted at once: the look before it leaves
the breaker as it is. -/
theorem Reachable.justified_of_settle (h : Reachable config w) (hwindow : config.window ≠ 0)
    (pending : call ∈ w.calls)
    (numbers : (w.settle config call succeeded).ended.length < UInt64.size)
    (few : w.admitted.length < UInt32.size) (closed : w.breaker.state = .closed)
    (opened : (w.settle config call succeeded).breaker.state = .opened) :
    Justified config w call succeeded := by
  have hended : (w.look config).ended.length ≤ (w.settle config call succeeded).ended.length :=
    length_ended_look_le_settle call succeeded
  by_cases expired : w.breaker.hasExpired w.now = true
  · -- the look has begun another window, and the call is not of that one
    have hlook : w.look config = w.renewed config .closed := by
      rw [look, refresh_of_rolled expired closed, become_renew]
    have hother : (w.look config).breaker.generation ≠ call.generation := by
      apply h.generation_ne_of_late pending (by omega)
      rw [hlook]
      intro own
      have hplace : call.place = w.ended.length + 1 := of_decide_eq_true own
      have hpast := h.numbered.past call pending
      omega
    rw [settle_of_generation_ne hother, hlook] at opened
    cases opened
  · have inTime : w.breaker.hasExpired w.now = false := eq_false_of_ne_true expired
    have houtcome := settled config w.now w.breaker call.generation succeeded
    rw [look_of_refresh_eq (refresh_of_current inTime)] at hended
    rw [refresh_of_current inTime] at houtcome
    rw [settle_breaker] at opened
    generalize (w.breaker.settle config w.now call.generation succeeded).breaker = last
      at houtcome opened
    cases houtcome with
    | stale other => simp [closed] at opened
    | counted current calm trial => simp [closed] at opened
    | ended current reason =>
      cases reason with
      | tripped state trips =>
        exact h.justified hwindow pending (by omega) few current closed inTime trips
      | relapsed state | recovered state => simp [closed] at state

/-- A closed breaker is closed after a look. -/
theorem look_closed (config : Config) (closed : w.breaker.state = .closed) :
    (w.look config).breaker.state = .closed := by
  have hlook := refreshed config w.now w.breaker
  rw [look_breaker]
  generalize (w.breaker.refresh config w.now).breaker = b at hlook ⊢
  cases hlook with
  | kept current => exact closed
  | rolled expired closed => rfl
  | cooled expired opened => simp [closed] at opened

/-- **A trip is justified by recent calls only.** A closed breaker with a window opens at nothing
but the outcome of a call. Every call in the tallies that made it trip was then let through less
than a window ago, the requests are the calls let through since the beginning of the window, which
is no longer ago, and no call of an earlier window has been counted. This holds while the numbers of
the generations have not come round and the window has not let too many calls through to be
counted. -/
theorem trip_justified (hwindow : config.window ≠ 0) (h : Reachable config w)
    (possible : e.CanHappen w) (numbers : (w.step config e).ended.length < UInt64.size)
    (few : w.admitted.length < UInt32.size) (closed : w.breaker.state = .closed)
    (opened : (w.step config e).breaker.state = .opened) :
    ∃ call succeeded, e.outcome? = some (call, succeeded) ∧
      Justified config w call succeeded := by
  have hstill := look_closed config closed
  cases e with
  | asked =>
    rw [step, ask_breaker, permit_state, ← look_breaker, hstill] at opened
    cases opened
  | finished call succeeded =>
    exact ⟨call, succeeded, rfl,
      h.justified_of_settle hwindow possible numbers few closed opened⟩
  | dropped call =>
    exact ⟨call, false, rfl, h.justified_of_settle hwindow possible numbers few closed opened⟩
  | looked =>
    rw [step, hstill] at opened
    cases opened
  | passed span =>
    rw [step, closed] at opened
    cases opened

/-- A call of the first window fails in the second, where two others are needed for the trip. -/
theorem trip_justified_of_second_window :
    ∃ w ∈ play { minRequests := 2, window := 1000 }
        (.start { minRequests := 2, window := 1000 } 7)
        [.asked, .passed 1500, .asked, .finished ⟨0, 0, 0, 7⟩ false, .passed 10, .asked,
          .finished ⟨1, 1, 1, 1507⟩ false],
      w.earlier = [⟨0, 0, 0, 7⟩] ∧
        Justified { minRequests := 2, window := 1000 } w ⟨1, 1, 2, 1517⟩ false := by
  have hplays : ∃ w ∈ play { minRequests := 2, window := 1000 }
      (.start { minRequests := 2, window := 1000 } 7)
      [.asked, .passed 1500, .asked, .finished ⟨0, 0, 0, 7⟩ false, .passed 10, .asked,
        .finished ⟨1, 1, 1, 1507⟩ false],
      w.earlier = [⟨0, 0, 0, 7⟩] ∧
      Event.CanHappen w (.finished ⟨1, 1, 2, 1517⟩ false) ∧
      (w.step { minRequests := 2, window := 1000 }
        (.finished ⟨1, 1, 2, 1517⟩ false)).ended.length < UInt64.size ∧
      w.admitted.length < UInt32.size ∧ w.breaker.state = .closed ∧
      (w.step { minRequests := 2, window := 1000 }
        (.finished ⟨1, 1, 2, 1517⟩ false)).breaker.state = .opened := by
    decide +kernel
  obtain ⟨w, hw, hearlier, possible, numbers, few, closed, opened⟩ := hplays
  obtain ⟨call, succeeded, houtcome, hjustified⟩ :=
    trip_justified (by decide) ((Reachable.start 7).of_play hw) possible numbers few closed opened
  cases houtcome
  exact ⟨w, hw, hearlier, hjustified⟩

end Courier.Breaker.Chronicle
