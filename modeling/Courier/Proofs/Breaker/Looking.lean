import Courier.Proofs.Breaker.Beginning
import Courier.Proofs.Breaker.Reports
import Mathlib.Data.List.ReduceOption

/-!
# Looking makes no difference

Who looks at a breaker changes it, for a state that has run out is left at the next operation, and a
look is one. Nobody can tell, though. Whoever comes next would have left an open state just the
same, and the trials that begin then do not depend on when they begin; so he gets the same answer
whether there was a look before him or not. Only the report that the trials have begun comes
earlier, and when nobody comes after the look it would not have come.

The exception is a closed breaker whose window is over. The next window begins when that is found,
so a look there decides in which window later calls are counted.

## Main definitions

* `Breaker.Chronicle.withLooks`, `Breaker.Chronicle.Spares`: looks put between events, and that none
  of them is such an exception.
* `Breaker.Chronicle.Ahead`: how far looks get ahead of the others.
* `Breaker.Chronicle.looks_unseen`.
-/

namespace Courier.Breaker

variable {config : Config} {now : Nat} {b : Breaker}

/-! ## Operations after a look -/

/-- What comes of an outcome is reported after what comes of its look. -/
theorem settle_refresh_transitions (config : Config) (now : Nat) (b : Breaker)
    (generation : UInt64) (succeeded : Bool) :
    (b.settle config now generation succeeded).transitions =
      (b.refresh config now).transitions ++
        ((b.refresh config now).breaker.settle config now generation succeeded).transitions := by
  simp only [settle, refresh_refresh]
  split
  · split
    · split <;> simp [Changed.moveTo]
    · split
      · simp [Changed.moveTo]
      · split <;> simp [Changed.moveTo]
    · simp
  · simp

namespace Chronicle

variable {w u v : Chronicle} {e : Event}

/-- What an event shows, but for the changes of state that are reported. -/
def Shown.reply (s : Shown) : Option (Except Rejection UInt64) × Option (State × Counts) :=
  (s.answer, s.seen)

theorem reply_shown_look (acts : ¬ e.IsPassing) :
    ((w.look config).shown config e).reply = (w.shown config e).reply := by
  cases e with
  | asked =>
    simp only [Shown.reply, shown, look_breaker, look_now, (permit_refresh config w.now _).2]
  | finished call succeeded => rfl
  | dropped call => rfl
  | looked => simp only [Shown.reply, shown, look_breaker, look_now, refresh_refresh]
  | passed span => exact absurd trivial acts

theorem transitions_shown_look (acts : ¬ e.IsPassing) :
    (w.shown config e).transitions =
      (w.breaker.refresh config w.now).transitions ++
        ((w.look config).shown config e).transitions := by
  cases e with
  | asked =>
    simp only [shown, look_breaker, look_now, permit_transitions, refresh_refresh, List.append_nil]
  | finished call succeeded =>
    simp only [shown, look_breaker, look_now]
    exact settle_refresh_transitions ..
  | dropped call =>
    simp only [shown, look_breaker, look_now]
    exact settle_refresh_transitions ..
  | looked => simp only [shown, look_breaker, look_now, refresh_refresh, List.append_nil]
  | passed span => exact absurd trivial acts

/-! ## Putting looks between events -/

/-- Events with looks put between them; `none` is one of these. -/
def withLooks (es : List (Option Event)) : List Event :=
  es.map (·.getD .looked)

/-- No look has been put where the window of a closed breaker is over. -/
def Spares (config : Config) : Chronicle → List (Option Event) → Prop
  | _, [] => True
  | w, none :: es => w.breaker.rollsAt w.now = false ∧ Spares config (w.look config) es
  | w, some e :: es => Spares config (w.step config e) es

instance (config : Config) : (w : Chronicle) → (es : List (Option Event)) →
    Decidable (Spares config w es)
  | _, [] => inferInstanceAs (Decidable True)
  | w, none :: es =>
    haveI := instDecidableSpares config (w.look config) es
    inferInstanceAs (Decidable (_ ∧ _))
  | w, some e :: es => instDecidableSpares config (w.step config e) es

/-- What events show with looks put between them, without what these show. -/
def showingOwn (config : Config) : Chronicle → List (Option Event) → List Shown
  | _, [] => []
  | w, none :: es => showingOwn config (w.look config) es
  | w, some e :: es => w.shown config e :: showingOwn config (w.step config e) es

/-- The chronicle with looks and the one without them: they are the same, or the looks have begun
the trials already and reported it. -/
inductive Ahead (config : Config) : List Transition → Chronicle → Chronicle → Prop where
  | same {w : Chronicle} : Ahead config [] w w
  | looked {w : Chronicle} (opened : w.breaker.state = .opened)
      (expired : w.breaker.hasExpired w.now) :
      Ahead config [⟨.opened, .halfOpen⟩] (w.look config) w

theorem hasExpired_mono {later : Nat} (h : b.hasExpired now) (le : now ≤ later) :
    b.hasExpired later := by
  unfold hasExpired at h ⊢
  cases hexpiry : b.expiry with
  | none => simp [hexpiry] at h
  | some moment =>
    simp only [hexpiry, Option.any_some, decide_eq_true_eq] at h ⊢
    exact Nat.le_trans h le

namespace Ahead

variable {early : List Transition}

/-- One more look, which is not an exception. -/
theorem look (h : Ahead config early u w) (spared : u.breaker.rollsAt u.now = false) :
    ∃ last, Ahead config last (u.look config) w ∧
      early ++ (u.breaker.refresh config u.now).transitions = last := by
  cases h with
  | same =>
    by_cases expired : w.breaker.hasExpired w.now = true
    · cases state : w.breaker.state with
      | closed => simp [rollsAt, state, expired] at spared
      | opened => exact ⟨_, .looked state expired, by rw [refresh_of_cooled expired state]; rfl⟩
      | halfOpen =>
        rw [look_of_refresh_eq (refresh_of_trying state), refresh_of_trying state]
        exact ⟨_, .same, rfl⟩
    · have current : w.breaker.refresh config w.now = ⟨w.breaker, []⟩ :=
        refresh_of_current (eq_false_of_ne_true expired)
      rw [look_of_refresh_eq current, current]
      exact ⟨_, .same, rfl⟩
  | looked opened expired =>
    rw [look_look, look_breaker, look_now, refresh_refresh]
    exact ⟨_, .looked opened expired, rfl⟩

/-- The same event in both. -/
theorem step (h : Ahead config early u w) (e : Event) :
    ∃ last, Ahead config last (u.step config e) (w.step config e) ∧
      early ++ (u.shown config e).transitions = (w.shown config e).transitions ++ last ∧
      (u.shown config e).reply = (w.shown config e).reply ∧
      (e.CanHappen u ↔ e.CanHappen w) := by
  cases h with
  | same => exact ⟨_, .same, by simp, rfl, Iff.rfl⟩
  | looked opened expired =>
    by_cases acts : e.IsPassing
    · cases e with
      | passed span =>
        -- The trials are the same whenever they have begun.
        have hexpired : (w.step config (.passed span)).breaker.hasExpired
            (w.step config (.passed span)).now := hasExpired_mono expired (Nat.le_add_right _ _)
        have hlater : (w.look config).step config (.passed span) =
            (w.step config (.passed span)).look config := by
          rw [look_of_cooled expired opened, look_of_cooled hexpired opened]
          rfl
        rw [hlater]
        exact ⟨_, .looked opened hexpired, rfl, rfl, Iff.rfl⟩
      | asked | finished | dropped | looked => exact acts.elim
    · have hshown : (w.shown config e).transitions =
          ⟨.opened, .halfOpen⟩ :: ((w.look config).shown config e).transitions := by
        rw [transitions_shown_look acts, refresh_of_cooled expired opened]
        rfl
      rw [step_look acts, hshown, reply_shown_look acts]
      exact ⟨_, .same, (List.append_nil _).symm, rfl, canHappen_look⟩

end Ahead

/-- The same events, with looks in the one case and without them in the other. -/
theorem Ahead.of_play {es : List (Option Event)} {early : List Transition}
    (h : Ahead config early u w) (spares : Spares config u es)
    (played : play config w es.reduceOption = some v) :
    ∃ last x, play config u (withLooks es) = some x ∧ Ahead config last x v ∧
      (showingOwn config u es).map Shown.reply =
        (showing config w es.reduceOption).map Shown.reply ∧
      early ++ reports config u (withLooks es) = reports config w es.reduceOption ++ last := by
  induction es generalizing u w early with
  | nil =>
    obtain rfl : w = v := Option.some.inj played
    exact ⟨early, u, rfl, h, rfl, List.append_nil early⟩
  | cons o es ih =>
    cases o with
    | none =>
      obtain ⟨spared, hrest⟩ := spares
      obtain ⟨next, hahead, hnext⟩ := h.look spared
      obtain ⟨last, x, hplay, hlast, hreply, hreports⟩ := ih hahead hrest played
      refine ⟨last, x, play_cons_iff.2 ⟨trivial, hplay⟩, hlast, hreply, ?_⟩
      calc early ++ reports config u (.looked :: withLooks es)
        _ = early ++ (u.breaker.refresh config u.now).transitions ++
              reports config (u.look config) (withLooks es) := by
            rw [reports_cons, List.append_assoc]
            rfl
        _ = reports config w es.reduceOption ++ last := by rw [hnext, hreports]
    | some e =>
      rw [List.reduceOption_cons_of_some] at played ⊢
      obtain ⟨hcan, hrest⟩ := play_cons_iff.1 played
      obtain ⟨next, hahead, hnext, hshown, hpossible⟩ := h.step e
      obtain ⟨last, x, hplay, hlast, hreply, hreports⟩ := ih hahead spares hrest
      refine ⟨last, x, play_cons_iff.2 ⟨hpossible.2 hcan, hplay⟩, hlast, ?_, ?_⟩
      · rw [showingOwn, showing, List.map_cons, List.map_cons, hshown, hreply]
      calc early ++ reports config u (e :: withLooks es)
        _ = early ++ (u.shown config e).transitions ++
              reports config (u.step config e) (withLooks es) := by
            rw [reports_cons, List.append_assoc]
        _ = (w.shown config e).transitions ++
              (next ++ reports config (u.step config e) (withLooks es)) := by
            rw [hnext, List.append_assoc]
        _ = reports config w (e :: es.reduceOption) ++ last := by
            rw [hreports, reports_cons, List.append_assoc]

/-! ## Breakers without windows -/

/-- A closed state that does not run out. -/
def IsTimeless (b : Breaker) : Prop :=
  b.state = .closed → b.expiry = none

theorem isTimeless_renew (windowless : config.window = 0) (state : State) :
    IsTimeless (b.renew config now state) := by
  rintro rfl
  exact if_pos windowless

/-- Without a window every closed state is one that does not run out. -/
theorem isTimeless_step (windowless : config.window = 0) (h : IsTimeless w.breaker) (e : Event) :
    IsTimeless (w.step config e).breaker := by
  have hlook : IsTimeless (w.breaker.refresh config w.now).breaker := by
    have hrefreshed := refreshed config w.now w.breaker
    generalize (w.breaker.refresh config w.now).breaker = b at hrefreshed ⊢
    cases hrefreshed with
    | kept current => exact h
    | rolled expired closed => exact isTimeless_renew windowless .closed
    | cooled expired opened => exact isTimeless_renew windowless .halfOpen
  have hsettle (call : Admission) (succeeded : Bool) :
      IsTimeless (w.settle config call succeeded).breaker := by
    have houtcome := settled config w.now w.breaker call.generation succeeded
    rw [settle_breaker]
    generalize (w.breaker.settle config w.now call.generation succeeded).breaker = b
      at houtcome ⊢
    cases houtcome with
    | stale other => exact hlook
    | counted current calm trial => exact hlook
    | ended current reason => exact isTimeless_renew windowless _
  cases e with
  | asked =>
    have hanswer := permitted config w.now w.breaker
    rw [step, ask_breaker]
    generalize (w.breaker.permit config w.now).1.breaker = b at hanswer ⊢
    generalize (w.breaker.permit config w.now).2 = answer at hanswer
    cases hanswer with
    | opened state => exact hlook
    | spent state full => exact hlook
    | admitted state room => exact hlook
  | finished call succeeded => exact hsettle call succeeded
  | dropped call => exact hsettle call false
  | looked => rwa [step, look_breaker]
  | passed span => exact h

theorem spares_of_isTimeless (windowless : config.window = 0) (h : IsTimeless w.breaker)
    (es : List (Option Event)) : Spares config w es := by
  induction es generalizing w with
  | nil => trivial
  | cons o es ih =>
    cases o with
    | none =>
      refine ⟨?_, ih (isTimeless_step windowless h .looked)⟩
      cases state : w.breaker.state with
      | closed => simp [rollsAt, hasExpired, h state]
      | opened => simp [rollsAt, state]
      | halfOpen => simp [rollsAt, state]
    | some e => exact ih (isTimeless_step windowless h e)

/-- **Looks are not seen.** Whatever happens to a new breaker, it could also have been looked at any
number of times in between, except where the window of a closed breaker is over; without a window
there is no exception. Everyone who asked for a call would have had the same answer, and everyone
who looked would have seen the same. The same changes of state would have been reported, up to one:
if the breaker is open in the end and has cooled down without anyone noticing, the looks may have
been the first to notice. -/
theorem looks_unseen {es : List (Option Event)}
    (spares : config.window = 0 ∨ Spares config (start config now) es)
    (played : play config (start config now) es.reduceOption = some v) :
    ∃ x, play config (start config now) (withLooks es) = some x ∧
      (showingOwn config (start config now) es).map Shown.reply =
        (showing config (start config now) es.reduceOption).map Shown.reply ∧
      (x = v ∧ reports config (start config now) (withLooks es) =
          reports config (start config now) es.reduceOption ∨
        x = v.look config ∧ v.breaker.state = .opened ∧ v.breaker.hasExpired v.now ∧
          reports config (start config now) (withLooks es) =
            reports config (start config now) es.reduceOption ++ [⟨.opened, .halfOpen⟩]) := by
  have hspares : Spares config (start config now) es := by
    rcases spares with windowless | spares
    · exact spares_of_isTimeless windowless (fun _ => if_pos windowless) es
    · exact spares
  obtain ⟨last, x, hplay, hlast, hreply, hreports⟩ := Ahead.same.of_play hspares played
  refine ⟨x, hplay, hreply, ?_⟩
  rw [List.nil_append] at hreports
  cases hlast with
  | same => exact .inl ⟨rfl, by rw [hreports, List.append_nil]⟩
  | looked opened expired => exact .inr ⟨rfl, opened, expired, hreports⟩

/-- A breaker opens, and a trial fails. Among the looks put in between there are two that are the
first to notice that it has cooled down, and after the second of these nothing happens. -/
theorem looks_notice_first :
    ∃ config es, Spares config (start config 7) es ∧
      ∃ v ∈ play config (start config 7) es.reduceOption,
      ∃ x ∈ play config (start config 7) (withLooks es),
        es.reduceOption = [.asked, .dropped ⟨0, 0, 0, 7⟩, .passed 3, .asked,
          .dropped ⟨2, 2, 1, 10⟩, .passed 3] ∧
        withLooks es = [.looked, .asked, .dropped ⟨0, 0, 0, 7⟩, .looked, .passed 3, .looked,
          .looked, .asked, .dropped ⟨2, 2, 1, 10⟩, .passed 3, .looked] ∧
        (showingOwn config (start config 7) es).map Shown.reply =
          (showing config (start config 7) es.reduceOption).map Shown.reply ∧
        x = v.look config ∧
        reports config (start config 7) (withLooks es) =
          reports config (start config 7) es.reduceOption ++ [⟨.opened, .halfOpen⟩] := by
  have hplays : ∃ config es, Spares config (start config 7) es ∧
      ∃ v ∈ play config (start config 7) es.reduceOption,
        es.reduceOption = [.asked, .dropped ⟨0, 0, 0, 7⟩, .passed 3, .asked,
          .dropped ⟨2, 2, 1, 10⟩, .passed 3] ∧
        withLooks es = [.looked, .asked, .dropped ⟨0, 0, 0, 7⟩, .looked, .passed 3, .looked,
          .looked, .asked, .dropped ⟨2, 2, 1, 10⟩, .passed 3, .looked] ∧
        reports config (start config 7) (withLooks es) ≠
          reports config (start config 7) es.reduceOption := by
    refine ⟨{ minRequests := 1, cooldown := 3 },
      [none, some .asked, some (.dropped ⟨0, 0, 0, 7⟩), none, some (.passed 3), none, none,
        some .asked, some (.dropped ⟨2, 2, 1, 10⟩), some (.passed 3), none], ?_⟩
    decide +kernel
  obtain ⟨config, es, hspares, v, hv, hown, hall, hmore⟩ := hplays
  obtain ⟨x, hx, hreply, hend⟩ := looks_unseen (.inr hspares) hv
  rcases hend with ⟨-, hsame⟩ | ⟨hlook, -, -, hreports⟩
  · exact absurd hsame hmore
  · exact ⟨config, es, hspares, v, hv, x, hx, hown, hall, hreply, hlook, hreports⟩

end Chronicle

end Courier.Breaker
