import Courier.Proofs.Depot.Dealings
import Mathlib.Logic.Function.Basic

/-!
# Ledgers

A ledger is a depot with a log of all that is done with its breaker, each entry with its moment. It
also remembers when the calls were made that the runs wait for, and whoever is answered too late
does not hear it.

The log is complete: a new breaker that is treated as the log says becomes the breaker of the depot.
So what is said of the log is said of the breaker, and a place that a run holds in it is given back.

## Main definitions

* `Depot.Page`: what the log says of one run.
* `Depot.Ledger`, `Depot.Ledger.Step`, `Depot.Ledger.History`.
* `Depot.Ledger.Accounted`: what is true of a ledger; `Depot.Ledger.no_admission_leaks` says that it
  always is.
-/

namespace Courier

namespace Depot

open Run (Await Progress Returned Setup)

variable {setup : Setup} {w : Depot} {e e' : Event} {n : Nat} {run : Runner}

/-! ## What the log says of a run -/

/-- The deliveries that the run has made, from the first. -/
def Runner.sends (run : Runner) : List Await :=
  run.made.filter Await.isSend

theorem Runner.sends_after {await : Await} (waits : run.progress = .waits await)
    (answer : await.kind.Answer) (progress : Progress) :
    (run.after await answer progress).sends =
      run.sends ++ progress.awaited.filter Await.isSend := by
  simp [sends, made, after, waits]

theorem Runner.sends_ne_nil {generation : UInt64} {notification : Notification}
    (waits : run.progress = .waits (.send generation notification)) : run.sends ≠ [] := by
  simp [sends, made, Run.made, waits, Progress.awaited, Await.isSend, Await.kind]

/-- All that the log says of the run of a number, in the order in which it happened. The call that
the run waits for, if it does, was made at the given moment. -/
inductive Page (setup : Setup) (n since : Nat) (run : Runner) : List Entry → Prop where
  /-- The run has not asked for its delivery, and has made none. -/
  | unasked (sends : run.sends = []) : Page setup n since run []
  /-- It was not let through, and has made none. -/
  | refused {moment : Nat} {reason : Breaker.Rejection} (sends : run.sends = [])
      (behind : run.progress.leg = .after) :
      Page setup n since run [.asked moment n (.error reason)]
  /-- It was let through, and waits for the outcome of its delivery. -/
  | waiting {generation : UInt64} {notification : Notification}
      (sends : run.sends = [.send generation notification])
      (waits : run.progress = .waits (.send generation notification))
      (stays : run.isAbandoned = false) :
      Page setup n since run [.asked since n (.ok generation)]
  /-- It was let through, and has said how its delivery came out: well, if the gateway has said so
  in time. -/
  | returned {made moment : Nat} {generation : UInt64} {notification : Notification}
      {said : Except DeliveryError Unit} (sends : run.sends = [.send generation notification])
      (behind : run.progress.leg = .after)
      (call : ⟨.send generation notification, Run.heard setup (moment - made) .send said⟩ ∈
        run.past) :
      Page setup n since run
        [.asked made n (.ok generation), .settled moment n generation
          (said.isOk && decide (moment - made ≤ setup.limits.callTimeout))]
  /-- It was let through, and given up before its delivery came out. -/
  | dropped {made moment : Nat} {generation : UInt64} {notification : Notification}
      (sends : run.sends = [.send generation notification])
      (waits : run.progress = .waits (.send generation notification))
      (gone : run.isAbandoned) :
      Page setup n since run
        [.asked made n (.ok generation), .settled moment n generation false]

namespace Page

variable {since : Nat} {log : List Entry} {await : Await}

/-- A run that has not come to its delivery has not asked. -/
theorem of_leg_before (page : Page setup n since run log) (waits : run.progress = .waits await)
    (early : await.leg = .before) : log = [] ∧ run.sends = [] := by
  cases page with
  | unasked sends => exact ⟨rfl, sends⟩
  | refused sends behind | returned sends behind => simp [waits, early] at behind
  | waiting sends delivers | dropped sends delivers =>
    cases waits.symm.trans delivers
    cases early

/-- A run that waits for the outcome of a delivery has been let through for it. -/
theorem of_send {generation : UInt64} {notification : Notification}
    (page : Page setup n since run log)
    (waits : run.progress = .waits (.send generation notification))
    (stays : run.isAbandoned = false) :
    log = [.asked since n (.ok generation)] ∧ run.sends = [.send generation notification] := by
  cases page with
  | unasked sends | refused sends => exact absurd sends (Runner.sends_ne_nil waits)
  | waiting sends delivers =>
    cases waits.symm.trans delivers
    exact ⟨rfl, sends⟩
  | returned sends behind => simp [waits, Await.leg] at behind
  | dropped sends delivers gone => simp [stays] at gone

/-- The delivery of a run has come out. -/
theorem settle {generation : UInt64} {notification : Notification}
    {answer said : Except DeliveryError Unit} {moment : Nat} {progress : Progress}
    (page : Page setup n since run log)
    (waits : run.progress = .waits (.send generation notification))
    (stays : run.isAbandoned = false)
    (heard : answer = Run.heard setup (moment - since) .send said)
    (behind : progress.leg = .after) :
    Page setup n moment (run.after (.send generation notification) answer progress)
      (log ++ [.settled moment n generation answer.isOk]) := by
  obtain ⟨rfl, hone⟩ := page.of_send waits stays
  have hsends := Runner.sends_after waits answer progress
  rw [hone, Run.filter_isSend_awaited (by simp [behind]), List.append_nil] at hsends
  subst heard
  rw [Run.isOk_heard_send]
  exact .returned hsends behind (List.mem_append_right run.past (List.mem_singleton_self _))

/-- A run goes on, and what it does with the breaker is added. -/
theorem proceed {answer said : await.kind.Answer} {progress : Progress} {b : Breaker}
    {more : List Entry} (page : Page setup n since run log) (waits : run.progress = .waits await)
    (stays : run.isAbandoned = false)
    (heard : answer = Run.heard setup (w.now - since) await.kind said)
    (h : Dealt setup w n run.job await answer progress b more) :
    Page setup n w.now (run.after await answer progress)
      (log ++ more.filter (·.run? = some n)) := by
  have hsends := Runner.sends_after waits answer progress
  cases h with
  | quiet elsewhere unsent onward =>
    rw [Run.filter_isSend_awaited unsent, List.append_nil] at hsends
    rw [List.filter_nil, List.append_nil]
    cases page with
    | unasked sends => exact .unasked (hsends.trans sends)
    | refused sends behind =>
      rw [waits] at behind
      exact .refused (hsends.trans sends) (onward behind)
    | waiting sends delivers =>
      cases waits.symm.trans delivers
      exact absurd rfl elsewhere
    | returned sends behind call =>
      rw [waits] at behind
      exact .returned (hsends.trans sends) (onward behind) (List.mem_append_left _ call)
    | dropped sends delivers gone => simp [stays] at gone
  | refused refuses =>
    obtain ⟨rfl, hnone⟩ := page.of_leg_before waits rfl
    rw [hnone] at hsends
    simpa [Entry.run?] using Page.refused hsends rfl
  | admitted admits =>
    obtain ⟨rfl, hnone⟩ := page.of_leg_before waits rfl
    rw [hnone] at hsends
    simpa [Entry.run?] using Page.waiting hsends rfl stays
  | sent generation notification =>
    simpa [Entry.run?, Except.isOk, Except.toBool] using
      page.settle waits stays heard rfl
  | unsent generation notification error =>
    simpa [Entry.run?, Except.isOk, Except.toBool] using
      page.settle waits stays heard rfl

/-- A run is given up, and what it does with the breaker is added. -/
theorem giveUp (page : Page setup n since run log) (waits : run.progress = .waits await)
    (stays : run.isAbandoned = false) :
    Page setup n since run.dropped (log ++ (farewell w n await).filter (·.run? = some n)) := by
  by_cases hleg : await.leg = .during
  · cases await with
    | send generation notification =>
      obtain ⟨rfl, hone⟩ := page.of_send waits stays
      have hsends : run.dropped.sends = [.send generation notification] := hone
      simpa [Entry.run?, farewell] using Page.dropped hsends waits rfl
    | _ => simp [Await.leg] at hleg
  · have hnothing : farewell w n await = [] := by
      cases await with
      | send generation notification => exact absurd rfl hleg
      | _ => rfl
    rw [hnothing, List.filter_nil, List.append_nil]
    cases page with
    | unasked sends => exact .unasked sends
    | refused sends behind => exact .refused sends behind
    | waiting sends delivers =>
      cases waits.symm.trans delivers
      exact absurd rfl hleg
    | returned sends behind call => exact .returned sends behind call
    | dropped sends delivers gone => simp [stays] at gone

end Page

/-! ## Ledgers -/

/-- A depot with a log of what has been done with its breaker. -/
structure Ledger where
  depot : Depot
  /-- When the run of a number made the call that it waits for. -/
  since : Nat → Nat := fun _ => 0
  log : List Entry := []

namespace Ledger

variable {first l l' : Ledger}

/-- What happens when a collaborator says something: the run that has waited for it hears it, unless
the time for the call is over. -/
def heard (setup : Setup) (l : Ledger) : Event → Event
  | .returned n await said =>
    .returned n await (Run.heard setup (l.depot.now - l.since n) await.kind said)
  | e => e

/-- When the calls were made that are waited for after an event. -/
def sinceAfter (l : Ledger) : Event → Nat → Nat
  | .returned n _ _ => Function.update l.since n l.depot.now
  | .taken _ => Function.update l.since l.depot.runs.length l.depot.now
  | _ => l.since

/-- The ledger after an event that has led to the given depot. -/
def record (setup : Setup) (l : Ledger) (e : Event) (w : Depot) : Ledger where
  depot := w
  since := l.sinceAfter e
  log := l.log ++ entries setup l.depot e

/-- One step of a ledger, in which the numbers of generations do not come round. An event in which a
call returns says what the collaborator has said, whenever that may be. -/
inductive Step (setup : Setup) (l : Ledger) : Event → Ledger → Prop where
  | mk {e : Event} {w : Depot} (step : Depot.Step setup l.depot (l.heard setup e) w)
      (onward : l.depot.breaker.generation ≤ w.breaker.generation) :
      Step setup l e (l.record setup (l.heard setup e) w)

/-- Any number of steps. -/
abbrev History (setup : Setup) : Ledger → Ledger → Prop :=
  Relation.ReflTransGen fun l l' => ∃ e, Step setup l e l'

/-- A ledger before anything has happened: the breaker is new, and nobody has used it. -/
structure IsFresh (setup : Setup) (l : Ledger) : Prop where
  runs : l.depot.runs = []
  breaker : l.depot.breaker = .start setup.breaker l.depot.now
  log : l.log = []

/-- The entries about the run of a number, in the order in which they were made. -/
def page (l : Ledger) (n : Nat) : List Entry :=
  l.log.filter (·.run? = some n)

/-- How many deliveries have been let through. -/
def admissions (l : Ledger) : Nat :=
  l.log.countP Entry.isAdmission

/-! ## What always holds -/

/-- What is true of a ledger whose breaker has been new at some time. -/
structure Sound (setup : Setup) (new : Breaker) (l : Ledger) : Prop where
  replayed : replay? setup.breaker new l.log = some l.depot.breaker
  balanced : Breaker.Balanced setup.breaker l.depot.breaker l.depot.sending l.admissions
  pages : ∀ n run, l.depot.runs[n]? = some run → Page setup n (l.since n) run (l.page n)
  known : ∀ entry ∈ l.log, ∀ n, entry.run? = some n → n < l.depot.runs.length

theorem IsFresh.sound (h : l.IsFresh setup) : Sound setup l.depot.breaker l where
  replayed := by rw [h.log]; rfl
  balanced := by
    have hnone : l.depot.sending = fun _ => 0 := by
      funext g
      rw [sending, h.runs, List.countP_nil]
    rw [hnone, admissions, h.log, h.breaker]
    exact Breaker.balanced_start setup.breaker l.depot.now
  pages := by simp [h.runs]
  known := by simp [h.log]

/-- Whatever a run does with the breaker is written down with its number. -/
theorem run?_of_mem_dealings {job : Job} {await : Await} {answer : await.kind.Answer}
    {entry : Entry} {k : Nat} (h : entry ∈ dealings setup w n job await answer)
    (hk : entry.run? = some k) : k = n := by
  have hdealt := dealt setup w n job await answer
  generalize (Run.resume setup w.now job w.breaker await answer).progress = progress at hdealt
  generalize (Run.resume setup w.now job w.breaker await answer).breaker = b at hdealt
  generalize dealings setup w n job await answer = log at hdealt h
  cases hdealt <;> simp at h
  · rcases h with rfl | rfl <;> simp_all [Entry.run?]
  · simp_all [Entry.run?]
  · simp_all [Entry.run?]
  · rcases h with rfl | rfl <;> simp_all [Entry.run?]

theorem run?_of_mem_farewell {await : Await} {entry : Entry} {k : Nat}
    (h : entry ∈ farewell w n await) (hk : entry.run? = some k) : k = n := by
  cases await <;> simp_all [farewell, Entry.run?]

theorem page_record (setup : Setup) (l : Ledger) (e : Event) (after : Depot) (n : Nat) :
    (l.record setup e after).page n =
      l.page n ++ (entries setup l.depot e).filter (·.run? = some n) := by
  simp [page, record]

/-- The page of a run stays as it is if nothing of what is added is about it. -/
theorem page_record_of_ne {after : Depot}
    (h : ∀ entry ∈ entries setup l.depot e, entry.run? ≠ some n) :
    (l.record setup e after).page n = l.page n := by
  have hnothing : (entries setup l.depot e).filter (·.run? = some n) = [] := by
    simpa [List.filter_eq_nil_iff] using h
  rw [page_record, hnothing, List.append_nil]

/-- An answer that a run gets is what it hears of something that has been said. -/
theorem exists_said {await : Await} {answer : await.kind.Answer}
    (h : l.heard setup e = .returned n await answer) :
    ∃ said, answer = Run.heard setup (l.depot.now - l.since n) await.kind said := by
  cases e with
  | returned m other said =>
    cases h
    exact ⟨said, rfl⟩
  | _ => cases h

/-- All that is added is about runs that there are. -/
theorem known_record {after : Depot} (known : ∀ entry ∈ l.log, ∀ n, entry.run? = some n →
      n < l.depot.runs.length)
    (h : ∀ entry ∈ entries setup l.depot e, ∀ n, entry.run? = some n → n < l.depot.runs.length)
    (hle : l.depot.runs.length ≤ after.runs.length) :
    ∀ entry ∈ (l.record setup e after).log, ∀ n, entry.run? = some n → n < after.runs.length := by
  intro entry hmem n hrun
  rcases List.mem_append.1 hmem with hold | hnew
  · exact Nat.lt_of_lt_of_le (known entry hold n hrun) hle
  · exact Nat.lt_of_lt_of_le (h entry hnew n hrun) hle

namespace Sound

variable {new : Breaker} {after : Depot}

/-- In every step the page of a run goes on as it should. -/
theorem pages_record (h : Sound setup new l) (heard : l.heard setup e = e')
    (step : Depot.Step setup l.depot e' after) (m : Nat) (run' : Runner)
    (here' : after.runs[m]? = some run') :
    Page setup m (l.sinceAfter e' m) run' ((l.record setup e' after).page m) := by
  cases step with
  | submit | pass | look =>
    rw [page_record_of_ne (by simp [entries, Entry.run?])]
    exact h.pages m run' here'
  | refuse =>
    rw [page_record_of_ne (by simp [entries])]
    have hm : m < l.depot.runs.length := (List.getElem?_eq_some_iff.1 here').1
    rw [sinceAfter, Function.update_of_ne (by omega)]
    exact h.pages m run' here'
  | @launch payload job queued decoded =>
    rw [page_record_of_ne (by simp [entries])]
    have hget : (l.depot.runs ++ [.start job])[m]? = some run' := here'
    rw [List.getElem?_append] at hget
    split at hget
    · next hm =>
      rw [sinceAfter, Function.update_of_ne (by omega)]
      exact h.pages m run' hget
    · next hm =>
      obtain rfl : Runner.start job = run' := by
        rw [List.getElem?_singleton] at hget
        split at hget
        · exact Option.some.inj hget
        · simp at hget
      have hempty : l.page m = [] := by
        rw [page, List.filter_eq_nil_iff]
        intro entry hmem hrun
        exact hm (h.known entry hmem m (by simpa using hrun))
      rw [hempty]
      exact .unasked rfl
  | @proceed n run await answer records copies here waits stays alters copied =>
    obtain ⟨said, hsaid⟩ := exists_said heard
    by_cases hm : m = n
    · subst hm
      rw [Depot.proceed, List.getElem?_set_self (List.getElem?_eq_some_iff.1 here).1] at here'
      rw [page_record, entries_returned here, sinceAfter, Function.update_self,
        ← Option.some.inj here']
      exact (h.pages m run here).proceed waits stays hsaid (dealt ..)
    · have hother : l.depot.runs[m]? = some run' := by
        rwa [Depot.proceed, List.getElem?_set_ne (Ne.symm hm)] at here'
      rw [page_record_of_ne, sinceAfter, Function.update_of_ne hm]
      · exact h.pages m run' hother
      · rw [entries_returned here]
        intro entry hmem hrun
        exact hm (run?_of_mem_dealings hmem hrun)
  | @giveUp n run await here waits stays =>
    by_cases hm : m = n
    · subst hm
      rw [Depot.giveUp, List.getElem?_set_self (List.getElem?_eq_some_iff.1 here).1] at here'
      rw [page_record, entries_abandoned here waits, ← Option.some.inj here']
      exact (h.pages m run here).giveUp waits stays
    · have hother : l.depot.runs[m]? = some run' := by
        rwa [Depot.giveUp, List.getElem?_set_ne (Ne.symm hm)] at here'
      rw [page_record_of_ne]
      · exact h.pages m run' hother
      · rw [entries_abandoned here waits]
        intro entry hmem hrun
        exact hm (run?_of_mem_farewell hmem hrun)

/-- All that is done is done by runs that there are. -/
theorem lt_of_mem_entries (step : Depot.Step setup l.depot e after) {entry : Entry}
    (hmem : entry ∈ entries setup l.depot e) (hrun : entry.run? = some n) :
    n < l.depot.runs.length := by
  cases step with
  | submit | pass | refuse | launch => simp [entries] at hmem
  | look =>
    obtain rfl : entry = .looked l.depot.now := by simpa [entries] using hmem
    cases hrun
  | @proceed m run await answer records copies here waits stays alters copied =>
    rw [entries_returned here] at hmem
    rw [run?_of_mem_dealings hmem hrun]
    exact (List.getElem?_eq_some_iff.1 here).1
  | @giveUp m run await here waits stays =>
    rw [entries_abandoned here waits] at hmem
    rw [run?_of_mem_farewell hmem hrun]
    exact (List.getElem?_eq_some_iff.1 here).1

theorem step (h : Sound setup new l) (hstep : Step setup l e l')
    (few : l'.admissions < UInt32.size) : Sound setup new l' := by
  cases hstep with
  | @mk w hstep onward =>
    have hadmissions : (l.record setup (l.heard setup e) w).admissions =
        l.admissions + (entries setup l.depot (l.heard setup e)).countP Entry.isAdmission := by
      simp [admissions, record]
    rw [hadmissions] at few
    exact {
      replayed := (replay?_append h.replayed).trans hstep.replay?
      balanced := by
        rw [hadmissions]
        exact hstep.balanced h.balanced onward few
      pages := h.pages_record rfl hstep
      known := known_record h.known (fun entry hmem n hrun => lt_of_mem_entries hstep hmem hrun)
        hstep.length_le }

end Sound

/-- Steps do not take admissions back. -/
theorem Step.admissions_le (h : Step setup l e l') : l.admissions ≤ l'.admissions := by
  cases h with
  | mk step onward => simp [admissions, record]

theorem History.sound {new : Breaker} (h : History setup l l') (start : Sound setup new l)
    (few : l'.admissions < UInt32.size) : Sound setup new l' := by
  induction h with
  | refl => exact start
  | tail _ last ih =>
    obtain ⟨e, hstep⟩ := last
    exact (ih (Nat.lt_of_le_of_lt hstep.admissions_le few)).step hstep few

/-! ## Playing events -/

/-- The ledger after an event, if the event can happen. -/
def next? (setup : Setup) (l : Ledger) (e : Event) : Option Ledger :=
  match l.depot.next? setup (l.heard setup e) with
  | some w =>
    if l.depot.breaker.generation ≤ w.breaker.generation then
      some (l.record setup (l.heard setup e) w)
    else none
  | none => none

/-- The ledger after events, one after the other, if all of them can happen. -/
def play (setup : Setup) (l : Ledger) (events : List Event) : Option Ledger :=
  events.foldlM (next? setup) l

/-- What is played is a history. -/
theorem History.of_play {events : List Event} (h : l.play setup events = some l') :
    History setup l l' := by
  induction events generalizing l with
  | nil =>
    obtain rfl : l = l' := Option.some.inj h
    exact .refl
  | cons e events ih =>
    obtain ⟨v, hv, hrest⟩ := Option.bind_eq_some_iff.1 h
    simp only [next?] at hv
    split at hv
    · next w hw =>
      split at hv
      · next onward =>
        rw [← Option.some.inj hv] at hrest
        exact .head ⟨e, .mk (.of_next? hw) onward⟩ (ih hrest)
      · simp at hv
    · simp at hv

/-! ## No admission leaks -/

end Ledger

/-- A run fails before it comes to its delivery: its claim fails or a lookup does, or there is
nothing that could be delivered. -/
def FailsEarly (job : Job) : (await : Await) → await.kind.Answer → Prop
  | .claim, .error _ | .user, .error _ | .template _, .error _ => True
  | .template _, .ok template => ∃ error, (template.render job.variables).2 = .error error
  | _, _ => False

theorem dealings_of_failsEarly {job : Job} {await : Await} {answer : await.kind.Answer}
    (early : FailsEarly job await answer) : dealings setup w n job await answer = [] := by
  unfold FailsEarly at early
  split at early
  · rfl
  · rfl
  · rfl
  · obtain ⟨error, rendering⟩ := early
    simp [dealings, asking, rendering]
  · exact early.elim

namespace Ledger

/-- What is true of a ledger that has begun with a new breaker. -/
structure Accounted (setup : Setup) (first l : Ledger) : Prop where
  /-- A new breaker that is treated as the log says gives the answers of the log, and becomes the
  breaker that there is. -/
  replayed : replay? setup.breaker first.depot.breaker l.log = some l.depot.breaker
  /-- What the tallies lack are the runs that wait for the outcome of a delivery of the current
  generation. -/
  lacking : l.depot.breaker.counts.totalSuccesses + l.depot.breaker.counts.totalFailures ≤
      l.depot.breaker.counts.requests ∧
    l.depot.breaker.counts.requests - l.depot.breaker.counts.totalSuccesses -
      l.depot.breaker.counts.totalFailures = l.depot.sending l.depot.breaker.generation
  /-- Every run asks once at most, makes its delivery just if it was let through, and then says once
  how it came out, as soon as it does not wait for that any more. -/
  pages : ∀ n run, l.depot.runs[n]? = some run → Page setup n (l.since n) run (l.page n)
  /-- Nobody else has anything to do with the breaker, but for looks. -/
  known : ∀ entry ∈ l.log, ∀ n, entry.run? = some n → n < l.depot.runs.length
  /-- Whoever was let through did not find the breaker open. -/
  admitting : ∀ before after moment n generation,
    l.log = before ++ .asked moment n (.ok generation) :: after →
      ∃ found, replay? setup.breaker first.depot.breaker before = some found ∧
        (found.refresh setup.breaker moment).breaker.state ≠ .opened ∧
        (found.refresh setup.breaker moment).breaker.generation = generation
  /-- A run that fails before its delivery does nothing to the breaker. -/
  early : ∀ e l' n run await answer, Step setup l e l' → l.depot.runs[n]? = some run →
    l.heard setup e = .returned n await answer → FailsEarly run.job await answer →
      l'.depot.breaker = l.depot.breaker ∧ l'.log = l.log
  /-- When nobody is at work nothing is lacking, and if it comes to trials there is one to give. -/
  idle : (∀ run ∈ l.depot.runs, run.isAtWork = false) →
    l.depot.breaker.counts.totalSuccesses + l.depot.breaker.counts.totalFailures =
        l.depot.breaker.counts.requests ∧
      (l.depot.breaker.state = .halfOpen → 0 < setup.breaker.halfOpenRequests →
        ∀ now, ∃ generation, (l.depot.breaker.permit setup.breaker now).2 = .ok generation)

/-- Whoever waits is at work. -/
theorem sending_eq_zero (idle : ∀ run ∈ w.runs, run.isAtWork = false) (generation : UInt64) :
    w.sending generation = 0 := by
  rw [sending, List.countP_eq_zero]
  intro run hmem hsending
  have hrun := idle run hmem
  cases hprogress : run.progress with
  | waits await => simp_all [Runner.isAtWork, Runner.isSending]
  | ends disposition => simp [Runner.isSending, Run.Progress.isSending, hprogress] at hsending

/-- While fewer than 2^32 deliveries have been let through and the numbers of generations have not
come round, no run keeps a place in the breaker: whatever the collaborators say and whenever they
do, whoever is given up and wherever he is, every delivery that was let through is counted once and
in time, and nothing else is. -/
theorem no_admission_leaks (fresh : first.IsFresh setup) (h : History setup first l)
    (few : l.admissions < UInt32.size) : Accounted setup first l := by
  have hsound : Sound setup first.depot.breaker l := h.sound fresh.sound few
  have htallied := hsound.balanced.tallied
  exact {
    replayed := hsound.replayed
    lacking := by constructor <;> omega
    pages := hsound.pages
    known := hsound.known
    admitting := by
      intro before after moment n generation hlog
      exact exists_of_replay?_asked (hlog ▸ hsound.replayed)
    early := by
      intro e l' n run await answer hstep here hheard hearly
      cases hstep with
      | mk step onward =>
        have hnothing : entries setup l.depot (l.heard setup e) = [] := by
          rw [hheard, entries_returned here, dealings_of_failsEarly hearly]
        have hreplay := step.replay?
        rw [hnothing] at hreplay
        exact ⟨(Option.some.inj hreplay).symm, by simp [record, hnothing]⟩
    idle := by
      intro hidle
      have hnone : l.depot.sending l.depot.breaker.generation = 0 := sending_eq_zero hidle _
      refine ⟨by omega, fun state trials now => ?_⟩
      exact hsound.balanced.exists_permit_ok hnone state trials now }

/-- The gateway takes a notification too late, so the breaker trips. The other run that is on its
way through it is given up, and then nothing is lacking. -/
theorem no_admission_leaks_of_late_and_abandoned :
    ∃ first l : Ledger, first.IsFresh { breaker := { minRequests := 1 } } ∧
      History { breaker := { minRequests := 1 } } first l ∧ l.admissions = 2 ∧
      l.page 0 = [.asked 0 0 (.ok 0), .settled 6000 0 0 false] ∧
      l.page 1 = [.asked 0 1 (.ok 0), .settled 6000 1 0 false] ∧
      l.depot.breaker.state = .opened ∧ l.depot.sending l.depot.breaker.generation = 0 := by
  let setup : Setup := { breaker := { minRequests := 1 } }
  let other : Job := { sampleJob with requestId := "s" }
  let first : Ledger :=
    { depot :=
        { queue := [sampleJob.encode, other.encode], breaker := .start setup.breaker 0 } }
  let notification : Notification :=
    .compose other "d" sampleTemplate { title := "Hello", body := "It works" }
  have hplays : ∃ l ∈ first.play setup
      [.taken sampleJob.encode, .taken other.encode, .returned 0 .claim (.ok .claimed),
        .returned 1 .claim (.ok .claimed), .returned 0 .user (.ok (.deliverable sampleProfile)),
        .returned 1 .user (.ok (.deliverable sampleProfile)),
        .returned 0 (.template "d") (.ok sampleTemplate),
        .returned 1 (.template "d") (.ok sampleTemplate), .passed 6000,
        .returned 0 (.send 0 sampleNotification) (.ok ()), .abandoned 1],
      l.admissions = 2 ∧ l.page 0 = [.asked 0 0 (.ok 0), .settled 6000 0 0 false] ∧
        l.page 1 = [.asked 0 1 (.ok 0), .settled 6000 1 0 false] ∧
        l.depot.breaker.state = .opened ∧ l.depot.breaker.counts.requests = 0 := by
    decide +kernel
  obtain ⟨l, hl, hadmissions, hfirst, hsecond, hstate, hnone⟩ := hplays
  have hfresh : first.IsFresh setup := ⟨rfl, rfl, rfl⟩
  have hhistory : History setup first l := .of_play hl
  have hfew : l.admissions < UInt32.size := hadmissions ▸ (by decide)
  have hlacking := (no_admission_leaks hfresh hhistory hfew).lacking
  exact ⟨first, l, hfresh, hhistory, hadmissions, hfirst, hsecond, hstate, by omega⟩

end Ledger

end Depot

end Courier
