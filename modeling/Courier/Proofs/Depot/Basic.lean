import Courier.Proofs.Job
import Courier.Proofs.Run.Trail
import Mathlib.Data.Finset.Erase
import Mathlib.Data.Finset.Insert
import Mathlib.Logic.Relation

/-!
# Depots

A depot is where runs work side by side. They share a queue of messages, a store of records and a
breaker, and nothing orders their calls: whichever call returns next, its run goes on. A call of the
store takes effect when it returns. Messages come from outside or are copies of jobs that go around
again, with their variables in whatever order, runs may be given up while they wait, and no record
ever expires.

Collaborators answer as they like. What a theorem assumes of them is a condition on events, and
`History` is any number of steps all of whose events meet it.

## Main definitions

* `Depot`, `Depot.Runner`: the state of a depot, and of one run in it.
* `Depot.Event`, `Depot.Step`: what can happen, and what it brings about.
* `Depot.History`: any number of steps under a condition.
* `Depot.tally`: how many runs of one request id are of some kind.
* `Depot.play`: a history computed from its events.
-/

namespace Courier

open Run (Await Progress Returned Setup Trail)

/-- A run at work, or one that has come to its end. -/
structure Depot.Runner where
  job : Job
  /-- The calls that have returned to it, from the first. -/
  past : List Returned := []
  progress : Progress := .waits .claim
  /-- It has been given up while it waited. -/
  isAbandoned : Bool := false

/-- Runs with what they share. -/
structure Depot where
  /-- The messages that no run has taken yet. -/
  queue : List (List UInt8) := []
  /-- The request ids that have a record. -/
  records : Finset String := ∅
  /-- All runs so far; their places are their numbers. -/
  runs : List Depot.Runner := []
  breaker : Breaker := {}
  now : Nat := 0

namespace Depot

variable {setup : Setup} {w w' : Depot} {r : String}

/-! ## What runs do to a depot -/

/-- The run has neither come to its end nor been given up. -/
def Runner.isAtWork (run : Runner) : Bool :=
  match run.progress with
  | .waits _ => !run.isAbandoned
  | .ends _ => false

/-- A run that has just begun. -/
def Runner.start (job : Job) : Runner := { job }

/-- The run given up. -/
def Runner.dropped (run : Runner) : Runner :=
  { run with isAbandoned := true }

/-- The run after a call of it has returned. -/
def Runner.after (run : Runner) (await : Await) (answer : await.kind.Answer)
    (progress : Progress) : Runner :=
  { run with past := run.past ++ [⟨await, answer⟩], progress }

/-- The calls that the run has made, from the first. -/
def Runner.made (run : Runner) : List Await :=
  Run.made run.past run.progress

/-- The messages that may go around once a call has returned: a copy of the job, with its variables
written in any order, if the call sent one around, and otherwise none. -/
inductive Copied (job : Job) (call : Returned) : List (List UInt8) → Prop where
  | around {body : List UInt8} (isCopy : call.isCopy) (written : job.next.IsWritten body) :
      Copied job call [body]
  | nothing (other : call.isCopy = false) : Copied job call []

/-- What the return of a call about a request id does to the records. Of a call that failed it is
not known whether it took effect. -/
def Alters (id : String) (before after : Finset String) :
    (await : Await) → await.kind.Answer → Prop
  | .claim, .ok .claimed => id ∉ before ∧ after = insert id before
  | .claim, .ok .alreadyPresent => id ∈ before ∧ after = before
  | .claim, .error _ => after = before ∨ after = insert id before
  | .mark, .ok () => after = insert id before
  | .mark, .error _ => after = before ∨ after = insert id before
  | .release, .ok () => after = before.erase id
  | .release, .error _ => after = before ∨ after = before.erase id
  | _, _ => after = before

/-- A message has come in. -/
def submit (w : Depot) (payload : List UInt8) : Depot :=
  { w with queue := w.queue ++ [payload] }

/-- A message is taken out of the queue and is no job. -/
def refuse (w : Depot) (payload : List UInt8) : Depot :=
  { w with queue := w.queue.erase payload }

/-- A message is taken out of the queue and its run begins. -/
def launch (w : Depot) (payload : List UInt8) (job : Job) : Depot :=
  { w with queue := w.queue.erase payload, runs := w.runs ++ [.start job] }

/-- A call of a run has returned, and the run goes on. The records and the copies are those that
this leads to. -/
def proceed (setup : Setup) (w : Depot) (n : Nat) (run : Runner) (await : Await)
    (answer : await.kind.Answer) (records : Finset String) (copies : List (List UInt8)) : Depot :=
  let step := Run.resume setup w.now run.job w.breaker await answer
  { w with
    queue := w.queue ++ copies
    records
    runs := w.runs.set n (run.after await answer step.progress)
    breaker := step.breaker }

/-- A run is given up. -/
def giveUp (setup : Setup) (w : Depot) (n : Nat) (run : Runner) (await : Await) : Depot :=
  { w with
    runs := w.runs.set n run.dropped
    breaker := (Run.abandon setup w.now w.breaker await).1 }

/-- Someone looks at the breaker. -/
def look (setup : Setup) (w : Depot) : Depot :=
  { w with breaker := (w.breaker.refresh setup.breaker w.now).breaker }

/-! ## Steps -/

/-- What can happen in a depot. -/
inductive Event where
  /-- A message comes in. -/
  | submitted (payload : List UInt8)
  /-- A message is taken out of the queue. -/
  | taken (payload : List UInt8)
  /-- The call that a run waits for returns. -/
  | returned (n : Nat) (await : Await) (answer : await.kind.Answer)
  /-- A run is given up. -/
  | abandoned (n : Nat)
  /-- Time passes. -/
  | passed (span : Nat)
  /-- Someone looks at the breaker. -/
  | looked

/-- One step of a depot. -/
inductive Step (setup : Setup) : Depot → Event → Depot → Prop where
  | submit (w : Depot) (payload : List UInt8) :
      Step setup w (.submitted payload) (w.submit payload)
  | refuse {w : Depot} {payload : List UInt8} {failure : PermanentFailure}
      (queued : payload ∈ w.queue) (malformed : Run.begin payload = .error failure) :
      Step setup w (.taken payload) (w.refuse payload)
  | launch {w : Depot} {payload : List UInt8} {job : Job}
      (queued : payload ∈ w.queue) (decoded : Run.begin payload = .ok job) :
      Step setup w (.taken payload) (w.launch payload job)
  | proceed {w : Depot} {n : Nat} {run : Runner} {await : Await} {answer : await.kind.Answer}
      {records : Finset String} {copies : List (List UInt8)} (here : w.runs[n]? = some run)
      (waits : run.progress = .waits await) (stays : run.isAbandoned = false)
      (alters : Alters run.job.requestId w.records records await answer)
      (copied : Copied run.job ⟨await, answer⟩ copies) :
      Step setup w (.returned n await answer) (w.proceed setup n run await answer records copies)
  | giveUp {w : Depot} {n : Nat} {run : Runner} {await : Await} (here : w.runs[n]? = some run)
      (waits : run.progress = .waits await) (stays : run.isAbandoned = false) :
      Step setup w (.abandoned n) (w.giveUp setup n run await)
  | pass (w : Depot) (span : Nat) : Step setup w (.passed span) { w with now := w.now + span }
  | look (w : Depot) : Step setup w .looked (w.look setup)

/-- Any number of steps whose events are all allowed. -/
abbrev History (setup : Setup) (allowed : Event → Prop) : Depot → Depot → Prop :=
  Relation.ReflTransGen fun w w' => ∃ e, allowed e ∧ Step setup w e w'

/-- What single steps keep, a history keeps. -/
theorem History.preserves {allowed : Event → Prop} {P : Depot → Prop}
    (h : History setup allowed w w')
    (step : ∀ {v v' : Depot} {e : Event}, allowed e → Step setup v e v' → P v → P v')
    (start : P w) : P w' := by
  induction h with
  | refl => exact start
  | tail _ last ih =>
    obtain ⟨e, hallowed, hstep⟩ := last
    exact step hallowed hstep ih

/-- Fewer histories meet a stronger condition. -/
theorem History.mono {allowed more : Event → Prop} (himp : ∀ e, allowed e → more e)
    (h : History setup allowed w w') : History setup more w w' :=
  Relation.ReflTransGen.mono (fun _ _ ⟨e, hallowed, hstep⟩ => ⟨e, himp e hallowed, hstep⟩) _ _ h

/-! ## Conditions on events -/

/-- Claims are answered. -/
def Event.ClaimAnswered : Event → Prop
  | .returned _ .claim (.error _) => False
  | _ => True

/-- All calls of the store are answered. -/
def Event.StoreAnswered : Event → Prop
  | .returned _ .claim (.error _) | .returned _ .mark (.error _)
  | .returned _ .release (.error _) => False
  | _ => True

/-- No run is given up. -/
def Event.Patient : Event → Prop
  | .abandoned _ => False
  | _ => True

/-- No message with a job of the request id comes from outside. -/
def Event.Foreign (r : String) : Event → Prop
  | .submitted payload => ∀ job, Run.begin payload = .ok job → job.requestId ≠ r
  | _ => True

/-! ## Records -/

/-- A call about one request id leaves the records of all others alone. -/
theorem Alters.mem_iff {id other : String} {before after : Finset String} {await : Await}
    {answer : await.kind.Answer} (h : Alters id before after await answer) (hne : other ≠ id) :
    other ∈ after ↔ other ∈ before := by
  unfold Alters at h
  split at h
  · simp [h.2, hne]
  · simp [h.2]
  · rcases h with rfl | rfl <;> simp [hne]
  · simp [h, hne]
  · rcases h with rfl | rfl <;> simp [hne]
  · simp [h, hne]
  · rcases h with rfl | rfl <;> simp [hne]
  · simp [h]

/-- Only a release takes a record away. -/
theorem Alters.mem_of_mem {id : String} {before after : Finset String} {await : Await}
    {answer : await.kind.Answer} (h : Alters id before after await answer)
    (hne : await ≠ .release) (hmem : id ∈ before) : id ∈ after := by
  unfold Alters at h
  split at h
  · exact absurd hmem h.1
  · simpa [h.2] using hmem
  · rcases h with rfl | rfl <;> simp [hmem]
  · simp [h]
  · rcases h with rfl | rfl <;> simp [hmem]
  · exact absurd rfl hne
  · exact absurd rfl hne
  · simpa [h] using hmem

/-! ## Runs of one request id -/

/-- One for a run of the request id that is of some kind, and nothing for any other. -/
def Runner.weight (r : String) (p : Runner → Bool) (run : Runner) : Nat :=
  if run.job.requestId == r && p run then 1 else 0

/-- How many runs of a request id are of some kind. -/
def tally (w : Depot) (r : String) (p : Runner → Bool) : Nat :=
  w.runs.countP fun run => run.job.requestId == r && p run

section

variable {p q : Runner → Bool} {run next : Runner} {n : Nat}

theorem Runner.weight_of_ne (run : Runner) (h : run.job.requestId ≠ r) : run.weight r p = 0 := by
  simp [weight, h]

theorem Runner.weight_of_eq (run : Runner) (h : run.job.requestId = r) :
    run.weight r p = if p run then 1 else 0 := by
  simp [weight, h]

/-- Every run counts. -/
theorem weight_le_tally (here : w.runs[n]? = some run) : run.weight r p ≤ w.tally r p := by
  unfold Runner.weight
  split
  · next h =>
    have hmem : run ∈ w.runs := List.mem_of_getElem? here
    exact List.countP_pos_iff.2 ⟨run, hmem, h⟩
  · omega

theorem tally_mono (himp : ∀ run ∈ w.runs, p run → q run) : w.tally r p ≤ w.tally r q := by
  refine List.countP_mono_left fun run hmem h => ?_
  simp only [Bool.and_eq_true] at h ⊢
  exact ⟨h.1, himp run hmem h.2⟩

/-- Runs of two kinds that exclude each other count separately. -/
theorem tally_or (apart : ∀ run, p run → ¬ q run) :
    (w.tally r fun run => p run || q run) = w.tally r p + w.tally r q := by
  unfold tally
  induction w.runs with
  | nil => rfl
  | cons run runs ih =>
    have hrun := apart run
    simp only [List.countP_cons, ih]
    cases hp : p run <;> cases hq : q run <;> simp_all <;> omega

/-- A run that has begun counts besides those before it. -/
theorem tally_append (h : w'.runs = w.runs ++ [run]) :
    w'.tally r p = w.tally r p + run.weight r p := by
  simp [tally, Runner.weight, h, List.countP_append, List.countP_cons]

/-- After one run has changed, it counts as what it is now, and not as what it was. -/
theorem countP_set {runs : List Runner} (here : runs[n]? = some run) (p : Runner → Bool) :
    (runs.set n next).countP p + (if p run then 1 else 0) =
      runs.countP p + if p next then 1 else 0 := by
  obtain ⟨hn, rfl⟩ := List.getElem?_eq_some_iff.1 here
  rw [List.countP_set hn]
  split
  · next counts =>
    have hpos : 0 < runs.countP p := List.countP_pos_iff.2 ⟨_, List.getElem_mem hn, counts⟩
    omega
  · omega

theorem tally_set (here : w.runs[n]? = some run) (h : w'.runs = w.runs.set n next) :
    w'.tally r p + run.weight r p = w.tally r p + next.weight r p := by
  simp only [tally, Runner.weight, h]
  exact countP_set here _

/-- Runs of other request ids do not count, whatever becomes of them. -/
theorem tally_eq_of_ne (here : w.runs[n]? = some run) (id : run.job.requestId ≠ r)
    (h : w'.runs = w.runs.set n next) (same : next.job = run.job) :
    w'.tally r p = w.tally r p := by
  have hset := tally_set (r := r) (p := p) here h
  rwa [Runner.weight_of_ne run id, Runner.weight_of_ne next (same ▸ id), Nat.add_zero,
    Nat.add_zero] at hset

theorem tally_begins {job : Job} (id : job.requestId = r) (h : w'.runs = w.runs ++ [.start job]) :
    w'.tally r p = w.tally r p + if p (.start job) then 1 else 0 := by
  rw [tally_append h, Runner.weight_of_eq (.start job) id]

theorem tally_replace (here : w.runs[n]? = some run) (id : run.job.requestId = r)
    (h : w'.runs = w.runs.set n next) (same : next.job = run.job) :
    (w'.tally r p + if p run then 1 else 0) = w.tally r p + if p next then 1 else 0 := by
  have hset := tally_set (r := r) (p := p) here h
  rwa [Runner.weight_of_eq run id, Runner.weight_of_eq next (same ▸ id)] at hset

/-- A run that is of some kind counts. -/
theorem tally_pos (here : w.runs[n]? = some run) (id : run.job.requestId = r) (h : p run) :
    0 < w.tally r p := by
  have hle := weight_le_tally (r := r) (p := p) here
  rw [Runner.weight_of_eq run id, if_pos h] at hle
  exact hle

/-- Some run of the request id is of a kind just when their number is positive. -/
theorem tally_pos_iff :
    0 < w.tally r p ↔ ∃ run ∈ w.runs, run.job.requestId = r ∧ p run := by
  simp [tally, List.countP_pos_iff]

end

/-- What a step is to the runs and the record of one request id. -/
inductive Aspect (setup : Setup) (r : String) (w : Depot) : Event → Depot → Prop where
  /-- It is about something else. -/
  | apart {e : Event} {w' : Depot} (tallies : ∀ p, w'.tally r p = w.tally r p)
      (record : r ∈ w'.records ↔ r ∈ w.records) : Aspect setup r w e w'
  /-- A run of the request id begins. -/
  | begins {e : Event} {w' : Depot} {job : Job} (id : job.requestId = r)
      (runs : w'.runs = w.runs ++ [.start job]) (records : w'.records = w.records) :
      Aspect setup r w e w'
  /-- One goes on. -/
  | goesOn {w' : Depot} {n : Nat} {run : Runner} {await : Await} {answer : await.kind.Answer}
      {progress : Progress} (here : w.runs[n]? = some run) (id : run.job.requestId = r)
      (waits : run.progress = .waits await) (stays : run.isAbandoned = false)
      (follows : Run.Follows setup run.job await answer progress)
      (alters : Alters r w.records w'.records await answer)
      (runs : w'.runs = w.runs.set n (run.after await answer progress)) :
      Aspect setup r w (.returned n await answer) w'
  /-- One is given up. -/
  | givenUp {w' : Depot} {n : Nat} {run : Runner} {await : Await} (here : w.runs[n]? = some run)
      (id : run.job.requestId = r) (waits : run.progress = .waits await)
      (runs : w'.runs = w.runs.set n run.dropped)
      (records : w'.records = w.records) : Aspect setup r w (.abandoned n) w'

/-- To a request id every step is one of four things. -/
theorem Step.aspect {e : Event} (h : Step setup w e w') (r : String) : Aspect setup r w e w' := by
  cases h with
  | submit | refuse | pass | look => exact .apart (fun p => rfl) Iff.rfl
  | @launch payload job queued decoded =>
    by_cases id : job.requestId = r
    · exact .begins id rfl rfl
    · refine .apart (fun p => ?_) Iff.rfl
      rw [tally_append rfl, Runner.weight_of_ne (.start job) id, Nat.add_zero]
  | @proceed n run await answer records copies here waits stays alters copied =>
    by_cases id : run.job.requestId = r
    · exact .goesOn here id waits stays (Run.follows_resume ..) (id ▸ alters) rfl
    · refine .apart (fun p => ?_) (alters.mem_iff (Ne.symm id))
      exact tally_eq_of_ne here id rfl rfl
  | @giveUp n run await here waits stays =>
    by_cases id : run.job.requestId = r
    · exact .givenUp here id waits rfl rfl
    · refine .apart (fun p => ?_) Iff.rfl
      exact tally_eq_of_ne here id rfl rfl

/-- Runs of a kind do not become fewer if none of them leaves it by going on or by being given
up. -/
theorem Step.tally_le {e : Event} {p : Runner → Bool} (h : Step setup w e w')
    (goesOn : ∀ {run : Runner} {await : Await} {answer : await.kind.Answer} {progress : Progress},
      run.progress = .waits await → run.isAbandoned = false →
        Run.Follows setup run.job await answer progress → p run →
          p (run.after await answer progress))
    (dropped : ∀ {run : Runner} {await : Await}, run.progress = .waits await → p run →
      p run.dropped) :
    w.tally r p ≤ w'.tally r p := by
  cases h.aspect r with
  | apart tallies record => rw [tallies]
  | begins id runs records =>
    rw [tally_begins id runs]
    exact Nat.le_add_right ..
  | @goesOn _ n run await answer progress here id waits stays follows alters runs =>
    have htally := tally_replace (p := p) here id runs rfl
    by_cases hrun : p run
    · rw [if_pos hrun, if_pos (goesOn waits stays follows hrun)] at htally
      omega
    · rw [if_neg hrun] at htally
      omega
  | @givenUp _ n run await here id waits runs records =>
    have htally := tally_replace (p := p) here id runs rfl
    by_cases hrun : p run
    · rw [if_pos hrun, if_pos (dropped waits hrun)] at htally
      omega
    · rw [if_neg hrun] at htally
      omega

/-- What the run of some number was before a step. -/
inductive Origin (setup : Setup) (w : Depot) (w' : Depot) (n : Nat) : Event → Runner → Prop where
  /-- The same. -/
  | same {e : Event} {run : Runner} (here : w.runs[n]? = some run) : Origin setup w w' n e run
  /-- Nothing yet. -/
  | started {e : Event} {payload : List UInt8} {job : Job} (decoded : Run.begin payload = .ok job)
      (fresh : w.runs[n]? = none) : Origin setup w w' n e (.start job)
  /-- It has gone on. -/
  | resumed {run : Runner} {await : Await} {answer : await.kind.Answer} {progress : Progress}
      (here : w.runs[n]? = some run) (waits : run.progress = .waits await)
      (stays : run.isAbandoned = false)
      (follows : Run.Follows setup run.job await answer progress)
      (alters : Alters run.job.requestId w.records w'.records await answer) :
      Origin setup w w' n (.returned n await answer) (run.after await answer progress)
  /-- It has been given up. -/
  | dropped {run : Runner} (here : w.runs[n]? = some run) :
      Origin setup w w' n (.abandoned n) run.dropped

/-- After one run has changed, the run of any number is the changed one or is as it was. -/
theorem eq_or_getElem?_of_set {runs : List Runner} {n m : Nat} {run next : Runner}
    (h : (runs.set m next)[n]? = some run) : (m = n ∧ next = run) ∨ runs[n]? = some run := by
  rw [List.getElem?_set] at h
  split at h
  · next same =>
    split at h
    · exact .inl ⟨same, Option.some.inj h⟩
    · simp at h
  · exact .inr h

/-- Every run comes from somewhere. -/
theorem Step.origin {e : Event} (h : Step setup w e w') {n : Nat} {run : Runner}
    (here' : w'.runs[n]? = some run) : Origin setup w w' n e run := by
  cases h with
  | submit | refuse | pass | look => exact .same here'
  | @launch payload job queued decoded =>
    have hget : (w.runs ++ [.start job])[n]? = some run := here'
    rw [List.getElem?_append] at hget
    split at hget
    · exact .same hget
    · next hlen =>
      rw [List.getElem?_singleton] at hget
      split at hget
      · rw [← Option.some.inj hget]
        exact .started decoded (List.getElem?_eq_none (by omega))
      · simp at hget
  | @proceed m before await answer records copies here waits stays alters copied =>
    rcases eq_or_getElem?_of_set here' with ⟨rfl, rfl⟩ | hget
    · exact .resumed here waits stays (Run.follows_resume ..) alters
    · exact .same hget
  | @giveUp m before await here waits stays =>
    rcases eq_or_getElem?_of_set here' with ⟨rfl, rfl⟩ | hget
    · exact .dropped here
    · exact .same hget

/-- What becomes of a run that is at work leaves those alone that have been given up. -/
theorem getElem?_set_abandoned {runs : List Runner} {n m : Nat} {run before next : Runner}
    (here : runs[n]? = some run) (dropped : run.isAbandoned) (there : runs[m]? = some before)
    (stays : before.isAbandoned = false) : (runs.set m next)[n]? = some run := by
  have hne : m ≠ n := by
    rintro rfl
    rw [there] at here
    rw [Option.some.inj here] at stays
    exact Bool.false_ne_true (stays.symm.trans dropped)
  exact (List.getElem?_set_ne hne).trans here

/-- A run that has been given up stays as it is. -/
theorem Step.getElem?_abandoned {e : Event} (h : Step setup w e w') {n : Nat} {run : Runner}
    (here : w.runs[n]? = some run) (dropped : run.isAbandoned) : w'.runs[n]? = some run := by
  cases h with
  | submit | refuse | pass | look => exact here
  | launch =>
    have hn : n < w.runs.length := (List.getElem?_eq_some_iff.1 here).1
    exact (List.getElem?_append_left hn).trans here
  | @proceed m before await answer records copies there waits stays alters copied =>
    exact getElem?_set_abandoned here dropped there stays
  | @giveUp m before await there waits stays =>
    exact getElem?_set_abandoned here dropped there stays

/-- When a call returns, its run has waited for it and goes on. -/
theorem Step.returned {n : Nat} {await : Await} {answer : await.kind.Answer}
    (h : Step setup w (.returned n await answer) w') :
    ∃ run progress, w.runs[n]? = some run ∧ run.progress = .waits await ∧
      run.isAbandoned = false ∧ Run.Follows setup run.job await answer progress ∧
      Alters run.job.requestId w.records w'.records await answer ∧
      w'.runs[n]? = some (run.after await answer progress) := by
  cases h with
  | @proceed _ run _ _ records copies here waits stays alters copied =>
    exact ⟨run, _, here, waits, stays, Run.follows_resume .., alters,
      List.getElem?_set_self (List.getElem?_eq_some_iff.1 here).1⟩

/-- Runs stay where they are and keep their jobs. -/
theorem Step.exists_getElem? {e : Event} (h : Step setup w e w') {n : Nat} {run : Runner}
    (here : w.runs[n]? = some run) : ∃ next, w'.runs[n]? = some next ∧ next.job = run.job := by
  have hn : n < w.runs.length := (List.getElem?_eq_some_iff.1 here).1
  have hset : ∀ (k : Nat) (before after : Runner), w.runs[k]? = some before →
      after.job = before.job →
        ∃ next, (w.runs.set k after)[n]? = some next ∧ next.job = run.job := by
    intro k before after there same
    by_cases hk : k = n
    · subst hk
      obtain rfl := Option.some.inj (here.symm.trans there)
      exact ⟨after, List.getElem?_set_self hn, same⟩
    · exact ⟨run, (List.getElem?_set_ne hk).trans here, rfl⟩
  cases h with
  | submit | refuse | pass | look => exact ⟨run, here, rfl⟩
  | launch => exact ⟨run, (List.getElem?_append_left hn).trans here, rfl⟩
  | @proceed k before await answer records copies there waits stays alters copied =>
    exact hset k before _ there rfl
  | @giveUp k before await there waits stays => exact hset k before _ there rfl

theorem History.exists_getElem? {allowed : Event → Prop} (h : History setup allowed w w') {n : Nat}
    {run : Runner} (here : w.runs[n]? = some run) :
    ∃ next, w'.runs[n]? = some next ∧ next.job = run.job := by
  refine h.preserves (P := fun v => ∃ next, v.runs[n]? = some next ∧ next.job = run.job)
    (fun _ hstep hbefore => ?_) ⟨run, here, rfl⟩
  obtain ⟨next, hnext, hjob⟩ := hbefore
  obtain ⟨later, hlater, hsame⟩ := hstep.exists_getElem? hnext
  exact ⟨later, hlater, hsame.trans hjob⟩

theorem Step.length_le {e : Event} (h : Step setup w e w') : w.runs.length ≤ w'.runs.length := by
  cases h with
  | submit | refuse | pass | look => exact Nat.le_refl _
  | launch => simp [Depot.launch]
  | proceed => simp [Depot.proceed]
  | giveUp => simp [Depot.giveUp]

/-- If nobody gives up, nobody has given up. -/
theorem Step.patient {e : Event} (hallowed : e.Patient) (h : Step setup w e w')
    (patient : ∀ run ∈ w.runs, run.isAbandoned = false) :
    ∀ run ∈ w'.runs, run.isAbandoned = false := by
  intro run hmem
  obtain ⟨n, here'⟩ := List.getElem?_of_mem hmem
  cases h.origin here' with
  | same here => exact patient run (List.mem_of_getElem? here)
  | started decoded fresh => rfl
  | resumed here waits stays follows alters => exact stays
  | dropped here => exact hallowed.elim

/-- Runs keep their trails. -/
theorem Step.trail {e : Event} (h : Step setup w e w')
    (trail : ∀ run ∈ w.runs, Trail setup run.job run.past run.progress) :
    ∀ run ∈ w'.runs, Trail setup run.job run.past run.progress := by
  intro run hmem
  obtain ⟨n, here'⟩ := List.getElem?_of_mem hmem
  cases h.origin here' with
  | same here => exact trail run (List.mem_of_getElem? here)
  | started decoded fresh => exact .start
  | @resumed before await answer progress here waits stays follows alters =>
    have hbefore := trail before (List.mem_of_getElem? here)
    rw [waits] at hbefore
    exact .next hbefore follows
  | @dropped before here => exact trail before (List.mem_of_getElem? here)

theorem History.trail {allowed : Event → Prop} (h : History setup allowed w w')
    (start : w.runs = []) :
    ∀ run ∈ w'.runs, Trail setup run.job run.past run.progress :=
  h.preserves (fun _ hstep => hstep.trail) (by simp [start])

/-! ## Playing events -/

/-- The records after a call of the store has returned, if the answer goes with the records and a
call that failed has had no effect. -/
def settled? (id : String) (records : Finset String) :
    (await : Await) → await.kind.Answer → Option (Finset String)
  | .claim, .ok .claimed => if id ∈ records then none else some (insert id records)
  | .claim, .ok .alreadyPresent => if id ∈ records then some records else none
  | .mark, .ok () => some (insert id records)
  | .release, .ok () => some (records.erase id)
  | _, _ => some records

theorem Alters.of_settled? {id : String} {before after : Finset String} {await : Await}
    {answer : await.kind.Answer} (h : settled? id before await answer = some after) :
    Alters id before after await answer := by
  match await, answer with
  | .claim, .ok .claimed =>
    simp only [settled?] at h
    split at h
    · simp at h
    · next fresh => exact ⟨fresh, (Option.some.inj h).symm⟩
  | .claim, .ok .alreadyPresent =>
    simp only [settled?] at h
    split at h
    · next old => exact ⟨old, (Option.some.inj h).symm⟩
    · simp at h
  | .mark, .ok () | .release, .ok () => exact (Option.some.inj h).symm
  | .claim, .error _ | .mark, .error _ | .release, .error _ => exact .inl (Option.some.inj h).symm
  | .user, _ | .template _, _ | .send .., _ | .reportDelivered, _ | .resubmit, _
  | .reportFailed .., _ => exact (Option.some.inj h).symm

/-- The messages that go around once a call has returned, with their variables in the order of the
names. -/
def copies (job : Job) (call : Returned) : List (List UInt8) :=
  if call.isCopy then [job.next.encode] else []

theorem copied_copies (job : Job) (call : Returned) : Copied job call (copies job call) := by
  unfold copies
  split
  · next isCopy => exact .around isCopy job.next.isWritten_encode
  · next other => exact .nothing (Bool.eq_false_iff.2 other)

/-- The depot after an event, if the event can happen. -/
def next? (setup : Setup) (w : Depot) : Event → Option Depot
  | .submitted payload => some (w.submit payload)
  | .taken payload =>
    if payload ∈ w.queue then
      match Run.begin payload with
      | .ok job => some (w.launch payload job)
      | .error _ => some (w.refuse payload)
    else none
  | .returned n await answer =>
    match w.runs[n]? with
    | none => none
    | some run =>
      if run.progress = .waits await ∧ run.isAbandoned = false then
        (settled? run.job.requestId w.records await answer).map fun records =>
          w.proceed setup n run await answer records (copies run.job ⟨await, answer⟩)
      else none
  | .abandoned n =>
    match w.runs[n]? with
    | none => none
    | some run =>
      match run.progress, run.isAbandoned with
      | .waits await, false => some (w.giveUp setup n run await)
      | _, _ => none
  | .passed span => some { w with now := w.now + span }
  | .looked => some (w.look setup)

/-- The depot after events, one after the other, if all of them can happen. -/
def play (setup : Setup) (w : Depot) (events : List Event) : Option Depot :=
  events.foldlM (next? setup) w

theorem Step.of_next? {e : Event} (h : w.next? setup e = some w') : Step setup w e w' := by
  cases e with
  | submitted payload => rw [← Option.some.inj h]; exact .submit w payload
  | taken payload =>
    simp only [next?] at h
    split at h
    · next queued =>
      split at h
      · next job decoded => rw [← Option.some.inj h]; exact .launch queued decoded
      · next failure malformed => rw [← Option.some.inj h]; exact .refuse queued malformed
    · simp at h
  | returned n await answer =>
    simp only [next?] at h
    split at h
    · simp at h
    · next run here =>
      split at h
      · next hrun =>
        obtain ⟨records, halters, rfl⟩ := Option.map_eq_some_iff.1 h
        exact .proceed here hrun.1 hrun.2 (.of_settled? halters) (copied_copies ..)
      · simp at h
  | abandoned n =>
    simp only [next?] at h
    split at h
    · simp at h
    · next run here =>
      split at h
      · next await waits stays => rw [← Option.some.inj h]; exact .giveUp here waits stays
      · simp at h
  | passed span => rw [← Option.some.inj h]; exact .pass w span
  | looked => rw [← Option.some.inj h]; exact .look w

/-- What is played is a history. -/
theorem History.of_play {allowed : Event → Prop} {events : List Event}
    (hallowed : ∀ e ∈ events, allowed e) (h : w.play setup events = some w') :
    History setup allowed w w' := by
  induction events generalizing w with
  | nil =>
    obtain rfl : w = w' := Option.some.inj h
    exact .refl
  | cons e events ih =>
    obtain ⟨v, hv, hrest⟩ := Option.bind_eq_some_iff.1 h
    exact .head ⟨e, hallowed e (by simp), .of_next? hv⟩
      (ih (fun e' he' => hallowed e' (by simp [he'])) hrest)

/-! ## A sample to play with -/

def sampleJob : Job :=
  { requestId := "r", userId := "u", templateId := "t" }

def sampleProfile : Profile :=
  { pushToken := "d" }

def sampleTemplate : Template :=
  { title := "Hello", body := "It works" }

def sampleNotification : Notification :=
  .compose sampleJob "d" sampleTemplate { title := "Hello", body := "It works" }

/-- The answers that bring a run of the sample job from its claim to its delivery. -/
def sampleAnswers (n : Nat) : List Event :=
  [.returned n .claim (.ok .claimed), .returned n .user (.ok (.deliverable sampleProfile)),
    .returned n (.template "d") (.ok sampleTemplate),
    .returned n (.send 0 sampleNotification) (.ok ())]

/-- The answers that bring a run of the sample job from its claim to its end, once delivered. -/
def sampleDelivery (n : Nat) : List Event :=
  sampleAnswers n ++ [.returned n .mark (.ok ()), .returned n .reportDelivered (.ok ())]

/-- The answers that bring a run of the sample job from its claim to its release. -/
def sampleResubmission (n : Nat) : List Event :=
  [.returned n .claim (.ok .claimed), .returned n .user (.error (.status 503)),
    .returned n .resubmit (.ok ())]

end Depot

end Courier
