import Courier.Proofs.Depot.Dealings
import Mathlib.Algebra.BigOperators.Group.List.Basic
import Mathlib.Algebra.GroupWithZero.Nat

/-!
# Jobs that have nothing to do with each other

Jobs of different request ids share the store, the breaker and everybody they call. Let each of them
be met by the collaborators in its own way, whatever that is, and let the breaker be calm: closed,
with nothing counted, without a window, and slow to trip. Then the runs of the jobs go as if each of
them were alone, in whatever order their calls return, and so does the store.

A run that is alone with its record is a deterministic process, `Advance`. In any interleaving every
run has come by it from its beginning to where it is, and two ends of one process are the same.

## Main definitions

* `Breaker.Calm`: a breaker that lets everything through.
* `Depot.Part`: how the collaborators meet one job.
* `Depot.Turn`, `Depot.Interleaving`: the runs go on, each met in its own way.
* `Depot.Advance`: a step of a run that is alone with its record.
* `Depot.interleavings_agree`: interleavings that are over agree with each other and with the runs
  alone.
-/

namespace Courier

namespace Breaker

variable {config : Config} {generation : UInt64} {room now : Nat} {b : Breaker}

/-- The breaker is closed for good: even when so many more calls are let through there are too few
of them for it to trip. -/
structure Calm (config : Config) (generation : UInt64) (room : Nat) (b : Breaker) : Prop where
  state : b.state = .closed
  expiry : b.expiry = none
  generation : b.generation = generation
  few : b.counts.requests + room < config.minRequests

namespace Calm

/-- Time does nothing to it. -/
theorem refresh (h : Calm config generation room b) (now : Nat) :
    b.refresh config now = ⟨b, []⟩ := by
  apply refresh_of_current
  rw [hasExpired, h.expiry, Option.any_none]

/-- It lets everything through. -/
theorem permit (h : Calm config generation room b) (now : Nat) :
    b.permit config now = (⟨b.withCounts b.counts.onRequest, []⟩, .ok generation) := by
  simp only [Breaker.permit, h.refresh now, h.state, permit.admitted, h.generation, withCounts]

theorem mono (h : Calm config generation room b) {less : Nat} (hle : less ≤ room) :
    Calm config generation less b :=
  { h with few := by have := h.few; omega }

theorem withRequest (h : Calm config generation (room + 1) b) :
    Calm config generation room (b.withCounts b.counts.onRequest) :=
  { h with
    few := by
      have hfew := h.few
      have hnext : tallyNext b.counts.requests ≤ b.counts.requests + 1 := by
        unfold tallyNext; omega
      simp only [withCounts_counts, Counts.onRequest]
      omega }

/-- However calls come out, it stays as it is. -/
theorem settle (h : Calm config generation room b) (now : Nat) (call : UInt64) (succeeded : Bool) :
    Calm config generation room (b.settle config now call succeeded).breaker := by
  have houtcome := settled config now b call succeeded
  rw [h.refresh now] at houtcome
  have hrequests : (b.counts.onOutcome succeeded).requests = b.counts.requests := by
    cases succeeded <;> rfl
  generalize (b.settle config now call succeeded).breaker = last at houtcome ⊢
  cases houtcome with
  | stale other => exact h
  | counted current calm trial =>
    refine { h with few := ?_ }
    rw [withCounts_counts, hrequests]
    exact h.few
  | ended current reason =>
    cases reason with
    | tripped state trips =>
      have hfew := h.few
      simp only [Config.trips, hrequests, Bool.and_eq_true, decide_eq_true_eq] at trips
      omega
    | relapsed state | recovered state => exact absurd (h.state.symm.trans state) (by decide)

end Calm

end Breaker

namespace Depot

open Run (Await Progress Returned Setup)
open Relation (ReflTransGen)

variable {setup : Setup} {w w' : Depot} {n : Nat} {run : Runner} {first b : Breaker} {room : Nat}

/-- What a run does with a calm breaker keeps it calm. Who has come to his delivery does not ask for
another one. -/
theorem Dealt.calm {job : Job} {await : Await} {answer : await.kind.Answer} {progress : Progress}
    {log : List Entry} {generation : UInt64} {room' : Nat}
    (h : Dealt setup w n job await answer progress b log)
    (calm : Breaker.Calm setup.breaker generation room w.breaker)
    (one : (room' + if await.leg = .before then 1 else 0) =
      room + if progress.leg = .before then 1 else 0) :
    Breaker.Calm setup.breaker generation room' b := by
  cases h with
  | quiet elsewhere unsent onward =>
    refine calm.mono ?_
    have hone : (if progress.leg = .before then 1 else 0) ≤ 1 := by split <;> simp
    cases hleg : await.leg with
    | before =>
      rw [hleg, if_pos rfl] at one
      omega
    | during => exact absurd hleg elsewhere
    | after =>
      rw [hleg, onward hleg] at one
      exact Nat.le_of_eq one
  | refused refuses =>
    rw [calm.permit] at refuses
    cases refuses
  | admitted admits =>
    obtain rfl : room' + 1 = room := one
    rw [calm.permit]
    exact calm.withRequest
  | sent called notification =>
    obtain rfl : room' = room := one
    exact calm.settle w.now called true
  | unsent called notification error =>
    obtain rfl : room' = room := one
    have hsettled := calm.settle w.now called false
    rw [hsettled.refresh]
    exact hsettled

theorem progress_afterClaim (setup : Setup) (job : Job) (b first : Breaker)
    (notices : List Notice) :
    (Run.afterClaim setup job b notices).progress =
      (Run.afterClaim setup job first notices).progress := by
  unfold Run.afterClaim
  split <;> rfl

/-- Behind a calm breaker a run goes on whenever and whatever the others have counted. -/
theorem progress_of_calm {generation : UInt64} {others : Nat} (now moment : Nat) (job : Job)
    (calm : Breaker.Calm setup.breaker generation room b)
    (calm' : Breaker.Calm setup.breaker generation others first) (await : Await)
    (answer : await.kind.Answer) :
    (Run.resume setup now job b await answer).progress =
      (Run.resume setup moment job first await answer).progress := by
  cases await with
  | claim =>
    match answer with
    | .ok .alreadyPresent => rfl
    | .ok .claimed => exact progress_afterClaim ..
    | .error (.failed _) => exact progress_afterClaim ..
    | .error .timedOut => exact progress_afterClaim ..
  | user =>
    match answer with
    | .ok (.deliverable _) => rfl
    | .ok .noEndpoint => rfl
    | .error _ => rfl
  | template token =>
    match answer with
    | .error _ => rfl
    | .ok template =>
      simp only [Run.resume, Run.afterTemplate, calm.permit, calm'.permit]
      split <;> rfl
  | send _ _ | mark | reportDelivered | resubmit | release | reportFailed _ _ =>
    cases answer with
    | ok _ | error _ => rfl

/-! ## Jobs met in their own ways -/

/-- How the collaborators meet one job. -/
structure Part where
  /-- What each call is answered with. What the store says to a claim that it answers is up to the
  store. -/
  answer : (await : Await) → await.kind.Answer
  /-- Which calls of the store take effect though they fail. -/
  lands : Await → Bool

namespace Part

variable {part : Part} {recorded : Bool} {await : Await}

/-- What a run of the job gets, if the job has a record or has none. -/
def meets (part : Part) (recorded : Bool) : (await : Await) → await.kind.Answer
  | .claim => Except.map (fun _ => if recorded then Claim.alreadyPresent else Claim.claimed)
      (part.answer .claim : Except ClaimError Claim)
  | await => part.answer await

/-- A call of the store takes effect. -/
def takes (part : Part) : Await → Bool
  | .claim => (part.answer .claim : Except ClaimError Claim).isOk || part.lands .claim
  | .mark => (part.answer .mark : Except StoreError Unit).isOk || part.lands .mark
  | .release => (part.answer .release : Except StoreError Unit).isOk || part.lands .release
  | _ => false

/-- Whether the job has a record after a call has returned. -/
def leaves (part : Part) (recorded : Bool) : Await → Bool
  | .claim => recorded || part.takes .claim
  | .mark => recorded || part.takes .mark
  | .release => recorded && !part.takes .release
  | _ => recorded

/-- The records after a call about a request id has returned. -/
def records (part : Part) (id : String) (recorded : Bool) (before : Finset String)
    (await : Await) : Finset String :=
  if part.leaves recorded await then insert id before else before.erase id

theorem mem_records (part : Part) (id : String) (recorded : Bool) (before : Finset String)
    (await : Await) : id ∈ part.records id recorded before await ↔ part.leaves recorded await := by
  unfold records
  split
  · next stays => simp [stays]
  · next goes => simp [goes]

section

variable {id : String} {before : Finset String}

theorem alters_claim (h : recorded = true ↔ id ∈ before) (answer : Except ClaimError Claim)
    (lands : Bool) :
    Alters id before
      (if recorded || (answer.isOk || lands) then insert id before else before.erase id) .claim
      (Except.map (fun _ => if recorded then Claim.alreadyPresent else Claim.claimed) answer) := by
  cases recorded with
  | true =>
    have hid : id ∈ before := h.1 rfl
    cases answer with
    | ok _ => exact ⟨hid, Finset.insert_eq_of_mem hid⟩
    | error e => exact .inr rfl
  | false =>
    have hid : id ∉ before := fun hmem => Bool.false_ne_true (h.2 hmem)
    cases answer with
    | ok _ => exact ⟨hid, rfl⟩
    | error e =>
      cases lands with
      | true => exact .inr rfl
      | false => exact .inl (Finset.erase_eq_of_notMem hid)

theorem alters_mark (h : recorded = true ↔ id ∈ before) (answer : Except StoreError Unit)
    (lands : Bool) :
    Alters id before
      (if recorded || (answer.isOk || lands) then insert id before else before.erase id) .mark
      answer := by
  cases answer with
  | ok _ => exact if_pos (by simp [Except.isOk, Except.toBool])
  | error e =>
    cases lands with
    | true => exact .inr (if_pos (by simp))
    | false =>
      cases recorded with
      | true => exact .inr rfl
      | false => exact .inl (Finset.erase_eq_of_notMem fun hmem => Bool.false_ne_true (h.2 hmem))

theorem alters_release (h : recorded = true ↔ id ∈ before) (answer : Except StoreError Unit)
    (lands : Bool) :
    Alters id before
      (if recorded && !(answer.isOk || lands) then insert id before else before.erase id) .release
      answer := by
  cases answer with
  | ok _ => exact if_neg (by simp [Except.isOk, Except.toBool])
  | error e =>
    cases lands with
    | true => exact .inr (if_neg (by simp))
    | false =>
      cases recorded with
      | true => exact .inl (Finset.insert_eq_of_mem (h.1 rfl))
      | false => exact .inr rfl

/-- Whatever a part is, calls can return so. -/
theorem alters (part : Part) (h : recorded = true ↔ id ∈ before) (await : Await) :
    Alters id before (part.records id recorded before await) await (part.meets recorded await) := by
  cases await with
  | claim => exact alters_claim h (part.answer .claim) (part.lands .claim)
  | mark => exact alters_mark h (part.answer .mark) (part.lands .mark)
  | release => exact alters_release h (part.answer .release) (part.lands .release)
  | _ =>
    have hsame : (if recorded then insert id before else before.erase id) = before := by
      cases recorded with
      | true => exact Finset.insert_eq_of_mem (h.1 rfl)
      | false => exact Finset.erase_eq_of_notMem fun hmem => Bool.false_ne_true (h.2 hmem)
    exact hsame

end

end Part

/-- The jobs are being processed, and nothing has happened yet. -/
def gathered (jobs : List Job) (records : Finset String) (breaker : Breaker) (now : Nat) : Depot :=
  { records, runs := jobs.map .start, breaker, now }

/-- A call returns to some run, met in the way of its job, or time passes, or someone looks at the
breaker. -/
inductive Turn (setup : Setup) (parts : String → Part) (w w' : Depot) : Prop where
  | returned {n : Nat} {run : Runner} {await : Await} (here : w.runs[n]? = some run)
      (step : Step setup w (.returned n await
        ((parts run.job.requestId).meets (run.job.requestId ∈ w.records) await)) w')
      (record : run.job.requestId ∈ w'.records ↔
        (parts run.job.requestId).leaves (run.job.requestId ∈ w.records) await)
  | passed {span : Nat} (step : Step setup w (.passed span) w')
  | looked (step : Step setup w .looked w')

/-- Any number of turns, in any order. -/
abbrev Interleaving (setup : Setup) (parts : String → Part) : Depot → Depot → Prop :=
  ReflTransGen (Turn setup parts)

/-- All runs have come to their ends. -/
def IsOver (w : Depot) : Prop :=
  ∀ run ∈ w.runs, ∃ disposition, run.progress = .ends disposition

/-! ## A run that is alone with its record -/

/-- A step of a run, and of the record of its job, that nobody else has anything to do with. -/
inductive Advance (setup : Setup) (first : Breaker) (part : Part) :
    Runner × Bool → Runner × Bool → Prop where
  | mk {run : Runner} {recorded : Bool} {await : Await} (waits : run.progress = .waits await) :
      Advance setup first part (run, recorded)
        (run.after await (part.meets recorded await)
          (Run.resume setup 0 run.job first await (part.meets recorded await)).progress,
        part.leaves recorded await)

/-- It goes on in one way. -/
theorem advance_rightUnique (setup : Setup) (first : Breaker) (part : Part) :
    Relator.RightUnique (Advance setup first part) := by
  intro a b c hb hc
  cases hb with
  | mk waits =>
    cases hc with
    | mk waits' =>
      cases waits.symm.trans waits'
      rfl

/-- At its end it does not go on. -/
theorem Advance.not_ends {part : Part} {recorded : Bool} {disposition : Disposition}
    (ends : run.progress = .ends disposition) {next : Runner × Bool} :
    ¬ Advance setup first part (run, recorded) next := by
  intro h
  cases h with
  | mk waits => cases ends.symm.trans waits

/-- It comes to one end. -/
theorem eq_of_ends {part : Part} {start : Runner × Bool} {run other : Runner}
    {recorded otherwise : Bool} {disposition last : Disposition}
    (h : ReflTransGen (Advance setup first part) start (run, recorded))
    (h' : ReflTransGen (Advance setup first part) start (other, otherwise))
    (ends : run.progress = .ends disposition) (ends' : other.progress = .ends last) :
    (run, recorded) = (other, otherwise) := by
  rcases ReflTransGen.total_of_right_unique (advance_rightUnique setup first part) h h' with
    hmore | hmore
  · rcases hmore.cases_head with same | ⟨next, hnext, -⟩
    · exact same
    · exact absurd hnext (Advance.not_ends ends)
  · rcases hmore.cases_head with same | ⟨next, hnext, -⟩
    · exact same.symm
    · exact absurd hnext (Advance.not_ends ends')

/-- A run keeps its job. -/
theorem job_of_advance {part : Part} {start last : Runner × Bool}
    (h : ReflTransGen (Advance setup first part) start last) : last.1.job = start.1.job := by
  induction h with
  | refl => rfl
  | tail _ next ih =>
    cases next with
    | mk waits => exact ih

/-! ## Runs side by side -/

/-- The runs of jobs side by side, that have been met each in its own way since they were gathered
with some records and a calm breaker. -/
structure Apart (setup : Setup) (parts : String → Part) (jobs : List Job)
    (records : Finset String) (first : Breaker) (w : Depot) : Prop where
  length : w.runs.length = jobs.length
  /-- Every run is where it would have come to alone, and so is the record of its job. -/
  solo : ∀ (n : Nat) job run, jobs[n]? = some job → w.runs[n]? = some run →
    ReflTransGen (Advance setup first (parts job.requestId))
      (.start job, decide (job.requestId ∈ records)) (run, decide (job.requestId ∈ w.records))
  /-- No other records are touched. -/
  others : ∀ id, (∀ job ∈ jobs, job.requestId ≠ id) → (id ∈ w.records ↔ id ∈ records)
  /-- The breaker lets through whoever may still ask. -/
  calm : Breaker.Calm setup.breaker first.generation
    (w.runs.countP (·.progress.leg = .before)) w.breaker

namespace Apart

variable {parts : String → Part} {jobs : List Job} {records : Finset String}

theorem of_gathered (calm : Breaker.Calm setup.breaker first.generation jobs.length first)
    (now : Nat) : Apart setup parts jobs records first (gathered jobs records first now) where
  length := by simp [gathered]
  solo n job run hjob hrun := by
    obtain rfl : Runner.start job = run := by simpa [gathered, hjob] using hrun
    exact .refl
  others _ _ := Iff.rfl
  calm := by
    refine calm.mono ?_
    exact Nat.le_trans List.countP_le_length (Nat.le_of_eq (by simp [gathered]))

/-- Two jobs in different places are of different request ids. -/
theorem requestId_ne (ids : (jobs.map (·.requestId)).Nodup) {m n : Nat} {job other : Job}
    (hjob : jobs[m]? = some job) (hother : jobs[n]? = some other) (hne : m ≠ n) :
    job.requestId ≠ other.requestId := by
  intro heq
  obtain ⟨hm, rfl⟩ := List.getElem?_eq_some_iff.1 hjob
  obtain ⟨hn, rfl⟩ := List.getElem?_eq_some_iff.1 hother
  have hm' : m < (jobs.map (·.requestId)).length := by simpa using hm
  have hn' : n < (jobs.map (·.requestId)).length := by simpa using hn
  have hsame : (jobs.map (·.requestId))[m] = (jobs.map (·.requestId))[n] := by simpa using heq
  exact hne (ids.getElem_inj_iff.1 hsame)

/-- The run of a number is a run of the job of that number. -/
theorem exists_job (h : Apart setup parts jobs records first w) (here : w.runs[n]? = some run) :
    jobs[n]? = some run.job := by
  have hn : n < jobs.length := h.length ▸ (List.getElem?_eq_some_iff.1 here).1
  have hjob : jobs[n]? = some jobs[n] := List.getElem?_eq_getElem hn
  have hsame : run.job = jobs[n] := job_of_advance (h.solo n jobs[n] run hjob here)
  rw [hjob, hsame]

/-- A call returns to a run: this run goes on as it would have alone, and all others are where they
were. -/
theorem proceed (ids : (jobs.map (·.requestId)).Nodup)
    (start : Breaker.Calm setup.breaker first.generation room first)
    (h : Apart setup parts jobs records first w) {await : Await} {after : Finset String}
    {copies : List (List UInt8)} (here : w.runs[n]? = some run)
    (waits : run.progress = .waits await)
    (alters : Alters run.job.requestId w.records after await
      ((parts run.job.requestId).meets (run.job.requestId ∈ w.records) await))
    (record : run.job.requestId ∈ after ↔
      (parts run.job.requestId).leaves (run.job.requestId ∈ w.records) await) :
    Apart setup parts jobs records first (w.proceed setup n run await
      ((parts run.job.requestId).meets (run.job.requestId ∈ w.records) await) after copies) := by
  have hjob := h.exists_job here
  generalize hanswer :
    (parts run.job.requestId).meets (run.job.requestId ∈ w.records) await = answer at alters ⊢
  refine ⟨?_, ?_, ?_, ?_⟩
  · simpa [Depot.proceed] using h.length
  · intro m job run' hthis hrun'
    by_cases hm : n = m
    · subst hm
      obtain rfl : run.job = job := Option.some.inj (hjob.symm.trans hthis)
      rw [Depot.proceed, List.getElem?_set_self (List.getElem?_eq_some_iff.1 here).1] at hrun'
      have hrecord : decide (run.job.requestId ∈ after) =
          (parts run.job.requestId).leaves (run.job.requestId ∈ w.records) await := by
        simp [record]
      have hadvance := (h.solo n run.job run hjob here).tail (.mk waits)
      rw [hanswer, ← hrecord, ← progress_of_calm w.now 0 run.job h.calm start await answer]
        at hadvance
      rwa [← Option.some.inj hrun']
    · rw [Depot.proceed, List.getElem?_set_ne hm] at hrun'
      have hsame : job.requestId ∈ after ↔ job.requestId ∈ w.records :=
        alters.mem_iff (requestId_ne ids hthis hjob (Ne.symm hm))
      have hsolo := h.solo m job run' hthis hrun'
      rwa [← decide_eq_decide.2 hsame] at hsolo
  · intro id hid
    rw [← h.others id hid]
    exact alters.mem_iff (Ne.symm (hid run.job (List.mem_of_getElem? hjob)))
  · have hdealt := dealt setup w n run.job await answer
    have hcount (progress : Progress) :
        ((w.runs.set n (run.after await answer progress)).countP (·.progress.leg = .before) +
          if await.leg = .before then 1 else 0) =
        w.runs.countP (·.progress.leg = .before) +
          if progress.leg = .before then 1 else 0 := by
      have hset :=
        @countP_set run (run.after await answer progress) n w.runs here (·.progress.leg = .before)
      simp only [waits, Run.leg_waits, decide_eq_true_eq] at hset
      exact hset
    exact hdealt.calm h.calm (hcount _)

/-- Every turn leaves the runs apart. -/
theorem step (ids : (jobs.map (·.requestId)).Nodup)
    (start : Breaker.Calm setup.breaker first.generation room first)
    (h : Apart setup parts jobs records first w) (turn : Turn setup parts w w') :
    Apart setup parts jobs records first w' := by
  cases turn with
  | passed step =>
    cases step
    exact { h with }
  | looked step =>
    cases step
    exact { h with calm := by rw [look, h.calm.refresh]; exact h.calm }
  | @returned n run await here step record =>
    cases step with
    | @proceed _ there _ _ after _ hthere waits stays alters =>
      obtain rfl : run = there := Option.some.inj (here.symm.trans hthere)
      exact h.proceed ids start here waits alters record

theorem of_interleaving (ids : (jobs.map (·.requestId)).Nodup)
    (start : Breaker.Calm setup.breaker first.generation jobs.length first) {now : Nat}
    (h : Interleaving setup parts (gathered jobs records first now) w) :
    Apart setup parts jobs records first w := by
  induction h with
  | refl => exact of_gathered start now
  | tail _ turn ih => exact ih.step ids start turn

/-- When the runs are over, each has come to what it comes to alone, and so has the record of its
job. -/
theorem eq_of_isOver {other : Depot} {jobs' : List Job}
    (h : Apart setup parts jobs records first w)
    (h' : Apart setup parts jobs' records first other) (ended : w.IsOver) (ended' : other.IsOver)
    {m n : Nat} {job : Job} (hjob : jobs[n]? = some job) (hjob' : jobs'[m]? = some job) :
    other.runs[m]? = w.runs[n]? ∧
      (job.requestId ∈ other.records ↔ job.requestId ∈ w.records) := by
  have hn : n < w.runs.length := h.length ▸ (List.getElem?_eq_some_iff.1 hjob).1
  have hm : m < other.runs.length := h'.length ▸ (List.getElem?_eq_some_iff.1 hjob').1
  have here : w.runs[n]? = some w.runs[n] := List.getElem?_eq_getElem hn
  have there : other.runs[m]? = some other.runs[m] := List.getElem?_eq_getElem hm
  obtain ⟨last, ends⟩ := ended _ (List.getElem_mem hn)
  obtain ⟨last', ends'⟩ := ended' _ (List.getElem_mem hm)
  have heq := eq_of_ends (h.solo n job _ hjob here) (h'.solo m job _ hjob' there) ends ends'
  rw [Prod.mk.injEq, decide_eq_decide] at heq
  exact ⟨by rw [here, there, heq.1], heq.2.symm⟩

end Apart

/-! ## Interleavings come to an end -/

/-- How many calls there are still to be made, at most. -/
def rank (w : Depot) : Nat :=
  (w.runs.map (·.progress.rank)).sum

theorem rank_lt {next : Runner} (here : w.runs[n]? = some run) (h : w'.runs = w.runs.set n next)
    (less : next.progress.rank < run.progress.rank) : w'.rank < w.rank := by
  obtain ⟨hn, rfl⟩ := List.getElem?_eq_some_iff.1 here
  have hn' : n < (w.runs.map (·.progress.rank)).length := by simpa using hn
  have hself : w.rank = ((w.runs.map (·.progress.rank)).set n w.runs[n].progress.rank).sum := by
    simp [rank, ← List.map_set]
  rw [hself, rank, h, List.map_set, List.sum_set, List.sum_set, if_pos hn', if_pos hn']
  omega

/-- The call of a run that waits can return, and there are fewer to be made then. -/
theorem exists_turn (setup : Setup) (parts : String → Part) {await : Await}
    (here : w.runs[n]? = some run) (waits : run.progress = .waits await)
    (patient : ∀ run ∈ w.runs, run.isAbandoned = false) :
    ∃ w', Turn setup parts w w' ∧ w'.rank < w.rank ∧ ∀ run ∈ w'.runs, run.isAbandoned = false := by
  let id := run.job.requestId
  let part := parts id
  have hrecorded : decide (id ∈ w.records) = true ↔ id ∈ w.records := decide_eq_true_iff
  have hstep : Step setup w (.returned n await (part.meets (id ∈ w.records) await)) _ :=
    .proceed here waits (patient run (List.mem_of_getElem? here)) (part.alters hrecorded await)
      (copied_copies ..)
  refine ⟨_, .returned here hstep (part.mem_records ..), ?_, ?_⟩
  · refine rank_lt here rfl ?_
    rw [waits]
    exact Run.rank_lt_of_resume ..
  · have hallowed : Event.Patient (.returned n await (part.meets (id ∈ w.records) await)) := trivial
    exact hstep.patient hallowed patient

/-- However the jobs are met, their runs can come to their ends. -/
theorem exists_isOver (setup : Setup) (parts : String → Part)
    (patient : ∀ run ∈ w.runs, run.isAbandoned = false) :
    ∃ last, Interleaving setup parts w last ∧ last.IsOver := by
  induction hrank : w.rank using Nat.strongRecOn generalizing w with
  | ind rank ih =>
    by_cases ended : w.IsOver
    · exact ⟨w, .refl, ended⟩
    · obtain ⟨run, hmem, hwaits⟩ : ∃ run ∈ w.runs, ∀ disposition,
          run.progress ≠ .ends disposition := by
        simpa [IsOver] using ended
      obtain ⟨n, here⟩ := List.getElem?_of_mem hmem
      cases waits : run.progress with
      | ends disposition => exact absurd waits (hwaits disposition)
      | waits await =>
        obtain ⟨next, hturn, hless, hpatient⟩ := exists_turn setup parts here waits patient
        obtain ⟨last, hrest, hover⟩ := ih next.rank (hrank ▸ hless) hpatient rfl
        exact ⟨last, .head hturn hrest, hover⟩

theorem patient_gathered (jobs : List Job) (records : Finset String) (breaker : Breaker)
    (now : Nat) : ∀ run ∈ (gathered jobs records breaker now).runs, run.isAbandoned = false := by
  simp [gathered, Runner.start]

/-! ## Interleavings agree -/

/-- Let jobs of different request ids each be met in its own way, and let the breaker be closed with
nothing counted, without a window and with more calls to make than there are jobs before it trips.
Then all interleavings of the runs that are over have left the same records, and every run has made
the same calls, got the same answers and come to the same end in them. It is the run that comes of
the job alone, with the same records at the beginning, whenever that is; and such a run does come to
its end. -/
theorem interleavings_agree {parts : String → Part} {jobs : List Job} {records : Finset String}
    {w₁ w₂ : Depot} {since now : Nat} (ids : (jobs.map (·.requestId)).Nodup)
    (closed : first.state = .closed) (empty : first.counts = {})
    (current : first.expiry = Breaker.expiryOf setup.breaker since .closed)
    (window : setup.breaker.window = 0) (few : jobs.length < setup.breaker.minRequests)
    (h₁ : Interleaving setup parts (gathered jobs records first now) w₁) (ended₁ : w₁.IsOver)
    (h₂ : Interleaving setup parts (gathered jobs records first now) w₂) (ended₂ : w₂.IsOver) :
    w₁.records = w₂.records ∧
      ∀ (n : Nat) (job : Job), jobs[n]? = some job → ∃ run disposition,
        w₁.runs[n]? = some run ∧ w₂.runs[n]? = some run ∧
        run.job = job ∧ run.progress = .ends disposition ∧
        ∀ moment,
          (∃ alone, Interleaving setup parts (gathered [job] records first moment) alone ∧
            alone.IsOver) ∧
          ∀ alone, Interleaving setup parts (gathered [job] records first moment) alone →
            alone.IsOver → alone.runs = [run] := by
  have hcalm (room : Nat) (less : room < setup.breaker.minRequests) :
      Breaker.Calm setup.breaker first.generation room first := by
    refine ⟨closed, ?_, rfl, ?_⟩
    · rw [current, Breaker.expiryOf, if_pos window]
    · rwa [empty, Nat.zero_add]
  have hapart₁ := Apart.of_interleaving ids (hcalm _ few) h₁
  have hapart₂ := Apart.of_interleaving ids (hcalm _ few) h₂
  refine ⟨?_, ?_⟩
  · ext id
    by_cases hid : ∃ job ∈ jobs, job.requestId = id
    · obtain ⟨job, hmem, rfl⟩ := hid
      obtain ⟨n, hjob⟩ := List.getElem?_of_mem hmem
      exact (hapart₂.eq_of_isOver hapart₁ ended₂ ended₁ hjob hjob).2
    · have hother : ∀ job ∈ jobs, job.requestId ≠ id :=
        fun job hmem heq => hid ⟨job, hmem, heq⟩
      rw [hapart₁.others id hother, hapart₂.others id hother]
  · intro n job hjob
    have hn : n < w₁.runs.length := hapart₁.length ▸ (List.getElem?_eq_some_iff.1 hjob).1
    have here : w₁.runs[n]? = some w₁.runs[n] := List.getElem?_eq_getElem hn
    obtain ⟨disposition, ends⟩ := ended₁ _ (List.getElem_mem hn)
    have hsame := (hapart₁.eq_of_isOver hapart₂ ended₁ ended₂ hjob hjob).1
    have hown : job = w₁.runs[n].job := Option.some.inj (hjob.symm.trans (hapart₁.exists_job here))
    refine ⟨w₁.runs[n], disposition, here, hsame.trans here, hown.symm, ends, fun moment => ?_⟩
    refine ⟨exists_isOver setup parts (patient_gathered [job] records first moment), ?_⟩
    intro alone halone ended
    have hsome : jobs.length ≠ 0 := fun hnone => by
      simp [List.eq_nil_of_length_eq_zero hnone] at hjob
    have hone : [job].length < setup.breaker.minRequests :=
      Nat.lt_of_le_of_lt (Nat.one_le_iff_ne_zero.2 hsome) few
    have hapart := Apart.of_interleaving (by simp) (hcalm _ hone) halone
    have hrun := (hapart₁.eq_of_isOver hapart ended₁ ended hjob (m := 0) rfl).1
    obtain ⟨run, hruns⟩ := List.length_eq_one_iff.1 hapart.length
    rw [hruns, here] at hrun
    rw [hruns, ← Option.some.inj hrun]

/-- One job is delivered and the user of another one is not found, whose copy goes around while the
store does not release it. Whoever goes first, the store is left the same. -/
theorem interleavings_agree_of_two :
    ∃ (setup : Setup) (parts : String → Part) (jobs : List Job) (w : Depot),
      jobs.length = 2 ∧ Interleaving setup parts (gathered jobs ∅ {} 0) w ∧ w.IsOver ∧
      ∀ other, Interleaving setup parts (gathered jobs ∅ {} 0) other → other.IsOver →
        other.records = w.records := by
  let setup : Setup := { breaker := { window := 0 } }
  let jobs : List Job := [sampleJob, { sampleJob with requestId := "s" }]
  let answer (found : Bool) : (await : Await) → await.kind.Answer
    | .claim => .ok .claimed
    | .user => if found then .ok (.deliverable sampleProfile) else .error (.status 503)
    | .template _ => .ok sampleTemplate
    | .send .. | .mark | .resubmit | .reportDelivered | .reportFailed .. => .ok ()
    | .release => .error .timeout
  let parts (id : String) : Part := { answer := answer (id == "r"), lands := fun _ => false }
  obtain ⟨w, hw, ended⟩ := exists_isOver setup parts (patient_gathered jobs ∅ {} 0)
  refine ⟨setup, parts, jobs, w, rfl, hw, ended, fun other hother ended' => ?_⟩
  have hids : (jobs.map (·.requestId)).Nodup := by decide
  have hexpiry : ({} : Breaker).expiry = Breaker.expiryOf setup.breaker 0 .closed := rfl
  exact (interleavings_agree hids rfl rfl hexpiry rfl (by decide) hother ended' hw ended).1

end Depot

end Courier
