import Courier.Proofs.Depot.Basic
import Courier.Proofs.Run.Lifecycle

/-!
# Jobs that go around

A run that fails for now sends a copy of its job around, and that is all that the next run knows of
it. A relay is a chain of such runs, each of which gets the body that the one before it has
published, and is in a world of its own. The variables of a job have no order of their own, so every
run may write those of its copy in another. Whatever the worlds and these orders are like, the
copies are the job with one more failure each, and there are no more of them than there are retries
left.

## Main definitions

* `Run.Writers`: how runs write the copies that they send around.
* `Run.relay`: the bodies that the runs of a relay get.
* `Run.journey`: the calls of the runs of a relay.
* `Run.Struggle`: everything is well but the attempts to deliver.
* `Run.relay_exact`: what the copies of a relay are, and how it ends.
-/

namespace Courier

namespace Call

/-- The copy that a call sends around. -/
def copy? : Call → Option Job
  | publish copy => some copy
  | _ => none

/-- The copies that calls send around. -/
def copies (calls : List Call) : List Job :=
  calls.filterMap copy?

@[simp] theorem copies_nil : copies [] = [] := rfl

@[simp] theorem copies_append (calls more : List Call) :
    copies (calls ++ more) = copies calls ++ copies more :=
  List.filterMap_append

@[simp] theorem copies_publish (copy : Job) (calls : List Call) :
    copies (.publish copy :: calls) = copy :: copies calls := rfl

@[simp] theorem copies_claim (id : String) (span : Nat) (calls : List Call) :
    copies (.claim id span :: calls) = copies calls := rfl

@[simp] theorem copies_mark (id : String) (span : Nat) (calls : List Call) :
    copies (.mark id span :: calls) = copies calls := rfl

@[simp] theorem copies_remove (id : String) (calls : List Call) :
    copies (.remove id :: calls) = copies calls := rfl

/-- How many notifications calls hand to the gateway. -/
def sends (calls : List Call) : Nat :=
  calls.countP (·.kind = .send)

@[simp] theorem sends_nil : sends [] = 0 := rfl

@[simp] theorem sends_append (calls more : List Call) :
    sends (calls ++ more) = sends calls + sends more :=
  List.countP_append

@[simp] theorem sends_claim (id : String) (span : Nat) (calls : List Call) :
    sends (.claim id span :: calls) = sends calls := rfl

@[simp] theorem sends_mark (id : String) (span : Nat) (calls : List Call) :
    sends (.mark id span :: calls) = sends calls := rfl

@[simp] theorem sends_remove (id : String) (calls : List Call) :
    sends (.remove id :: calls) = sends calls := rfl

@[simp] theorem sends_publish (copy : Job) (calls : List Call) :
    sends (.publish copy :: calls) = sends calls := rfl

end Call

namespace Job

variable {job copy next : Job} {m n : Nat}

/-- A job is a copy of itself. -/
theorem isCopy_zero : job.IsCopy 0 job :=
  ⟨rfl, rfl⟩

/-- A copy of a copy is a copy. -/
theorem IsCopy.trans (h : job.IsCopy m copy) (hnext : copy.IsCopy n next) :
    job.IsCopy (m + n) next := by
  refine ⟨?_, ?_⟩
  · rw [hnext.count, h.count, Nat.add_assoc]
  · rw [hnext.same, h.same]

end Job

namespace Run

/-- How often a job may still go around. -/
def Setup.retriesLeft (setup : Setup) (job : Job) : Nat :=
  setup.limits.maxRetries.toNat - job.retryCount.toNat

/-- How the runs of a relay write the copies that they send around: each its variables in whatever
order. -/
structure Writers where
  write : Nat → Job → List UInt8
  isWritten (n : Nat) (copy : Job) : copy.IsWritten (write n copy)

/-- All variables are written in the order of their names. -/
def Writers.ascending : Writers where
  write _ := Job.encode
  isWritten _ := Job.isWritten_encode

section

variable (setup : Setup) (worlds : Nat → World) (writers : Writers) (payload : List UInt8)

/-- The calls of the run of a message. -/
def processCalls (world : World) (payload : List UInt8) : List Call :=
  match begin payload with
  | .ok job => (process setup world payload).calls setup world job
  | .error _ => []

/-- The body that the run of a number gets, if there is such a run. The first gets the payload, and
each later one what the one before it has published, whatever has been answered to that. -/
def relay : Nat → Option (List UInt8)
  | 0 => some payload
  | n + 1 => (relay n).bind fun body =>
    (Call.copies (processCalls setup (worlds n) body)).head?.map (writers.write n)

/-- The calls of the run of a number. -/
def relayCalls (n : Nat) : List Call :=
  (relay setup worlds writers payload n).elim [] (processCalls setup (worlds n))

/-- The calls of the runs up to a number, from the first. -/
def journey (n : Nat) : List Call :=
  (List.range n).flatMap (relayCalls setup worlds writers payload)

/-- What the calls of a run, one after the other, do to the records. -/
def AltersAll (id : String) (world : World) :
    List Await → Finset String → Finset String → Prop
  | [], before, after => after = before
  | await :: awaits, before, after => ∃ between,
    Depot.Alters id before between await (world await).answer ∧
      AltersAll id world awaits between after

/-- Neither the store nor the broker fails a run. -/
structure Unfailing (world : World) (awaits : List Await) : Prop where
  claim : .claim ∈ awaits → ∃ answer, (world .claim).answer = .ok answer
  mark : .mark ∈ awaits → (world .mark).answer = .ok ()
  resubmit : .resubmit ∈ awaits → (world .resubmit).answer = .ok ()
  release : .release ∈ awaits → (world .release).answer = .ok ()

/-- The runs of a relay are alone with their records, neither the store nor the broker fails them,
and still no attempt to deliver comes out. -/
structure Struggle (records : Nat → Finset String) : Prop where
  alone {n : Nat} {body : List UInt8} {job : Job}
    (run : relay setup worlds writers payload n = some body)
    (decoded : Job.decode body = .ok job) :
    AltersAll job.requestId (worlds n) (process setup (worlds n) body).awaits
      (records n) (records (n + 1))
  unfailing {n : Nat} {body : List UInt8} (run : relay setup worlds writers payload n = some body) :
    Unfailing (worlds n) (process setup (worlds n) body).awaits
  fails {n : Nat} {body : List UInt8} {job : Job}
    (run : relay setup worlds writers payload n = some body)
    (decoded : Job.decode body = .ok job) (accepted : Accepted setup (worlds n) job) :
    ∃ calls, Attempt setup (worlds n) job calls .failed

/-- The job has gone around as often as it may, and is given up by the run after that. -/
structure GivenUp (job : Job) : Prop where
  resubmitted {n : Nat} (h : n < setup.retriesLeft job) : ∃ body count,
    relay setup worlds writers payload n = some body ∧
      (process setup (worlds n) body).disposition = .ack (.resubmitted count) ∧
      count.toNat = job.retryCount.toNat + n + 1
  last : ∃ body, relay setup worlds writers payload (setup.retriesLeft job) = some body ∧
    (process setup (worlds (setup.retriesLeft job)) body).disposition = .reject .budgetExhausted
  finished : relay setup worlds writers payload (setup.retriesLeft job + 1) = none

end

variable {setup : Setup} {world : World} {job : Job}

/-! ## What one run sends around -/

@[simp] theorem copies_failureReport (error : String) (reason : RejectReason) :
    Call.copies (failureReport setup world job error reason) = [] := by
  unfold failureReport
  split <;> rfl

@[simp] theorem copies_deliveryReport : Call.copies (deliveryReport setup world job) = [] := by
  unfold deliveryReport
  split <;> rfl

theorem Attempt.copies_eq {calls : List Call} {outcome : Outcome}
    (h : Attempt setup world job calls outcome) : Call.copies calls = [] := by
  cases h <;> rfl

/-- A run sends no copy around, or one copy of a job that has a retry left. -/
theorem Lifecycle.copies_eq {calls : List Call} {disposition : Disposition}
    (h : Lifecycle setup world job calls disposition) :
    Call.copies calls = [] ∨
      job.retryCount < setup.limits.maxRetries ∧ Call.copies calls = [job.next] := by
  cases h with
  | duplicate present => exact .inl rfl
  | exhausted own spent =>
    left
    simp [claimCall]
  | noEndpoint accepted attempt | unrendered accepted attempt | delivered accepted attempt =>
    left
    simp [claimCall, attempt.copies_eq]
  | resubmitted accepted attempt isCopy publish | unpublished accepted attempt isCopy publish =>
    right
    obtain rfl := accepted.isCopy_iff.1 isCopy
    refine ⟨accepted.left, ?_⟩
    simp [claimCall, attempt.copies_eq]

@[simp] theorem sends_failureReport (error : String) (reason : RejectReason) :
    Call.sends (failureReport setup world job error reason) = 0 := by
  unfold failureReport
  split <;> rfl

@[simp] theorem sends_deliveryReport : Call.sends (deliveryReport setup world job) = 0 := by
  unfold deliveryReport
  split <;> rfl

theorem Attempt.sends_le {calls : List Call} {outcome : Outcome}
    (h : Attempt setup world job calls outcome) : Call.sends calls ≤ 1 := by
  cases h <;> simp [Call.sends, Call.kind]

/-- A run hands at most one notification to the gateway, and none if no retry is left. -/
theorem Lifecycle.sends_le {calls : List Call} {disposition : Disposition}
    (h : Lifecycle setup world job calls disposition) :
    Call.sends calls ≤ if job.retryCount < setup.limits.maxRetries then 1 else 0 := by
  cases h with
  | duplicate present => exact Nat.zero_le _
  | exhausted own spent =>
    simp [claimCall]
  | noEndpoint accepted attempt | unrendered accepted attempt | delivered accepted attempt
  | resubmitted accepted attempt _ _ | unpublished accepted attempt _ _ =>
    have hle := attempt.sends_le
    simpa [claimCall, accepted.left] using hle

/-! ## What the next run gets -/

/-- The copy that the run of a number gets in a relay of a job. -/
structure Handed (setup : Setup) (job : Job) (n : Nat) (body : List UInt8) (copy : Job) :
    Prop where
  decoded : Job.decode body = .ok copy
  isCopy : job.IsCopy n copy
  within : n ≤ setup.retriesLeft job

theorem processCalls_of_decode {body : List UInt8} (h : Job.decode body = .ok job) :
    processCalls setup world body = (course setup world job .claim).calls setup world job := by
  simp only [processCalls, begin, h, process_of_decode h]

namespace Handed

variable {n : Nat} {body : List UInt8} {copy : Job}

/-- The first run gets the job. -/
theorem start (decoded : Job.decode body = .ok job) : Handed setup job 0 body job :=
  ⟨decoded, Job.isCopy_zero, Nat.zero_le _⟩

theorem left_iff (h : Handed setup job n body copy) :
    copy.retryCount < setup.limits.maxRetries ↔ n < setup.retriesLeft job := by
  have hcount := h.isCopy.count
  rw [UInt32.lt_iff_toNat_lt, Setup.retriesLeft]
  omega

/-- What a run sends around is what the next run gets, however it was written. -/
theorem next (h : Handed setup job n body copy)
    (left : copy.retryCount < setup.limits.maxRetries) {written : List UInt8}
    (isWritten : copy.next.IsWritten written) :
    Handed setup job (n + 1) written copy.next := by
  refine ⟨?_, h.isCopy.trans (Job.isCopy_next left), h.left_iff.1 left⟩
  refine Job.decode_of_isWritten ?_ isWritten
  rw [Job.blankId?_next]
  exact Job.blankId?_of_decode h.decoded

end Handed

section

variable {worlds : Nat → World} {writers : Writers} {payload body : List UInt8} {n : Nat}

theorem relayCalls_of_run (run : relay setup worlds writers payload n = some body) :
    relayCalls setup worlds writers payload n = processCalls setup (worlds n) body := by
  rw [relayCalls, run, Option.elim]

theorem relayCalls_of_none (run : relay setup worlds writers payload n = none) :
    relayCalls setup worlds writers payload n = [] := by
  rw [relayCalls, run, Option.elim]

theorem journey_succ (n : Nat) :
    journey setup worlds writers payload (n + 1) =
      journey setup worlds writers payload n ++ relayCalls setup worlds writers payload n := by
  simp [journey, List.range_succ]

/-- The next run gets the copy that has been sent around. -/
theorem relay_succ (run : relay setup worlds writers payload n = some body) :
    relay setup worlds writers payload (n + 1) =
      (Call.copies (relayCalls setup worlds writers payload n)).head?.map (writers.write n) := by
  rw [relayCalls_of_run run, relay, run, Option.bind_some]

theorem relay_succ_of_none (run : relay setup worlds writers payload n = none) :
    relay setup worlds writers payload (n + 1) = none := by
  rw [relay, run]
  rfl

theorem relayCalls_of_decode (run : relay setup worlds writers payload n = some body)
    (decoded : Job.decode body = .ok job) :
    relayCalls setup worlds writers payload n =
      (course setup (worlds n) job .claim).calls setup (worlds n) job := by
  rw [relayCalls_of_run run, processCalls_of_decode decoded]

/-- The calls of a run of a relay are those of the way that it takes. -/
theorem lifecycle_relayCalls (run : relay setup worlds writers payload n = some body)
    (decoded : Job.decode body = .ok job) :
    Lifecycle setup (worlds n) job (relayCalls setup worlds writers payload n)
      (process setup (worlds n) body).disposition := by
  rw [relayCalls_of_decode run decoded, process_of_decode decoded]
  exact .of_course setup (worlds n) job

/-- A run of a relay sends nothing around, and then it is the last, or the copy that the next run
gets. -/
theorem relay_step {copy : Job} (run : relay setup worlds writers payload n = some body)
    (handed : Handed setup job n body copy) :
    (Call.copies (relayCalls setup worlds writers payload n) = [] ∧
      relay setup worlds writers payload (n + 1) = none) ∨
    (copy.retryCount < setup.limits.maxRetries ∧
      Call.copies (relayCalls setup worlds writers payload n) = [copy.next] ∧
      relay setup worlds writers payload (n + 1) = some (writers.write n copy.next)) := by
  rw [relay_succ run]
  obtain hnone | ⟨left, hone⟩ := (lifecycle_relayCalls run handed.decoded).copies_eq
  · exact .inl ⟨hnone, by rw [hnone]; rfl⟩
  · exact .inr ⟨left, hone, by rw [hone]; rfl⟩

/-- Whatever run of a relay there is gets a copy of the job, with as many failures more as there
have been runs before it. -/
theorem exists_handed (decoded : Job.decode payload = .ok job)
    (run : relay setup worlds writers payload n = some body) :
    ∃ copy, Handed setup job n body copy := by
  induction n generalizing body with
  | zero =>
    obtain rfl : payload = body := Option.some.inj run
    exact ⟨job, .start decoded⟩
  | succ n ih =>
    cases before : relay setup worlds writers payload n with
    | none =>
      rw [relay_succ_of_none before] at run
      cases run
    | some previous =>
      obtain ⟨copy, handed⟩ := ih before
      obtain ⟨-, hlast⟩ | ⟨left, -, hnext⟩ := relay_step before handed
      · rw [hlast] at run
        cases run
      · obtain rfl : writers.write n copy.next = body := Option.some.inj (hnext.symm.trans run)
        exact ⟨copy.next, handed.next left (writers.isWritten n copy.next)⟩

/-! ## The copies of a relay -/

variable (setup worlds writers) in
/-- The copies that the runs before a number have sent around: each of them, however it is written,
is what the run of its number gets, and if there is a run of that number then all before it have
sent one. -/
theorem copies_journey (decoded : Job.decode payload = .ok job) (n : Nat) :
    ((relay setup worlds writers payload n).isSome →
      (Call.copies (journey setup worlds writers payload n)).length = n) ∧
    ∀ k copy, (Call.copies (journey setup worlds writers payload n))[k]? = some copy →
      ∀ body, copy.IsWritten body → Handed setup job (k + 1) body copy := by
  induction n with
  | zero => exact ⟨fun _ => rfl, fun k copy h => by cases h⟩
  | succ n ih =>
    obtain ⟨hlength, hcopies⟩ := ih
    rw [journey_succ, Call.copies_append]
    cases run : relay setup worlds writers payload n with
    | none =>
      rw [relay_succ_of_none run, relayCalls_of_none run, Call.copies_nil, List.append_nil]
      exact ⟨fun h => absurd h Bool.false_ne_true, hcopies⟩
    | some body =>
      rw [run] at hlength
      have hlength := hlength rfl
      obtain ⟨copy, handed⟩ := exists_handed decoded run
      obtain ⟨hnone, hlast⟩ | ⟨left, hone, hnext⟩ := relay_step run handed
      · rw [hnone, hlast, List.append_nil]
        exact ⟨fun h => absurd h Bool.false_ne_true, hcopies⟩
      · rw [hone]
        refine ⟨fun _ => by simp [hlength], ?_⟩
        -- All runs before this one have sent a copy, so its own is at the place of its number.
        intro k next hk written isWritten
        obtain hlt | hge := Nat.lt_or_ge k n
        · rw [List.getElem?_append_left (by rwa [hlength])] at hk
          exact hcopies k next hk written isWritten
        · rw [List.getElem?_append_right (by rwa [hlength]), hlength] at hk
          obtain rfl : k = n := by
            have := (List.getElem?_eq_some_iff.1 hk).1
            simp at this
            omega
          rw [Nat.sub_self] at hk
          obtain rfl : copy.next = next := Option.some.inj hk
          exact handed.next left isWritten

/-- There are no more copies than retries. -/
theorem length_copies_journey_le (decoded : Job.decode payload = .ok job) (n : Nat) :
    (Call.copies (journey setup worlds writers payload n)).length ≤ setup.retriesLeft job := by
  obtain ⟨-, hcopies⟩ := copies_journey setup worlds writers decoded n
  cases hlength : (Call.copies (journey setup worlds writers payload n)).length with
  | zero => exact Nat.zero_le _
  | succ k =>
    have hlt : k < (Call.copies (journey setup worlds writers payload n)).length := by omega
    exact (hcopies k _ (List.getElem?_eq_getElem hlt) _ (Job.isWritten_encode _)).within

/-- There are no more deliveries than retries. -/
theorem sends_journey_le (decoded : Job.decode payload = .ok job) (n : Nat) :
    Call.sends (journey setup worlds writers payload n) ≤
      min n (setup.retriesLeft job) := by
  induction n with
  | zero => exact Nat.zero_le _
  | succ n ih =>
    rw [journey_succ, Call.sends_append]
    cases run : relay setup worlds writers payload n with
    | none =>
      rw [relayCalls_of_none run, Call.sends_nil]
      omega
    | some body =>
      obtain ⟨copy, handed⟩ := exists_handed decoded run
      have hle := (lifecycle_relayCalls run handed.decoded).sends_le
      simp only [handed.left_iff] at hle
      split at hle <;> omega

/-! ## A job that is never delivered -/

theorem mem_awaits_self (await : Await) : await ∈ (course setup world job await).awaits := by
  rw [course_eq, Report.awaits_after]
  exact List.mem_append_left _ List.mem_cons_self

/-- A run that ends with the release of its claim leaves no record. -/
theorem notMem_of_released {id : String} {past : List Await} {before after : Finset String}
    (h : AltersAll id world (past ++ [.release]) before after)
    (released : (world .release).answer = .ok ()) : id ∉ after := by
  induction past generalizing before with
  | nil =>
    obtain ⟨between, halters, rfl⟩ := h
    rw [released] at halters
    have herase : after = before.erase id := halters
    rw [herase]
    exact Finset.notMem_erase id before
  | cons await past ih =>
    obtain ⟨between, -, hrest⟩ := h
    exact ih hrest

/-- Where there is no record, and the store answers, the job is the run's own. -/
theorem claimed_of_notMem {before after : Finset String}
    (h : AltersAll job.requestId world (course setup world job .claim).awaits before after)
    (unfailing : Unfailing world (course setup world job .claim).awaits)
    (free : job.requestId ∉ before) : (world .claim).answer = .ok .claimed := by
  obtain ⟨answer, hanswer⟩ := unfailing.claim (mem_awaits_self .claim)
  rw [course_eq, Report.awaits_after] at h
  obtain ⟨between, halters, -⟩ := h
  rw [hanswer] at halters
  cases answer with
  | claimed => exact hanswer
  | alreadyPresent => exact absurd halters.1 free

/-- A run whose attempt fails and whom neither the store nor the broker fails sends the copy around
and leaves no record. -/
theorem resubmits_of_failed {calls : List Call} {before after : Finset String}
    (alters : AltersAll job.requestId world (course setup world job .claim).awaits before after)
    (unfailing : Unfailing world (course setup world job .claim).awaits)
    (accepted : Accepted setup world job) (attempt : Attempt setup world job calls .failed) :
    Lifecycle setup world job
      (claimCall setup job :: calls ++ [.publish job.next, .remove job.requestId])
      (.ack (.resubmitted job.next.retryCount)) ∧ job.requestId ∉ after := by
  have publish : (world .resubmit).answer = .ok () := by
    apply unfailing.resubmit
    obtain ⟨past, -, hcourse⟩ := accepted.leads attempt
    rw [hcourse, Report.awaits_after]
    exact List.mem_append_right past (mem_awaits_self .resubmit)
  have way := Lifecycle.resubmitted accepted attempt (Job.isCopy_next accepted.left) publish
  refine ⟨way, ?_⟩
  have hpublish : Leads setup world job .resubmit [.publish job.next] (.waits .release) :=
    .one (World.progress_of_answer publish)
  obtain ⟨past, -, hcourse⟩ := (accepted.leads attempt).trans hpublish
  have hlast : (course setup world job .release).awaits = [.release] := by
    rw [course_of_progress (world.progress_release setup job)]
    rfl
  rw [hcourse, Report.awaits_after, conclude, hlast] at alters unfailing
  exact notMem_of_released alters
    (unfailing.release (List.mem_append_right past List.mem_cons_self))

namespace Struggle

variable {records : Nat → Finset String} {copy : Job}

/-- A run that finds no record of its job sends the copy around and leaves no record, unless no
retry is left: then it gives the job up, and is the last. -/
theorem step (h : Struggle setup worlds writers payload records)
    (run : relay setup worlds writers payload n = some body) (decoded : Job.decode body = .ok copy)
    (free : copy.requestId ∉ records n) :
    if copy.retryCount < setup.limits.maxRetries then
      (process setup (worlds n) body).disposition =
          .ack (.resubmitted copy.next.retryCount) ∧
        relay setup worlds writers payload (n + 1) = some (writers.write n copy.next) ∧
        copy.requestId ∉ records (n + 1)
    else
      (process setup (worlds n) body).disposition = .reject .budgetExhausted ∧
        relay setup worlds writers payload (n + 1) = none := by
  have alters := h.alone run decoded
  have unfailing := h.unfailing run
  rw [process_of_decode decoded] at alters unfailing ⊢
  have claimed := claimed_of_notMem alters unfailing free
  have own : (worlds n .claim).answer ≠ .ok .alreadyPresent := by
    rw [claimed]
    rintro ⟨⟩
  rw [relay_succ run, relayCalls_of_decode run decoded]
  split
  · next left =>
    have accepted : Accepted setup (worlds n) copy := ⟨own, left⟩
    obtain ⟨calls, attempt⟩ := h.fails run decoded accepted
    obtain ⟨way, hfree⟩ := resubmits_of_failed alters unfailing accepted attempt
    refine ⟨way.leads.disposition_eq, ?_, hfree⟩
    rw [way.leads.calls_eq]
    simp [claimCall, attempt.copies_eq]
  · next spent =>
    have way := Lifecycle.exhausted own (UInt32.not_lt.1 spent)
    refine ⟨way.leads.disposition_eq, ?_⟩
    rw [way.leads.calls_eq]
    simp [claimCall]

/-- As long as there have not been more runs than retries, there is one more, and it finds no
record. -/
theorem exists_run (h : Struggle setup worlds writers payload records)
    (decoded : Job.decode payload = .ok job) (free : job.requestId ∉ records 0)
    (within : n ≤ setup.retriesLeft job) :
    ∃ body copy, relay setup worlds writers payload n = some body ∧
      Handed setup job n body copy ∧ copy.requestId ∉ records n := by
  induction n with
  | zero => exact ⟨payload, job, rfl, .start decoded, free⟩
  | succ n ih =>
    obtain ⟨body, copy, run, handed, hfree⟩ := ih (Nat.le_of_succ_le within)
    have left : copy.retryCount < setup.limits.maxRetries := handed.left_iff.2 within
    have hstep := h.step run handed.decoded hfree
    rw [if_pos left] at hstep
    exact ⟨_, copy.next, hstep.2.1, handed.next left (writers.isWritten n copy.next), hstep.2.2⟩

/-- A job that is never delivered goes around once for every retry that is left, and is given up
then. -/
theorem givenUp (h : Struggle setup worlds writers payload records)
    (decoded : Job.decode payload = .ok job) (free : job.requestId ∉ records 0) :
    GivenUp setup worlds writers payload job := by
  obtain ⟨body, copy, run, handed, hfree⟩ := h.exists_run decoded free (Nat.le_refl _)
  have spent : ¬ copy.retryCount < setup.limits.maxRetries := by
    intro left
    exact Nat.lt_irrefl _ (handed.left_iff.1 left)
  have hlast := h.step run handed.decoded hfree
  rw [if_neg spent] at hlast
  refine ⟨?_, ⟨body, run, hlast.1⟩, hlast.2⟩
  intro n hn
  obtain ⟨body, copy, run, handed, hfree⟩ := h.exists_run decoded free (Nat.le_of_lt hn)
  have left : copy.retryCount < setup.limits.maxRetries := handed.left_iff.2 hn
  have hstep := h.step run handed.decoded hfree
  rw [if_pos left] at hstep
  have hnext := handed.next left (writers.isWritten n copy.next)
  exact ⟨body, copy.next.retryCount, run, hstep.1, hnext.isCopy.count⟩

end Struggle

/-- **A job goes around as itself, and not more often than it may.** Whatever the worlds of a relay
are like and however the copies are written, no run sends more than one copy around, the copy of
every place is the job with as many failures more, whoever reads a body of it gets it, and there are
neither more copies nor more deliveries than retries left. If nothing but the deliveries fails, and
the job had no record, there are exactly as many copies, and after them the job is given up. -/
theorem relay_exact (setup : Setup) (worlds : Nat → World) (writers : Writers)
    (decoded : Job.decode payload = .ok job) :
    (∀ n, (Call.copies (relayCalls setup worlds writers payload n)).length ≤ 1) ∧
    (∀ n k copy, (Call.copies (journey setup worlds writers payload n))[k]? = some copy →
      (∀ body, copy.IsWritten body → Job.decode body = .ok copy) ∧ job.IsCopy (k + 1) copy ∧
        copy.retryCount ≤ setup.limits.maxRetries) ∧
    (∀ n, (Call.copies (journey setup worlds writers payload n)).length ≤ setup.retriesLeft job) ∧
    (∀ n, Call.sends (journey setup worlds writers payload n) ≤ setup.retriesLeft job) ∧
    ∀ records, Struggle setup worlds writers payload records → job.requestId ∉ records 0 →
      GivenUp setup worlds writers payload job := by
  refine ⟨?_, ?_, length_copies_journey_le decoded, ?_, ?_⟩
  · intro n
    cases run : relay setup worlds writers payload n with
    | none => simp [relayCalls_of_none run]
    | some body =>
      obtain ⟨copy, handed⟩ := exists_handed decoded run
      obtain ⟨hnone, -⟩ | ⟨-, hone, -⟩ := relay_step run handed
      · simp [hnone]
      · simp [hone]
  · intro n k copy hk
    have hcopies := (copies_journey setup worlds writers decoded n).2 k copy hk
    have handed := hcopies copy.encode copy.isWritten_encode
    refine ⟨fun body written => (hcopies body written).decoded, handed.isCopy, ?_⟩
    have hcount := handed.isCopy.count
    have hwithin := handed.within
    rw [Setup.retriesLeft] at hwithin
    rw [UInt32.le_iff_toNat_le]
    omega
  · intro n
    exact Nat.le_trans (sends_journey_le decoded n) (Nat.min_le_right ..)
  · intro records struggle free
    exact struggle.givenUp decoded free

end

/-- A world in which the users cannot be looked up, and all else is well. -/
def World.userless : World
  | .user => ⟨default, 0, {}, .error (.status 503)⟩
  | await => World.fine default {} {} {} await

/-- In such a world a run sends its copy around, or gives the job up. -/
theorem awaits_userless (job : Job) :
    (course {} World.userless job .claim).awaits =
      if job.retryCount < 5 then [.claim, .user, .resubmit, .release]
      else [.claim, .reportFailed
        (PermanentFailure.budgetExhausted job.retryCount 5).text .budgetExhausted] := by
  have own : (World.userless .claim).answer ≠ .ok .alreadyPresent := by rintro ⟨⟩
  split
  · next left =>
    have accepted : Accepted {} World.userless job := ⟨own, left⟩
    have user : World.userless.progress {} job .user = .waits .resubmit := rfl
    have publish : World.userless.progress {} job .resubmit = .waits .release := rfl
    have release := World.userless.progress_release {} job
    rw [course_of_progress (World.progress_of_accepted accepted), conclude,
      course_of_progress user, conclude, course_of_progress publish, conclude,
      course_of_progress release]
    rfl
  · next spent =>
    rw [course_of_progress (World.progress_of_spent own (UInt32.not_lt.1 spent)), reportFailure,
      if_pos rfl, conclude, course_of_progress (World.userless.progress_reportFailed {} job ..)]
    rfl

/-- With three of five failures, a job whose user cannot be looked up goes around twice. -/
theorem greeting_givenUp :
    let job : Job := { requestId := "r1", userId := "u1", templateId := "t1", retryCount := 3 }
    Job.decode job.encode = .ok job ∧ ({} : Setup).retriesLeft job = 2 ∧
      GivenUp {} (fun _ => World.userless) .ascending job.encode job := by
  intro job
  have decoded : Job.decode job.encode = .ok job := Job.decode_encode (by decide +kernel)
  have claims : Depot.Alters "r1" ∅ {"r1"} .claim (.ok .claimed) := ⟨by decide, by decide⟩
  have releases : Depot.Alters "r1" {"r1"} ∅ .release (.ok ()) :=
    show ∅ = Finset.erase {"r1"} "r1" by decide
  have struggle : Struggle {} (fun _ => World.userless) .ascending job.encode
      fun n => if n ≤ 2 then ∅ else {"r1"} := by
    constructor
    · intro n body copy run hdecoded
      obtain ⟨other, handed⟩ := exists_handed decoded run
      obtain rfl : other = copy := Except.ok.inj (handed.decoded.symm.trans hdecoded)
      have hid : other.requestId = "r1" := by
        rw [handed.isCopy.same]
      have hwithin : n ≤ 2 := handed.within
      rw [process_of_decode hdecoded, awaits_userless, hid]
      simp only [hwithin, if_true]
      split
      · next left =>
        have hlt : n + 1 ≤ 2 := handed.left_iff.1 left
        rw [if_pos hlt]
        exact ⟨{"r1"}, claims, {"r1"}, rfl, {"r1"}, rfl, ∅, releases, rfl⟩
      · next spent =>
        have hge : ¬ n + 1 ≤ 2 := fun hlt => spent (handed.left_iff.2 hlt)
        rw [if_neg hge]
        exact ⟨{"r1"}, claims, {"r1"}, rfl, rfl⟩
    · intro n body run
      exact ⟨fun _ => ⟨.claimed, rfl⟩, fun _ => rfl, fun _ => rfl, fun _ => rfl⟩
    · intro n body copy run hdecoded accepted
      exact ⟨_, .userLost rfl⟩
  exact ⟨decoded, by decide, (relay_exact {} _ _ decoded).2.2.2.2 _ struggle (by decide)⟩

end Run

end Courier
