import Courier.Proofs.Run.Trail

/-!
# The course of a run

A world says of everything that a run may wait for when its call is made, when the answer comes and
what it is, and how the breaker then stands, which other runs may have used meanwhile. A run waits
for nothing twice, so a world leaves nothing open: in a given world the run of a message has one
course, the calls that it makes and the disposition that it ends with.

## Main definitions

* `Run.World`: what a run may meet with.
* `Run.course`, `Run.process`: the course of a run, from an await and from its message.
* `Run.Report.calls`: the calls of a course.
* `Run.disposition_eq_delivered_iff`: which courses end with the notification delivered.
-/

namespace Courier.Run

open Time (Stamp)

/-- What a run meets with when it waits for something. -/
structure Encounter (await : Await) where
  /-- When the call is made, by the calendar. -/
  made : Stamp
  /-- When the answer comes, in milliseconds. -/
  now : Nat
  /-- The breaker when the answer comes. -/
  breaker : Breaker
  answer : await.kind.Answer

/-- What a run may meet with. -/
abbrev World :=
  (await : Await) → Encounter await

namespace World

/-- The call that is made where a run waits. -/
def call (world : World) (setup : Setup) (job : Job) (await : Await) : Call :=
  await.call setup job (world await).made

/-- How a run goes on from where it waits. -/
def progress (world : World) (setup : Setup) (job : Job) (await : Await) : Progress :=
  (resume setup (world await).now job (world await).breaker await (world await).answer).progress

/-- What a run waits for next, it waits for less long. -/
theorem rank_lt {world : World} {setup : Setup} {job : Job} {await next : Await}
    (h : world.progress setup job await = .waits next) : next.rank < await.rank := by
  have hrank := rank_lt_of_resume setup (world await).now job (world await).breaker await
    (world await).answer
  unfold progress at h
  rwa [h] at hrank

/-- A world in which all is well, for a user and a template. -/
def fine (made : Stamp) (breaker : Breaker) (profile : Profile) (template : Template) : World
  | .claim => ⟨made, 0, breaker, .ok .claimed⟩
  | .user => ⟨made, 0, breaker, .ok profile.recipient⟩
  | .template _ => ⟨made, 0, breaker, .ok template⟩
  | .send .. | .mark | .release => ⟨made, 0, breaker, .ok ()⟩
  | .resubmit | .reportDelivered | .reportFailed .. => ⟨made, 0, breaker, .ok ()⟩

end World

/-- What a run has waited for, from the first, and what it has come to. -/
structure Report where
  awaits : List Await
  disposition : Disposition
  deriving DecidableEq, Repr

namespace Report

/-- The report of a run that has waited for other things before. -/
def after (past : List Await) (r : Report) : Report :=
  ⟨past ++ r.awaits, r.disposition⟩

/-- The calls of a run, from the first. -/
def calls (r : Report) (setup : Setup) (world : World) (job : Job) : List Call :=
  r.awaits.map (world.call setup job)

@[simp] theorem after_after (past more : List Await) (r : Report) :
    (r.after more).after past = r.after (past ++ more) := by
  simp [after]

@[simp] theorem disposition_after (past : List Await) (r : Report) :
    (r.after past).disposition = r.disposition := rfl

@[simp] theorem awaits_after (past : List Await) (r : Report) :
    (r.after past).awaits = past ++ r.awaits := rfl

@[simp] theorem calls_after (past : List Await) (r : Report) (setup : Setup) (world : World)
    (job : Job) : (r.after past).calls setup world job =
      past.map (world.call setup job) ++ r.calls setup world job := by
  simp [calls]

end Report

section

variable (setup : Setup) (world : World) (job : Job)

/-- The course of a run from where it waits. -/
def course (await : Await) : Report :=
  match _hprogress : world.progress setup job await with
  | .waits next => (course next).after [await]
  | .ends disposition => ⟨[await], disposition⟩
termination_by await.rank
decreasing_by exact World.rank_lt _hprogress

/-- The course of a run that goes on in some way. -/
def conclude : Progress → Report
  | .waits await => course setup world job await
  | .ends disposition => ⟨[], disposition⟩

/-- The course of the run of a message. -/
def process (payload : List UInt8) : Report :=
  match begin payload with
  | .ok job => course setup world job .claim
  | .error failure => ⟨[], .reject failure.rejectReason⟩

end

variable {setup : Setup} {world : World} {job : Job}

/-- A run waits, and then goes on. -/
theorem course_eq (await : Await) :
    course setup world job await =
      (conclude setup world job (world.progress setup job await)).after [await] := by
  rw [course]
  split
  · next next h =>
    rw [h]
    rfl
  · next disposition h =>
    rw [h]
    rfl

theorem course_of_progress {await : Await} {progress : Progress}
    (h : world.progress setup job await = progress) :
    course setup world job await = (conclude setup world job progress).after [await] := by
  rw [course_eq, h]

variable (setup world job) in
/-- A run goes on in one of the ways that follow the answer. -/
theorem World.follows (await : Await) :
    Follows setup job await (world await).answer (world.progress setup job await) :=
  follows_resume (world await).now (world await).breaker await (world await).answer

theorem process_of_decode {payload : List UInt8} (h : Job.decode payload = .ok job) :
    process setup world payload = course setup world job .claim := by
  simp only [process, begin, h]

theorem process_of_malformed {payload : List UInt8} {e : Job.DecodeError}
    (h : Job.decode payload = .error e) :
    process setup world payload = ⟨[], .reject .malformed⟩ := by
  simp only [process, begin, h]
  rfl

/-! ## What a course tells -/

/-- A run ends with the notification delivered if it had been delivered before, or if the gateway
takes it while the run waits for that, and not otherwise. -/
theorem disposition_eq_delivered_iff (first : Await) :
    (course setup world job first).disposition = .ack .delivered ↔
      first.hasDelivered ∨ ∃ await ∈ (course setup world job first).awaits,
        Returned.isDelivery ⟨await, (world await).answer⟩ := by
  -- Along the course, having delivered changes with the one answer that says so, and never back.
  induction first using course.induct setup world job with
  | case1 first next hnext ih =>
    have hstep := (World.follows setup world job first).hasDelivered
    rw [hnext, hasDelivered_waits] at hstep
    rw [course_of_progress hnext, conclude, Report.disposition_after, ih, hstep]
    simp [or_assoc]
  | case2 first disposition hends =>
    have hstep := (World.follows setup world job first).hasDelivered
    rw [hends, hasDelivered_ends] at hstep
    have hends' : disposition = .ack .delivered ↔
        first.hasDelivered ∨ Returned.isDelivery ⟨first, (world first).answer⟩ := by
      rw [← Bool.or_eq_true, ← hstep, decide_eq_true_iff]
    rw [course_of_progress hends, conclude, Report.disposition_after]
    simpa using hends'

end Courier.Run
