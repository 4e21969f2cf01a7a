import Courier.Proofs.Job
import Courier.Proofs.Run.Course
import Mathlib.Data.List.Basic

/-!
# The lifecycle of a message

What may become of a message, said without the steps in between: every way in which its run can
end, with all calls that it makes on this way and what has to be answered for the run to take it.
The ways exclude each other and leave nothing out, so they are one more description of what a run
does, and `process_lifecycle` says that it is the right one.

## Main definitions

* `Job.IsCopy`: a job with so many failures more.
* `Run.Attempt`: how the attempt to deliver comes out.
* `Run.Lifecycle`: how the run of a job ends.
* `Run.process_lifecycle`: every run ends so.
-/

namespace Courier

/-- The copy differs from the job in nothing but its count, which is higher by so many. -/
structure Job.IsCopy (job : Job) (failures : Nat) (copy : Job) : Prop where
  count : copy.retryCount.toNat = job.retryCount.toNat + failures
  same : copy = { job with retryCount := copy.retryCount }

namespace Job

variable {job copy other : Job} {n : Nat}

/-- There is one copy for each count. -/
theorem IsCopy.eq (h : job.IsCopy n copy) (hother : job.IsCopy n other) : copy = other := by
  have hcount : copy.retryCount = other.retryCount :=
    UInt32.toNat_inj.1 (h.count.trans hother.count.symm)
  rw [h.same, hother.same, hcount]

/-- The count of a copy that goes around is higher by one, as long as a retry is left. -/
theorem isCopy_next {limit : UInt32} (left : job.retryCount < limit) : job.IsCopy 1 job.next := by
  have hlt : job.retryCount.toNat < limit.toNat := UInt32.lt_iff_toNat_lt.1 left
  have hsize : limit.toNat < UInt32.size := limit.toNat_lt_size
  have hne : job.retryCount ≠ UInt32.ofNat (UInt32.size - 1) := by
    intro h
    rw [h] at hlt
    exact absurd (Nat.lt_of_lt_of_le hlt (Nat.le_sub_one_of_lt hsize)) (by decide)
  refine ⟨?_, rfl⟩
  rw [next, if_neg hne, UInt32.toNat_add]
  exact Nat.mod_eq_of_lt (by unfold UInt32.size at hsize; simp; omega)

end Job

namespace Run

/-- How an attempt to deliver comes out. -/
inductive Outcome where
  /-- The gateway has taken the notification. -/
  | delivered
  /-- The user has no device. -/
  | noEndpoint
  /-- The template cannot be rendered. -/
  | unrendered (e : Template.RenderError)
  /-- Trying again may help. -/
  | failed
  deriving DecidableEq, Repr

section

variable (setup : Setup) (world : World) (job : Job)

/-- The lookups have given everything that a notification is made of. -/
structure Prepared (profile : Profile) (template : Template) (rendered : Template.Rendered) :
    Prop where
  user : (world .user).answer = .ok (.deliverable profile)
  found : (world (.template profile.pushToken)).answer = .ok template
  rendering : (template.render job.variables).2 = .ok rendered

/-- What the breaker says to the delivery when the template has been found. -/
def permission (token : String) : Except Breaker.Rejection UInt64 :=
  ((world (.template token)).breaker.permit setup.breaker (world (.template token)).now).2

/-- The calls of an attempt to deliver, and how it comes out. -/
inductive Attempt : List Call → Outcome → Prop where
  /-- The user is not known. -/
  | userLost {e : LookupError} (user : (world .user).answer = .error e) :
      Attempt [.user job.userId] .failed
  /-- The user has no device. -/
  | unreachable (user : (world .user).answer = .ok .noEndpoint) :
      Attempt [.user job.userId] .noEndpoint
  /-- The template is not known. -/
  | templateLost {profile : Profile} {e : LookupError}
      (user : (world .user).answer = .ok (.deliverable profile))
      (lost : (world (.template profile.pushToken)).answer = .error e) :
      Attempt [.user job.userId, .template job.templateId] .failed
  /-- The template cannot be rendered. -/
  | unrendered {profile : Profile} {template : Template} {e : Template.RenderError}
      (user : (world .user).answer = .ok (.deliverable profile))
      (found : (world (.template profile.pushToken)).answer = .ok template)
      (rendering : (template.render job.variables).2 = .error e) :
      Attempt [.user job.userId, .template job.templateId] (.unrendered e)
  /-- The breaker does not let the delivery through: nothing is sent. -/
  | refused {profile : Profile} {template : Template} {rendered : Template.Rendered}
      {reason : Breaker.Rejection} (prepared : Prepared world job profile template rendered)
      (breaker : permission setup world profile.pushToken = .error reason) :
      Attempt [.user job.userId, .template job.templateId] .failed
  /-- The gateway does not take the notification, or not in time. -/
  | unsent {profile : Profile} {template : Template} {rendered : Template.Rendered}
      {generation : UInt64} {notification : Notification} {e : DeliveryError}
      (prepared : Prepared world job profile template rendered)
      (composed : notification = .compose job profile.pushToken template rendered)
      (breaker : permission setup world profile.pushToken = .ok generation)
      (send : (world (.send generation notification)).answer = .error e) :
      Attempt [.user job.userId, .template job.templateId, .send notification] .failed
  /-- The gateway takes it. -/
  | sent {profile : Profile} {template : Template} {rendered : Template.Rendered}
      {generation : UInt64} {notification : Notification}
      (prepared : Prepared world job profile template rendered)
      (composed : notification = .compose job profile.pushToken template rendered)
      (breaker : permission setup world profile.pushToken = .ok generation)
      (send : (world (.send generation notification)).answer = .ok ()) :
      Attempt [.user job.userId, .template job.templateId, .send notification] .delivered

/-- The call that reports a delivery, if there are reports. -/
def deliveryReport : List Call :=
  if setup.reportsStatus then
    [.status (.delivered job.requestId (world .reportDelivered).made)]
  else []

/-- The call that reports a failure, if there are reports. -/
def failureReport (error : String) (reason : RejectReason) : List Call :=
  if setup.reportsStatus then
    [.status (.failed job.requestId error (world (.reportFailed error reason)).made)]
  else []

/-- The call that claims the job. -/
def claimCall : Call :=
  .claim job.requestId setup.limits.recordSpan

/-- The job may be tried: the store has not said that it has a record, and a retry is left. -/
structure Accepted : Prop where
  own : (world .claim).answer ≠ .ok .alreadyPresent
  left : job.retryCount < setup.limits.maxRetries

/-- The calls of the run of a job, and how it ends. -/
inductive Lifecycle : List Call → Disposition → Prop where
  /-- The store has a record of the job. -/
  | duplicate (present : (world .claim).answer = .ok .alreadyPresent) :
      Lifecycle [claimCall setup job] (.ack .duplicate)
  /-- The job has gone around often enough. -/
  | exhausted (own : (world .claim).answer ≠ .ok .alreadyPresent)
      (spent : setup.limits.maxRetries ≤ job.retryCount) :
      Lifecycle (claimCall setup job :: failureReport setup world job
          (PermanentFailure.budgetExhausted job.retryCount setup.limits.maxRetries).text
          .budgetExhausted)
        (.reject .budgetExhausted)
  /-- There is nowhere to deliver to. -/
  | noEndpoint {calls : List Call} (accepted : Accepted setup world job)
      (attempt : Attempt setup world job calls .noEndpoint) :
      Lifecycle (claimCall setup job :: calls) (.ack .noEndpoint)
  /-- The template cannot be rendered. -/
  | unrendered {calls : List Call} {e : Template.RenderError} (accepted : Accepted setup world job)
      (attempt : Attempt setup world job calls (.unrendered e)) :
      Lifecycle (claimCall setup job :: calls ++ failureReport setup world job
          (PermanentFailure.render e.part e.reason.text).text .renderFailed)
        (.reject .renderFailed)
  /-- The notification is delivered, whatever is answered to what comes after. -/
  | delivered {calls : List Call} (accepted : Accepted setup world job)
      (attempt : Attempt setup world job calls .delivered) :
      Lifecycle (claimCall setup job :: calls ++
          .mark job.requestId setup.limits.recordSpan :: deliveryReport setup world job)
        (.ack .delivered)
  /-- A copy goes around, whatever is answered to the release of the claim. -/
  | resubmitted {calls : List Call} {copy : Job} (accepted : Accepted setup world job)
      (attempt : Attempt setup world job calls .failed) (isCopy : job.IsCopy 1 copy)
      (publish : (world .resubmit).answer = .ok ()) :
      Lifecycle (claimCall setup job :: calls ++ [.publish copy, .remove job.requestId])
        (.ack (.resubmitted copy.retryCount))
  /-- No copy could be sent around. -/
  | unpublished {calls : List Call} {copy : Job} {e : BrokerError}
      (accepted : Accepted setup world job) (attempt : Attempt setup world job calls .failed)
      (isCopy : job.IsCopy 1 copy) (publish : (world .resubmit).answer = .error e) :
      Lifecycle (claimCall setup job :: calls ++ .publish copy ::
          failureReport setup world job e.resubmissionText .resubmitFailed)
        (.reject .resubmitFailed)

/-- How a run goes on after its attempt to deliver. -/
def Outcome.progress : Outcome → Progress
  | .delivered => .waits .mark
  | .noEndpoint => .ends (.ack .noEndpoint)
  | .unrendered e =>
    reportFailure setup (PermanentFailure.render e.part e.reason.text).text .renderFailed
  | .failed => .waits .resubmit

/-- From where it waits, a run makes these calls and then goes on in this way. -/
def Leads (await : Await) (calls : List Call) (progress : Progress) : Prop :=
  ∃ awaits : List Await, awaits.map (world.call setup job) = calls ∧
    course setup world job await = (conclude setup world job progress).after awaits

end

variable {setup : Setup} {world : World} {job : Job}

/-! ## Answers -/

namespace World

/-- How a run goes on is told by the answer. -/
theorem progress_of_answer {await : Await} {answer : await.kind.Answer}
    (h : (world await).answer = answer) :
    world.progress setup job await =
      (resume setup (world await).now job (world await).breaker await answer).progress := by
  rw [progress, h]

variable (setup job) in
/-- Whatever else the store says to the claim, or if it says nothing, the job is looked at. -/
theorem progress_of_own (own : (world .claim).answer ≠ .ok .alreadyPresent) :
    ∃ notices, world.progress setup job .claim =
      (afterClaim setup job (world .claim).breaker notices).progress := by
  unfold progress
  generalize (world .claim).answer = answer at own
  match answer with
  | .ok .alreadyPresent => exact absurd rfl own
  | .ok .claimed => exact ⟨[], rfl⟩
  | .error (.failed e) => exact ⟨[.claimFailed e], rfl⟩
  | .error .timedOut => exact ⟨[.claimTimedOut], rfl⟩

theorem progress_of_spent (own : (world .claim).answer ≠ .ok .alreadyPresent)
    (spent : setup.limits.maxRetries ≤ job.retryCount) :
    world.progress setup job .claim = reportFailure setup
      (PermanentFailure.budgetExhausted job.retryCount setup.limits.maxRetries).text
      .budgetExhausted := by
  obtain ⟨notices, h⟩ := progress_of_own setup job own
  rw [h, afterClaim, if_pos spent]
  rfl

theorem progress_of_accepted (accepted : Accepted setup world job) :
    world.progress setup job .claim = .waits .user := by
  obtain ⟨notices, h⟩ := progress_of_own setup job accepted.own
  rw [h, afterClaim, if_neg (UInt32.not_le.2 accepted.left)]

/-- A template is rendered, and then the breaker is asked. -/
theorem progress_of_template {token : String} {template : Template}
    (found : (world (.template token)).answer = .ok template) :
    world.progress setup job (.template token) =
      match (template.render job.variables).2, permission setup world token with
      | .error e, _ =>
        reportFailure setup (PermanentFailure.render e.part e.reason.text).text .renderFailed
      | .ok rendered, .ok generation =>
        .waits (.send generation (.compose job token template rendered))
      | .ok _, .error _ => .waits .resubmit := by
  have hprogress : world.progress setup job (.template token) =
      (afterTemplate setup (world (.template token)).now job (world (.template token)).breaker
        token template).progress := progress_of_answer found
  rw [hprogress, afterTemplate, permission]
  generalize template.render job.variables = rendering
  generalize (world (.template token)).breaker.permit setup.breaker
    (world (.template token)).now = permit
  match rendering, permit with
  | (_, .error e), _ => rfl
  | (_, .ok rendered), (_, .ok generation) => rfl
  | (_, .ok rendered), (_, .error reason) => rfl

/-! What the store answers after the delivery or after the copy does not matter, and neither does
what is answered to a report. -/

variable (setup world job)

theorem progress_mark : world.progress setup job .mark = reportDelivery setup := by
  unfold progress
  generalize (world .mark).answer = answer
  match answer with
  | .ok () => rfl
  | .error e => rfl

theorem progress_release :
    world.progress setup job .release = .ends (.ack (.resubmitted job.next.retryCount)) := by
  unfold progress
  generalize (world .release).answer = answer
  match answer with
  | .ok () => rfl
  | .error e => rfl

theorem progress_reportDelivered :
    world.progress setup job .reportDelivered = .ends (.ack .delivered) := by
  unfold progress
  generalize (world .reportDelivered).answer = answer
  match answer with
  | .ok () => rfl
  | .error e => rfl

theorem progress_reportFailed (error : String) (reason : RejectReason) :
    world.progress setup job (.reportFailed error reason) = .ends (.reject reason) := by
  unfold progress
  generalize (world (.reportFailed error reason)).answer = answer
  match answer with
  | .ok () => rfl
  | .error e => rfl

end World

/-! ## Stretches of a run -/

namespace Leads

variable {await next : Await} {calls more : List Call} {progress : Progress}
  {disposition : Disposition}

/-- A run waits for one thing. -/
theorem one (h : world.progress setup job await = progress) :
    Leads setup world job await [world.call setup job await] progress :=
  ⟨[await], rfl, course_of_progress h⟩

theorem trans (first : Leads setup world job await calls (.waits next))
    (second : Leads setup world job next more progress) :
    Leads setup world job await (calls ++ more) progress := by
  obtain ⟨past, rfl, hpast⟩ := first
  obtain ⟨later, rfl, hlater⟩ := second
  refine ⟨past ++ later, List.map_append, ?_⟩
  rw [hpast, conclude, hlater, Report.after_after]

/-- A run waits for one thing, and then for others. -/
theorem cons (h : world.progress setup job await = .waits next)
    (rest : Leads setup world job next more progress) :
    Leads setup world job await (world.call setup job await :: more) progress :=
  (one h).trans rest

/-- A stretch that leads to the end is all that there is. -/
theorem calls_eq (h : Leads setup world job await calls (.ends disposition)) :
    (course setup world job await).calls setup world job = calls := by
  obtain ⟨awaits, rfl, hcourse⟩ := h
  rw [hcourse, conclude]
  simp [Report.calls]

theorem disposition_eq (h : Leads setup world job await calls (.ends disposition)) :
    (course setup world job await).disposition = disposition := by
  obtain ⟨awaits, -, hcourse⟩ := h
  rw [hcourse]
  rfl

/-- A failure is reported, if there are reports, and the message is rejected. -/
theorem reject {error : String} {reason : RejectReason}
    (h : Leads setup world job await calls (reportFailure setup error reason)) :
    Leads setup world job await (calls ++ failureReport setup world job error reason)
      (.ends (.reject reason)) := by
  unfold reportFailure at h
  unfold failureReport
  split at h
  · next reports =>
    rw [if_pos reports]
    exact h.trans (one (world.progress_reportFailed setup job error reason))
  · next reports => rwa [if_neg reports, List.append_nil]

/-- A delivery is reported, if there are reports, and the message is acknowledged. -/
theorem acknowledge (h : Leads setup world job await calls (reportDelivery setup)) :
    Leads setup world job await (calls ++ deliveryReport setup world job)
      (.ends (.ack .delivered)) := by
  unfold reportDelivery at h
  unfold deliveryReport
  split at h
  · next reports =>
    rw [if_pos reports]
    exact h.trans (one (world.progress_reportDelivered setup job))
  · next reports => rwa [if_neg reports, List.append_nil]

end Leads

/-! ## The ways of a run -/

theorem Prepared.progress_eq {profile : Profile} {template : Template}
    {rendered : Template.Rendered} (h : Prepared world job profile template rendered) :
    world.progress setup job (.template profile.pushToken) =
      match permission setup world profile.pushToken with
      | .ok generation =>
        .waits (.send generation (.compose job profile.pushToken template rendered))
      | .error _ => .waits .resubmit := by
  rw [World.progress_of_template h.found, h.rendering]
  cases permission setup world profile.pushToken <;> rfl

/-- An attempt is what a run does until it knows how the attempt has come out. -/
theorem Attempt.leads {calls : List Call} {outcome : Outcome}
    (h : Attempt setup world job calls outcome) :
    Leads setup world job .user calls (outcome.progress setup) := by
  cases h with
  | userLost user => exact .one (World.progress_of_answer user)
  | unreachable user => exact .one (World.progress_of_answer user)
  | templateLost user lost =>
    exact .cons (World.progress_of_answer user) (.one (World.progress_of_answer lost))
  | unrendered user found rendering =>
    refine .cons (World.progress_of_answer user) (.one ?_)
    rw [World.progress_of_template found, rendering]
    rfl
  | refused prepared breaker =>
    refine .cons (World.progress_of_answer prepared.user) (.one ?_)
    rw [prepared.progress_eq, breaker]
    rfl
  | unsent prepared composed breaker send =>
    refine .cons (World.progress_of_answer prepared.user)
      (.cons ?_ (.one (World.progress_of_answer send)))
    rw [prepared.progress_eq, breaker, composed]
  | sent prepared composed breaker send =>
    refine .cons (World.progress_of_answer prepared.user)
      (.cons ?_ (.one (World.progress_of_answer send)))
    rw [prepared.progress_eq, breaker, composed]

variable (setup world job) in
/-- Every attempt comes out in some way. -/
theorem exists_attempt : ∃ calls outcome, Attempt setup world job calls outcome := by
  obtain ⟨answer, user⟩ : ∃ a : Except LookupError Recipient, (world .user).answer = a :=
    ⟨_, rfl⟩
  match answer with
  | .error e => exact ⟨_, _, .userLost user⟩
  | .ok .noEndpoint => exact ⟨_, _, .unreachable user⟩
  | .ok (.deliverable profile) =>
    obtain ⟨answer, found⟩ : ∃ a : Except LookupError Template,
      (world (.template profile.pushToken)).answer = a := ⟨_, rfl⟩
    match answer with
    | .error e => exact ⟨_, _, .templateLost user found⟩
    | .ok template =>
      cases rendering : (template.render job.variables).2 with
      | error e => exact ⟨_, _, .unrendered user found rendering⟩
      | ok rendered =>
        have prepared : Prepared world job profile template rendered := ⟨user, found, rendering⟩
        cases breaker : permission setup world profile.pushToken with
        | error reason => exact ⟨_, _, .refused prepared breaker⟩
        | ok generation =>
          obtain ⟨answer, send⟩ : ∃ a : Except DeliveryError Unit,
            (world (.send generation
              (.compose job profile.pushToken template rendered))).answer = a := ⟨_, rfl⟩
          match answer with
          | .ok () => exact ⟨_, _, .sent prepared rfl breaker send⟩
          | .error e => exact ⟨_, _, .unsent prepared rfl breaker send⟩

theorem Accepted.isCopy_iff {copy : Job} (accepted : Accepted setup world job) :
    job.IsCopy 1 copy ↔ copy = job.next := by
  have hnext := Job.isCopy_next accepted.left
  constructor
  · intro h
    exact h.eq hnext
  · rintro rfl
    exact hnext

/-- After an accepted claim comes the attempt. -/
theorem Accepted.leads {calls : List Call} {outcome : Outcome}
    (accepted : Accepted setup world job) (attempt : Attempt setup world job calls outcome) :
    Leads setup world job .claim (claimCall setup job :: calls) (outcome.progress setup) :=
  .cons (World.progress_of_accepted accepted) attempt.leads

/-- A way that a run may take is what it does. -/
theorem Lifecycle.leads {calls : List Call} {disposition : Disposition}
    (h : Lifecycle setup world job calls disposition) :
    Leads setup world job .claim calls (.ends disposition) := by
  cases h with
  | duplicate present => exact .one (World.progress_of_answer present)
  | exhausted own spent => exact (Leads.one (World.progress_of_spent own spent)).reject
  | noEndpoint accepted attempt => exact accepted.leads attempt
  | unrendered accepted attempt => exact (accepted.leads attempt).reject
  | delivered accepted attempt =>
    have hmark : Leads setup world job .mark [.mark job.requestId setup.limits.recordSpan]
        (reportDelivery setup) := .one (world.progress_mark setup job)
    exact (accepted.leads attempt).trans hmark.acknowledge
  | resubmitted accepted attempt isCopy publish =>
    obtain rfl := accepted.isCopy_iff.1 isCopy
    exact (accepted.leads attempt).trans (.cons (World.progress_of_answer publish)
      (.one (world.progress_release setup job)))
  | @unpublished _ _ e accepted attempt isCopy publish =>
    obtain rfl := accepted.isCopy_iff.1 isCopy
    have hpublish : Leads setup world job .resubmit [.publish job.next]
        (reportFailure setup e.resubmissionText .resubmitFailed) :=
      .one (World.progress_of_answer publish)
    exact (accepted.leads attempt).trans hpublish.reject

variable (setup world job) in
/-- Every run takes one of the ways. -/
theorem exists_lifecycle : ∃ calls disposition, Lifecycle setup world job calls disposition := by
  by_cases present : (world .claim).answer = .ok .alreadyPresent
  · exact ⟨_, _, .duplicate present⟩
  · by_cases spent : setup.limits.maxRetries ≤ job.retryCount
    · exact ⟨_, _, .exhausted present spent⟩
    · have left : job.retryCount < setup.limits.maxRetries := UInt32.not_le.1 spent
      have accepted : Accepted setup world job := ⟨present, left⟩
      obtain ⟨calls, outcome, attempt⟩ := exists_attempt setup world job
      cases outcome with
      | delivered => exact ⟨_, _, .delivered accepted attempt⟩
      | noEndpoint => exact ⟨_, _, .noEndpoint accepted attempt⟩
      | unrendered e => exact ⟨_, _, .unrendered accepted attempt⟩
      | failed =>
        obtain ⟨answer, publish⟩ : ∃ a : Except BrokerError Unit, (world .resubmit).answer = a :=
          ⟨_, rfl⟩
        match answer with
        | .ok () => exact ⟨_, _, .resubmitted accepted attempt (Job.isCopy_next left) publish⟩
        | .error e => exact ⟨_, _, .unpublished accepted attempt (Job.isCopy_next left) publish⟩

/-- A run takes the way that its calls and its disposition are those of. -/
theorem lifecycle_iff {calls : List Call} {disposition : Disposition} :
    Lifecycle setup world job calls disposition ↔
      (course setup world job .claim).calls setup world job = calls ∧
        (course setup world job .claim).disposition = disposition := by
  constructor
  · intro h
    exact ⟨h.leads.calls_eq, h.leads.disposition_eq⟩
  · rintro ⟨rfl, rfl⟩
    obtain ⟨calls, disposition, h⟩ := exists_lifecycle setup world job
    rwa [h.leads.calls_eq, h.leads.disposition_eq]

namespace Lifecycle

variable {calls : List Call} {disposition : Disposition}

variable (setup world job) in
/-- The way that a run takes. -/
theorem of_course : Lifecycle setup world job
    ((course setup world job .claim).calls setup world job)
    (course setup world job .claim).disposition :=
  lifecycle_iff.2 ⟨rfl, rfl⟩

theorem present_of_duplicate (h : Lifecycle setup world job calls (.ack .duplicate)) :
    (world .claim).answer = .ok .alreadyPresent := by
  cases h with
  | duplicate present => exact present

theorem spent_of_exhausted (h : Lifecycle setup world job calls (.reject .budgetExhausted)) :
    (world .claim).answer ≠ .ok .alreadyPresent ∧ setup.limits.maxRetries ≤ job.retryCount := by
  cases h with
  | exhausted own spent => exact ⟨own, spent⟩

theorem ne_malformed (h : Lifecycle setup world job calls disposition) :
    disposition ≠ .reject .malformed := by
  cases h <;> simp

end Lifecycle

/-- The gateway has taken a notification that was waited for. -/
theorem exists_isDelivery_iff {awaits : List Await} :
    (∃ await ∈ awaits, Returned.isDelivery ⟨await, (world await).answer⟩) ↔
      ∃ generation notification, .send generation notification ∈ awaits ∧
        (world (.send generation notification)).answer = .ok () := by
  constructor
  · rintro ⟨await, hmem, hdelivery⟩
    cases await with
    | send generation notification =>
      refine ⟨generation, notification, hmem, ?_⟩
      generalize (world (.send generation notification)).answer = answer at hdelivery
      match answer with
      | .ok () => rfl
      | .error e => exact absurd hdelivery Bool.false_ne_true
    | _ => exact absurd hdelivery Bool.false_ne_true
  · rintro ⟨generation, notification, hmem, hsend⟩
    refine ⟨_, hmem, ?_⟩
    rw [hsend]
    rfl

/-! ## The lifecycle -/

/-- **Every message comes to one end, in one of the listed ways.** A message that is no job is
rejected without any call, and no other is rejected for this. The calls of the run of a job and its
disposition are those of a way, and of one only. It is a duplicate exactly if the store says so, it
is given up exactly if the store does not say so and no retry is left, and it is delivered exactly
if the gateway takes its notification. -/
theorem process_lifecycle (setup : Setup) (world : World) (payload : List UInt8) :
    (∀ e, Job.decode payload = .error e →
      process setup world payload = ⟨[], .reject .malformed⟩) ∧
    ((process setup world payload).disposition = .reject .malformed ↔
      ∃ e, Job.decode payload = .error e) ∧
    ∀ job, Job.decode payload = .ok job →
      (∀ calls disposition, Lifecycle setup world job calls disposition ↔
        (process setup world payload).calls setup world job = calls ∧
          (process setup world payload).disposition = disposition) ∧
      ((process setup world payload).disposition = .ack .duplicate ↔
        (world .claim).answer = .ok .alreadyPresent) ∧
      ((process setup world payload).disposition = .reject .budgetExhausted ↔
        (world .claim).answer ≠ .ok .alreadyPresent ∧
          setup.limits.maxRetries ≤ job.retryCount) ∧
      ((process setup world payload).disposition = .ack .delivered ↔
        ∃ generation notification,
          .send generation notification ∈ (process setup world payload).awaits ∧
            (world (.send generation notification)).answer = .ok ()) := by
  refine ⟨fun e h => process_of_malformed h, ⟨?_, ?_⟩, ?_⟩
  · intro hmalformed
    cases h : Job.decode payload with
    | error e => exact ⟨e, rfl⟩
    | ok job =>
      rw [process_of_decode h] at hmalformed
      exact absurd hmalformed (Lifecycle.of_course setup world job).ne_malformed
  · rintro ⟨e, h⟩
    rw [process_of_malformed h]
  · intro job h
    rw [process_of_decode h]
    refine ⟨fun calls disposition => lifecycle_iff, ⟨?_, ?_⟩, ⟨?_, ?_⟩, ?_⟩
    · intro hduplicate
      have way := Lifecycle.of_course setup world job
      rw [hduplicate] at way
      exact way.present_of_duplicate
    · intro present
      exact (Lifecycle.duplicate present).leads.disposition_eq
    · intro hexhausted
      have way := Lifecycle.of_course setup world job
      rw [hexhausted] at way
      exact way.spent_of_exhausted
    · rintro ⟨own, spent⟩
      exact (Lifecycle.exhausted own spent).leads.disposition_eq
    · rw [disposition_eq_delivered_iff, exists_isDelivery_iff]
      simp [Await.hasDelivered]

/-- A greeting is delivered, with six calls, if all is well. -/
theorem greeting_delivered :
    let setup : Setup := {}
    let job : Job := { requestId := "r1", userId := "u1", templateId := "t1"
                       «variables» := .ofList [("name", "Ann")] }
    let template : Template := { title := "Hello", body := "Dear \x7b\x7b.Vars.name\x7d\x7d" }
    let notification : Notification := ⟨"p1", "Hello", "Dear Ann", "", none, ""⟩
    let world := World.fine ⟨0, 0⟩ (.start {} 0) { pushToken := "p1" } template
    Job.decode job.encode = .ok job ∧
      (process setup world job.encode).calls setup world job =
        [.claim "r1" 604800000, .user "u1", .template "t1", .send notification,
          .mark "r1" 604800000, .status (.delivered "r1" ⟨0, 0⟩)] ∧
      (process setup world job.encode).disposition = .ack .delivered := by
  intro setup job template notification world
  have hdecode : Job.decode job.encode = .ok job := Job.decode_encode (by decide +kernel)
  have prepared : Prepared world job { pushToken := "p1" } template ⟨"Hello", "Dear Ann"⟩ := by
    refine ⟨?_, rfl, ?_⟩
    · exact congrArg Except.ok (if_pos (by decide +kernel))
    · decide +kernel
  have permitted : permission setup world "p1" = .ok 0 := by decide +kernel
  have attempt : Attempt setup world job
      [.user "u1", .template "t1", .send notification] .delivered :=
    .sent prepared rfl permitted rfl
  have way := Lifecycle.delivered ⟨by rintro ⟨⟩, by decide +kernel⟩ attempt
  exact ⟨hdecode, ((process_lifecycle setup world job.encode).2.2 job hdecode).1 _ _ |>.1 way⟩

end Run

end Courier
