import Courier.Run.Basic

/-!
# The trail of a run

What a run does after an answer depends on the moment and on the breaker, which all runs share. How
it may go on at all does not: `Follows` lists the ways, answer by answer, and `follows_resume` says
that `resume` takes one of them. A trail is what a run leaves behind it, each call that has returned
with its answer, and everything that is said about single runs is said about trails.

## Main definitions

* `Follows`: how a run may go on after an answer.
* `Returned`: a call that has returned, with its answer.
* `Trail`: the calls of a run so far, and how it goes on.
* `Trail.countP_isDelivery`: how often a run has delivered.
* `made`: the calls that a run has made, the one that it waits for included.
-/

namespace Courier

/-- The job itself has come to its end, and not only this run of it. -/
def Disposition.isFinal : Disposition → Bool
  | ack .delivered | ack .noEndpoint | reject _ => true
  | ack .duplicate | ack (.resubmitted _) => false

namespace Run

variable {setup : Setup} {job : Job}

/-- How a run may go on after an answer, whatever the moment and the breaker. -/
inductive Follows (setup : Setup) (job : Job) :
    (await : Await) → await.kind.Answer → Progress → Prop where
  /-- The job has a record. -/
  | duplicate : Follows setup job .claim (.ok .alreadyPresent) (.ends (.ack .duplicate))
  /-- The job is the run's own, or the store did not say, but it has been around too often. -/
  | exhausted {answer : Except ClaimError Claim} (own : answer ≠ .ok .alreadyPresent)
      (spent : setup.limits.maxRetries ≤ job.retryCount) :
      Follows setup job .claim answer (reportFailure setup
        (PermanentFailure.budgetExhausted job.retryCount setup.limits.maxRetries).text
        .budgetExhausted)
  /-- The job is the run's own, or the store did not say. -/
  | accepted {answer : Except ClaimError Claim} (own : answer ≠ .ok .alreadyPresent)
      (left : ¬ setup.limits.maxRetries ≤ job.retryCount) :
      Follows setup job .claim answer (.waits .user)
  /-- The user has a device. -/
  | reachable (profile : Profile) :
      Follows setup job .user (.ok (.deliverable profile)) (.waits (.template profile.pushToken))
  /-- The user has none. -/
  | unreachable : Follows setup job .user (.ok .noEndpoint) (.ends (.ack .noEndpoint))
  /-- The user is not known. -/
  | userLost (e : LookupError) : Follows setup job .user (.error e) (.waits .resubmit)
  /-- The template cannot be rendered. -/
  | unrendered {token : String} {template : Template} {e : Template.RenderError}
      (rendering : (template.render job.variables).2 = .error e) :
      Follows setup job (.template token) (.ok template) (reportFailure setup
        (PermanentFailure.render e.part e.reason.text).text .renderFailed)
  /-- The breaker lets the delivery through. -/
  | admitted {token : String} {template : Template} {rendered : Template.Rendered}
      (rendering : (template.render job.variables).2 = .ok rendered) (generation : UInt64) :
      Follows setup job (.template token) (.ok template)
        (.waits (.send generation (Notification.compose job token template rendered)))
  /-- The breaker does not. -/
  | refused {token : String} {template : Template} {rendered : Template.Rendered}
      (rendering : (template.render job.variables).2 = .ok rendered) :
      Follows setup job (.template token) (.ok template) (.waits .resubmit)
  /-- The template is not known. -/
  | templateLost (token : String) (e : LookupError) :
      Follows setup job (.template token) (.error e) (.waits .resubmit)
  /-- The notification is delivered. -/
  | sent (generation : UInt64) (notification : Notification) :
      Follows setup job (.send generation notification) (.ok ()) (.waits .mark)
  /-- It is not. -/
  | unsent (generation : UInt64) (notification : Notification) (e : DeliveryError) :
      Follows setup job (.send generation notification) (.error e) (.waits .resubmit)
  /-- The store knows that the job is done, or does not. -/
  | marked (answer : Except StoreError Unit) :
      Follows setup job .mark answer (reportDelivery setup)
  /-- The delivery has been reported, or could not be. -/
  | reported (answer : Except BrokerError Unit) :
      Follows setup job .reportDelivered answer (.ends (.ack .delivered))
  /-- A copy goes around. -/
  | copied : Follows setup job .resubmit (.ok ()) (.waits .release)
  /-- No copy could be sent around. -/
  | uncopied (e : BrokerError) : Follows setup job .resubmit (.error e)
      (reportFailure setup e.resubmissionText .resubmitFailed)
  /-- The claim is released, or could not be. -/
  | released (answer : Except StoreError Unit) :
      Follows setup job .release answer (.ends (.ack (.resubmitted job.next.retryCount)))
  /-- The failure has been reported, or could not be. -/
  | reportedFailed (error : String) (reason : RejectReason) (answer : Except BrokerError Unit) :
      Follows setup job (.reportFailed error reason) answer (.ends (.reject reason))

theorem follows_afterClaim {answer : Except ClaimError Claim} (own : answer ≠ .ok .alreadyPresent)
    (breaker : Breaker) (notices : List Notice) :
    Follows setup job .claim answer (afterClaim setup job breaker notices).progress := by
  unfold afterClaim
  split
  · next spent => exact .exhausted own spent
  · next left => exact .accepted own left

theorem follows_afterTemplate (now : Nat) (breaker : Breaker) (token : String)
    (template : Template) :
    Follows setup job (.template token) (.ok template)
      (afterTemplate setup now job breaker token template).progress := by
  unfold afterTemplate
  split
  · next _ e rendering => exact .unrendered (by rw [rendering])
  · next _ rendered rendering =>
    have rendering : (template.render job.variables).2 = .ok rendered := by rw [rendering]
    split
    · exact .admitted rendering _
    · exact .refused rendering

theorem follows_afterSend (now : Nat) (breaker : Breaker) (generation : UInt64)
    (notification : Notification) (answer : Except DeliveryError Unit) :
    Follows setup job (.send generation notification) answer
      (afterSend setup now job breaker generation answer).progress := by
  cases answer with
  | ok _ => exact .sent generation notification
  | error e => exact .unsent generation notification e

/-- A run goes on in one of the ways that follow the answer. -/
theorem follows_resume (now : Nat) (breaker : Breaker) (await : Await)
    (answer : await.kind.Answer) :
    Follows setup job await answer (resume setup now job breaker await answer).progress := by
  cases await with
  | claim =>
    match answer with
    | .ok .alreadyPresent => exact .duplicate
    | .ok .claimed => exact follows_afterClaim (by simp) ..
    | .error (.failed _) => exact follows_afterClaim (by simp) ..
    | .error .timedOut => exact follows_afterClaim (by simp) ..
  | user =>
    match answer with
    | .ok (.deliverable profile) => exact .reachable profile
    | .ok .noEndpoint => exact .unreachable
    | .error e => exact .userLost e
  | template token =>
    match answer with
    | .ok template => exact follows_afterTemplate now breaker token template
    | .error e => exact .templateLost token e
  | send generation notification =>
    exact follows_afterSend now breaker generation notification answer
  | mark =>
    match answer with
    | .ok () => exact .marked (.ok ())
    | .error e => exact .marked (.error e)
  | reportDelivered =>
    match answer with
    | .ok () => exact .reported (.ok ())
    | .error e => exact .reported (.error e)
  | resubmit =>
    match answer with
    | .ok () => exact .copied
    | .error e => exact .uncopied e
  | release =>
    match answer with
    | .ok () => exact .released (.ok ())
    | .error e => exact .released (.error e)
  | reportFailed error reason =>
    match answer with
    | .ok () => exact .reportedFailed error reason (.ok ())
    | .error e => exact .reportedFailed error reason (.error e)

/-! ## What a run has delivered -/

/-- The delivery of a run that waits for this has come out well. -/
def Await.hasDelivered : Await → Bool
  | mark | reportDelivered => true
  | _ => false

/-- The delivery of a run has come out well. -/
def Progress.hasDelivered : Progress → Bool
  | waits await => await.hasDelivered
  | ends disposition => disposition = .ack .delivered

@[simp] theorem hasDelivered_waits (await : Await) :
    (Progress.waits await).hasDelivered = await.hasDelivered := rfl

@[simp] theorem hasDelivered_ends (disposition : Disposition) :
    (Progress.ends disposition).hasDelivered = decide (disposition = .ack .delivered) := rfl

@[simp] theorem hasDelivered_reportFailure (error : String) (reason : RejectReason) :
    (reportFailure setup error reason).hasDelivered = false := by
  unfold reportFailure; split <;> rfl

@[simp] theorem hasDelivered_reportDelivery : (reportDelivery setup).hasDelivered = true := by
  unfold reportDelivery; split <;> rfl

@[simp] theorem reportFailure_ne_claim (error : String) (reason : RejectReason) :
    reportFailure setup error reason ≠ .waits .claim := by
  unfold reportFailure; split <;> simp

@[simp] theorem reportDelivery_ne_claim : reportDelivery setup ≠ .waits .claim := by
  unfold reportDelivery; split <;> simp

/-- A claim is made once, before everything else. -/
theorem Follows.ne_claim {await : Await} {answer : await.kind.Answer} {progress : Progress}
    (h : Follows setup job await answer progress) : progress ≠ .waits .claim := by
  cases h <;> simp

/-! ## Whose the record is -/

/-- The record of the job is the run's own: the run is past its claim and has not released it. -/
def Progress.keepsRecord : Progress → Bool
  | waits await => await ≠ .claim
  | ends disposition => disposition.isFinal

@[simp] theorem keepsRecord_waits (await : Await) :
    (Progress.waits await).keepsRecord = decide (await ≠ .claim) := rfl

@[simp] theorem keepsRecord_ends (disposition : Disposition) :
    (Progress.ends disposition).keepsRecord = disposition.isFinal := rfl

@[simp] theorem keepsRecord_reportFailure (error : String) (reason : RejectReason) :
    (reportFailure setup error reason).keepsRecord = true := by
  unfold reportFailure; split <;> rfl

@[simp] theorem keepsRecord_reportDelivery : (reportDelivery setup).keepsRecord = true := by
  unfold reportDelivery; split <;> rfl

theorem Progress.keepsRecord_of_hasDelivered {progress : Progress} (h : progress.hasDelivered) :
    progress.keepsRecord := by
  cases progress with
  | waits await => cases await <;> simp_all [Await.hasDelivered]
  | ends disposition => simp_all [Disposition.isFinal]

/-- A run whose claim was granted has the record from then on. -/
theorem Follows.keepsRecord_of_claimed {progress : Progress}
    (h : Follows setup job .claim (.ok .claimed) progress) : progress.keepsRecord := by
  cases h <;> simp

/-- A run that is told that the job has a record is at its end. -/
theorem Follows.eq_duplicate {progress : Progress}
    (h : Follows setup job .claim (.ok .alreadyPresent) progress) :
    progress = .ends (.ack .duplicate) := by
  cases h with
  | duplicate => rfl
  | exhausted own _ => exact absurd rfl own
  | accepted own _ => exact absurd rfl own

/-- Past its claim, a run has the record until the answer to its release. -/
theorem Follows.keepsRecord {await : Await} {answer : await.kind.Answer} {progress : Progress}
    (h : Follows setup job await answer progress) (hne : await ≠ .claim) :
    progress.keepsRecord = decide (await ≠ .release) := by
  cases h <;> simp_all [Disposition.isFinal]

/-- Only the answer to its claim tells a run that the job has a record. -/
theorem Follows.ne_duplicate {await : Await} {answer : await.kind.Answer} {progress : Progress}
    (h : Follows setup job await answer progress) (hne : await ≠ .claim) :
    progress ≠ .ends (.ack .duplicate) := by
  cases h <;> simp_all [reportFailure, reportDelivery] <;> split <;> simp

/-- Nothing but the answer that the job has a record does so. -/
theorem Follows.ne_duplicate_of_own {answer : Except ClaimError Claim} {progress : Progress}
    (h : Follows setup job .claim answer progress) (own : answer ≠ .ok .alreadyPresent) :
    progress ≠ .ends (.ack .duplicate) := by
  cases h with
  | duplicate => exact absurd rfl own
  | exhausted own spent => unfold reportFailure; split <;> simp
  | accepted own left => simp

/-- The job has been given to the run, or the run has gone on without being told. -/
def Progress.isPastClaim : Progress → Bool
  | waits await => await ≠ .claim
  | ends disposition => disposition ≠ .ack .duplicate

@[simp] theorem isPastClaim_waits (await : Await) :
    (Progress.waits await).isPastClaim = decide (await ≠ .claim) := rfl

theorem Progress.isPastClaim_of_keepsRecord {progress : Progress} (h : progress.keepsRecord) :
    progress.isPastClaim := by
  cases progress with
  | waits await => exact h
  | ends disposition =>
    refine decide_eq_true ?_
    rintro rfl
    exact Bool.false_ne_true h

/-- Past its claim, a run does not come back to it. -/
theorem Follows.isPastClaim {await : Await} {answer : await.kind.Answer} {progress : Progress}
    (h : Follows setup job await answer progress) (hne : await ≠ .claim) :
    progress.isPastClaim := by
  have hdup := h.ne_duplicate hne
  have hclaim := h.ne_claim
  cases progress with
  | waits next => exact decide_eq_true fun heq => hclaim (by rw [heq])
  | ends disposition => exact decide_eq_true fun heq => hdup (by rw [heq])

/-! ## Where the job is -/

/-- The run has the job, or the job has ended with it: no copy of it goes around instead. -/
def Progress.hasJob : Progress → Bool
  | waits await => await ≠ .release
  | ends disposition => disposition.isFinal || disposition = .ack .duplicate

@[simp] theorem hasJob_waits (await : Await) :
    (Progress.waits await).hasJob = decide (await ≠ .release) := rfl

@[simp] theorem hasJob_ends (disposition : Disposition) :
    (Progress.ends disposition).hasJob =
      (disposition.isFinal || decide (disposition = .ack .duplicate)) := rfl

@[simp] theorem hasJob_reportFailure (error : String) (reason : RejectReason) :
    (reportFailure setup error reason).hasJob = true := by
  unfold reportFailure; split <;> rfl

@[simp] theorem hasJob_reportDelivery : (reportDelivery setup).hasJob = true := by
  unfold reportDelivery; split <;> rfl

/-! ## The calls of a run -/

/-- A call that has returned, with its answer. -/
structure Returned where
  await : Await
  answer : await.kind.Answer

namespace Returned

/-- The gateway has taken the notification. -/
def isDelivery : Returned → Bool
  | ⟨.send .., .ok ()⟩ => true
  | _ => false

/-- The store has given the job to the run. -/
def isClaim : Returned → Bool
  | ⟨.claim, .ok .claimed⟩ => true
  | _ => false

/-- A copy of the job goes around. -/
def isCopy : Returned → Bool
  | ⟨.resubmit, .ok ()⟩ => true
  | _ => false

end Returned

/-- After an answer a run has delivered if it had before, or if the answer is that it has. -/
theorem Follows.hasDelivered {await : Await} {answer : await.kind.Answer} {progress : Progress}
    (h : Follows setup job await answer progress) :
    progress.hasDelivered =
      (await.hasDelivered || Returned.isDelivery ⟨await, answer⟩) := by
  cases h <;> simp [Await.hasDelivered, Returned.isDelivery]

/-- What a run has delivered before, it does not deliver again. -/
theorem Follows.not_isDelivery {await : Await} {answer : await.kind.Answer} {progress : Progress}
    (h : Follows setup job await answer progress) (done : await.hasDelivered) :
    Returned.isDelivery ⟨await, answer⟩ = false := by
  cases h <;> simp_all [Await.hasDelivered, Returned.isDelivery]

/-- A run gives the job away once, by sending a copy of it around. -/
theorem Follows.hasJob {await : Await} {answer : await.kind.Answer} {progress : Progress}
    (h : Follows setup job await answer progress) :
    progress.hasJob =
      (decide (await ≠ .release) && !Returned.isCopy ⟨await, answer⟩) := by
  cases h <;> simp [Returned.isCopy, Disposition.isFinal]

/-- The calls of a run that have returned, from the first, and how it goes on after them. -/
inductive Trail (setup : Setup) (job : Job) : List Returned → Progress → Prop where
  | start : Trail setup job [] (.waits .claim)
  | next {past : List Returned} {await : Await} {answer : await.kind.Answer} {progress : Progress}
      (before : Trail setup job past (.waits await))
      (follows : Follows setup job await answer progress) :
      Trail setup job (past ++ [⟨await, answer⟩]) progress

namespace Trail

variable {past : List Returned} {progress : Progress}

/-- Nothing has returned to a run that waits for its claim. -/
theorem past_eq_nil (h : Trail setup job past (.waits .claim)) : past = [] := by
  generalize hp : Progress.waits .claim = progress at h
  cases h with
  | start => rfl
  | next before follows => exact absurd hp.symm follows.ne_claim

/-- A run to which nothing has returned waits for its claim. -/
theorem eq_claim_of_nil (h : Trail setup job [] progress) : progress = .waits .claim := by
  generalize hpast : ([] : List Returned) = past at h
  cases h with
  | start => rfl
  | next before follows => simp at hpast

/-- A run delivers at most once, and what it waits for tells whether it has. -/
theorem countP_isDelivery (h : Trail setup job past progress) :
    past.countP Returned.isDelivery = if progress.hasDelivered then 1 else 0 := by
  induction h with
  | start => rfl
  | @next past await answer progress before follows ih =>
    rw [List.countP_append, ih, follows.hasDelivered, hasDelivered_waits]
    cases hdone : await.hasDelivered with
    | false => simp [List.countP_cons]
    | true => simp [follows.not_isDelivery hdone]

end Trail

/-! ## The calls that a run has made -/

/-- What a run waits for, if it does. -/
def Progress.awaited : Progress → List Await
  | waits await => [await]
  | ends _ => []

/-- The calls that a run has made: those that have returned, and the one that it waits for. -/
def made (past : List Returned) (progress : Progress) : List Await :=
  past.map (·.await) ++ progress.awaited

@[simp] theorem made_start : made [] (.waits .claim) = [.claim] := rfl

@[simp] theorem made_next (past : List Returned) (await : Await) (answer : await.kind.Answer)
    (progress : Progress) :
    made (past ++ [⟨await, answer⟩]) progress = made past (.waits await) ++ progress.awaited := by
  simp [made, Progress.awaited]

end Run

end Courier
