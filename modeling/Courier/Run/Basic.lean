import Courier.Collaborator.Call
import Courier.Notice
import Courier.Settings.Basic

/-!
# Runs

A run takes one message to its disposition. Between two calls a run is nothing but its job and what
it waits for, so the whole of it is one function: given what a run waits for and the answer, what
does it do next? Everything around it, the real service as well as a rehearsal with scripted
collaborators, only decides when which answer comes.

The breaker is shared by all runs and is passed through; a delivery that waits for its answer holds
the generation that admitted it.

## Main definitions

* `Run.Setup`: what all runs have in common.
* `Run.Await`: what a run waits for; `Run.Await.call` is the call that it makes.
* `Run.heard`: what a run hears of a call, if it comes in time.
* `Run.begin`: the job of a message.
* `Run.resume`: the next step of a run.
* `Run.abandon`: what is left to do when a run is given up.
* `Run.rank_lt_of_resume`: every step brings a run closer to its end.
-/

namespace Courier.Run

open Time (Stamp)

/-- What all runs have in common. -/
structure Setup where
  limits : Limits := {}
  breaker : Breaker.Config := {}
  /-- The name under which the breaker is spoken of. -/
  breakerName : String := "push_delivery"
  /-- Status events are published. -/
  reportsStatus : Bool := true

/-- What a run waits for. -/
inductive Await where
  /-- Whether the job is a duplicate. -/
  | claim
  /-- The user. -/
  | user
  /-- The template; the device is known. -/
  | template (deviceToken : String)
  /-- The delivery that the breaker admitted in a generation. -/
  | send (generation : UInt64) (notification : Notification)
  /-- That the store knows the job is done. -/
  | mark
  /-- That the delivery has been reported. -/
  | reportDelivered
  /-- That a copy of the job goes around. -/
  | resubmit
  /-- That the claim is released after that. -/
  | release
  /-- That the failure has been reported, after which the message is rejected. -/
  | reportFailed (error : String) (reason : RejectReason)
  deriving DecidableEq, Repr

namespace Await

/-- The kind of the call whose answer is waited for. -/
def kind : Await → Call.Kind
  | claim => .claim
  | user => .user
  | template _ => .template
  | send .. => .send
  | mark => .mark
  | resubmit => .publish
  | release => .remove
  | reportDelivered | reportFailed .. => .status

/-- The call whose answer is waited for. It is made at the given moment. -/
def call (setup : Setup) (job : Job) (moment : Stamp) : Await → Call
  | claim => .claim job.requestId setup.limits.recordSpan
  | user => .user job.userId
  | template _ => .template job.templateId
  | send _ notification => .send notification
  | mark => .mark job.requestId setup.limits.recordSpan
  | resubmit => .publish job.next
  | release => .remove job.requestId
  | reportDelivered => .status (.delivered job.requestId moment)
  | reportFailed error _ => .status (.failed job.requestId error moment)

/-- The greatest number of calls that a run still makes. -/
def rank : Await → Nat
  | claim => 6
  | user => 5
  | template _ => 4
  | send .. => 3
  | mark | resubmit => 2
  | release | reportDelivered | reportFailed .. => 1

end Await

/-- What a run hears of a call that was made so long ago: what the collaborator has said, or, if the
call is bounded and the time for it is over, just this.

A bounded call stands under a timer. Of the timer no more is taken for granted than is documented of
it: what is there when the time is over at the latest is handed on, and otherwise the call is given
up and the timer says so. -/
def heard (setup : Setup) (elapsed : Nat) (kind : Call.Kind) (said : kind.Answer) : kind.Answer :=
  if setup.limits.callTimeout < elapsed then kind.timedOut?.getD said else said

/-- A delivery has come out well if this was said in time. -/
theorem isOk_heard_send (setup : Setup) (elapsed : Nat) (said : Except DeliveryError Unit) :
    Except.isOk (heard setup elapsed .send said : Except DeliveryError Unit) =
      (said.isOk && decide (elapsed ≤ setup.limits.callTimeout)) := by
  by_cases late : setup.limits.callTimeout < elapsed
  · have htimeout : heard setup elapsed .send said = Except.error DeliveryError.timeout :=
      if_pos late
    rw [htimeout, decide_eq_false (Nat.not_le.2 late), Bool.and_false]
    rfl
  · have hsaid : heard setup elapsed .send said = said := if_neg late
    rw [hsaid, decide_eq_true (Nat.le_of_not_lt late), Bool.and_true]

/-- How a run goes on. -/
inductive Progress where
  /-- It makes a call and waits. -/
  | waits (await : Await)
  /-- It has come to its end. -/
  | ends (disposition : Disposition)
  deriving DecidableEq, Repr

/-- The greatest number of calls that are still made. -/
def Progress.rank : Progress → Nat
  | waits await => await.rank
  | ends _ => 0

/-- A step of a run: how it goes on, the breaker after it, and what there is to say. -/
structure Step where
  progress : Progress
  breaker : Breaker
  notices : List Notice := []

/-- The job of a message, or why there is none. -/
def begin (payload : List UInt8) : Except PermanentFailure Job :=
  match Job.decode payload with
  | .ok job => .ok job
  | .error e => .error (.malformed e)

section

variable (setup : Setup)

/-- Report a failure and reject the message. -/
def reportFailure (error : String) (reason : RejectReason) : Progress :=
  if setup.reportsStatus then .waits (.reportFailed error reason) else .ends (.reject reason)

/-- The job fails for good. -/
def giveUp (breaker : Breaker) (notices : List Notice) (failure : PermanentFailure) : Step :=
  ⟨reportFailure setup failure.text failure.rejectReason, breaker,
    notices ++ [.jobRejected failure]⟩

/-- The job goes around again. -/
def goAround (job : Job) (breaker : Breaker) (notices : List Notice)
    (failure : TransientFailure) : Step :=
  ⟨.waits .resubmit, breaker,
    notices ++ [.jobRequeued job.retryCount setup.limits.maxRetries failure]⟩

/-- The delivery failed; the breaker's state is told with it. -/
def deliveryFailed (now : Nat) (job : Job) (changed : Breaker.Changed) (failure : SendFailure) :
    Step :=
  let read := changed.breaker.refresh setup.breaker now
  goAround setup job read.breaker
    (Notice.ofTransitions setup.breakerName (changed.transitions ++ read.transitions))
    (.delivery read.breaker.state failure)

/-- The job is the run's own: it is given up if it has been through enough failures. -/
def afterClaim (job : Job) (breaker : Breaker) (notices : List Notice) : Step :=
  if setup.limits.maxRetries ≤ job.retryCount then
    giveUp setup breaker notices (.budgetExhausted job.retryCount setup.limits.maxRetries)
  else ⟨.waits .user, breaker, notices⟩

/-- The template is there: it is rendered, and the breaker asked for the delivery. -/
def afterTemplate (now : Nat) (job : Job) (breaker : Breaker) (deviceToken : String)
    (template : Template) : Step :=
  match template.render job.variables with
  | (missing, .error e) =>
    giveUp setup breaker (missing.map .missingVariable) (.render e.part e.reason.text)
  | (missing, .ok rendered) =>
    let missing := missing.map Notice.missingVariable
    let notification := Notification.compose job deviceToken template rendered
    match breaker.permit setup.breaker now with
    | (changed, .ok generation) =>
      ⟨.waits (.send generation notification), changed.breaker,
        missing ++ Notice.ofTransitions setup.breakerName changed.transitions⟩
    | (changed, .error reason) =>
      let step := deliveryFailed setup now job changed (.rejected reason)
      { step with notices := missing ++ step.notices }

/-- The delivery has come out. -/
def afterSend (now : Nat) (job : Job) (breaker : Breaker) (generation : UInt64) :
    Except DeliveryError Unit → Step
  | .ok () =>
    let changed := breaker.settle setup.breaker now generation true
    ⟨.waits .mark, changed.breaker, Notice.ofTransitions setup.breakerName changed.transitions⟩
  | .error e =>
    deliveryFailed setup now job (breaker.settle setup.breaker now generation false) (.failed e)

/-- The job is done: this is reported and the message acknowledged. -/
def reportDelivery : Progress :=
  if setup.reportsStatus then .waits .reportDelivered else .ends (.ack .delivered)

/-- What a run does when the answer that it waits for comes. -/
def resume (now : Nat) (job : Job) (breaker : Breaker) :
    (await : Await) → await.kind.Answer → Step
  | .claim, .ok .alreadyPresent => ⟨.ends (.ack .duplicate), breaker, []⟩
  | .claim, .ok .claimed => afterClaim setup job breaker []
  | .claim, .error (.failed e) => afterClaim setup job breaker [.claimFailed e]
  | .claim, .error .timedOut => afterClaim setup job breaker [.claimTimedOut]
  | .user, .ok (.deliverable profile) => ⟨.waits (.template profile.pushToken), breaker, []⟩
  | .user, .ok .noEndpoint => ⟨.ends (.ack .noEndpoint), breaker, []⟩
  | .user, .error e => goAround setup job breaker [] (.userLookup e)
  | .template deviceToken, .ok template => afterTemplate setup now job breaker deviceToken template
  | .template _, .error e => goAround setup job breaker [] (.templateLookup e)
  | .send generation _, answer => afterSend setup now job breaker generation answer
  | .mark, .ok () => ⟨reportDelivery setup, breaker, []⟩
  | .mark, .error e => ⟨reportDelivery setup, breaker, [.markFailed e]⟩
  | .reportDelivered, .ok () => ⟨.ends (.ack .delivered), breaker, []⟩
  | .reportDelivered, .error e =>
    ⟨.ends (.ack .delivered), breaker, [.statusUnpublished e .delivered]⟩
  | .resubmit, .ok () => ⟨.waits .release, breaker, []⟩
  | .resubmit, .error e =>
    ⟨reportFailure setup e.resubmissionText .resubmitFailed, breaker, [.resubmissionFailed e]⟩
  | .release, .ok () => ⟨.ends (.ack (.resubmitted job.next.retryCount)), breaker, []⟩
  | .release, .error e =>
    ⟨.ends (.ack (.resubmitted job.next.retryCount)), breaker, [.releaseFailed e]⟩
  | .reportFailed _ reason, .ok () => ⟨.ends (.reject reason), breaker, []⟩
  | .reportFailed _ reason, .error e =>
    ⟨.ends (.reject reason), breaker, [.statusUnpublished e .failed]⟩

/-- A run that is given up while it waits: a delivery that the breaker admitted has failed then. -/
def abandon (now : Nat) (breaker : Breaker) : Await → Breaker × List Notice
  | .send generation _ =>
    let changed := breaker.settle setup.breaker now generation false
    (changed.breaker, Notice.ofTransitions setup.breakerName changed.transitions)
  | _ => (breaker, [])

/-! ## Runs end -/

theorem rank_reportFailure_le (error : String) (reason : RejectReason) :
    (reportFailure setup error reason).rank ≤ 1 := by
  unfold reportFailure; split <;> simp [Progress.rank, Await.rank]

theorem rank_reportDelivery_le : (reportDelivery setup).rank ≤ 1 := by
  unfold reportDelivery; split <;> simp [Progress.rank, Await.rank]

theorem rank_afterClaim_le (job : Job) (breaker : Breaker) (notices : List Notice) :
    (afterClaim setup job breaker notices).progress.rank ≤ 5 := by
  unfold afterClaim
  split
  · exact Nat.le_trans (rank_reportFailure_le ..) (by decide)
  · simp [Progress.rank, Await.rank]

theorem rank_afterTemplate_le (now : Nat) (job : Job) (breaker : Breaker) (deviceToken : String)
    (template : Template) :
    (afterTemplate setup now job breaker deviceToken template).progress.rank ≤ 3 := by
  unfold afterTemplate
  split
  · exact Nat.le_trans (rank_reportFailure_le ..) (by decide)
  · simp only
    split <;> simp [deliveryFailed, goAround, Progress.rank, Await.rank]

/-- After a step there are fewer calls to make than before it. -/
theorem rank_lt_of_resume (now : Nat) (job : Job) (breaker : Breaker) (await : Await)
    (answer : await.kind.Answer) :
    (resume setup now job breaker await answer).progress.rank < await.rank := by
  cases await with
  | claim =>
    match answer with
    | .ok .alreadyPresent => simp [resume, Progress.rank, Await.rank]
    | .ok .claimed => exact Nat.lt_succ_of_le (rank_afterClaim_le ..)
    | .error (.failed _) => exact Nat.lt_succ_of_le (rank_afterClaim_le ..)
    | .error .timedOut => exact Nat.lt_succ_of_le (rank_afterClaim_le ..)
  | user =>
    match answer with
    | .ok (.deliverable _) => simp [resume, Progress.rank, Await.rank]
    | .ok .noEndpoint => simp [resume, Progress.rank, Await.rank]
    | .error _ => simp [resume, goAround, Progress.rank, Await.rank]
  | template _ =>
    match answer with
    | .ok _ => exact Nat.lt_succ_of_le (rank_afterTemplate_le ..)
    | .error _ => simp [resume, goAround, Progress.rank, Await.rank]
  | send _ _ =>
    match answer with
    | .ok () => simp [resume, afterSend, Progress.rank, Await.rank]
    | .error _ => simp [resume, afterSend, deliveryFailed, goAround, Progress.rank, Await.rank]
  | mark =>
    match answer with
    | .ok () => exact Nat.lt_succ_of_le (rank_reportDelivery_le ..)
    | .error _ => exact Nat.lt_succ_of_le (rank_reportDelivery_le ..)
  | reportDelivered =>
    match answer with
    | .ok () => simp [resume, Progress.rank, Await.rank]
    | .error _ => simp [resume, Progress.rank, Await.rank]
  | resubmit =>
    match answer with
    | .ok () => simp [resume, Progress.rank, Await.rank]
    | .error _ => exact Nat.lt_succ_of_le (rank_reportFailure_le ..)
  | release =>
    match answer with
    | .ok () => simp [resume, Progress.rank, Await.rank]
    | .error _ => simp [resume, Progress.rank, Await.rank]
  | reportFailed _ _ =>
    match answer with
    | .ok () => simp [resume, Progress.rank, Await.rank]
    | .error _ => simp [resume, Progress.rank, Await.rank]

end

end Courier.Run
