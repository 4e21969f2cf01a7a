import Courier.Proofs.Breaker.Balance
import Courier.Proofs.Depot.Basic

/-!
# Dealings with the breaker

All runs of a depot share one breaker, and each of them has two dealings with it at most: it asks
for its delivery, and if it was let through it says how the delivery came out, on whatever way it
leaves it. `Dealt` lists what a run does with the breaker once a call of it has returned, together
with how the run goes on, and everything else is read off it: what is written down of a step is all
that becomes of the breaker in it, and what the tallies of the breaker lack are the runs that wait
for the outcome of their deliveries.

## Main definitions

* `Depot.Entry`, `Depot.replay?`: dealings with a breaker, and what becomes of it by them.
* `Depot.entries`: what is done with the breaker in an event; `Depot.Step.replay?` says that this is
  all.
* `Depot.Dealt`: what a run does with the breaker when a call of it has returned.
* `Depot.sending`: how many runs wait for the outcome of a delivery of some generation;
  `Depot.Step.balanced` says that steps keep the balance of the breaker.
-/

namespace Courier

namespace Run

variable {setup : Setup}

/-- Where a run is with its delivery. -/
inductive Leg where
  | before
  | during
  | after
  deriving DecidableEq

def Await.leg : Await → Leg
  | claim | user | template _ => .before
  | send .. => .during
  | mark | reportDelivered | resubmit | release | reportFailed .. => .after

def Progress.leg : Progress → Leg
  | waits await => await.leg
  | ends _ => .after

@[simp] theorem leg_waits (await : Await) : (Progress.waits await).leg = await.leg := rfl

@[simp] theorem leg_ends (disposition : Disposition) : (Progress.ends disposition).leg = .after :=
  rfl

@[simp] theorem leg_reportFailure (error : String) (reason : RejectReason) :
    (reportFailure setup error reason).leg = .after := by
  unfold reportFailure; split <;> rfl

@[simp] theorem leg_reportDelivery : (reportDelivery setup).leg = .after := by
  unfold reportDelivery; split <;> rfl

/-- It is a delivery that was let through in the generation. -/
def Await.isSending (generation : UInt64) : Await → Bool
  | send admitted _ => generation = admitted
  | _ => false

/-- The run waits for a delivery that was let through in the generation. -/
def Progress.isSending (generation : UInt64) : Progress → Bool
  | waits await => await.isSending generation
  | ends _ => false

@[simp] theorem isSending_waits (generation : UInt64) (await : Await) :
    (Progress.waits await).isSending generation = await.isSending generation := rfl

theorem Await.isSending_of_leg_ne {await : Await} (h : await.leg ≠ .during) (generation : UInt64) :
    await.isSending generation = false := by
  cases await with
  | send admitted notification => exact absurd rfl h
  | _ => rfl

theorem Progress.isSending_of_leg_ne {progress : Progress} (h : progress.leg ≠ .during)
    (generation : UInt64) : progress.isSending generation = false := by
  cases progress with
  | waits await => exact Await.isSending_of_leg_ne h generation
  | ends disposition => rfl

/-- The call is a delivery. -/
def Await.isSend (await : Await) : Bool :=
  await.kind = .send

theorem filter_isSend_awaited {progress : Progress} (h : progress.leg ≠ .during) :
    progress.awaited.filter Await.isSend = [] := by
  cases progress with
  | waits await => cases await <;> simp_all [Await.leg, Progress.awaited, Await.isSend, Await.kind]
  | ends disposition => rfl

end Run

namespace Depot

open Run (Await Progress Returned Setup)

variable {setup : Setup} {w w' : Depot} {e : Event} {n : Nat} {run : Runner}

/-! ## Dealings with a breaker -/

/-- What someone has done with a breaker at some moment. -/
inductive Entry where
  /-- A run has asked for its delivery and was answered so. -/
  | asked (moment run : Nat) (answer : Except Breaker.Rejection UInt64)
  /-- A run has said how its delivery came out, which had been let through in a generation. -/
  | settled (moment run : Nat) (generation : UInt64) (succeeded : Bool)
  /-- Someone has looked. -/
  | looked (moment : Nat)
  deriving DecidableEq

namespace Entry

/-- The run that the entry is about. -/
def run? : Entry → Option Nat
  | asked _ run _ | settled _ run _ _ => some run
  | looked _ => none

/-- A delivery has been let through. -/
def isAdmission : Entry → Bool
  | asked _ _ (.ok _) => true
  | _ => false

/-- The breaker afterwards, unless it would have answered something else. -/
def replay? (config : Breaker.Config) (b : Breaker) : Entry → Option Breaker
  | asked moment _ answer =>
    if (b.permit config moment).2 = answer then some (b.permit config moment).1.breaker else none
  | settled moment _ generation succeeded =>
    some (b.settle config moment generation succeeded).breaker
  | looked moment => some (b.refresh config moment).breaker

end Entry

/-- What becomes of a breaker by dealings with it, one after the other. -/
def replay? (config : Breaker.Config) (b : Breaker) (log : List Entry) : Option Breaker :=
  log.foldlM (Entry.replay? config) b

theorem replay?_append {config : Breaker.Config} {b last : Breaker} {log more : List Entry}
    (h : replay? config b log = some last) :
    replay? config b (log ++ more) = replay? config last more := by
  rw [replay?, List.foldlM_append, ← replay?, h]
  rfl

/-- A delivery that was let through found the breaker not open, and belongs to the generation that
it found. -/
theorem exists_of_replay?_asked {config : Breaker.Config} {b last : Breaker}
    {before after : List Entry} {moment : Nat} {generation : UInt64}
    (h : replay? config b (before ++ .asked moment n (.ok generation) :: after) = some last) :
    ∃ found, replay? config b before = some found ∧
      (found.refresh config moment).breaker.state ≠ .opened ∧
      (found.refresh config moment).breaker.generation = generation := by
  rw [replay?, List.foldlM_append] at h
  obtain ⟨found, hfound, hrest⟩ := Option.bind_eq_some_iff.1 h
  refine ⟨found, hfound, ?_⟩
  obtain ⟨next, hnext, -⟩ := Option.bind_eq_some_iff.1 hrest
  simp only [Entry.replay?] at hnext
  split at hnext
  · next answer =>
    have hanswer := Breaker.permitted config moment found
    rw [answer] at hanswer
    generalize (found.refresh config moment).breaker = looked at hanswer ⊢
    generalize (found.permit config moment).1.breaker = asked at hanswer
    cases hanswer with
    | admitted state room => exact ⟨state, rfl⟩
  · simp at hnext

/-! ## The dealings of a run -/

/-- What a run does with the breaker that has got its template. -/
def asking (setup : Setup) (w : Depot) (n : Nat) (job : Job) (template : Template) : List Entry :=
  match (template.render job.variables).2 with
  | .error _ => []
  | .ok _ =>
    match (w.breaker.permit setup.breaker w.now).2 with
    | .ok generation => [.asked w.now n (.ok generation)]
    | .error reason => [.asked w.now n (.error reason), .looked w.now]

/-- What a run does with the breaker when a call of it has returned. -/
def dealings (setup : Setup) (w : Depot) (n : Nat) (job : Job) :
    (await : Await) → await.kind.Answer → List Entry
  | .template _, .ok template => asking setup w n job template
  | .send generation _, .ok () => [.settled w.now n generation true]
  | .send generation _, .error _ => [.settled w.now n generation false, .looked w.now]
  | _, _ => []

/-- What a run does with the breaker, how it goes on, and what becomes of the breaker, when a call
of it has returned. -/
inductive Dealt (setup : Setup) (w : Depot) (n : Nat) (job : Job) :
    (await : Await) → await.kind.Answer → Progress → Breaker → List Entry → Prop where
  /-- It has nothing to do with the breaker. -/
  | quiet {await : Await} {answer : await.kind.Answer} {progress : Progress}
      (elsewhere : await.leg ≠ .during) (unsent : progress.leg ≠ .during)
      (onward : await.leg = .after → progress.leg = .after) :
      Dealt setup w n job await answer progress w.breaker []
  /-- It asks for its delivery and must not make it. -/
  | refused {token : String} {template : Template} {reason : Breaker.Rejection}
      (refuses : (w.breaker.permit setup.breaker w.now).2 = .error reason) :
      Dealt setup w n job (.template token) (.ok template) (.waits .resubmit)
        ((w.breaker.permit setup.breaker w.now).1.breaker.refresh setup.breaker w.now).breaker
        [.asked w.now n (.error reason), .looked w.now]
  /-- It asks for its delivery and makes it. -/
  | admitted {token : String} {template : Template} {generation : UInt64}
      {notification : Notification}
      (admits : (w.breaker.permit setup.breaker w.now).2 = .ok generation) :
      Dealt setup w n job (.template token) (.ok template)
        (.waits (.send generation notification)) (w.breaker.permit setup.breaker w.now).1.breaker
        [.asked w.now n (.ok generation)]
  /-- It says that its delivery has come out well. -/
  | sent (generation : UInt64) (notification : Notification) :
      Dealt setup w n job (.send generation notification) (.ok ()) (.waits .mark)
        (w.breaker.settle setup.breaker w.now generation true).breaker
        [.settled w.now n generation true]
  /-- It says that it has not. -/
  | unsent (generation : UInt64) (notification : Notification) (error : DeliveryError) :
      Dealt setup w n job (.send generation notification) (.error error) (.waits .resubmit)
        ((w.breaker.settle setup.breaker w.now generation false).breaker.refresh setup.breaker
          w.now).breaker
        [.settled w.now n generation false, .looked w.now]

/-- Before it comes to its delivery it has nothing to do with the breaker. -/
theorem Dealt.early {job : Job} {await : Await} {answer : await.kind.Answer} {progress : Progress}
    (before : await.leg = .before) (unsent : progress.leg ≠ .during) :
    Dealt setup w n job await answer progress w.breaker [] :=
  .quiet (by simp [before]) unsent (by simp [before])

theorem dealt_afterClaim (answer : Except ClaimError Claim) (job : Job) (notices : List Notice) :
    Dealt setup w n job .claim answer (Run.afterClaim setup job w.breaker notices).progress
      (Run.afterClaim setup job w.breaker notices).breaker [] := by
  unfold Run.afterClaim
  split
  · exact .early rfl (by simp [Run.giveUp])
  · exact .early rfl (by simp [Await.leg])

theorem dealt_afterTemplate (setup : Setup) (w : Depot) (n : Nat) (job : Job) (token : String)
    (template : Template) :
    Dealt setup w n job (.template token) (.ok template)
      (Run.afterTemplate setup w.now job w.breaker token template).progress
      (Run.afterTemplate setup w.now job w.breaker token template).breaker
      (asking setup w n job template) := by
  have hpermit : w.breaker.permit setup.breaker w.now =
      ((w.breaker.permit setup.breaker w.now).1, (w.breaker.permit setup.breaker w.now).2) := rfl
  unfold Run.afterTemplate asking
  split
  · next missing error rendering =>
    simp only [rendering]
    exact .early rfl (by simp [Run.giveUp])
  · next missing rendered rendering =>
    simp only [rendering]
    cases answered : (w.breaker.permit setup.breaker w.now).2 with
    | ok generation =>
      rw [answered] at hpermit
      rw [hpermit]
      exact .admitted answered
    | error reason =>
      rw [answered] at hpermit
      rw [hpermit]
      exact .refused answered

/-- Whatever has been answered, a run deals with the breaker in one of these ways. -/
theorem dealt (setup : Setup) (w : Depot) (n : Nat) (job : Job) (await : Await)
    (answer : await.kind.Answer) :
    Dealt setup w n job await answer (Run.resume setup w.now job w.breaker await answer).progress
      (Run.resume setup w.now job w.breaker await answer).breaker
      (dealings setup w n job await answer) := by
  cases await with
  | claim =>
    match answer with
    | .ok .alreadyPresent => exact .early rfl (by simp [Run.resume])
    | .ok .claimed => exact dealt_afterClaim ..
    | .error (.failed _) => exact dealt_afterClaim ..
    | .error .timedOut => exact dealt_afterClaim ..
  | user =>
    cases answer with
    | ok recipient =>
      cases recipient with
      | deliverable _ | noEndpoint => exact .early rfl (by simp [Run.resume, Await.leg])
    | error _ => exact .early rfl (by simp [Run.resume, Run.goAround, Await.leg])
  | template token =>
    cases answer with
    | ok template => exact dealt_afterTemplate setup w n job token template
    | error _ => exact .early rfl (by simp [Run.resume, Run.goAround, Await.leg])
  | send generation notification =>
    cases answer with
    | ok _ => exact .sent generation notification
    | error e => exact .unsent generation notification e
  | mark | reportDelivered | resubmit | release | reportFailed _ _ =>
    cases answer with
    | ok _ | error _ =>
      exact .quiet (by simp [Await.leg]) (by simp [Run.resume, Await.leg])
        (by simp [Run.resume, Await.leg])

/-- What a run does with the breaker that is given up while it waits. -/
def farewell (w : Depot) (n : Nat) : Await → List Entry
  | .send generation _ => [.settled w.now n generation false]
  | _ => []

/-- What is done with the breaker in an event. -/
def entries (setup : Setup) (w : Depot) : Event → List Entry
  | .returned n await answer =>
    match w.runs[n]? with
    | some run => dealings setup w n run.job await answer
    | none => []
  | .abandoned n =>
    match w.runs[n]? with
    | some run => run.progress.awaited.flatMap (farewell w n)
    | none => []
  | .looked => [.looked w.now]
  | .submitted _ | .taken _ | .passed _ => []

@[simp] theorem entries_returned {await : Await} {answer : await.kind.Answer}
    (here : w.runs[n]? = some run) :
    entries setup w (.returned n await answer) = dealings setup w n run.job await answer := by
  simp [entries, here]

@[simp] theorem entries_abandoned {await : Await} (here : w.runs[n]? = some run)
    (waits : run.progress = .waits await) :
    entries setup w (.abandoned n) = farewell w n await := by
  simp [entries, here, waits, Progress.awaited]

/-- All that becomes of a breaker in a step becomes of it by what is done in the step. -/
theorem Step.replay? (h : Step setup w e w') :
    replay? setup.breaker w.breaker (entries setup w e) = some w'.breaker := by
  cases h with
  | submit | refuse | launch | pass | look => rfl
  | @proceed n run await answer records copies here waits stays alters copied =>
    have hdealt := dealt setup w n run.job await answer
    rw [entries_returned here]
    simp only [Depot.proceed]
    generalize (Run.resume setup w.now run.job w.breaker await answer).progress = progress at hdealt
    generalize (Run.resume setup w.now run.job w.breaker await answer).breaker = last at hdealt ⊢
    generalize dealings setup w n run.job await answer = log at hdealt ⊢
    cases hdealt with
    | quiet | sent | unsent => rfl
    | refused refuses => simp [Depot.replay?, Entry.replay?, refuses]
    | admitted admits => simp [Depot.replay?, Entry.replay?, admits]
  | @giveUp n run await here waits stays =>
    rw [entries_abandoned here waits]
    cases await <;> rfl

/-! ## Deliveries on their way -/

/-- The run waits for the outcome of a delivery that was let through in the generation. -/
def Runner.isSending (generation : UInt64) (run : Runner) : Bool :=
  !run.isAbandoned && run.progress.isSending generation

/-- How many runs wait for the outcome of a delivery that was let through in the generation. -/
def sending (w : Depot) (generation : UInt64) : Nat :=
  w.runs.countP (Runner.isSending generation)

theorem Runner.isSending_of_waits {await : Await} (waits : run.progress = .waits await)
    (stays : run.isAbandoned = false) (generation : UInt64) :
    run.isSending generation = await.isSending generation := by
  simp [isSending, waits, stays]

theorem Runner.isSending_after (await : Await) (answer : await.kind.Answer) (progress : Progress)
    (stays : run.isAbandoned = false) (generation : UInt64) :
    (run.after await answer progress).isSending generation = progress.isSending generation := by
  simp [isSending, after, stays]

@[simp] theorem Runner.isSending_start (job : Job) (generation : UInt64) :
    (Runner.start job).isSending generation = false := rfl

@[simp] theorem Runner.isSending_dropped (run : Runner) (generation : UInt64) :
    run.dropped.isSending generation = false := rfl

theorem sending_set {next : Runner} (here : w.runs[n]? = some run)
    (h : w'.runs = w.runs.set n next) (generation : UInt64) :
    (w'.sending generation + if run.isSending generation then 1 else 0) =
      w.sending generation + if next.isSending generation then 1 else 0 := by
  rw [sending, h]
  exact countP_set here _

/-! ## The balance of the breaker -/

section

variable {config : Breaker.Config} {calls calls' : UInt64 → Nat} {total : Nat}

/-- What a run does with the breaker keeps its balance. -/
theorem Dealt.balanced {job : Job} {await : Await} {answer : await.kind.Answer}
    {progress : Progress} {b : Breaker} {log : List Entry}
    (h : Dealt setup w n job await answer progress b log)
    (balanced : Breaker.Balanced setup.breaker w.breaker calls total)
    (one : ∀ g, (calls' g + if await.isSending g then 1 else 0) =
      calls g + if progress.isSending g then 1 else 0)
    (onward : w.breaker.generation ≤ b.generation)
    (few : total + log.countP Entry.isAdmission < UInt32.size) :
    Breaker.Balanced setup.breaker b calls' (total + log.countP Entry.isAdmission) := by
  cases h with
  | quiet elsewhere unsent =>
    have hsame : calls' = calls := by
      funext g
      simpa [Await.isSending_of_leg_ne elsewhere, Progress.isSending_of_leg_ne unsent] using one g
    rw [hsame]
    exact balanced
  | refused refuses =>
    have hsame : calls' = calls := by
      funext g
      simpa [Await.isSending] using one g
    obtain ⟨hasked, hlooked⟩ := (Breaker.within_permit ..).le_and_le
      (Breaker.within_refresh ..) (by decide) onward
    rw [hsame]
    exact (balanced.permit_error refuses hasked).refresh hlooked
  | admitted admits =>
    have hfew : total + 1 < UInt32.size := few
    refine balanced.permit_ok (Nat.lt_sub_of_add_lt hfew) admits (fun g => ?_) onward
    simpa [Await.isSending] using one g
  | sent generation notification =>
    refine balanced.settle (Nat.le_sub_one_of_lt few) true (fun g => ?_) onward
    simpa [Await.isSending] using (one g).symm
  | unsent generation notification error =>
    obtain ⟨hasked, hlooked⟩ := (Breaker.within_settle ..).le_and_le
      (Breaker.within_refresh ..) (by decide) onward
    refine (balanced.settle (Nat.le_sub_one_of_lt few) false (fun g => ?_) hasked).refresh hlooked
    simpa [Await.isSending] using (one g).symm

/-- So does what a run does that is given up. -/
theorem balanced_abandon {await : Await}
    (balanced : Breaker.Balanced setup.breaker w.breaker calls total)
    (one : ∀ g, (calls' g + if await.isSending g then 1 else 0) = calls g)
    (onward : w.breaker.generation ≤ (Run.abandon setup w.now w.breaker await).1.generation)
    (few : total < UInt32.size) :
    Breaker.Balanced setup.breaker (Run.abandon setup w.now w.breaker await).1 calls' total := by
  by_cases hleg : await.leg = .during
  · cases await with
    | send generation notification =>
      refine balanced.settle (Nat.le_sub_one_of_lt few) false (fun g => ?_) onward
      simpa [Await.isSending] using (one g).symm
    | _ => simp [Await.leg] at hleg
  · have hsame : calls' = calls := by
      funext g
      simpa [Await.isSending_of_leg_ne hleg] using one g
    rw [hsame]
    cases await with
    | send generation notification => simp [Await.leg] at hleg
    | _ => exact balanced

end

theorem countP_farewell (w : Depot) (n : Nat) (await : Await) :
    (farewell w n await).countP Entry.isAdmission = 0 := by
  cases await <;> rfl

/-- Steps keep the balance of the breaker: what its tallies lack is what the runs wait for. -/
theorem Step.balanced {total : Nat} (h : Step setup w e w')
    (balanced : Breaker.Balanced setup.breaker w.breaker w.sending total)
    (onward : w.breaker.generation ≤ w'.breaker.generation)
    (few : total + (entries setup w e).countP Entry.isAdmission < UInt32.size) :
    Breaker.Balanced setup.breaker w'.breaker w'.sending
      (total + (entries setup w e).countP Entry.isAdmission) := by
  cases h with
  | submit | refuse | pass => exact balanced
  | @launch payload job queued decoded =>
    have hsame : (w.launch payload job).sending = w.sending := by
      funext generation
      simp [sending, Depot.launch]
    rw [hsame]
    exact balanced
  | look => exact balanced.refresh onward
  | @proceed n run await answer records copies here waits stays alters copied =>
    rw [entries_returned here] at few ⊢
    refine (dealt setup w n run.job await answer).balanced balanced (fun g => ?_) onward few
    have hruns : (w.proceed setup n run await answer records copies).runs = w.runs.set n _ := rfl
    have hset := sending_set here hruns g
    rwa [Runner.isSending_of_waits waits stays, Runner.isSending_after await answer _ stays] at hset
  | @giveUp n run await here waits stays =>
    rw [entries_abandoned here waits, countP_farewell] at few ⊢
    refine balanced_abandon balanced (fun g => ?_) onward few
    have hruns : (w.giveUp setup n run await).runs = w.runs.set n _ := rfl
    have hset := sending_set here hruns g
    rwa [Runner.isSending_of_waits waits stays, Runner.isSending_dropped,
      if_neg Bool.false_ne_true] at hset

end Depot

end Courier
