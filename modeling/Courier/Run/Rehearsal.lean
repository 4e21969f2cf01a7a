import Courier.Run.Basic

/-!
# Rehearsals

A rehearsal lets any number of runs go through the pipeline together, with collaborators that do as
they are told. Each kind of call has a queue of behaviours; a call takes the next of them when it is
made, and an empty queue means that all is well. A call may hang until it is released, and if it is
bounded its caller stops waiting when the time is over. The store changes when a call returns.

After every instruction each run that has not ended, in the order of their numbers, goes on until it
ends or waits.

## Main definitions

* `Behaviour`, `respond`: the answer of a call that behaves in some way.
* `Stage`: the state of a rehearsal.
* `Stage.proceed`: a run goes on as far as it gets.
* `Instruction`, `Stage.follow`: one step of a rehearsal, and what is to be seen of it.
-/

namespace Courier.Rehearsal

open Run (Await Setup)
open Time (Stamp)

/-- What a collaborator is told to do with a call. Something that does not fit the call is as good
as being told that all is well. -/
inductive Behaviour where
  /-- All is well. -/
  | ok
  /-- There is no answer until the call is released. -/
  | hang
  /-- The collaborator's own time is over. -/
  | timeout
  /-- The broker refuses. -/
  | nacked
  /-- A lookup fails. -/
  | lookup (error : LookupError)
  /-- A delivery fails. -/
  | delivery (error : DeliveryError)
  deriving DecidableEq, Repr

/-- What the lookups find. -/
structure Findings where
  profile : Profile := {}
  template : Template := {}

/-- Add a record. -/
def addRecord (id : String) (records : List String) : List String :=
  if id ∈ records then records else id :: records

/-- The answer of a call about the job of the given request id, and the records after it. -/
def respond (findings : Findings) (id : String) (records : List String) :
    (kind : Call.Kind) → Behaviour → List String × kind.Answer
  | .claim, .timeout => (records, Except.error (ClaimError.failed .timeout))
  | .claim, _ =>
    if id ∈ records then (records, Except.ok Claim.alreadyPresent)
    else (id :: records, Except.ok Claim.claimed)
  | .mark, .timeout => (records, Except.error StoreError.timeout)
  | .mark, _ => (addRecord id records, Except.ok ())
  | .remove, .timeout => (records, Except.error StoreError.timeout)
  | .remove, _ => (records.filter (· != id), Except.ok ())
  | .user, .lookup e => (records, Except.error e)
  | .user, _ => (records, Except.ok findings.profile.recipient)
  | .template, .lookup e => (records, Except.error e)
  | .template, _ => (records, Except.ok findings.template)
  | .send, .delivery e => (records, Except.error e)
  | .send, _ => (records, Except.ok ())
  | .publish, .nacked | .status, .nacked => (records, Except.error BrokerError.nacked)
  | .publish, .timeout | .status, .timeout => (records, Except.error BrokerError.timeout)
  | .publish, _ | .status, _ => (records, Except.ok ())

/-- How far the call is that a run waits for. -/
inductive Phase where
  /-- It is about to be made. -/
  | calling
  /-- It was made at some moment and hangs. -/
  | hanging (since : Nat)
  /-- It has been released and will return. -/
  | released (behaviour : Behaviour)
  deriving DecidableEq, Repr

/-- A run that has not ended. -/
structure Actor where
  number : Nat
  job : Job
  await : Await
  phase : Phase

/-- What is to be seen of a step. -/
structure Scene where
  calls : List (Nat × Call) := []
  endings : List (Nat × Disposition) := []
  notices : List Notice := []

/-- The state of a rehearsal. -/
structure Stage where
  setup : Setup
  breaker : Breaker
  /-- The moment at which the clock is zero. -/
  epoch : Stamp
  /-- Milliseconds since then. -/
  now : Nat := 0
  findings : Findings := {}
  /-- The behaviours that are still to come, for some kinds of calls. -/
  script : List (Call.Kind × List Behaviour) := []
  records : List String := []
  actors : List Actor := []
  /-- The number of the next run. -/
  next : Nat := 0
  scene : Scene := {}

namespace Stage

/-- A rehearsal before its first step. -/
def start (setup : Setup) (epoch : Stamp) (findings : Findings) : Stage :=
  { setup, epoch, findings, breaker := .start setup.breaker 0 }

/-- The moment. -/
def moment (w : Stage) : Stamp :=
  w.epoch.addMicros (w.now * 1000)

/-- Replace the behaviours of a kind of calls. -/
def setScript (w : Stage) (kind : Call.Kind) (behaviours : List Behaviour) : Stage :=
  { w with script := (kind, behaviours) :: w.script.filter (·.1 != kind) }

/-- Take the next behaviour of a kind of calls. -/
def takeBehaviour (w : Stage) (kind : Call.Kind) : Behaviour × Stage :=
  match w.script.lookup kind with
  | some (b :: behaviours) => (b, w.setScript kind behaviours)
  | _ => (.ok, w)

/-- Something is said. -/
def say (w : Stage) (notices : List Notice) : Stage :=
  { w with scene := { w.scene with notices := w.scene.notices ++ notices } }

/-- A run ends. -/
def close (w : Stage) (number : Nat) (disposition : Disposition) : Stage :=
  { w with scene := { w.scene with endings := w.scene.endings ++ [(number, disposition)] } }

/-- A call that does not hang returns. -/
def returnCall (w : Stage) (job : Job) (kind : Call.Kind) (b : Behaviour) :
    Stage × Option kind.Answer :=
  let (records, answer) := respond w.findings job.requestId w.records kind b
  ({ w with records }, some answer)

/-- A call that hangs: after its time it returns that the time is over. -/
def stillHanging (w : Stage) (kind : Call.Kind) (since : Nat) : Option kind.Answer :=
  if since + w.setup.limits.callTimeout ≤ w.now then kind.timedOut? else none

/-- The answer to the call of a run, if there is one by now, and how far the call is if not. -/
def answer? (w : Stage) (number : Nat) (job : Job) (await : Await) :
    Phase → Stage × Option await.kind.Answer × Phase
  | .calling =>
    let call := await.call w.setup job w.moment
    let w := { w with scene := { w.scene with calls := w.scene.calls ++ [(number, call)] } }
    match w.takeBehaviour await.kind with
    | (.hang, w) => (w, w.stillHanging await.kind w.now, .hanging w.now)
    | (b, w) =>
      let (w, answer) := w.returnCall job await.kind b
      (w, answer, .calling)
  | .hanging since => (w, w.stillHanging await.kind since, .hanging since)
  | .released b =>
    let (w, answer) := w.returnCall job await.kind b
    (w, answer, .calling)

/-- A run goes on until it ends or waits. -/
def proceed (w : Stage) (number : Nat) (job : Job) (await : Await) (phase : Phase) :
    Stage × Option Actor :=
  match w.answer? number job await phase with
  | (w, none, phase) => (w, some ⟨number, job, await, phase⟩)
  | (w, some answer, _) =>
    let step := Run.resume w.setup w.now job w.breaker await answer
    let after := { w with breaker := step.breaker }.say step.notices
    match _h : step.progress with
    | .ends disposition => (after.close number disposition, none)
    | .waits next => proceed after number job next .calling
termination_by await.rank
decreasing_by
  have := Run.rank_lt_of_resume w.setup w.now job w.breaker await answer
  simp only [step] at _h
  rw [_h] at this
  exact this

/-- All runs go on, in the order of their numbers. -/
def proceedAll (w : Stage) : Stage :=
  let actors := w.actors
  actors.foldl (fun w a =>
    match w.proceed a.number a.job a.await a.phase with
    | (w, some a) => { w with actors := w.actors ++ [a] }
    | (w, none) => w) { w with actors := [] }

end Stage

/-- What a rehearsal is told. -/
inductive Instruction where
  /-- A message comes in. -/
  | job (payload : List UInt8)
  /-- Replace the behaviours of a kind of calls. -/
  | script (kind : Call.Kind) (behaviours : List Behaviour)
  /-- Replace what the lookups find. -/
  | find (profile : Option Profile) (template : Option Template)
  /-- Add a record. -/
  | record (id : String)
  /-- The call of a run that hangs returns. -/
  | release (number : Nat) (behaviour : Behaviour)
  /-- A run is given up. -/
  | abandon (number : Nat)
  /-- Time passes. -/
  | advance (span : Nat)
  /-- Look at the breaker. -/
  | readBreaker
  /-- Nothing is to be done. -/
  | idle

/-- What an instruction is answered with. -/
inductive Remark where
  | nothing
  | released
  | nothingPending
  | abandoned
  | noSuchJob
  | breaker (state : Breaker.State) (counts : Counts)

namespace Stage

/-- Carry out an instruction itself. -/
def carryOut (w : Stage) : Instruction → Stage × Remark
  | .job payload =>
    let number := w.next
    let w := { w with next := number + 1 }
    match Run.begin payload with
    | .ok job => ({ w with actors := w.actors ++ [⟨number, job, .claim, .calling⟩] }, .nothing)
    | .error failure =>
      ((w.say [.messageRejected failure]).close number (.reject failure.rejectReason), .nothing)
  | .script kind behaviours => (w.setScript kind behaviours, .nothing)
  | .find profile template =>
    ({ w with findings :=
      ⟨profile.getD w.findings.profile, template.getD w.findings.template⟩ }, .nothing)
  | .record id => ({ w with records := addRecord id w.records }, .nothing)
  | .release number behaviour =>
    let hangs (a : Actor) : Bool := a.number == number && match a.phase with
      | .hanging _ => true
      | _ => false
    if w.actors.any hangs then
      ({ w with actors := w.actors.map fun a =>
        if hangs a then { a with phase := .released behaviour } else a }, .released)
    else (w, .nothingPending)
  | .abandon number =>
    match w.actors.find? (·.number == number) with
    | none => (w, .noSuchJob)
    | some a =>
      let (breaker, notices) := Run.abandon w.setup w.now w.breaker a.await
      ({ w with breaker, actors := w.actors.filter (·.number != number) }.say notices, .abandoned)
  | .advance span => ({ w with now := w.now + span }, .nothing)
  | .readBreaker =>
    let c := w.breaker.refresh w.setup.breaker w.now
    ({ w with breaker := c.breaker }.say (Notice.ofTransitions w.setup.breakerName c.transitions),
      .breaker c.breaker.state c.breaker.counts)
  | .idle => (w, .nothing)

/-- The records in order. -/
def sortedRecords (w : Stage) : List String :=
  w.records.mergeSort fun a b => decide (a ≤ b)

/-- One step of a rehearsal. What is to be seen of it is the scene. -/
def follow (w : Stage) (instruction : Instruction) : Stage × Remark :=
  let (w, remark) := { w with scene := {} }.carryOut instruction
  (w.proceedAll, remark)

end Stage

end Courier.Rehearsal
