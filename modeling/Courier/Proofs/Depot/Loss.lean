import Courier.Proofs.Depot.Record
import Courier.Proofs.Job
import Mathlib.Data.List.Count

/-!
# When a job is lost

Let one message of a job be in the queue, let all calls of the store be answered, and let nobody
give up. Then the job is always in one place: in the queue, or with the one run that has neither
sent a copy around nor been told that it has. So in the end it has come to an end of its own, or one
run of it was refused as a duplicate.

A run sends the copy around before it releases the record. In between, the copy may be taken and may
make its claim, which is refused; and then the record is released and the job is gone. This is the
only way to lose a job.

## Main definitions

* `Depot.queued`: how many messages of a request id are in the queue.
* `Depot.Tracked`: the job is in one place.
* `Depot.Overtaken`: a copy has made its claim before the record was released.
* `Depot.ends_iff_not_overtaken`: when a job comes to its end.
-/

namespace Courier.Depot

open Run (Await Progress Returned Setup)

variable {setup : Setup} {w w' w₀ : Depot} {r : String} {e : Event}

/-! ## Where the job is -/

/-- The message is a job of the request id. -/
def isCopyOf (r : String) (payload : List UInt8) : Bool :=
  match Run.begin payload with
  | .ok job => job.requestId == r
  | .error _ => false

/-- How many messages of a request id are in the queue. -/
def queued (w : Depot) (r : String) : Nat :=
  w.queue.countP (isCopyOf r)

/-- The run has the job, or the job has ended with it. -/
def Runner.hasJob (run : Runner) : Bool :=
  run.progress.hasJob

theorem isCopyOf_of_ok {payload : List UInt8} {job : Job} (h : Run.begin payload = .ok job) :
    isCopyOf r payload = (job.requestId == r) := by
  rw [isCopyOf, h]

theorem isCopyOf_of_error {payload : List UInt8} {failure : PermanentFailure}
    (h : Run.begin payload = .error failure) : isCopyOf r payload = false := by
  rw [isCopyOf, h]

/-- The job of every run was a message once. -/
def Begun (w : Depot) : Prop :=
  ∀ run ∈ w.runs, ∃ payload, Run.begin payload = .ok run.job

theorem Step.begun (h : Step setup w e w') (begun : Begun w) : Begun w' := by
  intro run hmem
  obtain ⟨n, here'⟩ := List.getElem?_of_mem hmem
  cases h.origin here' with
  | same here => exact begun run (List.mem_of_getElem? here)
  | started decoded fresh => exact ⟨_, decoded⟩
  | @resumed before await answer progress here waits stays follows alters =>
    exact begun before (List.mem_of_getElem? here)
  | @dropped before here => exact begun before (List.mem_of_getElem? here)

section

variable {payload : List UInt8} {job : Job} {n : Nat} {run : Runner} {await : Await}
  {answer : await.kind.Answer} {records : Finset String} {copies : List (List UInt8)}

theorem queued_submit (foreign : ∀ job, Run.begin payload = .ok job → job.requestId ≠ r) :
    (w.submit payload).queued r = w.queued r := by
  have hother : isCopyOf r payload = false := by
    cases hbegin : Run.begin payload with
    | error failure => exact isCopyOf_of_error hbegin
    | ok job =>
      rw [isCopyOf_of_ok hbegin]
      exact beq_eq_false_iff_ne.2 (foreign job hbegin)
  simp [queued, Depot.submit, List.countP_append, hother]

theorem queued_refuse {failure : PermanentFailure}
    (malformed : Run.begin payload = .error failure) :
    (w.refuse payload).queued r = w.queued r := by
  simp [queued, Depot.refuse, List.countP_erase, isCopyOf_of_error malformed]

/-- The message of a run that begins is in the queue no more. -/
theorem queued_launch (here : payload ∈ w.queue) (decoded : Run.begin payload = .ok job) :
    ((w.launch payload job).queued r + if job.requestId = r then 1 else 0) = w.queued r := by
  have hcopy := isCopyOf_of_ok (r := r) decoded
  have hqueue : (w.launch payload job).queued r =
      w.queued r - if isCopyOf r payload then 1 else 0 := by
    simp [queued, Depot.launch, List.countP_erase, here]
  rw [hqueue, hcopy]
  by_cases id : job.requestId = r
  · have hpos : 0 < w.queued r :=
      List.countP_pos_iff.2 ⟨payload, here, by simp [hcopy, id]⟩
    simp only [id, beq_self_eq_true, if_true]
    omega
  · simp [id]

/-- A copy that goes around is in the queue, whichever order its variables were written in. -/
theorem queued_proceed (begun : Begun w) (here : w.runs[n]? = some run)
    (copied : Copied run.job ⟨await, answer⟩ copies) :
    (w.proceed setup n run await answer records copies).queued r = w.queued r +
      if Returned.isCopy ⟨await, answer⟩ ∧ run.job.requestId = r then 1 else 0 := by
  obtain ⟨payload, hbegin⟩ := begun run (List.mem_of_getElem? here)
  simp only [queued, Depot.proceed, List.countP_append]
  cases copied with
  | nothing other => simp [other]
  | @around body isCopy written =>
    have hcopy : isCopyOf r body = (run.job.requestId == r) := by
      rw [isCopyOf_of_ok (Run.begin_of_isWritten_next hbegin written)]
      rfl
    simp [isCopy, List.countP_cons, hcopy]

/-- A run that goes on has the job as before, unless a copy goes around. -/
theorem hasJob_after (setup : Setup) (now : Nat) (breaker : Breaker)
    (waits : run.progress = .waits await) (answer : await.kind.Answer) :
    (if (run.after await answer
        (Run.resume setup now run.job breaker await answer).progress).hasJob then 1 else 0) +
      (if Returned.isCopy ⟨await, answer⟩ then 1 else 0) = if run.hasJob then 1 else 0 := by
  have hbefore : run.hasJob = decide (await ≠ .release) := by
    rw [Runner.hasJob, waits, Run.hasJob_waits]
  have hfollows := (@Run.follows_resume setup run.job now breaker await answer).hasJob
  have hafter : (run.after await answer
      (Run.resume setup now run.job breaker await answer).progress).hasJob =
        (decide (await ≠ .release) && !Returned.isCopy ⟨await, answer⟩) := hfollows
  rw [hbefore, hafter]
  by_cases hrelease : await = .release
  · subst hrelease
    cases answer <;> rfl
  · by_cases hcall : Returned.isCopy ⟨await, answer⟩ <;> simp [hcall, hrelease]

end

/-- A step moves the job from one place to another. -/
theorem Step.queued_add_tally (foreign : e.Foreign r) (h : Step setup w e w') (begun : Begun w) :
    w'.queued r + w'.tally r Runner.hasJob = w.queued r + w.tally r Runner.hasJob := by
  cases h with
  | submit payload =>
    rw [queued_submit foreign]
    rfl
  | @refuse payload failure here malformed =>
    rw [queued_refuse malformed]
    rfl
  | @launch payload job here decoded =>
    have hqueue := queued_launch (r := r) here decoded
    have htally : (w.launch payload job).tally r Runner.hasJob =
        w.tally r Runner.hasJob + (Runner.start job).weight r Runner.hasJob := tally_append rfl
    by_cases id : job.requestId = r
    · have hjob : (Runner.start job).hasJob = true := rfl
      rw [Runner.weight_of_eq (.start job) id, if_pos hjob] at htally
      rw [if_pos id] at hqueue
      omega
    · rw [Runner.weight_of_ne (.start job) id] at htally
      rw [if_neg id] at hqueue
      omega
  | @proceed n run await answer records copies here waits stays alters copied =>
    have htally : (w.proceed setup n run await answer records copies).tally r Runner.hasJob +
        run.weight r Runner.hasJob = w.tally r Runner.hasJob +
          Runner.weight r Runner.hasJob (run.after await answer _) := tally_set here rfl
    rw [queued_proceed begun here copied]
    by_cases id : run.job.requestId = r
    · have hjob := hasJob_after setup w.now w.breaker waits answer
      rw [Runner.weight_of_eq run id, Runner.weight_of_eq (run.after ..) id] at htally
      simp only [id, and_true]
      omega
    · rw [Runner.weight_of_ne run id, Runner.weight_of_ne (run.after ..) id] at htally
      simp only [id, and_false, if_false]
      omega
  | @giveUp n run await here waits stays =>
    have htally : (w.giveUp setup n run await).tally r Runner.hasJob +
        run.weight r Runner.hasJob = w.tally r Runner.hasJob +
          run.dropped.weight r Runner.hasJob := tally_set here rfl
    have hsame : run.dropped.weight r Runner.hasJob = run.weight r Runner.hasJob := rfl
    have hqueue : (w.giveUp setup n run await).queued r = w.queued r := rfl
    rw [hqueue]
    omega
  | pass span => rfl
  | look => rfl

/-! ## What holds of a job that is let alone -/

/-- All calls of the store are answered, no run is given up, and no other message of the request id
comes in. -/
def Event.Orderly (r : String) (e : Event) : Prop :=
  e.StoreAnswered ∧ e.Patient ∧ e.Foreign r

/-- The job of a request id is in one place, and nobody has given up. -/
structure Tracked (r : String) (w : Depot) : Prop extends Exact r w where
  begun : Begun w
  onePlace : w.queued r + w.tally r Runner.hasJob = 1
  patient : ∀ run ∈ w.runs, run.isAbandoned = false

theorem Step.tracked (orderly : e.Orderly r) (h : Step setup w e w') (tracked : Tracked r w) :
    Tracked r w' where
  toExact := h.exact orderly.1 tracked.toExact
  begun := h.begun tracked.begun
  onePlace := by
    rw [h.queued_add_tally orderly.2.2 tracked.begun]
    exact tracked.onePlace
  patient := h.patient orderly.2.1 tracked.patient

theorem Tracked.of_runs_eq_nil (h : w.runs = []) (fresh : r ∉ w.records) (one : w.queued r = 1) :
    Tracked r w where
  toExact := .of_runs_eq_nil h fresh
  begun := by simp [Begun, h]
  onePlace := by simp [tally, h, one]
  patient := by simp [h]

/-- A refused run has the job, as it were, so whoever has the record has given the job away: it
waits for its release. -/
theorem Tracked.exists_releasing (tracked : Tracked r w) {n : Nat} {claiming : Runner}
    (here : w.runs[n]? = some claiming) (id : claiming.job.requestId = r)
    (waits : claiming.isClaiming) (record : r ∈ w.records) :
    ∃ (m : Nat) (releasing : Runner), w.runs[m]? = some releasing ∧
      releasing.job.requestId = r ∧ releasing.progress = .waits .release := by
  have hclaiming : 0 < w.tally r Runner.isClaiming := tally_pos here id waits
  have hkeeper := tracked.owned record
  obtain ⟨keeper, hmem, hkeeps⟩ := List.countP_pos_iff.1 hkeeper
  simp only [Bool.and_eq_true, beq_iff_eq] at hkeeps
  obtain ⟨m, hthere⟩ := List.getElem?_of_mem hmem
  -- a keeper with the job would make two runs that have it
  have hapart : ∀ run : Runner, run.isClaiming → ¬ (run.keepsRecord && run.hasJob) := by
    intro run hrun hboth
    rw [Bool.and_eq_true] at hboth
    have hwaits : run.progress = .waits .claim := of_decide_eq_true hrun
    rw [Runner.keepsRecord_of_waits hwaits] at hboth
    exact Bool.false_ne_true hboth.1
  have hplace : w.tally r Runner.isClaiming +
      w.tally r (fun run => run.keepsRecord && run.hasJob) ≤ w.tally r Runner.hasJob := by
    rw [← tally_or hapart]
    refine tally_mono fun run _ hrun => ?_
    rcases (Bool.or_eq_true ..).mp hrun with hrun | hrun
    · have hwaits : run.progress = .waits .claim := of_decide_eq_true hrun
      rw [Runner.hasJob, hwaits]
      rfl
    · exact ((Bool.and_eq_true ..).mp hrun).2
  have hone := tracked.onePlace
  have haway : keeper.hasJob = false := by
    by_contra hjob
    rw [Bool.not_eq_false] at hjob
    have hpos : 0 < w.tally r (fun run => run.keepsRecord && run.hasJob) :=
      tally_pos hthere hkeeps.1 (by rw [hkeeps.2, hjob]; rfl)
    omega
  refine ⟨m, keeper, hthere, hkeeps.1, ?_⟩
  have hprogress := hkeeps.2
  unfold Runner.hasJob at haway
  unfold Runner.keepsRecord at hprogress
  cases hkeeper : keeper.progress with
  | waits await =>
    rw [hkeeper, Run.hasJob_waits, decide_eq_false_iff_not, not_not] at haway
    rw [haway]
  | ends disposition =>
    rw [hkeeper, Run.keepsRecord_ends] at hprogress
    rw [hkeeper, Run.hasJob_ends, hprogress] at haway
    cases haway

/-! ## When a job is lost -/

/-- On the way, a run of the request id was refused as a duplicate while another one, whose copy of
the job already went around, still waited for its release. -/
def Overtaken (setup : Setup) (r : String) (w₀ w : Depot) : Prop :=
  ∃ (v v' : Depot) (n m : Nat) (claiming releasing : Runner),
    History setup (Event.Orderly r) w₀ v ∧
    Step setup v (.returned n .claim (.ok .alreadyPresent)) v' ∧
    History setup (Event.Orderly r) v' w ∧
    v.runs[n]? = some claiming ∧ claiming.job.requestId = r ∧
    v.runs[m]? = some releasing ∧ releasing.job.requestId = r ∧
    releasing.progress = .waits .release

/-- Whatever is refused has been overtaken. -/
theorem History.overtaken (h : History setup (Event.Orderly r) w₀ w) (start : Tracked r w₀)
    (clean : w₀.tally r Runner.isDuplicate = 0) (refused : 0 < w.tally r Runner.isDuplicate) :
    Overtaken setup r w₀ w := by
  induction h with
  | refl => omega
  | @tail v w before last ih =>
    have htracked : Tracked r v :=
      History.preserves before (fun hallowed hstep => hstep.tracked hallowed) start
    obtain ⟨e, horderly, hstep⟩ := last
    by_cases hrefused : 0 < v.tally r Runner.isDuplicate
    · obtain ⟨u, u', n, m, claiming, releasing, hbefore, hrefuses, hafter, hrest⟩ := ih hrefused
      exact ⟨u, u', n, m, claiming, releasing, hbefore, hrefuses,
        hafter.tail ⟨e, horderly, hstep⟩, hrest⟩
    · obtain ⟨n, claiming, rfl, hhere, hid, hwaits, hrecord⟩ :=
        hstep.refuses (by omega) refused
      obtain ⟨m, releasing, hthere, hid', hrelease⟩ :=
        htracked.exists_releasing hhere hid hwaits hrecord
      exact ⟨v, w, n, m, claiming, releasing, before, hstep, .refl, hhere, hid, hthere, hid',
        hrelease⟩

/-- Refused runs do not become fewer. -/
theorem Step.tally_isDuplicate_le (h : Step setup w e w') :
    w.tally r Runner.isDuplicate ≤ w'.tally r Runner.isDuplicate := by
  refine h.tally_le ?_ ?_
  · intro run await answer progress waits stays follows hrun
    simp [Runner.isDuplicate, waits] at hrun
  · intro run await waits hrun
    exact hrun

/-- Whoever has been overtaken is refused for good. -/
theorem Overtaken.tally_isDuplicate_pos (h : Overtaken setup r w₀ w) :
    0 < w.tally r Runner.isDuplicate := by
  obtain ⟨v, v', n, m, claiming, releasing, -, hstep, hafter, hhere, hid, -⟩ := h
  have hrefused : 0 < v'.tally r Runner.isDuplicate := by
    cases hstep with
    | @proceed _ run _ _ records copies here waits stays alters copied =>
      obtain rfl : run = claiming := Option.some.inj (here.symm.trans hhere)
      have hthere : (v.runs.set n (run.after .claim (.ok .alreadyPresent)
          (.ends (.ack .duplicate))))[n]? = some (run.after .claim (.ok .alreadyPresent)
            (.ends (.ack .duplicate))) :=
        List.getElem?_set_self (List.getElem?_eq_some_iff.1 here).1
      exact tally_pos hthere hid rfl
  exact hafter.preserves (P := fun w => 0 < w.tally r Runner.isDuplicate)
    (fun _ hstep hpos => Nat.lt_of_lt_of_le hpos hstep.tally_isDuplicate_le) hrefused

/-- The job has come to an end of its own with the run. -/
def Runner.isDone (run : Runner) : Bool :=
  match run.progress with
  | .waits _ => false
  | .ends disposition => disposition.isFinal

/-- A job that has ended with one run was refused to none. -/
theorem Tracked.isDone_or_isDuplicate (tracked : Tracked r w) :
    w.tally r Runner.isDone + w.tally r Runner.isDuplicate ≤ 1 := by
  have hapart : ∀ run : Runner, run.isDone → ¬ run.isDuplicate := by
    intro run hdone hduplicate
    have hends : run.progress = .ends (.ack .duplicate) := of_decide_eq_true hduplicate
    rw [Runner.isDone, hends] at hdone
    cases hdone
  have hplace : w.tally r Runner.isDone + w.tally r Runner.isDuplicate ≤
      w.tally r Runner.hasJob := by
    rw [← tally_or hapart]
    refine tally_mono fun run _ hrun => ?_
    unfold Runner.hasJob
    unfold Runner.isDone Runner.isDuplicate at hrun
    cases hprogress : run.progress with
    | waits await => simp [hprogress] at hrun
    | ends disposition => simpa [hprogress] using hrun
  have hone := tracked.onePlace
  omega

/-- Once the queue holds no message of the job and all its runs have ended, one of them has ended in
a delivery, without a device, or in a rejection, unless a copy was overtaken: its claim was refused
after it had been sent around and before the record was released. -/
theorem ends_iff_not_overtaken (start : w₀.runs = []) (fresh : r ∉ w₀.records)
    (one : w₀.queued r = 1) (h : History setup (Event.Orderly r) w₀ w) (emptied : w.queued r = 0)
    (idle : w.tally r Runner.isAtWork = 0) :
    (∃ run ∈ w.runs, run.job.requestId = r ∧
      ∃ disposition, run.progress = .ends disposition ∧ disposition.isFinal) ↔
    ¬ Overtaken setup r w₀ w := by
  have hstart : Tracked r w₀ := .of_runs_eq_nil start fresh one
  have htracked : Tracked r w :=
    h.preserves (fun hallowed hstep => hstep.tracked hallowed) hstart
  constructor
  · rintro ⟨run, hmem, id, disposition, hends, hfinal⟩ hovertaken
    obtain ⟨n, here⟩ := List.getElem?_of_mem hmem
    have hdone : 0 < w.tally r Runner.isDone :=
      tally_pos here id (by rw [Runner.isDone, hends]; exact hfinal)
    have hduplicate := hovertaken.tally_isDuplicate_pos
    have hboth := htracked.isDone_or_isDuplicate
    omega
  · intro hnot
    have hplace := htracked.onePlace
    have hpos : 0 < w.tally r Runner.hasJob := by omega
    obtain ⟨run, hmem, hjob⟩ := List.countP_pos_iff.1 hpos
    simp only [Bool.and_eq_true, beq_iff_eq] at hjob
    obtain ⟨n, here⟩ := List.getElem?_of_mem hmem
    refine ⟨run, hmem, hjob.1, ?_⟩
    cases hprogress : run.progress with
    | waits await =>
      have hwork : 0 < w.tally r Runner.isAtWork := by
        refine tally_pos here hjob.1 ?_
        simp [Runner.isAtWork, hprogress, htracked.patient run hmem]
      omega
    | ends disposition =>
      refine ⟨disposition, rfl, ?_⟩
      have hhas := hjob.2
      rw [Runner.hasJob, hprogress, Run.hasJob_ends, Bool.or_eq_true] at hhas
      rcases hhas with hfinal | hduplicate
      · exact hfinal
      · have hrefused : 0 < w.tally r Runner.isDuplicate := by
          refine tally_pos here hjob.1 ?_
          rw [Runner.isDuplicate, hprogress, of_decide_eq_true hduplicate]
          rfl
        have hclean : w₀.tally r Runner.isDuplicate = 0 := by simp [tally, start]
        exact absurd (h.overtaken hstart hclean hrefused) hnot

/-- The job is sent around once and delivered then, and nobody is overtaken. -/
theorem delivered_later_not_overtaken :
    ∃ w ∈ play {} { queue := [sampleJob.encode] }
        ([.taken sampleJob.encode, .returned 0 .claim (.ok .claimed),
          .returned 0 .user (.error (.status 503)), .returned 0 .resubmit (.ok ()),
          .returned 0 .release (.ok ()), .taken sampleJob.next.encode] ++ sampleAnswers 1 ++
          [.returned 1 .mark (.ok ()), .returned 1 .reportDelivered (.ok ())]),
      ¬ Overtaken {} "r" { queue := [sampleJob.encode] } w := by
  have hplays : ∃ w ∈ play {} { queue := [sampleJob.encode] }
        ([.taken sampleJob.encode, .returned 0 .claim (.ok .claimed),
          .returned 0 .user (.error (.status 503)), .returned 0 .resubmit (.ok ()),
          .returned 0 .release (.ok ()), .taken sampleJob.next.encode] ++ sampleAnswers 1 ++
          [.returned 1 .mark (.ok ()), .returned 1 .reportDelivered (.ok ())]),
      w.queued "r" = 0 ∧ w.tally "r" Runner.isAtWork = 0 ∧
        ∃ run ∈ w.runs[1]?, run.job.requestId = "r" ∧ run.progress = .ends (.ack .delivered) := by
    decide +kernel
  obtain ⟨w, hplay, hemptied, hidle, run, hhere, hid, hends⟩ := hplays
  have hone : queued { queue := [sampleJob.encode] } "r" = 1 := by decide +kernel
  have hhistory : History {} (Event.Orderly "r") { queue := [sampleJob.encode] } w :=
    .of_play (by simp [sampleAnswers, Event.Orderly, Event.StoreAnswered, Event.Patient,
      Event.Foreign]) hplay
  refine ⟨w, hplay, ?_⟩
  exact (ends_iff_not_overtaken rfl (Finset.notMem_empty _) hone hhistory hemptied hidle).1
    ⟨run, List.mem_of_getElem? hhere, hid, _, hends, rfl⟩

/-- The copy is taken before the record is released and is refused, and the job is gone: nothing is
left to do, and neither run has ended with the job. -/
theorem overtaken_is_lost :
    ∃ w, History {} (Event.Orderly "r") { queue := [sampleJob.encode] } w ∧
      w.queued "r" = 0 ∧ w.tally "r" Runner.isAtWork = 0 ∧
      w.runs.map (·.progress) = [.ends (.ack (.resubmitted 1)), .ends (.ack .duplicate)] ∧
      ¬ ∃ run ∈ w.runs, run.job.requestId = "r" ∧
        ∃ disposition, run.progress = .ends disposition ∧ disposition.isFinal := by
  have hplays : ∃ w ∈ play {} { queue := [sampleJob.encode] }
        [.taken sampleJob.encode, .returned 0 .claim (.ok .claimed),
          .returned 0 .user (.error (.status 503)), .returned 0 .resubmit (.ok ()),
          .taken sampleJob.next.encode, .returned 1 .claim (.ok .alreadyPresent),
          .returned 0 .release (.ok ())],
      w.queued "r" = 0 ∧ w.tally "r" Runner.isAtWork = 0 ∧
      w.runs.map (·.progress) = [.ends (.ack (.resubmitted 1)), .ends (.ack .duplicate)] := by
    decide +kernel
  obtain ⟨w, hplay, hemptied, hidle, hends⟩ := hplays
  refine ⟨w, .of_play (by simp [Event.Orderly, Event.StoreAnswered, Event.Patient,
    Event.Foreign]) hplay, hemptied, hidle, hends, ?_⟩
  rintro ⟨run, hmem, -, disposition, hrun, hfinal⟩
  have hprogress : run.progress ∈ w.runs.map (·.progress) := List.mem_map_of_mem hmem
  rw [hends, hrun] at hprogress
  simp only [List.mem_cons, Progress.ends.injEq, List.not_mem_nil, or_false] at hprogress
  rcases hprogress with rfl | rfl <;> cases hfinal

end Courier.Depot
