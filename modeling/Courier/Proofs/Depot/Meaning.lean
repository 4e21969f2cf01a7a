import Courier.Proofs.Depot.Replay

/-!
# What a record says of its job

While runs of a job are at work, its record says that somebody has it in hand. Once they have all
come to their ends, and if nothing went wrong with the store and nobody has given up, the record
says that the job has come to an end of its own: it was delivered, there was nowhere to deliver to,
or it was rejected. A rejection keeps the record just as a delivery does. So the record of a job is
no sign that the job is done; it is one just if none of its runs was rejected. And a job that was
rejected is refused as a duplicate when it is put back, for as long as the record lasts.

## Main definitions

* `Depot.Finished`, `Depot.Rejected`: how a job has ended.
* `Depot.Event.Undisturbed`: the store answers, and nobody gives up.
* `Depot.recorded_iff_finished_or_rejected`: what a record says.
-/

namespace Courier.Depot

open Run (Await Progress Setup)

variable {setup : Setup} {w w' w₀ w₁ : Depot} {r : String} {e : Event}

/-! ## How jobs end -/

/-- The run has delivered, or there was nowhere to deliver to. -/
def Runner.isFinished (run : Runner) : Bool :=
  run.progress = .ends (.ack .delivered) || run.progress = .ends (.ack .noEndpoint)

/-- The run has ended in a rejection. -/
def Runner.isRejected (run : Runner) : Bool :=
  match run.progress with
  | .ends (.reject _) => true
  | _ => false

/-- Some run of the request id has delivered, or had nowhere to deliver to. -/
def Finished (r : String) (w : Depot) : Prop :=
  ∃ run ∈ w.runs, run.job.requestId = r ∧ run.isFinished

/-- Some run of the request id has ended in a rejection. -/
def Rejected (r : String) (w : Depot) : Prop :=
  ∃ run ∈ w.runs, run.job.requestId = r ∧ run.isRejected

theorem Runner.keepsRecord_of_isFinished {run : Runner} (h : run.isFinished) : run.keepsRecord := by
  simp only [isFinished, Bool.or_eq_true, decide_eq_true_eq] at h
  unfold keepsRecord
  rcases h with h | h <;> rw [h] <;> rfl

theorem Runner.keepsRecord_of_isRejected {run : Runner} (h : run.isRejected) : run.keepsRecord := by
  unfold isRejected at h
  split at h
  · next reason ends =>
    rw [keepsRecord, ends]
    rfl
  · cases h

/-- A keeper that has come to its end has finished its job or rejected it. -/
theorem Runner.isFinished_or_isRejected {run : Runner} (keeps : run.keepsRecord)
    {disposition : Disposition} (ends : run.progress = .ends disposition) :
    run.isFinished ∨ run.isRejected := by
  rw [keepsRecord, ends, Run.keepsRecord_ends] at keeps
  unfold isFinished isRejected
  rw [ends]
  cases disposition with
  | reject reason => exact .inr rfl
  | ack reason =>
    cases reason with
    | delivered | noEndpoint => exact .inl (by simp)
    | duplicate | resubmitted => cases keeps

/-! ## Depots at rest -/

/-- All calls of the store are answered, and no run is given up. -/
def Event.Undisturbed (e : Event) : Prop :=
  e.StoreAnswered ∧ e.Patient

/-- A record that is there when all runs have ended is that of a job that has. -/
theorem finished_or_rejected_of_mem (exact : Exact r w)
    (patient : ∀ run ∈ w.runs, run.isAbandoned = false) (idle : w.tally r Runner.isAtWork = 0)
    (record : r ∈ w.records) : Finished r w ∨ Rejected r w := by
  obtain ⟨keeper, hmem, id, keeps⟩ := tally_pos_iff.1 (exact.owned record)
  cases hprogress : keeper.progress with
  | waits await =>
    have hwork : 0 < w.tally r Runner.isAtWork := by
      refine tally_pos_iff.2 ⟨keeper, hmem, id, ?_⟩
      simp [Runner.isAtWork, hprogress, patient keeper hmem]
    omega
  | ends disposition =>
    rcases keeper.isFinished_or_isRejected keeps hprogress with h | h
    · exact .inl ⟨keeper, hmem, id, h⟩
    · exact .inr ⟨keeper, hmem, id, h⟩

theorem Kept.mem_of_finished_or_rejected (kept : Kept r w) (h : Finished r w ∨ Rejected r w) :
    r ∈ w.records := by
  refine kept.recorded (tally_pos_iff.2 ?_)
  rcases h with ⟨run, hmem, id, hrun⟩ | ⟨run, hmem, id, hrun⟩
  · exact ⟨run, hmem, id, Runner.keepsRecord_of_isFinished hrun⟩
  · exact ⟨run, hmem, id, Runner.keepsRecord_of_isRejected hrun⟩

/-- A job does not end both ways: there would be two keepers. -/
theorem Kept.not_rejected_of_finished (kept : Kept r w) (finished : Finished r w) :
    ¬ Rejected r w := by
  intro rejected
  have hapart : ∀ run : Runner, run.isFinished → ¬ run.isRejected := by
    intro run hfinished hrejected
    simp only [Runner.isFinished, Bool.or_eq_true, decide_eq_true_eq] at hfinished
    unfold Runner.isRejected at hrejected
    rcases hfinished with h | h <;> rw [h] at hrejected <;> cases hrejected
  have hboth : w.tally r Runner.isFinished + w.tally r Runner.isRejected ≤
      w.tally r Runner.keepsRecord := by
    rw [← tally_or hapart]
    refine tally_mono fun run _ hrun => ?_
    rcases (Bool.or_eq_true ..).mp hrun with h | h
    · exact Runner.keepsRecord_of_isFinished h
    · exact Runner.keepsRecord_of_isRejected h
  have hfinished : 0 < w.tally r Runner.isFinished := tally_pos_iff.2 finished
  have hrejected : 0 < w.tally r Runner.isRejected := tally_pos_iff.2 rejected
  have hone := kept.atMostOne
  omega

/-- Let the store be empty at first, and let it answer and nobody give up until no run of a request
id is at work. Then there is a record just if the job was finished or rejected, and one that is
there says that the job is finished just if it was not rejected. Either way, if one message of the
job is taken later, it is refused as a duplicate just if the job was finished or rejected. -/
theorem recorded_iff_finished_or_rejected (start : w₀.runs = []) (empty : w₀.records = ∅)
    (h : History setup Event.Undisturbed w₀ w) (idle : w.tally r Runner.isAtWork = 0) :
    (r ∈ w.records ↔ Finished r w ∨ Rejected r w) ∧
    (r ∈ w.records → (Finished r w ↔ ¬ Rejected r w)) ∧
    ∀ {w₁ : Depot} {m : Nat} {run : Runner} {disposition : Disposition},
      History setup Event.ClaimAnswered w w₁ → w.runs.length ≤ m → w₁.runs[m]? = some run →
      run.job.requestId = r →
      (∀ n other, w₁.runs[n]? = some other → other.job.requestId = r → w.runs.length ≤ n → n = m) →
      run.progress = .ends disposition →
        (disposition = .ack .duplicate ↔ Finished r w ∨ Rejected r w) := by
  have hexact : Exact r w :=
    h.preserves (fun hallowed hstep => hstep.exact hallowed.1)
      (.of_runs_eq_nil start (empty ▸ Finset.notMem_empty r))
  have hpatient : ∀ run ∈ w.runs, run.isAbandoned = false :=
    h.preserves (P := fun v => ∀ run ∈ v.runs, run.isAbandoned = false)
      (fun hallowed hstep => hstep.patient hallowed.2) (by simp [start])
  have hrecord : r ∈ w.records ↔ Finished r w ∨ Rejected r w :=
    ⟨finished_or_rejected_of_mem hexact hpatient idle, hexact.mem_of_finished_or_rejected⟩
  refine ⟨hrecord, fun hmem => ⟨hexact.not_rejected_of_finished, fun hnot => ?_⟩, ?_⟩
  · exact (hrecord.1 hmem).resolve_right hnot
  · intro w₁ m run disposition hlater began here id only ends
    rw [← hrecord]
    exact hlater.duplicate_iff_recorded idle began here id only ends

/-- A job that was delivered and comes again is refused. -/
theorem delivered_is_refused :
    ∃ w ∈ play {} { queue := [sampleJob.encode] } (.taken sampleJob.encode :: sampleDelivery 0),
      ∃ w₁ ∈ play {} w [.submitted sampleJob.encode, .taken sampleJob.encode,
          .returned 1 .claim (.ok .alreadyPresent)],
        "r" ∈ w.records ∧ (Finished "r" w ↔ ¬ Rejected "r" w) ∧
        ∃ run ∈ w₁.runs[1]?, run.progress = .ends (.ack .duplicate) ∧
          (Finished "r" w ∨ Rejected "r" w) := by
  have hplays : ∃ w ∈ play {} { queue := [sampleJob.encode] }
        (.taken sampleJob.encode :: sampleDelivery 0),
      ∃ w₁ ∈ play {} w [.submitted sampleJob.encode, .taken sampleJob.encode,
          .returned 1 .claim (.ok .alreadyPresent)],
        "r" ∈ w.records ∧ w.tally "r" Runner.isAtWork = 0 ∧ w.runs.length = 1 ∧
        w₁.runs.length = 2 ∧ ∃ run ∈ w₁.runs[1]?, run.job.requestId = "r" ∧
          run.progress = .ends (.ack .duplicate) := by
    decide +kernel
  obtain ⟨w, hfirst, w₁, hsecond, hrecord, hidle, hone, htwo, run, hhere, hid, hends⟩ := hplays
  have hbefore : History {} Event.Undisturbed { queue := [sampleJob.encode] } w :=
    .of_play (by simp [sampleDelivery, sampleAnswers, Event.Undisturbed, Event.StoreAnswered,
      Event.Patient]) hfirst
  have hafter : History {} Event.ClaimAnswered w w₁ :=
    .of_play (by simp [Event.ClaimAnswered]) hsecond
  obtain ⟨-, hmeans, hrefused⟩ := recorded_iff_finished_or_rejected (r := "r") rfl rfl hbefore hidle
  refine ⟨w, hfirst, w₁, hsecond, hrecord, hmeans hrecord, run, hhere, hends, ?_⟩
  refine (hrefused hafter (by omega) hhere hid (fun n other there _ began => ?_) hends).1 rfl
  have hn : n < w₁.runs.length := (List.getElem?_eq_some_iff.1 there).1
  omega

/-- A template with an action that has no end. -/
def brokenTemplate : Template :=
  { sampleTemplate with title := "Hello \x7b\x7b.Vars.name" }

/-- The template of a job could not be rendered, so the job was rejected. Put back when the template
is mended, it is acknowledged as a duplicate though it was never delivered. -/
theorem rejected_is_refused :
    ∃ w w₁ : Depot, History {} Event.Undisturbed { queue := [sampleJob.encode] } w ∧
      History {} Event.Undisturbed w w₁ ∧ w.tally "r" Runner.isAtWork = 0 ∧ "r" ∈ w.records ∧
      w.runs.map (·.progress) = [.ends (.reject .renderFailed)] ∧ ¬ Finished "r" w ∧
      w₁.queue = [] ∧ w₁.runs.map (·.job) = [sampleJob, sampleJob] ∧
      w₁.runs.map (·.progress) =
        [.ends (.reject .renderFailed), .ends (.ack .duplicate)] := by
  have hplays : ∃ w ∈ play {} { queue := [sampleJob.encode] }
        [.taken sampleJob.encode, .returned 0 .claim (.ok .claimed),
          .returned 0 .user (.ok (.deliverable sampleProfile)),
          .returned 0 (.template "d") (.ok brokenTemplate),
          .returned 0 (.reportFailed
            (PermanentFailure.render .title "unclosed action").text .renderFailed) (.ok ())],
      ∃ w₁ ∈ play {} w [.submitted sampleJob.encode, .taken sampleJob.encode,
          .returned 1 .claim (.ok .alreadyPresent)],
        w.tally "r" Runner.isAtWork = 0 ∧ "r" ∈ w.records ∧
        w.runs.map (·.progress) = [.ends (.reject .renderFailed)] ∧
        w.tally "r" Runner.isFinished = 0 ∧ w₁.queue = [] ∧
        w₁.runs.map (·.job) = [sampleJob, sampleJob] ∧
        w₁.runs.map (·.progress) =
          [.ends (.reject .renderFailed), .ends (.ack .duplicate)] := by
    decide +kernel
  obtain ⟨w, hfirst, w₁, hsecond, hidle, hrecord, hends, hunfinished, hrest⟩ := hplays
  refine ⟨w, w₁, .of_play ?_ hfirst, .of_play ?_ hsecond, hidle, hrecord, hends, ?_, hrest⟩
  · simp [Event.Undisturbed, Event.StoreAnswered, Event.Patient]
  · simp [Event.Undisturbed, Event.StoreAnswered, Event.Patient]
  · intro hfinished
    exact absurd (tally_pos_iff.2 hfinished) (by omega)

end Courier.Depot
