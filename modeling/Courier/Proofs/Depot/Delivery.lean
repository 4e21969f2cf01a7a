import Courier.Proofs.Depot.Record

/-!
# Jobs are delivered at most once

Copies of a job may be in the queue in any number, runs of them may take turns in any order, and
everything but the answers to claims may fail. Still a request id has one owner at a time, and is
delivered once: whoever delivered keeps the record, so that all claims from then on are refused.

## Main definitions

* `Depot.Runner.owns`: the job has been given to the run, which is at work.
* `Depot.deliveries`: how often the gateway has taken a notification for a request id.
* `Depot.at_most_once`: what never happens to a request id.
-/

namespace Courier.Depot

open Run (Await Progress Returned Setup Trail)

variable {setup : Setup} {w w₀ w₁ w₂ : Depot} {r : String}

/-- The store has given the job to the run, and the run has neither ended nor been given up. -/
def Runner.owns (run : Runner) : Bool :=
  run.past.any Returned.isClaim && run.isAtWork

/-- How often the gateway has taken a notification from a run of the request id. -/
def deliveries (w : Depot) (r : String) : Nat :=
  ((w.runs.filter fun run => run.job.requestId = r).flatMap (·.past)).countP Returned.isDelivery

/-- An owner keeps the record. -/
theorem Runner.keepsRecord_of_owns {run : Runner}
    (trail : Trail setup run.job run.past run.progress) (h : run.owns) : run.keepsRecord := by
  simp only [owns, Bool.and_eq_true] at h
  obtain ⟨hclaim, hwork⟩ := h
  unfold isAtWork at hwork
  split at hwork
  · next await waits =>
    rw [keepsRecord_of_waits waits, decide_eq_true_iff]
    rintro rfl
    rw [waits] at trail
    simp [trail.past_eq_nil] at hclaim
  · exact absurd hwork Bool.false_ne_true

/-- There are as many deliveries as runs that have delivered. -/
theorem deliveries_eq (trail : ∀ run ∈ w.runs, Trail setup run.job run.past run.progress) :
    w.deliveries r = w.tally r fun run => run.progress.hasDelivered := by
  unfold deliveries tally
  generalize w.runs = runs at trail
  induction runs with
  | nil => rfl
  | cons run runs ih =>
    have hrun := (trail run List.mem_cons_self).countP_isDelivery
    have hrest := ih fun other hmem => trail other (List.mem_cons_of_mem run hmem)
    rw [List.countP_cons, ← hrest]
    by_cases id : run.job.requestId = r
    · simp [id, hrun, Nat.add_comm]
    · simp [id]

/-- If claims are answered, then in any state a request id has one owner at most and has been
delivered at most once; and once it has been delivered, a run of it whose claim returns later ends
there, as a duplicate. -/
theorem at_most_once (start : w₀.runs = []) (earlier : History setup Event.ClaimAnswered w₀ w₁)
    (later : History setup Event.ClaimAnswered w₁ w₂) :
    w₁.tally r Runner.owns ≤ 1 ∧ w₁.deliveries r ≤ 1 ∧
      (0 < w₁.deliveries r → ∀ (n : Nat) (run : Runner), w₂.runs[n]? = some run →
        run.job.requestId = r →
        (∀ before : Runner, w₁.runs[n]? = some before → before.past = []) → run.past ≠ [] →
        run.past = [⟨.claim, .ok .alreadyPresent⟩] ∧ run.progress = .ends (.ack .duplicate)) := by
  have htrail := earlier.trail start
  have hkept : Kept r w₁ :=
    earlier.preserves (fun hallowed hstep => hstep.kept hallowed) (.of_runs_eq_nil start)
  have howners : w₁.tally r Runner.owns ≤ w₁.tally r Runner.keepsRecord :=
    tally_mono fun run hmem => Runner.keepsRecord_of_owns (htrail run hmem)
  have hdelivered : w₁.deliveries r ≤ w₁.tally r Runner.keepsRecord := by
    rw [deliveries_eq htrail]
    exact tally_mono fun run _ => Run.Progress.keepsRecord_of_hasDelivered
  refine ⟨?_, ?_, ?_⟩
  · exact Nat.le_trans howners hkept.atMostOne
  · exact Nat.le_trans hdelivered hkept.atMostOne
  · intro hpos n run here id fresh returned
    have hlasting : 0 < w₁.tally r Runner.isLasting := by
      rw [deliveries_eq htrail] at hpos
      exact Nat.lt_of_lt_of_le hpos
        (tally_mono fun run _ => Runner.isLasting_of_hasDelivered)
    rcases later.heldOff hkept htrail hlasting here id fresh with hnone | hend
    · exact absurd hnone returned
    · exact hend

/-- Two copies of a job, of which one is delivered before the other makes its claim. -/
theorem second_copy_is_duplicate :
    ∃ w₁ w₂ : Depot, ∃ run : Runner,
      History {} Event.ClaimAnswered { queue := [sampleJob.encode, sampleJob.encode] } w₁ ∧
      History {} Event.ClaimAnswered w₁ w₂ ∧ w₁.tally "r" Runner.owns ≤ 1 ∧
      w₁.deliveries "r" = 1 ∧ w₂.runs[1]? = some run ∧
      run.past = [⟨.claim, .ok .alreadyPresent⟩] ∧ run.progress = .ends (.ack .duplicate) := by
  have hplays : ∃ w₁ ∈ play {} { queue := [sampleJob.encode, sampleJob.encode] }
        (.taken sampleJob.encode :: .taken sampleJob.encode :: sampleAnswers 0),
      ∃ w₂ ∈ play {} w₁ [.returned 1 .claim (.ok .alreadyPresent)],
        0 < w₁.deliveries "r" ∧ (∀ before ∈ w₁.runs[1]?, before.past = []) ∧
        ∃ run ∈ w₂.runs[1]?, run.job.requestId = "r" ∧ run.past ≠ [] := by
    decide +kernel
  obtain ⟨w₁, hfirst, w₂, hsecond, hpos, hfresh, run, hhere, hid, hreturned⟩ := hplays
  have hearlier : History {} Event.ClaimAnswered
      { queue := [sampleJob.encode, sampleJob.encode] } w₁ :=
    .of_play (by simp [sampleAnswers, Event.ClaimAnswered]) hfirst
  have hlater : History {} Event.ClaimAnswered w₁ w₂ :=
    .of_play (by simp [Event.ClaimAnswered]) hsecond
  obtain ⟨howner, honce, hheld⟩ := at_most_once (r := "r") rfl hearlier hlater
  obtain ⟨hpast, hends⟩ := hheld hpos 1 run hhere hid hfresh hreturned
  exact ⟨w₁, w₂, run, hearlier, hlater, howner, by omega, hhere, hpast, hends⟩

end Courier.Depot
