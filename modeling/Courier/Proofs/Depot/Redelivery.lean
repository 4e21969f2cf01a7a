import Courier.Proofs.Depot.Record

/-!
# What becomes of a job that is delivered again

A run that is given up leaves its message unacknowledged, so that the message comes again. Whether
its job is taken up then depends on nothing but the record that the first run has left behind: it
has none while it waits for the answer to its claim, and one ever after.

## Main definitions

* `Depot.Granted`: a job is only refused as a duplicate after it has been granted.
* `Depot.redelivered_duplicate_iff`: when the job is refused.
-/

namespace Courier.Depot

open Run (Await Progress Returned Setup Trail)

variable {setup : Setup} {w w' w₀ w₁ w₂ : Depot} {r : String} {e : Event}

/-- The run has gone on from its claim with the job. -/
def Runner.isPastClaim (run : Runner) : Bool :=
  run.progress.isPastClaim

/-- Every run is in one of three parts of its life. -/
theorem tally_claiming_duplicate_pastClaim :
    w.tally r Runner.isClaiming + w.tally r Runner.isDuplicate + w.tally r Runner.isPastClaim =
      w.tally r fun _ => true := by
  have hfirst : ∀ run : Runner, run.isClaiming → ¬ run.isDuplicate := by
    intro run hclaiming hduplicate
    simp only [Runner.isClaiming, Runner.isDuplicate, decide_eq_true_eq] at hclaiming hduplicate
    rw [hclaiming] at hduplicate
    cases hduplicate
  have hsecond : ∀ run : Runner, (run.isClaiming || run.isDuplicate) → ¬ run.isPastClaim := by
    intro run hrun
    rcases (Bool.or_eq_true ..).mp hrun with h | h
    · simp only [Runner.isClaiming, decide_eq_true_eq] at h
      simp [Runner.isPastClaim, h]
    · simp only [Runner.isDuplicate, decide_eq_true_eq] at h
      simp [Runner.isPastClaim, h, Progress.isPastClaim]
  rw [← tally_or hfirst, ← tally_or hsecond]
  refine Nat.le_antisymm (tally_mono fun run _ _ => rfl) (tally_mono fun run _ _ => ?_)
  cases hprogress : run.progress with
  | waits await =>
    by_cases hclaim : await = .claim <;>
      simp [Runner.isClaiming, Runner.isDuplicate, Runner.isPastClaim, hprogress, hclaim]
  | ends disposition =>
    by_cases hduplicate : disposition = .ack .duplicate <;>
      simp [Runner.isClaiming, Runner.isDuplicate, Runner.isPastClaim, hprogress, hduplicate,
        Progress.isPastClaim]

/-- A job has been granted to some run of it if another was refused as a duplicate. -/
def Granted (r : String) (w : Depot) : Prop :=
  0 < w.tally r Runner.isDuplicate → 0 < w.tally r Runner.isPastClaim

/-- Runs past their claims do not become fewer. -/
theorem Step.tally_isPastClaim_le (h : Step setup w e w') :
    w.tally r Runner.isPastClaim ≤ w'.tally r Runner.isPastClaim := by
  refine h.tally_le ?_ ?_
  · intro run await answer progress waits stays follows hrun
    rw [Runner.isPastClaim, waits, Run.isPastClaim_waits, decide_eq_true_iff] at hrun
    exact follows.isPastClaim hrun
  · intro run await waits hrun
    exact hrun

theorem Step.granted (h : Step setup w e w') (exact : Exact r w) (granted : Granted r w) :
    Granted r w' := by
  intro hduplicate
  have hmono := h.tally_isPastClaim_le (r := r)
  by_cases hbefore : 0 < w.tally r Runner.isDuplicate
  · exact Nat.lt_of_lt_of_le (granted hbefore) hmono
  -- the step itself has refused the job: the record that it has seen has a keeper
  · obtain ⟨n, run, -, -, -, -, hrecord⟩ := h.refuses (by omega) hduplicate
    have hkept : w.tally r Runner.keepsRecord ≤ w.tally r Runner.isPastClaim :=
      tally_mono fun run _ => Run.Progress.isPastClaim_of_keepsRecord
    have hkeeper := exact.owned hrecord
    omega

/-- If all calls of the store are answered, the run of a message that has come again after its first
run was given up ends as a duplicate just when the first run was past its claim. -/
theorem redelivered_duplicate_iff {n m : Nat} {first second : Runner} {await : Await}
    {disposition : Disposition} (start : w₀.runs = []) (fresh : r ∉ w₀.records)
    (before : History setup Event.StoreAnswered w₀ w₁) (dropped : w₁.runs[n]? = some first)
    (id : first.job.requestId = r) (abandoned : first.isAbandoned)
    (waits : first.progress = .waits await)
    (after : History setup Event.StoreAnswered w₁ w₂) (again : w₂.runs[m]? = some second)
    (id' : second.job.requestId = r) (began : w₁.runs.length ≤ m)
    (alone : (w₂.tally r fun _ => true) = 2) (ends : second.progress = .ends disposition) :
    disposition = .ack .duplicate ↔ await ≠ .claim := by
  have hclaims : ∀ e : Event, e.StoreAnswered → e.ClaimAnswered := fun _ h => h.claim
  have hwhole : History setup Event.StoreAnswered w₀ w₂ := before.trans after
  have htrail := before.trail start
  have hexact : Exact r w₁ :=
    before.preserves (fun hallowed hstep => hstep.exact hallowed) (.of_runs_eq_nil start fresh)
  constructor
  · rintro rfl rfl
    have hboth : Exact r w₂ ∧ Granted r w₂ := by
      refine hwhole.preserves (P := fun w => Exact r w ∧ Granted r w)
        (fun hallowed hstep ⟨hexact, hgranted⟩ =>
          ⟨hstep.exact hallowed hexact, hstep.granted hexact hgranted⟩)
        ⟨.of_runs_eq_nil start fresh, fun hpos => ?_⟩
      simp [tally, start] at hpos
    have hfirst : w₂.runs[n]? = some first :=
      after.preserves (P := fun w => w.runs[n]? = some first)
        (fun _ hstep here => hstep.getElem?_abandoned here abandoned) dropped
    have hclaiming : 0 < w₂.tally r Runner.isClaiming :=
      tally_pos hfirst id (decide_eq_true waits)
    have hduplicate : 0 < w₂.tally r Runner.isDuplicate :=
      tally_pos again id' (decide_eq_true ends)
    have hpast := hboth.2 hduplicate
    have hall := tally_claiming_duplicate_pastClaim (w := w₂) (r := r)
    omega
  · intro hclaim
    have hlasting : 0 < w₁.tally r Runner.isLasting := by
      refine tally_pos dropped id ?_
      simp [Runner.isLasting, Runner.keepsRecord, waits, hclaim, abandoned]
    have hlater : ∀ before : Runner, w₁.runs[m]? = some before → before.past = [] := by
      intro run hrun
      rw [List.getElem?_eq_none began] at hrun
      cases hrun
    rcases (after.mono hclaims).heldOff hexact.toKept htrail hlasting again id' hlater with
      hnone | ⟨_, hends⟩
    · have htrail₂ := hwhole.trail start second (List.mem_of_getElem? again)
      rw [hnone, ends] at htrail₂
      cases htrail₂.eq_claim_of_nil
    · rw [ends] at hends
      exact Progress.ends.inj hends

/-- A run that is given up while its claim is on the way leaves no record behind: the message that
comes again finds its job free, whatever comes of it then. -/
theorem redelivered_unclaimed :
    ∃ w₁ ∈ play {} { queue := [sampleJob.encode] } [.taken sampleJob.encode, .abandoned 0],
      ∃ w₂ ∈ play {} w₁ (.submitted sampleJob.encode :: .taken sampleJob.encode ::
          (sampleAnswers 1 ++ [.returned 1 .mark (.ok ()), .returned 1 .reportDelivered (.ok ())])),
        ∃ second ∈ w₂.runs[1]?, ∃ disposition, second.progress = .ends disposition ∧
          disposition ≠ .ack .duplicate := by
  have hplays : ∃ w₁ ∈ play {} { queue := [sampleJob.encode] }
        [.taken sampleJob.encode, .abandoned 0],
      ∃ w₂ ∈ play {} w₁ (.submitted sampleJob.encode :: .taken sampleJob.encode ::
          (sampleAnswers 1 ++ [.returned 1 .mark (.ok ()), .returned 1 .reportDelivered (.ok ())])),
        (∃ first ∈ w₁.runs[0]?, first.job.requestId = "r" ∧ first.isAbandoned ∧
          first.progress = .waits .claim) ∧
        (∃ second ∈ w₂.runs[1]?, second.job.requestId = "r" ∧
          second.progress = .ends (.ack .delivered)) ∧
        w₁.runs.length ≤ 1 ∧ (w₂.tally "r" fun _ => true) = 2 := by
    decide +kernel
  obtain ⟨w₁, hfirst, w₂, hsecond, ⟨first, hhere, hid, habandoned, hwaits⟩,
    ⟨second, hthere, hid', hends⟩, hbegan, halone⟩ := hplays
  have hbefore : History {} Event.StoreAnswered { queue := [sampleJob.encode] } w₁ :=
    .of_play (by simp [Event.StoreAnswered]) hfirst
  have hafter : History {} Event.StoreAnswered w₁ w₂ :=
    .of_play (by simp [Event.StoreAnswered, sampleAnswers]) hsecond
  refine ⟨w₁, hfirst, w₂, hsecond, second, hthere, _, hends, fun hduplicate => ?_⟩
  exact (redelivered_duplicate_iff (r := "r") rfl (Finset.notMem_empty _) hbefore hhere hid
    habandoned hwaits hafter hthere hid' hbegan halone hends).1 hduplicate rfl

/-- A run that is given up while it waits for the user leaves its record behind: the message that
comes again is acknowledged as a duplicate, and the job is lost. -/
theorem redelivered_claimed_is_lost :
    ∃ (w₁ w₂ : Depot) (first second : Runner),
      History {} Event.StoreAnswered { queue := [sampleJob.encode] } w₁ ∧
      w₁.runs = [first] ∧ first.job = sampleJob ∧ first.isAbandoned ∧
      first.progress = .waits .user ∧ History {} Event.StoreAnswered w₁ w₂ ∧
      w₂.runs = [first, second] ∧ second.job = sampleJob ∧
      second.progress = .ends (.ack .duplicate) ∧ w₂.queue = [] := by
  have hplays : ∃ w₁ ∈ play {} { queue := [sampleJob.encode] }
        [.taken sampleJob.encode, .returned 0 .claim (.ok .claimed), .abandoned 0],
      ∃ w₂ ∈ play {} w₁ [.submitted sampleJob.encode, .taken sampleJob.encode,
          .returned 1 .claim (.ok .alreadyPresent)],
        (∃ first ∈ w₁.runs[0]?, first.job = sampleJob ∧ first.isAbandoned ∧
          first.progress = .waits .user) ∧
        (∃ second ∈ w₂.runs[1]?, second.job = sampleJob ∧
          second.progress = .ends (.ack .duplicate)) ∧
        w₁.runs.length = 1 ∧ w₂.runs.length = 2 ∧ w₂.queue = [] := by
    decide +kernel
  obtain ⟨w₁, hfirst, w₂, hsecond, ⟨first, hhere, hjob, habandoned, hwaits⟩,
    ⟨second, hthere, hjob', hends⟩, hone, htwo, hempty⟩ := hplays
  have hafter : History {} Event.StoreAnswered w₁ w₂ :=
    .of_play (by simp [Event.StoreAnswered]) hsecond
  have hstays : w₂.runs[0]? = some first :=
    hafter.preserves (P := fun w => w.runs[0]? = some first)
      (fun _ hstep here => hstep.getElem?_abandoned here habandoned) hhere
  refine ⟨w₁, w₂, first, second, .of_play (by simp [Event.StoreAnswered]) hfirst, ?_, hjob,
    habandoned, hwaits, hafter, ?_, hjob', hends, hempty⟩
  · obtain ⟨run, hrun⟩ := List.length_eq_one_iff.1 hone
    rw [hrun] at hhere ⊢
    rw [Option.some.inj hhere]
  · obtain ⟨run, other, hrun⟩ := List.length_eq_two.1 htwo
    rw [hrun] at hstays hthere ⊢
    rw [Option.some.inj hstays, Option.some.inj hthere]

end Courier.Depot
