import Courier.Proofs.Depot.Basic

/-!
# Records and their keepers

A run keeps the record of its job from the answer to its claim to the answer to its release, and for
good if it comes to its end without one. As long as claims are answered, no request id ever has two
keepers, and a keeper's record is in the store: so whatever else fails, a claim is granted only when
nobody keeps the record. If all calls of the store are answered, records without a keeper do not
come up either.

Some keepers never let go of a record. From then on, whoever claims is told that the job has one.

## Main definitions

* `Depot.Kept`: there is at most one keeper, and the record is there if there is one.
* `Depot.Owned`: there is a keeper if the record is there.
* `Depot.Runner.isLasting`: the run keeps its record for good.
* `History.heldOff`: what becomes of claims that come later.
-/

namespace Courier.Depot

open Run (Await Progress Returned Setup Trail)

variable {setup : Setup} {w w' w₁ w₂ : Depot} {r : String} {e : Event}

/-- The record of the job is the run's own. -/
def Runner.keepsRecord (run : Runner) : Bool :=
  run.progress.keepsRecord

@[simp] theorem Runner.keepsRecord_start (job : Job) : (Runner.start job).keepsRecord = false := rfl

@[simp] theorem Runner.keepsRecord_after (run : Runner) (await : Await)
    (answer : await.kind.Answer) (progress : Progress) :
    (run.after await answer progress).keepsRecord = progress.keepsRecord := rfl

@[simp] theorem Runner.keepsRecord_dropped (run : Runner) :
    run.dropped.keepsRecord = run.keepsRecord := rfl

theorem Runner.keepsRecord_of_waits {run : Runner} {await : Await}
    (waits : run.progress = .waits await) : run.keepsRecord = decide (await ≠ .claim) := by
  rw [keepsRecord, waits, Run.keepsRecord_waits]

/-! ## One keeper -/

/-- The record of a request id has at most one keeper, and is there if it has one. -/
structure Kept (r : String) (w : Depot) : Prop where
  atMostOne : w.tally r Runner.keepsRecord ≤ 1
  recorded : 0 < w.tally r Runner.keepsRecord → r ∈ w.records

/-- The record of a request id has a keeper if it is there. -/
def Owned (r : String) (w : Depot) : Prop :=
  r ∈ w.records → 0 < w.tally r Runner.keepsRecord

/-- Whatever else fails, a record does not get a second keeper if claims are answered. -/
theorem Step.kept (hallowed : e.ClaimAnswered) (h : Step setup w e w') (kept : Kept r w) :
    Kept r w' := by
  obtain ⟨hone, hrecord⟩ := kept
  cases h.aspect r with
  | apart tallies record =>
    refine ⟨?_, ?_⟩
    · rwa [tallies]
    · rwa [tallies, record]
  | begins id runs records =>
    have hsame := tally_begins (p := Runner.keepsRecord) id runs
    rw [Runner.keepsRecord_start, if_neg Bool.false_ne_true, Nat.add_zero] at hsame
    refine ⟨?_, ?_⟩
    · rwa [hsame]
    · rwa [hsame, records]
  | @goesOn _ n run await answer progress here id waits stays follows alters runs =>
    have htally := tally_replace (p := Runner.keepsRecord) here id runs rfl
    rw [Runner.keepsRecord_after, Runner.keepsRecord_of_waits waits] at htally
    by_cases hclaim : await = .claim
    · subst hclaim
      match answer with
      | .error _ => exact hallowed.elim
      | .ok .alreadyPresent =>
        have hrecords : w'.records = w.records := alters.2
        have hsame : w'.tally r Runner.keepsRecord = w.tally r Runner.keepsRecord := by
          rw [follows.eq_duplicate] at htally
          simpa [Disposition.isFinal] using htally
        refine ⟨?_, ?_⟩
        · rwa [hsame]
        · rwa [hsame, hrecords]
      | .ok .claimed =>
        obtain ⟨hfresh, hadded⟩ : r ∉ w.records ∧ w'.records = insert r w.records := alters
        have hnone : ¬ 0 < w.tally r Runner.keepsRecord := fun hpos => hfresh (hrecord hpos)
        rw [follows.keepsRecord_of_claimed] at htally
        simp only [ne_eq, not_true, decide_false, Bool.false_eq_true, if_false, if_true] at htally
        refine ⟨by omega, fun _ => ?_⟩
        rw [hadded]
        exact Finset.mem_insert_self r w.records
    · rw [follows.keepsRecord hclaim] at htally
      have hpos : 0 < w.tally r Runner.keepsRecord := by
        refine tally_pos here id ?_
        simpa [Runner.keepsRecord_of_waits waits] using hclaim
      by_cases hrelease : await = .release
      · simp only [hrelease, ne_eq, reduceCtorEq, not_true, not_false_iff, decide_true,
          decide_false, Bool.false_eq_true, if_false, if_true] at htally
        refine ⟨by omega, fun _ => by omega⟩
      · simp only [hrelease, hclaim, ne_eq, not_false_iff, decide_true, if_true] at htally
        exact ⟨by omega, fun _ => alters.mem_of_mem hrelease (hrecord hpos)⟩
  | @givenUp _ n run await here id waits runs records =>
    have htally := tally_replace (p := Runner.keepsRecord) here id runs rfl
    rw [Runner.keepsRecord_dropped] at htally
    have hsame : w'.tally r Runner.keepsRecord = w.tally r Runner.keepsRecord := by omega
    refine ⟨?_, ?_⟩
    · rwa [hsame]
    · rwa [hsame, records]

/-- Where all calls of the store are answered, claims are. -/
theorem Event.StoreAnswered.claim (h : e.StoreAnswered) : e.ClaimAnswered := by
  unfold Event.ClaimAnswered
  split
  · exact h
  · trivial

/-- Records without a keeper do not come up if all calls of the store are answered. -/
theorem Step.owned (hallowed : e.StoreAnswered) (h : Step setup w e w') (owned : Owned r w) :
    Owned r w' := by
  intro hmem
  cases h.aspect r with
  | apart tallies record =>
    rw [tallies]
    exact owned (record.1 hmem)
  | begins id runs records =>
    rw [tally_begins id runs]
    exact Nat.add_pos_left (owned (records ▸ hmem)) _
  | @goesOn _ n run await answer progress here id waits stays follows alters runs =>
    have htally := tally_replace (p := Runner.keepsRecord) here id runs rfl
    rw [Runner.keepsRecord_after, Runner.keepsRecord_of_waits waits] at htally
    by_cases hclaim : await = .claim
    · subst hclaim
      match answer with
      | .error _ => exact hallowed.elim
      | .ok .alreadyPresent =>
        have hrecords : w'.records = w.records := alters.2
        have hpos := owned (hrecords ▸ hmem)
        simp only [ne_eq, not_true, decide_false, Bool.false_eq_true, if_false] at htally
        omega
      | .ok .claimed =>
        rw [follows.keepsRecord_of_claimed] at htally
        simp only [ne_eq, not_true, decide_false, Bool.false_eq_true, if_false, if_true] at htally
        omega
    · rw [follows.keepsRecord hclaim] at htally
      by_cases hrelease : await = .release
      · subst hrelease
        match answer with
        | .error _ => exact hallowed.elim
        | .ok () =>
          have hrecords : w'.records = w.records.erase r := alters
          rw [hrecords] at hmem
          exact absurd hmem (Finset.notMem_erase r w.records)
      · have hpos : 0 < w.tally r Runner.keepsRecord := by
          refine tally_pos here id ?_
          simpa [Runner.keepsRecord_of_waits waits] using hclaim
        simp only [hrelease, hclaim, ne_eq, not_false_iff, decide_true, if_true] at htally
        omega
  | @givenUp _ n run await here id waits runs records =>
    have htally := tally_replace (p := Runner.keepsRecord) here id runs rfl
    rw [Runner.keepsRecord_dropped] at htally
    have hpos := owned (records ▸ hmem)
    omega

/-- The store is exact about a request id: the record is there just when it has a keeper. -/
structure Exact (r : String) (w : Depot) : Prop extends Kept r w where
  owned : Owned r w

theorem Step.exact (hallowed : e.StoreAnswered) (h : Step setup w e w') (exact : Exact r w) :
    Exact r w' :=
  ⟨h.kept hallowed.claim exact.toKept, h.owned hallowed exact.owned⟩

theorem Kept.of_runs_eq_nil (h : w.runs = []) : Kept r w := by
  have hzero : w.tally r Runner.keepsRecord = 0 := by simp [tally, h]
  exact ⟨by omega, by omega⟩

theorem Exact.of_runs_eq_nil (h : w.runs = []) (fresh : r ∉ w.records) : Exact r w :=
  ⟨.of_runs_eq_nil h, fun hmem => absurd hmem fresh⟩

/-! ## Refusals -/

/-- The run still waits for the answer to its claim. -/
def Runner.isClaiming (run : Runner) : Bool :=
  run.progress = .waits .claim

/-- The run has been told that the job has a record. -/
def Runner.isDuplicate (run : Runner) : Bool :=
  run.progress = .ends (.ack .duplicate)

/-- The first refusal of a job is the answer to a claim, and there was a record. -/
theorem Step.refuses (h : Step setup w e w') (before : w.tally r Runner.isDuplicate = 0)
    (after : 0 < w'.tally r Runner.isDuplicate) :
    ∃ (n : Nat) (run : Runner), e = .returned n .claim (.ok .alreadyPresent) ∧
      w.runs[n]? = some run ∧ run.job.requestId = r ∧ run.isClaiming ∧ r ∈ w.records := by
  cases h.aspect r with
  | apart tallies record =>
    rw [tallies, before] at after
    exact absurd after (Nat.lt_irrefl 0)
  | begins id runs records =>
    rw [tally_begins id runs, before] at after
    exact absurd after (Nat.lt_irrefl 0)
  | @goesOn _ n run await answer progress here id waits stays follows alters runs =>
    have htally := tally_replace (p := Runner.isDuplicate) here id runs rfl
    have hends : progress = .ends (.ack .duplicate) := by
      by_cases hafter : (run.after await answer progress).isDuplicate
      · exact of_decide_eq_true hafter
      · rw [if_neg hafter] at htally
        omega
    by_cases hclaim : await = .claim
    · subst hclaim
      by_cases hanswer : answer = .ok .alreadyPresent
      · subst hanswer
        exact ⟨n, run, rfl, here, id, decide_eq_true waits, alters.1⟩
      · exact absurd hends (follows.ne_duplicate_of_own hanswer)
    · exact absurd hends (follows.ne_duplicate hclaim)
  | @givenUp _ n run await here id waits runs records =>
    have htally := tally_replace (p := Runner.isDuplicate) here id runs rfl
    have hsame : run.dropped.isDuplicate = run.isDuplicate := rfl
    rw [hsame] at htally
    omega

/-! ## Keepers for good -/

/-- The run keeps its record for good: it has come to an end of the job, or is bound to, or has been
given up with the record in its hands. -/
def Runner.isLasting (run : Runner) : Bool :=
  run.keepsRecord && match run.progress with
    | .waits await => run.isAbandoned || await.hasDelivered
    | .ends _ => true

theorem Runner.isLasting_of_hasDelivered {run : Runner} (h : run.progress.hasDelivered) :
    run.isLasting := by
  have hkeeps : run.keepsRecord = true := Run.Progress.keepsRecord_of_hasDelivered h
  unfold isLasting
  rw [hkeeps]
  split
  · next await waits =>
    rw [waits, Run.hasDelivered_waits] at h
    simp [h]
  · rfl

/-- Keepers for good do not become fewer. -/
theorem Step.tally_isLasting_le (h : Step setup w e w') :
    w.tally r Runner.isLasting ≤ w'.tally r Runner.isLasting := by
  refine h.tally_le ?_ ?_
  · intro run await answer progress waits stays follows hrun
    refine Runner.isLasting_of_hasDelivered ?_
    have hdone : await.hasDelivered = true := by
      simp only [Runner.isLasting, waits, stays, Bool.false_or, Bool.and_eq_true] at hrun
      exact hrun.2
    simp [Runner.after, follows.hasDelivered, hdone]
  · intro run await waits hrun
    simp only [Runner.isLasting, Runner.keepsRecord_dropped, Bool.and_eq_true] at hrun ⊢
    refine ⟨hrun.1, ?_⟩
    simp [Runner.dropped, waits]

/-- The run has made no call but its claim, and either that has not returned or the run has ended
with the answer that the job has a record. -/
def Runner.IsHeldOff (run : Runner) : Prop :=
  run.past = [] ∨
    run.past = [⟨.claim, .ok .alreadyPresent⟩] ∧ run.progress = .ends (.ack .duplicate)

/-- The record of a request id is kept for good, and the runs whose claims have returned since some
state were held off. -/
structure Held (setup : Setup) (r : String) (first w : Depot) : Prop extends Kept r w where
  lasting : 0 < w.tally r Runner.isLasting
  trail : ∀ run ∈ w.runs, Trail setup run.job run.past run.progress
  heldOff : ∀ (n : Nat) (run : Runner), w.runs[n]? = some run → run.job.requestId = r →
    (∀ before : Runner, first.runs[n]? = some before → before.past = []) → run.IsHeldOff

theorem Held.mem_records {first : Depot} (h : Held setup r first w) : r ∈ w.records := by
  have hle : w.tally r Runner.isLasting ≤ w.tally r Runner.keepsRecord := by
    refine tally_mono fun run hmem hrun => ?_
    simp only [Runner.isLasting, Bool.and_eq_true] at hrun
    exact hrun.1
  exact h.recorded (Nat.lt_of_lt_of_le h.lasting hle)

theorem Step.held {first : Depot} (hallowed : e.ClaimAnswered) (h : Step setup w e w')
    (held : Held setup r first w) : Held setup r first w' where
  toKept := h.kept hallowed held.toKept
  lasting := Nat.lt_of_lt_of_le held.lasting h.tally_isLasting_le
  trail := h.trail held.trail
  heldOff := by
    intro n run here' id later
    cases h.origin here' with
    | same here => exact held.heldOff n run here id later
    | started decoded fresh => exact .inl rfl
    | @resumed before await answer progress here waits stays follows alters =>
      rcases held.heldOff n before here id later with hnone | ⟨_, hends⟩
      · have hbefore := held.trail before (List.mem_of_getElem? here)
        rw [hnone, waits] at hbefore
        obtain rfl : await = .claim := by simpa using hbefore.eq_claim_of_nil
        match answer with
        | .error _ => exact hallowed.elim
        | .ok .claimed => exact absurd (id ▸ held.mem_records) alters.1
        | .ok .alreadyPresent =>
          refine .inr ⟨?_, follows.eq_duplicate⟩
          simp [Runner.after, hnone]
      · rw [waits] at hends
        cases hends
    | @dropped before here => exact held.heldOff n before here id later

/-- Once a record is kept for good, a run whose claim returns later is held off. -/
theorem History.heldOff (h : History setup Event.ClaimAnswered w₁ w₂) (kept : Kept r w₁)
    (trail : ∀ run ∈ w₁.runs, Trail setup run.job run.past run.progress)
    (lasting : 0 < w₁.tally r Runner.isLasting) {n : Nat} {run : Runner}
    (here : w₂.runs[n]? = some run) (id : run.job.requestId = r)
    (later : ∀ before, w₁.runs[n]? = some before → before.past = []) : run.IsHeldOff := by
  have hstart : Held setup r w₁ w₁ :=
    ⟨kept, lasting, trail, fun n run here _ later => .inl (later run here)⟩
  have hheld : Held setup r w₁ w₂ := h.preserves (fun hallowed hstep => hstep.held hallowed) hstart
  exact hheld.heldOff n run here id later

end Courier.Depot
