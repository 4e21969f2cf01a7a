import Courier.Proofs.Depot.Delivery

/-!
# A notification is reported at most once

A run tells how its notification ended once its delivery has come out well, once it fails for good,
or once no copy of it could be sent around. Whoever tells keeps the record of the job, and never
lets go of it: after a delivery as after a failure there is no way to a release. So if claims are
answered, only one run of a request id ever tells anything, and what it tells is not contradicted,
neither by the end of that run nor by a delivery of another one.

## Main definitions

* `Run.Progress.isConcluded`, `Run.Progress.hasFailed`: the run has told what there is to tell.
* `Depot.reports`: how often a status event of a request id has been published.
* `Depot.reported_at_most_once`: what is told of a request id, and by whom.
-/

namespace Courier

namespace Run

variable {setup : Setup} {job : Job}

/-! ## What a run tells -/

/-- The call publishes a status event. -/
def Await.isReport (await : Await) : Bool :=
  await.kind = .status

/-- The run has told how its notification ended, or has ended without telling because events are not
published. -/
def Progress.isConcluded : Progress → Bool
  | waits await => await.isReport
  | ends (.ack .delivered) | ends (.reject _) => true
  | ends _ => false

/-- The run has told that its notification failed, or has ended without telling. -/
def Progress.hasFailed : Progress → Bool
  | waits (.reportFailed ..) | ends (.reject _) => true
  | _ => false

@[simp] theorem isConcluded_waits (await : Await) :
    (Progress.waits await).isConcluded = await.isReport := rfl

@[simp] theorem isConcluded_reportFailure (error : String) (reason : RejectReason) :
    (reportFailure setup error reason).isConcluded = true := by
  unfold reportFailure; split <;> rfl

@[simp] theorem isConcluded_reportDelivery : (reportDelivery setup).isConcluded = true := by
  unfold reportDelivery; split <;> rfl

@[simp] theorem hasFailed_reportFailure (error : String) (reason : RejectReason) :
    (reportFailure setup error reason).hasFailed = true := by
  unfold reportFailure; split <;> rfl

theorem Progress.keepsRecord_of_isConcluded {progress : Progress} (h : progress.isConcluded) :
    progress.keepsRecord := by
  cases progress with
  | waits await => cases await <;> simp_all [Await.isReport, Await.kind]
  | ends disposition =>
    unfold isConcluded at h
    split at h <;> simp_all [Disposition.isFinal]

theorem Progress.keepsRecord_of_hasFailed {progress : Progress} (h : progress.hasFailed) :
    progress.keepsRecord := by
  unfold hasFailed at h
  split at h <;> simp_all [Disposition.isFinal]

/-- What has failed has not been delivered. -/
theorem Progress.not_hasDelivered_of_hasFailed {progress : Progress} (h : progress.hasFailed) :
    ¬ progress.hasDelivered := by
  unfold hasFailed at h
  split at h <;> simp_all [Await.hasDelivered]

/-- Who has told is at the end, and makes no more calls. -/
theorem Follows.ends_of_isReport {await : Await} {answer : await.kind.Answer} {progress : Progress}
    (h : Follows setup job await answer progress) (told : await.isReport) :
    progress.isConcluded ∧ progress.awaited = [] := by
  cases h <;> simp_all [Await.isReport, Await.kind, Progress.isConcluded, Progress.awaited]

/-- A failure is not taken back. -/
theorem Follows.hasFailed {await : Await} {answer : await.kind.Answer} {progress : Progress}
    (h : Follows setup job await answer progress) (failed : (Progress.waits await).hasFailed) :
    progress.hasFailed := by
  cases h <;> simp_all [Progress.hasFailed]

namespace Trail

variable {past : List Returned} {progress : Progress}

/-- A run tells at most once, and what it waits for says whether it has. -/
theorem countP_isReport_le (h : Trail setup job past progress) :
    (made past progress).countP Await.isReport ≤ if progress.isConcluded then 1 else 0 := by
  induction h with
  | start => exact Nat.le_refl 0
  | @next past await answer progress before follows ih =>
    rw [made_next, List.countP_append]
    rw [isConcluded_waits] at ih
    by_cases told : await.isReport
    · obtain ⟨concluded, nothing⟩ := follows.ends_of_isReport told
      rw [nothing, concluded]
      rwa [told] at ih
    · rw [if_neg told, Nat.le_zero] at ih
      rw [ih, Nat.zero_add]
      cases progress with
      | waits next => cases last : next.isReport <;> simp [Progress.awaited, last]
      | ends disposition => simp [Progress.awaited]

/-- Only a run whose delivery has come out well tells that it has. -/
theorem hasDelivered_of_mem_made (h : Trail setup job past progress)
    (told : .reportDelivered ∈ made past progress) : progress.hasDelivered := by
  induction h with
  | start => simp at told
  | @next past await answer progress before follows ih =>
    rw [made_next, List.mem_append] at told
    rcases told with told | told
    · have hbefore := ih told
      rw [hasDelivered_waits] at hbefore
      simp [follows.hasDelivered, hbefore]
    · cases progress with
      | waits next =>
        obtain rfl : .reportDelivered = next := by simpa [Progress.awaited] using told
        rfl
      | ends disposition => simp [Progress.awaited] at told

/-- A run that tells of a failure has failed. -/
theorem hasFailed_of_mem_made (h : Trail setup job past progress) {error : String}
    {reason : RejectReason} (told : .reportFailed error reason ∈ made past progress) :
    progress.hasFailed := by
  induction h with
  | start => simp at told
  | @next past await answer progress before follows ih =>
    rw [made_next, List.mem_append] at told
    rcases told with told | told
    · exact follows.hasFailed (ih told)
    · cases progress with
      | waits next =>
        obtain rfl : .reportFailed error reason = next := by simpa [Progress.awaited] using told
        rfl
      | ends disposition => simp [Progress.awaited] at told

end Trail

end Run

namespace Depot

open Run (Await Progress Returned Setup Trail)
open Time (Stamp)

variable {setup : Setup} {w w' w₀ w₁ w₂ : Depot} {r : String} {e : Event}

/-! ## What is told in a depot -/

/-- The run has failed for good, and has told so if events are published. -/
def Runner.hasFailed (run : Runner) : Bool :=
  run.progress.hasFailed

/-- How often runs of the request id have published a status event, or begun to. -/
def reports (w : Depot) (r : String) : Nat :=
  ((w.runs.filter fun run => run.job.requestId = r).flatMap Runner.made).countP Await.isReport

/-- There are no more reports than runs that have come to where they tell. -/
theorem reports_le (trail : ∀ run ∈ w.runs, Trail setup run.job run.past run.progress) :
    w.reports r ≤ w.tally r fun run => run.progress.isConcluded := by
  unfold reports tally
  generalize w.runs = runs at trail
  induction runs with
  | nil => exact Nat.le_refl 0
  | cons run runs ih =>
    have hrun : run.made.countP Await.isReport ≤ if run.progress.isConcluded then 1 else 0 :=
      (trail run List.mem_cons_self).countP_isReport_le
    have hrest := ih fun other hmem => trail other (List.mem_cons_of_mem run hmem)
    by_cases id : run.job.requestId = r
    · simp only [List.countP_cons, id, decide_true, List.filter_cons_of_pos, List.flatMap_cons,
        List.countP_append, beq_self_eq_true, Bool.true_and] at hrest ⊢
      omega
    · simpa [id] using hrest

/-- A run that has failed stays where it is, and does not come to another end. -/
theorem Step.hasFailed (h : Step setup w e w') {n : Nat} {run : Runner}
    (here : w.runs[n]? = some run) (failed : run.hasFailed) :
    ∃ next, w'.runs[n]? = some next ∧ next.hasFailed := by
  obtain ⟨next, here', -⟩ := h.exists_getElem? here
  refine ⟨next, here', ?_⟩
  cases h.origin here' with
  | same there => rwa [Option.some.inj (there.symm.trans here)]
  | started decoded fresh => simp [fresh] at here
  | @resumed before await answer progress there waits stays follows alters =>
    rw [← Option.some.inj (there.symm.trans here), Runner.hasFailed, waits] at failed
    exact follows.hasFailed failed
  | @dropped before there =>
    rw [← Option.some.inj (there.symm.trans here)] at failed
    exact failed

theorem History.hasFailed {allowed : Event → Prop} (h : History setup allowed w w') {n : Nat}
    {run : Runner} (here : w.runs[n]? = some run) (failed : run.hasFailed) :
    ∃ next, w'.runs[n]? = some next ∧ next.hasFailed := by
  refine h.preserves (P := fun v => ∃ next, v.runs[n]? = some next ∧ next.hasFailed)
    (fun _ hstep hbefore => ?_) ⟨run, here, failed⟩
  obtain ⟨next, hnext, hfailed⟩ := hbefore
  exact hstep.hasFailed hnext hfailed

/-- Where a run of the request id has failed, none has delivered: there would be two keepers. -/
theorem Kept.deliveries_eq_zero (kept : Kept r w)
    (trail : ∀ run ∈ w.runs, Trail setup run.job run.past run.progress) {n : Nat} {run : Runner}
    (here : w.runs[n]? = some run) (id : run.job.requestId = r) (failed : run.hasFailed) :
    w.deliveries r = 0 := by
  have hapart : ∀ run : Runner, run.hasFailed → ¬ run.progress.hasDelivered :=
    fun run => Progress.not_hasDelivered_of_hasFailed
  have hboth : (w.tally r fun run => run.hasFailed || run.progress.hasDelivered) ≤
      w.tally r Runner.keepsRecord := by
    refine tally_mono fun run _ h => ?_
    rcases Bool.or_eq_true_iff.1 h with h | h
    · exact Run.Progress.keepsRecord_of_hasFailed h
    · exact Run.Progress.keepsRecord_of_hasDelivered h
  have hfailed : 0 < w.tally r Runner.hasFailed := tally_pos here id failed
  have hone := kept.atMostOne
  rw [tally_or hapart] at hboth
  rw [deliveries_eq trail]
  omega

/-- If claims are answered, then in any state at most one status event of a request id has been
published. Whoever has published that the notification was delivered had it taken by the gateway;
and where it was published that it failed, it is not delivered by anybody, before or after, and the
run that told so does not come to be acknowledged. -/
theorem reported_at_most_once (start : w₀.runs = [])
    (earlier : History setup Event.ClaimAnswered w₀ w₁)
    (later : History setup Event.ClaimAnswered w₁ w₂) :
    w₁.reports r ≤ 1 ∧
      ∀ (n : Nat) (run : Runner) (await : Await) (moment : Stamp) (event : StatusEvent),
        w₁.runs[n]? = some run → await ∈ run.made →
        await.call setup run.job moment = .status event → event.notificationId = r →
        (event.status = .delivered → ∃ call ∈ run.past, call.isDelivery) ∧
        (event.status = .failed → w₂.deliveries r = 0 ∧
          ∀ next reason, w₂.runs[n]? = some next → next.progress ≠ .ends (.ack reason)) := by
  have htrail := earlier.trail start
  have hkept : Kept r w₁ :=
    earlier.preserves (fun hallowed hstep => hstep.kept hallowed) (.of_runs_eq_nil start)
  refine ⟨?_, ?_⟩
  · have htellers : (w₁.tally r fun run => run.progress.isConcluded) ≤
        w₁.tally r Runner.keepsRecord :=
      tally_mono fun run _ => Run.Progress.keepsRecord_of_isConcluded
    exact Nat.le_trans (reports_le htrail) (Nat.le_trans htellers hkept.atMostOne)
  · intro n run await moment event here hmade hcall hid
    have hrun := htrail run (List.mem_of_getElem? here)
    cases await with
    | reportDelivered =>
      cases hcall
      refine ⟨fun _ => ?_, fun hstatus => nomatch hstatus⟩
      have hcount := hrun.countP_isDelivery
      rw [if_pos (hrun.hasDelivered_of_mem_made hmade)] at hcount
      exact List.countP_pos_iff.1 (by omega)
    | reportFailed error reason =>
      cases hcall
      refine ⟨fun hstatus => (nomatch hstatus), fun _ => ?_⟩
      have hfailed : run.hasFailed := hrun.hasFailed_of_mem_made hmade
      obtain ⟨last, hlast, hsame⟩ := later.exists_getElem? here
      obtain ⟨failed, hthere, hstill⟩ := later.hasFailed here hfailed
      obtain rfl := Option.some.inj (hlast.symm.trans hthere)
      have hkept' : Kept r w₂ := later.preserves (fun hallowed hstep => hstep.kept hallowed) hkept
      have htrail' := later.preserves (fun _ hstep => hstep.trail) htrail
      refine ⟨hkept'.deliveries_eq_zero htrail' hlast (hsame ▸ hid) hstill, ?_⟩
      intro next ending hnext hends
      rw [← Option.some.inj (hlast.symm.trans hnext)] at hends
      rw [Runner.hasFailed, hends] at hstill
      cases hstill
    | _ => cases hcall

/-- The broker does not take the copy of a job whose user is not found, and this is told. A second
message of the job changes nothing. -/
theorem uncopied_is_told_once :
    ∃ w₁ w₂ : Depot,
      History {} Event.ClaimAnswered { queue := [sampleJob.encode, sampleJob.encode] } w₁ ∧
      History {} Event.ClaimAnswered w₁ w₂ ∧ w₁.reports "r" = 1 ∧ w₂.deliveries "r" = 0 := by
  let report : Await := .reportFailed BrokerError.nacked.resubmissionText .resubmitFailed
  have hplays : ∃ w₁ ∈ play {} { queue := [sampleJob.encode, sampleJob.encode] }
        [.taken sampleJob.encode, .returned 0 .claim (.ok .claimed),
          .returned 0 .user (.error (.status 503)), .returned 0 .resubmit (.error .nacked)],
      ∃ w₂ ∈ play {} w₁ [.returned 0 report (.ok ()), .taken sampleJob.encode,
          .returned 1 .claim (.ok .alreadyPresent)],
        0 < w₁.reports "r" ∧ ∃ run ∈ w₁.runs[0]?, report ∈ run.made ∧ run.job = sampleJob := by
    decide +kernel
  obtain ⟨w₁, hfirst, w₂, hsecond, hpos, run, hhere, hmade, hjob⟩ := hplays
  have hearlier : History {} Event.ClaimAnswered
      { queue := [sampleJob.encode, sampleJob.encode] } w₁ :=
    .of_play (by simp [Event.ClaimAnswered]) hfirst
  have hlater : History {} Event.ClaimAnswered w₁ w₂ :=
    .of_play (by simp [Event.ClaimAnswered, report]) hsecond
  obtain ⟨honce, htold⟩ := reported_at_most_once (r := "r") rfl hearlier hlater
  have hrid : run.job.requestId = "r" := by rw [hjob]; rfl
  obtain ⟨-, hfailed⟩ := htold 0 run report default _ hhere hmade rfl hrid
  exact ⟨w₁, w₂, hearlier, hlater, by omega, (hfailed rfl).1⟩

end Depot

end Courier
