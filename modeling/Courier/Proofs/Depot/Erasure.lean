import Courier.Proofs.Depot.Delivery
import Courier.Proofs.Depot.Loss

/-!
# When the record of a delivered job is erased

A release takes away the record of its job, whoever has put it there. As long as claims are answered
this is harmless: whoever releases a record has been granted it, so nobody else has delivered. A run
whose claim failed goes on without a record of its own, though, and what it releases is whatever
record there is. So once claims may fail, no delivery is safe: if one more message of the job comes,
its claim fails and something goes wrong before it has delivered again, the record is gone, and the
copy that the run has sent around is delivered once more.

## Main definitions

* `Run.Await.mayRelease`: the calls that a release may come after.
* `Depot.Erasable`: a release may take the record away.
* `Depot.Safe`: what keeps it there.
* `Depot.erasable_of_delivered`: when the record of a delivered job may go.
-/

namespace Courier.Run

variable {setup : Setup} {job : Job}

/-! ## Before a release -/

/-- A run that waits for this may yet come to release the record. -/
def Await.mayRelease : Await → Bool
  | user | template _ | send .. | resubmit | release => true
  | claim | mark | reportDelivered | reportFailed .. => false

/-- The run may yet come to release the record, without another claim. -/
def Progress.mayRelease : Progress → Bool
  | waits await => await.mayRelease
  | ends _ => false

@[simp] theorem mayRelease_waits (await : Await) :
    (Progress.waits await).mayRelease = await.mayRelease := rfl

@[simp] theorem mayRelease_ends (disposition : Disposition) :
    (Progress.ends disposition).mayRelease = false := rfl

@[simp] theorem mayRelease_reportFailure (error : String) (reason : RejectReason) :
    (reportFailure setup error reason).mayRelease = false := by
  unfold reportFailure; split <;> rfl

@[simp] theorem mayRelease_reportDelivery : (reportDelivery setup).mayRelease = false := by
  unfold reportDelivery; split <;> rfl

theorem Progress.keepsRecord_of_mayRelease {progress : Progress} (h : progress.mayRelease) :
    progress.keepsRecord := by
  cases progress with
  | waits await => cases await <;> simp_all [Await.mayRelease]
  | ends disposition => cases h

/-- A run that has delivered does not come to a release any more. -/
theorem Progress.not_mayRelease_of_hasDelivered {progress : Progress} (h : progress.hasDelivered) :
    ¬ progress.mayRelease := by
  cases progress with
  | waits await => cases await <;> simp_all [Await.mayRelease, Await.hasDelivered]
  | ends disposition => simp

/-- Past its claim, a run that does not come to a release any more never will. -/
theorem Follows.mayRelease {await : Await} {answer : await.kind.Answer} {progress : Progress}
    (h : Follows setup job await answer progress) (hne : await ≠ .claim)
    (settled : await.mayRelease = false) : progress.mayRelease = false := by
  cases h <;> simp_all [Await.mayRelease]

/-- A run that has delivered, or may yet release the record, had retries left. -/
theorem Trail.accepted {past : List Returned} {progress : Progress}
    (h : Trail setup job past progress) (later : progress.mayRelease ∨ progress.hasDelivered) :
    ¬ setup.limits.maxRetries ≤ job.retryCount := by
  induction h with
  | start => simp [Await.mayRelease, Await.hasDelivered] at later
  | @next past await answer progress before follows ih =>
    cases follows with
    | accepted own left => exact left
    | duplicate | exhausted | reportedFailed => simp at later
    | _ => exact ih (by simp [Await.mayRelease, Await.hasDelivered])

end Courier.Run

namespace Courier.Depot

open Run (Await Progress Returned Setup)

variable {setup : Setup} {allowed : Event → Prop} {w w' w₀ w₁ : Depot} {r : String} {e : Event}
  {n : Nat} {job : Job} {payload : List UInt8}

/-- A release, in time, takes the record of the request id away. -/
def Erasable (setup : Setup) (allowed : Event → Prop) (r : String) (w : Depot) : Prop :=
  ∃ (v v' : Depot) (n : Nat) (answer : Except StoreError Unit),
    History setup allowed w v ∧ Step setup v (.returned n .release answer) v' ∧
    r ∈ v.records ∧ r ∉ v'.records

theorem Erasable.of_history (h : History setup allowed w w') (later : Erasable setup allowed r w') :
    Erasable setup allowed r w := by
  obtain ⟨v, v', n, answer, hlater, hrest⟩ := later
  exact ⟨v, v', n, answer, h.trans hlater, hrest⟩

theorem Erasable.of_step (hallowed : allowed e) (h : Step setup w e w')
    (later : Erasable setup allowed r w') : Erasable setup allowed r w :=
  later.of_history (.single ⟨e, hallowed, h⟩)

theorem Erasable.mono {more : Event → Prop} (himp : ∀ e, allowed e → more e)
    (h : Erasable setup allowed r w) : Erasable setup more r w := by
  obtain ⟨v, v', n, answer, hhistory, hrest⟩ := h
  exact ⟨v, v', n, answer, hhistory.mono himp, hrest⟩

/-! ## What keeps a record -/

/-- The run is at work and may yet release the record, without another claim. -/
def Runner.mayRelease (run : Runner) : Bool :=
  run.isAtWork && run.progress.mayRelease

/-- A claim that is answered while the record is there is refused. -/
theorem Alters.eq_alreadyPresent {id : String} {before after : Finset String}
    {answer : Except ClaimError Claim} (h : Alters id before after .claim answer)
    (hallowed : Event.ClaimAnswered (.returned n .claim answer)) (record : id ∈ before) :
    answer = .ok .alreadyPresent := by
  match answer with
  | .error _ => exact hallowed.elim
  | .ok .claimed => exact absurd record h.1
  | .ok .alreadyPresent => rfl

/-- The record is there, and whoever is past its claim leaves it there. -/
structure Safe (r : String) (w : Depot) : Prop where
  record : r ∈ w.records
  settled : w.tally r Runner.mayRelease = 0

/-- Claims that are answered are refused while the record is there, so nobody joins those who might
release it. -/
theorem Step.safe (hallowed : e.ClaimAnswered) (h : Step setup w e w') (safe : Safe r w) :
    Safe r w' := by
  obtain ⟨hrecord, hsettled⟩ := safe
  cases h.aspect r with
  | apart tallies record =>
    refine ⟨record.2 hrecord, ?_⟩
    rw [tallies, hsettled]
  | begins id runs records =>
    refine ⟨records ▸ hrecord, ?_⟩
    rw [tally_begins id runs, hsettled]
    rfl
  | @goesOn _ n run await answer progress here id waits stays follows alters runs =>
    have htally := tally_replace (p := Runner.mayRelease) here id runs rfl
    have hbefore : run.mayRelease = await.mayRelease := by
      simp [Runner.mayRelease, Runner.isAtWork, waits, stays]
    have hawait : await.mayRelease = false := by
      rw [hbefore] at htally
      by_contra hmay
      have hpos := tally_pos (p := Runner.mayRelease) here id (by simpa [hbefore] using hmay)
      omega
    -- a claim is refused while the record is there, and past it nobody comes back
    have hprogress : progress.mayRelease = false := by
      by_cases hclaim : await = .claim
      · subst hclaim
        obtain rfl := alters.eq_alreadyPresent hallowed hrecord
        rw [follows.eq_duplicate]
        rfl
      · exact follows.mayRelease hclaim hawait
    have hafter : (run.after await answer progress).mayRelease = false := by
      simp [Runner.mayRelease, Runner.after, hprogress]
    refine ⟨alters.mem_of_mem (by rintro rfl; cases hawait) hrecord, ?_⟩
    rw [hbefore, hawait, hafter, hsettled] at htally
    simpa using htally
  | @givenUp _ n run await here id waits runs records =>
    have htally := tally_replace (p := Runner.mayRelease) here id runs rfl
    have hafter : run.dropped.mayRelease = false := by
      simp [Runner.mayRelease, Runner.isAtWork, Runner.dropped, waits]
    refine ⟨records ▸ hrecord, ?_⟩
    rw [hafter, hsettled] at htally
    simp only [Bool.false_eq_true, if_false] at htally
    omega

theorem Safe.not_erasable (safe : Safe r w) : ¬ Erasable setup Event.ClaimAnswered r w := by
  rintro ⟨v, v', n, answer, hhistory, hstep, hrecord, herased⟩
  have hsafe : Safe r v := hhistory.preserves (fun hallowed hstep => hstep.safe hallowed) safe
  obtain ⟨run, progress, here, hwaits, hstays, -, halters, -⟩ := hstep.returned
  by_cases id : run.job.requestId = r
  · have hpos : 0 < v.tally r Runner.mayRelease := by
      refine tally_pos here id ?_
      simp [Runner.mayRelease, Runner.isAtWork, hwaits, hstays, Await.mayRelease]
    exact absurd hsafe.settled hpos.ne'
  · exact herased ((halters.mem_iff (Ne.symm id)).2 hrecord)

/-- If claims have always been answered, the record of a delivered job is kept by the run that has
delivered, and whoever might release it would be another keeper. -/
theorem Kept.safe_of_delivered (kept : Kept r w)
    (delivered : 0 < w.tally r fun run => run.progress.hasDelivered) : Safe r w := by
  have hapart : ∀ run : Runner, run.progress.hasDelivered → ¬ run.mayRelease := by
    intro run hdone hrun
    simp only [Runner.mayRelease, Bool.and_eq_true] at hrun
    exact Run.Progress.not_mayRelease_of_hasDelivered hdone hrun.2
  have hboth : (w.tally r fun run => run.progress.hasDelivered) + w.tally r Runner.mayRelease ≤
      w.tally r Runner.keepsRecord := by
    rw [← tally_or hapart]
    refine tally_mono fun run _ hrun => ?_
    simp only [Runner.mayRelease, Bool.or_eq_true, Bool.and_eq_true] at hrun
    rcases hrun with hdone | ⟨-, hmay⟩
    · exact Run.Progress.keepsRecord_of_hasDelivered hdone
    · exact Run.Progress.keepsRecord_of_mayRelease hmay
  have hone := kept.atMostOne
  exact ⟨kept.recorded (by omega), by omega⟩

/-! ## What takes a record away -/

/-- A run of the job waits for the call to return. -/
def IsWaiting (w : Depot) (n : Nat) (job : Job) (await : Await) : Prop :=
  ∃ run, w.runs[n]? = some run ∧ run.job = job ∧ run.progress = .waits await ∧
    run.isAbandoned = false

theorem Runner.exists_isWaiting {run : Runner} (here : w.runs[n]? = some run)
    (may : run.mayRelease) : ∃ await, w.IsWaiting n run.job await ∧ await.mayRelease := by
  simp only [mayRelease, Bool.and_eq_true] at may
  obtain ⟨hwork, hmay⟩ := may
  cases hprogress : run.progress with
  | waits await =>
    refine ⟨await, ⟨run, here, rfl, hprogress, ?_⟩, by simpa [hprogress] using hmay⟩
    simpa [isAtWork, hprogress] using hwork
  | ends disposition => simp [hprogress] at hmay

/-- Whatever answer the records allow may come, and the run goes on. -/
theorem IsWaiting.erasable_of_answer {await : Await} (waiting : w.IsWaiting n job await)
    (answer : await.kind.Answer) (next : Await) {records : Finset String}
    (alters : Alters job.requestId w.records records await answer)
    (goesOn : ∀ progress, Run.Follows setup job await answer progress → progress = .waits next)
    (hallowed : allowed (.returned n await answer))
    (later : ∀ v : Depot, v.records = records → v.IsWaiting n job next →
      Erasable setup allowed r v) :
    Erasable setup allowed r w := by
  obtain ⟨run, here, rfl, waits, stays⟩ := waiting
  have hstep : Step setup w (.returned n await answer)
      (w.proceed setup n run await answer records (copies run.job ⟨await, answer⟩)) :=
    .proceed here waits stays alters (copied_copies ..)
  obtain ⟨same, progress, hhere, -, -, hfollows, -, hafter⟩ := hstep.returned
  obtain rfl := Option.some.inj (hhere.symm.trans here)
  exact .of_step hallowed hstep (later _ rfl ⟨_, hafter, rfl, goesOn progress hfollows, stays⟩)

/-- A release that succeeds takes the record away. -/
theorem IsWaiting.erasable_of_release (waiting : w.IsWaiting n job .release)
    (record : job.requestId ∈ w.records) : Erasable setup allowed job.requestId w := by
  obtain ⟨run, here, rfl, waits, stays⟩ := waiting
  let answer : Except StoreError Unit := .ok ()
  have halters : Alters run.job.requestId w.records (w.records.erase run.job.requestId) .release
    answer := rfl
  exact ⟨w, _, n, answer, .refl, .proceed here waits stays halters (copied_copies ..), record,
    Finset.notMem_erase run.job.requestId w.records⟩

/-- Whoever may release the record will, if its next call fails and a copy goes around. -/
theorem IsWaiting.erasable {await : Await} (waiting : w.IsWaiting n job await)
    (may : await.mayRelease) (record : job.requestId ∈ w.records) :
    Erasable setup Event.ClaimAnswered job.requestId w := by
  have hrelease : ∀ v : Depot, v.records = w.records → v.IsWaiting n job .release →
      Erasable setup Event.ClaimAnswered job.requestId v :=
    fun v hsame hwaiting => hwaiting.erasable_of_release (hsame ▸ record)
  have hresubmit : ∀ v : Depot, v.records = w.records → v.IsWaiting n job .resubmit →
      Erasable setup Event.ClaimAnswered job.requestId v := by
    intro v hsame hwaiting
    refine hwaiting.erasable_of_answer (.ok ()) .release rfl ?_ trivial (hsame ▸ hrelease)
    rintro _ ⟨⟩
    rfl
  cases await with
  | claim | mark | reportDelivered | reportFailed => cases may
  | release => exact hrelease w rfl waiting
  | resubmit => exact hresubmit w rfl waiting
  | user =>
    refine waiting.erasable_of_answer (.error (.status 503)) .resubmit rfl ?_ trivial hresubmit
    rintro _ ⟨⟩
    rfl
  | template token =>
    refine waiting.erasable_of_answer (.error (.status 503)) .resubmit rfl ?_ trivial hresubmit
    rintro _ ⟨⟩
    rfl
  | send generation notification =>
    refine waiting.erasable_of_answer (.error .timeout) .resubmit rfl ?_ trivial hresubmit
    rintro _ ⟨⟩
    rfl

/-- A message of a job may come in and be taken at any time. -/
theorem exists_claiming (decoded : Run.begin payload = .ok job) :
    ∃ v, History setup Event.ClaimAnswered w v ∧ v.records = w.records ∧
      ∃ n, v.IsWaiting n job .claim := by
  have hqueued : payload ∈ (w.submit payload).queue := by simp [Depot.submit]
  have hsubmit : Step setup w (.submitted payload) (w.submit payload) := .submit w payload
  have hlaunch : Step setup (w.submit payload) (.taken payload)
      ((w.submit payload).launch payload job) := .launch hqueued decoded
  have hhistory : History setup Event.ClaimAnswered w ((w.submit payload).launch payload job) :=
    .tail (.single ⟨.submitted payload, trivial, hsubmit⟩) ⟨.taken payload, trivial, hlaunch⟩
  refine ⟨_, hhistory, rfl, w.runs.length, .start job, ?_, rfl, rfl, rfl⟩
  simp [Depot.launch, Depot.submit]

/-- A job with retries left whose claim is not refused may come to release its record. -/
theorem erasable_of_own (himp : ∀ e : Event, e.ClaimAnswered → allowed e)
    (decoded : Run.begin payload = .ok job) (left : ¬ setup.limits.maxRetries ≤ job.retryCount)
    (answer : Except ClaimError Claim) (own : answer ≠ .ok .alreadyPresent)
    (hallowed : ∀ n, allowed (.returned n .claim answer)) (records : Finset String)
    (alters : Alters job.requestId w.records records .claim answer)
    (record : job.requestId ∈ records) : Erasable setup allowed job.requestId w := by
  obtain ⟨v, hhistory, hsame, n, hwaiting⟩ :
      ∃ v, History setup Event.ClaimAnswered w v ∧ v.records = w.records ∧
        ∃ n, v.IsWaiting n job .claim := exists_claiming decoded
  refine .of_history (hhistory.mono himp) ?_
  refine hwaiting.erasable_of_answer answer .user (hsame ▸ alters) ?_ (hallowed n) ?_
  · intro progress hfollows
    cases hfollows with
    | duplicate => exact absurd rfl own
    | exhausted own spent => exact absurd spent left
    | accepted own left => rfl
  · intro u hrecords huser
    exact (huser.erasable rfl (hrecords ▸ record)).mono himp

/-! ## When the record of a delivered job may go -/

/-- Let a run of a request id have delivered and come to its end, whatever the store has answered to
it. If claims may fail from then on, the record may be erased, whatever has happened before. If they
are answered from then on, it may be erased just if it is not there at the time, so that another run
puts it there again, or if some run that is past its claim may yet come to a release. And if claims
have always been answered, neither is the case: then no release ever erases the record. -/
theorem erasable_of_delivered (start : w₀.runs = [])
    (earlier : History setup (fun _ => True) w₀ w₁) {run : Runner} (here : run ∈ w₁.runs)
    (id : run.job.requestId = r) (delivered : run.progress = .ends (.ack .delivered)) :
    Erasable setup (fun _ => True) r w₁ ∧
    (Erasable setup Event.ClaimAnswered r w₁ ↔
      r ∉ w₁.records ∨ ∃ other ∈ w₁.runs, other.job.requestId = r ∧ other.mayRelease) ∧
    (History setup Event.ClaimAnswered w₀ w₁ → ¬ Erasable setup Event.ClaimAnswered r w₁) := by
  obtain ⟨payload, hdecoded⟩ : ∃ payload, Run.begin payload = .ok run.job :=
    earlier.preserves (P := Begun) (fun _ hstep => hstep.begun) (by simp [Begun, start]) run here
  have hdone : run.progress.hasDelivered := by simp [delivered]
  have hleft : ¬ setup.limits.maxRetries ≤ run.job.retryCount :=
    (earlier.trail start run here).accepted (.inr hdone)
  have habsent : r ∉ w₁.records → Erasable setup Event.ClaimAnswered r w₁ := by
    intro hnot
    subst id
    exact erasable_of_own (fun _ h => h) hdecoded hleft (.ok .claimed) (by simp)
      (fun _ => trivial) (insert run.job.requestId w₁.records) ⟨hnot, rfl⟩
      (Finset.mem_insert_self ..)
  refine ⟨?_, ⟨fun herasable => ?_, ?_⟩, fun hanswered => ?_⟩
  · by_cases hrecord : r ∈ w₁.records
    · subst id
      exact erasable_of_own (fun _ _ => trivial) hdecoded hleft (.error .timedOut) (by simp)
        (fun _ => trivial) w₁.records (.inl rfl) hrecord
    · exact (habsent hrecord).mono fun _ _ => trivial
  · by_contra hnot
    rw [not_or, not_not] at hnot
    refine Safe.not_erasable ⟨hnot.1, ?_⟩ herasable
    by_contra hsome
    exact hnot.2 (tally_pos_iff.1 (Nat.pos_of_ne_zero hsome))
  · rintro (hnot | ⟨other, hmem, hid, hmay⟩)
    · exact habsent hnot
    · by_cases hrecord : r ∈ w₁.records
      · obtain ⟨n, hthere⟩ := List.getElem?_of_mem hmem
        obtain ⟨await, hwaiting, hawait⟩ := Runner.exists_isWaiting hthere hmay
        subst hid
        exact hwaiting.erasable hawait hrecord
      · exact habsent hrecord
  · have hkept : Kept r w₁ :=
      hanswered.preserves (fun hallowed hstep => hstep.kept hallowed) (.of_runs_eq_nil start)
    refine (hkept.safe_of_delivered ?_).not_erasable
    exact tally_pos_iff.2 ⟨run, here, id, hdone⟩

/-- Claims have been answered until the job was delivered; its record stays if they go on to be, but
not if they may fail. -/
theorem delivered_record_stays :
    ∃ w ∈ play {} { queue := [sampleJob.encode] } (.taken sampleJob.encode :: sampleDelivery 0),
      "r" ∈ w.records ∧ ¬ Erasable {} Event.ClaimAnswered "r" w ∧
        Erasable {} (fun _ => True) "r" w := by
  have hplays : ∃ w ∈ play {} { queue := [sampleJob.encode] }
        (.taken sampleJob.encode :: sampleDelivery 0),
      "r" ∈ w.records ∧ ∃ run ∈ w.runs[0]?, run.job.requestId = "r" ∧
        run.progress = .ends (.ack .delivered) := by
    decide +kernel
  obtain ⟨w, hplay, hrecord, run, hhere, hid, hends⟩ := hplays
  have hanswered : History {} Event.ClaimAnswered { queue := [sampleJob.encode] } w :=
    .of_play (by simp [sampleDelivery, sampleAnswers, Event.ClaimAnswered]) hplay
  obtain ⟨herasable, -, hstays⟩ := erasable_of_delivered rfl (hanswered.mono fun _ _ => trivial)
    (List.mem_of_getElem? hhere) hid hends
  exact ⟨w, hplay, hrecord, hstays hanswered, herasable⟩

/-- A job is delivered and its record is stored. The claim of a second message of it fails, the user
cannot be looked up, and the release that follows erases the record. The copy is delivered again. -/
theorem delivered_record_is_erased :
    ∃ w ∈ play {} { queue := [sampleJob.encode, sampleJob.encode] }
        (.taken sampleJob.encode :: sampleDelivery 0),
      w.runs.map (·.progress) = [.ends (.ack .delivered)] ∧ "r" ∈ w.records ∧
      ∃ v v' w' : Depot, History {} (fun _ => True) w v ∧
        Step {} v (.returned 1 .release (.ok ())) v' ∧ "r" ∈ v.records ∧ "r" ∉ v'.records ∧
        History {} Event.StoreAnswered v' w' ∧
        w'.runs.map (·.job) = [sampleJob, sampleJob, sampleJob.next] ∧ w'.deliveries "r" = 2 := by
  have hplays : ∃ w ∈ play {} { queue := [sampleJob.encode, sampleJob.encode] }
        (.taken sampleJob.encode :: sampleDelivery 0),
      w.runs.map (·.progress) = [.ends (.ack .delivered)] ∧ "r" ∈ w.records ∧
      ∃ v ∈ play {} w [.taken sampleJob.encode, .returned 1 .claim (.error .timedOut),
          .returned 1 .user (.error (.status 503)), .returned 1 .resubmit (.ok ())],
      ∃ v' ∈ v.next? {} (.returned 1 .release (.ok ())),
      ∃ w' ∈ play {} v' (.taken sampleJob.next.encode :: sampleAnswers 2),
        "r" ∈ v.records ∧ "r" ∉ v'.records ∧
        w'.runs.map (·.job) = [sampleJob, sampleJob, sampleJob.next] ∧ w'.deliveries "r" = 2 := by
    decide +kernel
  obtain ⟨w, hfirst, hends, hstored, v, hsecond, v', hreleased, w', hthird, hrecord, herased,
    hjobs, htwice⟩ := hplays
  exact ⟨w, hfirst, hends, hstored, v, v', w', .of_play (by simp) hsecond, .of_next? hreleased,
    hrecord, herased, .of_play (by simp [sampleAnswers, Event.StoreAnswered]) hthird, hjobs, htwice⟩

end Courier.Depot
