import Courier.Proofs.Depot.Replay

/-!
# When a release fails

A run that has sent a copy around releases its record, and ends in the same way whether the release
succeeded or not. Let there be no other run of the request id, and let the copy be taken after that.
Of a release that failed it is not known whether the record is gone. If it is still there, it is the
record of nobody, the copy is refused because of it, and the job is lost; a store that works again
does not change that, for records are released by nobody else.

## Main definitions

* `Depot.Secured`: a claim that was granted has its record until the release returns.
* `Depot.copy_refused_iff_release_lost`: when the copy is refused.
-/

namespace Courier.Depot

open Run (Await Progress Returned Setup)

variable {setup : Setup} {w w' w₀ w₁ w₂ v : Depot} {r : String} {e : Event} {n m : Nat}

/-- Once a release has returned, the record is there if it was there and the release was without
effect. -/
theorem Alters.mem_iff_of_release {id : String} {before after : Finset String}
    {answer : Except StoreError Unit} (h : Alters id before after .release answer) :
    id ∈ after ↔ id ∈ before ∧ after = before := by
  have heffect : after = before ∨ after = before.erase id := by
    match answer with
    | .ok () => exact .inr h
    | .error _ => exact h
  rcases heffect with rfl | rfl
  · simp
  · simp [Finset.erase_eq_self]

/-- A claim that is granted puts the record there. -/
theorem Alters.mem_of_isClaim {id : String} {before after : Finset String} {await : Await}
    {answer : await.kind.Answer} (h : Alters id before after await answer)
    (granted : Returned.isClaim ⟨await, answer⟩) : id ∈ after := by
  unfold Returned.isClaim at granted
  split at granted
  · next heq =>
    cases heq
    rw [h.2]
    exact Finset.mem_insert_self id before
  · cases granted

/-- If its claim was granted, a run that has not come to its end has a record. -/
def Secured (r : String) (n : Nat) (w : Depot) : Prop :=
  ∀ past await, w.trace? n = some (past, .waits await) → past.any Returned.isClaim → r ∈ w.records

/-- While there is no other run of the request id, the record is there until the release returns. -/
theorem Step.secured (h : Step setup w e w') (alone : Alone r 0 n w) (secured : Secured r n w) :
    Secured r n w' := by
  have hidle : ∀ k run, w.runs[k]? = some run → run.job.requestId = r → k ≠ n →
      run.isAtWork = false :=
    fun k run here id hne => absurd (alone.only k run here id (Nat.zero_le k)) hne
  intro past await htrace hgranted
  cases h.touch hidle alone.id with
  | spares trace record =>
    rw [record]
    exact secured past await (trace ▸ htrace) hgranted
  | begins before after records =>
    rw [after] at htrace
    cases htrace
    simp at hgranted
  | @goesOn _ job earlier waited answer progress before follows alters after =>
    rw [after] at htrace
    cases htrace
    have hne : waited ≠ .release := by
      rintro rfl
      cases follows
    rw [List.any_append, Bool.or_eq_true] at hgranted
    rcases hgranted with hgranted | hgranted
    · exact alters.mem_of_mem hne (secured earlier waited before hgranted)
    · exact alters.mem_of_isClaim (by simpa using hgranted)

/-- Let there be one run of a request id, let its release return, and let one message of the job,
such as the copy that the run has sent around, be taken after that, when claims are answered again.
The message is refused as a duplicate just if the record was there and the release was without
effect. The record was there if the claim of the first run was granted, and a release that succeeded
is never without effect on it. -/
theorem copy_refused_iff_release_lost (start : w₀.runs = [])
    (before : History setup (fun _ => True) w₀ v) {answer : Except StoreError Unit}
    (released : Step setup v (.returned n .release answer) w₁) {first : Runner}
    (here : v.runs[n]? = some first) (firstId : first.job.requestId = r)
    (after : History setup Event.ClaimAnswered w₁ w₂) {second : Runner}
    (began : w₁.runs.length ≤ m) (there : w₂.runs[m]? = some second)
    (secondId : second.job.requestId = r)
    (only : ∀ k other, w₂.runs[k]? = some other → other.job.requestId = r → k = n ∨ k = m)
    {disposition : Disposition} (ends : second.progress = .ends disposition) :
    (disposition = .ack .duplicate ↔ r ∈ v.records ∧ w₁.records = v.records) ∧
    (first.past.any Returned.isClaim → r ∈ v.records) ∧
    (answer = .ok () → disposition ≠ .ack .duplicate) := by
  obtain ⟨run, progress, hhere, hwaits, -, hfollows, halters, hended⟩ := released.returned
  obtain rfl : run = first := Option.some.inj (hhere.symm.trans here)
  have halone : Alone r 0 n w₁ := by
    refine ⟨fun k other hother hid _ => ?_, fun other hother => ?_⟩
    · obtain ⟨later, hlater, hsame⟩ := History.exists_getElem? after hother
      have hk : k < w₁.runs.length := (List.getElem?_eq_some_iff.1 hother).1
      exact (only k later hlater (hsame ▸ hid)).resolve_right (by omega)
    · rw [← Option.some.inj (hended.symm.trans hother)]
      exact firstId
  have hsecured : Secured r n v :=
    History.preserves (P := fun u => Alone r 0 n u → Secured r n u) before
      (fun _ hstep hbefore hafter =>
        hstep.secured (hstep.alone hafter) (hbefore (hstep.alone hafter)))
      (fun _ past await htrace => by simp [trace?, start] at htrace)
      (released.alone halone)
  have hrecord : r ∈ w₁.records ↔ r ∈ v.records ∧ w₁.records = v.records :=
    (firstId ▸ halters).mem_iff_of_release
  have hidle : w₁.tally r Runner.isAtWork = 0 :=
    halone.tally_isAtWork hended (by cases hfollows; rfl)
  have hrefused : disposition = .ack .duplicate ↔ r ∈ w₁.records := by
    refine History.duplicate_iff_recorded after hidle began there secondId ?_ ends
    intro k other hother hid hk
    have hn : n < w₁.runs.length := (List.getElem?_eq_some_iff.1 hended).1
    exact (only k other hother hid).resolve_left (by omega)
  refine ⟨hrefused.trans hrecord, fun hgranted => ?_, fun hanswer => ?_⟩
  · exact hsecured run.past .release (by rw [trace?_of_getElem? here, hwaits]) hgranted
  · subst hanswer
    have herased : w₁.records = v.records.erase r := firstId ▸ halters
    rw [ne_eq, hrefused, herased]
    exact Finset.notMem_erase r v.records

/-- The release succeeds, and the copy is delivered. -/
theorem copy_delivered_after_release :
    ∃ v ∈ play {} { queue := [sampleJob.encode] }
        (.taken sampleJob.encode :: sampleResubmission 0),
      ∃ w₁ ∈ v.next? {} (.returned 0 .release (.ok ())),
      ∃ w₂ ∈ play {} w₁ (.taken sampleJob.next.encode :: sampleDelivery 1),
      ∃ second ∈ w₂.runs[1]?, second.progress = .ends (.ack .delivered) ∧
        ¬ ("r" ∈ v.records ∧ w₁.records = v.records) := by
  have hplays : ∃ v ∈ play {} { queue := [sampleJob.encode] }
        (.taken sampleJob.encode :: sampleResubmission 0),
      ∃ w₁ ∈ v.next? {} (.returned 0 .release (.ok ())),
      ∃ w₂ ∈ play {} w₁ (.taken sampleJob.next.encode :: sampleDelivery 1),
      (∃ first ∈ v.runs[0]?, first.job.requestId = "r") ∧ w₁.runs.length = 1 ∧
        w₂.runs.length = 2 ∧ ∃ second ∈ w₂.runs[1]?, second.job.requestId = "r" ∧
          second.progress = .ends (.ack .delivered) := by
    decide +kernel
  obtain ⟨v, hfirst, w₁, hreleased, w₂, hsecond, ⟨first, hhere, hid⟩, hone, htwo, second, hthere,
    hid', hends⟩ := hplays
  have hbefore : History {} (fun _ => True) { queue := [sampleJob.encode] } v :=
    .of_play (by simp) hfirst
  have hafter : History {} Event.ClaimAnswered w₁ w₂ :=
    .of_play (by simp [sampleDelivery, sampleAnswers, Event.ClaimAnswered]) hsecond
  have honly : ∀ k other, w₂.runs[k]? = some other → other.job.requestId = "r" →
      k = 0 ∨ k = 1 := by
    intro k other hother _
    have hk : k < w₂.runs.length := (List.getElem?_eq_some_iff.1 hother).1
    omega
  obtain ⟨hrefused, -⟩ := copy_refused_iff_release_lost rfl hbefore (.of_next? hreleased) hhere hid
    hafter (by omega) hthere hid' honly hends
  exact ⟨v, hfirst, w₁, hreleased, w₂, hsecond, second, hthere, hends,
    fun hkept => by cases hrefused.2 hkept⟩

/-- The release fails and the record stays; everything works again, but the copy is refused, nothing
is left in the queue, and the job was never delivered. -/
theorem copy_refused_after_failed_release :
    ∃ v w₁ w₂ : Depot, History {} (fun _ => True) { queue := [sampleJob.encode] } v ∧
      Step {} v (.returned 0 .release (.error .timeout)) w₁ ∧
      History {} Event.StoreAnswered w₁ w₂ ∧ w₂.queue = [] ∧
      w₂.runs.map (·.job) = [sampleJob, sampleJob.next] ∧
      w₂.runs.map (·.progress) = [.ends (.ack (.resubmitted 1)), .ends (.ack .duplicate)] := by
  have hplays : ∃ v ∈ play {} { queue := [sampleJob.encode] }
        (.taken sampleJob.encode :: sampleResubmission 0),
      ∃ w₁ ∈ v.next? {} (.returned 0 .release (.error .timeout)),
      ∃ w₂ ∈ play {} w₁ [.taken sampleJob.next.encode, .returned 1 .claim (.ok .alreadyPresent)],
        w₂.queue = [] ∧ w₂.runs.map (·.job) = [sampleJob, sampleJob.next] ∧
        w₂.runs.map (·.progress) = [.ends (.ack (.resubmitted 1)), .ends (.ack .duplicate)] := by
    decide +kernel
  obtain ⟨v, hfirst, w₁, hreleased, w₂, hsecond, hrest⟩ := hplays
  exact ⟨v, w₁, w₂, .of_play (by simp) hfirst, .of_next? hreleased,
    .of_play (by simp [Event.StoreAnswered]) hsecond, hrest⟩

end Courier.Depot
