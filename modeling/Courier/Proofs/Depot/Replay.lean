import Courier.Proofs.Depot.Record

/-!
# A message that has its request id to itself

A job may come again when nothing else of it goes on: put back after a rejection, or sent around as
a copy. Nobody else then touches its record, so its claim is answered by what the record was when
everything was at rest, however long ago, and whatever runs of other request ids have done since.

## Main definitions

* `Depot.Alone`: one run of the request id has come since, and no other.
* `Depot.Sole`: what its progress says of the record.
* `History.duplicate_iff_recorded`: when the job is refused.
-/

namespace Courier.Depot

open Run (Await Progress Returned Setup)

variable {setup : Setup} {w w' first : Depot} {r : String} {e : Event} {m : Nat}

/-- Of the runs of the request id that have come since there were `count` runs, the one of number
`m` is the only one; and it is one. -/
structure Alone (r : String) (count m : Nat) (w : Depot) : Prop where
  only : ∀ n run, w.runs[n]? = some run → run.job.requestId = r → count ≤ n → n = m
  id : ∀ run, w.runs[m]? = some run → run.job.requestId = r

/-- Who is alone in the end has been alone before. -/
theorem Step.alone {count : Nat} (h : Step setup w e w') (alone : Alone r count m w') :
    Alone r count m w where
  only n run here id began := by
    obtain ⟨next, here', same⟩ := h.exists_getElem? here
    exact alone.only n next here' (same ▸ id) began
  id run here := by
    obtain ⟨next, here', same⟩ := h.exists_getElem? here
    exact same ▸ alone.id next here'

/-- Where one run is alone and rests, no run of the request id is at work. -/
theorem Alone.tally_isAtWork {run : Runner} (alone : Alone r 0 m w) (here : w.runs[m]? = some run)
    (rests : run.isAtWork = false) : w.tally r Runner.isAtWork = 0 := by
  by_contra hsome
  obtain ⟨other, hmem, hid, hwork⟩ := tally_pos_iff.1 (Nat.pos_of_ne_zero hsome)
  obtain ⟨n, hthere⟩ := List.getElem?_of_mem hmem
  obtain rfl := alone.only n other hthere hid (Nat.zero_le n)
  rw [← Option.some.inj (here.symm.trans hthere), rests] at hwork
  cases hwork

/-- What has returned to the run of a number, and how it goes on, if there is one. -/
def trace? (w : Depot) (m : Nat) : Option (List Returned × Progress) :=
  w.runs[m]?.map fun run => (run.past, run.progress)

theorem trace?_of_getElem? {run : Runner} (here : w.runs[m]? = some run) :
    w.trace? m = some (run.past, run.progress) := by
  rw [trace?, here]
  rfl

theorem trace?_of_set {n : Nat} {run next : Runner} (here : w.runs[n]? = some run)
    (runs : w'.runs = w.runs.set n next) : w'.trace? n = some (next.past, next.progress) := by
  refine trace?_of_getElem? ?_
  rw [runs]
  exact List.getElem?_set_self (List.getElem?_eq_some_iff.1 here).1

theorem trace?_of_set_ne {n : Nat} {next : Runner} (hne : n ≠ m)
    (runs : w'.runs = w.runs.set n next) : w'.trace? m = w.trace? m := by
  rw [trace?, trace?, runs, List.getElem?_set_ne hne]

/-- What a step is to a run of the request id, and to the record, while no other is at work. -/
inductive Touch (setup : Setup) (r : String) (m : Nat) (w : Depot) : Event → Depot → Prop where
  /-- Nothing. -/
  | spares {e : Event} {w' : Depot} (trace : w'.trace? m = w.trace? m)
      (record : r ∈ w'.records ↔ r ∈ w.records) : Touch setup r m w e w'
  /-- The run begins. -/
  | begins {e : Event} {w' : Depot} (before : w.trace? m = none)
      (after : w'.trace? m = some ([], .waits .claim)) (records : w'.records = w.records) :
      Touch setup r m w e w'
  /-- It goes on. -/
  | goesOn {w' : Depot} {job : Job} {past : List Returned} {await : Await}
      {answer : await.kind.Answer} {progress : Progress}
      (before : w.trace? m = some (past, .waits await))
      (follows : Run.Follows setup job await answer progress)
      (alters : Alters r w.records w'.records await answer)
      (after : w'.trace? m = some (past ++ [⟨await, answer⟩], progress)) :
      Touch setup r m w (.returned m await answer) w'

/-- While no other run of the request id is at work, every step is one of three things to it. -/
theorem Step.touch (h : Step setup w e w')
    (idle : ∀ n run, w.runs[n]? = some run → run.job.requestId = r → n ≠ m → run.isAtWork = false)
    (id : ∀ run, w.runs[m]? = some run → run.job.requestId = r) : Touch setup r m w e w' := by
  cases h with
  | submit | refuse | pass | look => exact .spares rfl Iff.rfl
  | @launch payload job queued decoded =>
    by_cases hm : m = w.runs.length
    · subst hm
      refine .begins ?_ ?_ rfl
      · simp [trace?]
      · simp [trace?, Depot.launch, Runner.start]
    · refine .spares ?_ Iff.rfl
      have hget : (w.runs ++ [.start job])[m]? = w.runs[m]? := by
        by_cases hlt : m < w.runs.length
        · exact List.getElem?_append_left hlt
        · rw [List.getElem?_eq_none (by simp; omega), List.getElem?_eq_none (by omega)]
      exact congrArg (Option.map fun run => (run.past, run.progress)) hget
  | @proceed n run await answer records copies here waits stays alters copied =>
    by_cases hn : n = m
    · subst hn
      let progress := (Run.resume setup w.now run.job w.breaker await answer).progress
      let next := run.after await answer progress
      have hafter : (w.proceed setup n run await answer records copies).trace? n =
          some (next.past, next.progress) := trace?_of_set here rfl
      refine .goesOn ?_ (Run.follows_resume ..) (id run here ▸ alters) hafter
      rw [trace?_of_getElem? here, waits]
    · refine .spares (trace?_of_set_ne hn rfl) (alters.mem_iff fun same => ?_)
      have hwork := idle n run here same.symm hn
      simp [Runner.isAtWork, waits, stays] at hwork
  | @giveUp n run await here waits stays =>
    refine .spares ?_ Iff.rfl
    by_cases hn : n = m
    · subst hn
      have hafter : (w.giveUp setup n run await).trace? n =
          some (run.dropped.past, run.dropped.progress) := trace?_of_set here rfl
      rw [trace?_of_getElem? here]
      exact hafter
    · exact trace?_of_set_ne hn rfl

/-- Since the state `first`, nobody but the run of number `m` has been at work for the request id,
so the record is as it was then until the claim of that run is answered, and it is what the answer
goes by. -/
structure Sole (r : String) (m : Nat) (first w : Depot) : Prop where
  count : first.runs.length ≤ w.runs.length
  idle : ∀ n run, w.runs[n]? = some run → run.job.requestId = r → n ≠ m → run.isAtWork = false
  unclaimed : (∀ past p, w.trace? m = some (past, p) → p = .waits .claim) →
    (r ∈ w.records ↔ r ∈ first.records)
  claimed : ∀ past p, w.trace? m = some (past, p) → p ≠ .waits .claim →
    (p = .ends (.ack .duplicate) ↔ r ∈ first.records)

/-- A run of the request id other than the one that is alone is no more at work than before. -/
theorem Sole.idle_of_step (sole : Sole r m first w) (h : Step setup w e w')
    (alone : Alone r first.runs.length m w') {n : Nat} {run : Runner}
    (here' : w'.runs[n]? = some run) (id : run.job.requestId = r) (hne : n ≠ m) :
    run.isAtWork = false := by
  cases h.origin here' with
  | same here => exact sole.idle n run here id hne
  | started decoded fresh =>
    have hn : first.runs.length ≤ n := Nat.le_trans sole.count (List.getElem?_eq_none_iff.1 fresh)
    exact absurd (alone.only n _ here' id hn) hne
  | @resumed before await answer progress here waits stays follows alters =>
    have hwork := sole.idle n before here id hne
    simp [Runner.isAtWork, waits, stays] at hwork
  | @dropped before here =>
    unfold Runner.isAtWork
    split <;> rfl

theorem Step.sole (hallowed : e.ClaimAnswered) (h : Step setup w e w')
    (alone : Alone r first.runs.length m w') (sole : Sole r m first w) : Sole r m first w' := by
  have hcount : first.runs.length ≤ w'.runs.length := Nat.le_trans sole.count h.length_le
  have hidle : ∀ n run, w'.runs[n]? = some run → run.job.requestId = r → n ≠ m →
      run.isAtWork = false := fun n run => sole.idle_of_step h alone
  cases h.touch sole.idle (h.alone alone).id with
  | spares trace record =>
    refine ⟨hcount, hidle, ?_, ?_⟩
    · rw [trace, record]
      exact sole.unclaimed
    · rw [trace]
      exact sole.claimed
  | begins before after records =>
    refine ⟨hcount, hidle, fun _ => ?_, fun past p hp hne => ?_⟩
    · rw [records]
      exact sole.unclaimed (by simp [before])
    · rw [after] at hp
      cases hp
      exact absurd rfl hne
  | @goesOn _ job past await answer progress before follows alters after =>
    refine ⟨hcount, hidle, fun hclaim => ?_, fun later p hp _ => ?_⟩
    · exact absurd (hclaim _ progress after) follows.ne_claim
    · rw [after] at hp
      cases hp
      by_cases hawait : await = .claim
      · subst hawait
        have hrecord := sole.unclaimed fun earlier p hp => by
          rw [before] at hp
          cases hp
          rfl
        match answer with
        | .error _ => exact hallowed.elim
        | .ok .alreadyPresent => simp [follows.eq_duplicate, ← hrecord, alters.1]
        | .ok .claimed => simp [follows.ne_duplicate_of_own (by simp), ← hrecord, alters.1]
      · have hgranted := sole.claimed past _ before fun hwaits => hawait (Progress.waits.inj hwaits)
        simp only [follows.ne_duplicate hawait, reduceCtorEq, false_iff] at hgranted ⊢
        exact hgranted

/-- Let no run of the request id be at work, let claims be answered, and let one run of it come and
end. It is refused as a duplicate just when the record was there. -/
theorem History.duplicate_iff_recorded (h : History setup Event.ClaimAnswered first w)
    (idle : first.tally r Runner.isAtWork = 0) {run : Runner} {disposition : Disposition}
    (began : first.runs.length ≤ m) (here : w.runs[m]? = some run) (id : run.job.requestId = r)
    (only : ∀ n other, w.runs[n]? = some other → other.job.requestId = r →
      first.runs.length ≤ n → n = m)
    (ends : run.progress = .ends disposition) :
    disposition = .ack .duplicate ↔ r ∈ first.records := by
  have halone : Alone r first.runs.length m w :=
    ⟨only, fun other there => Option.some.inj (here.symm.trans there) ▸ id⟩
  have hstart : Sole r m first first := by
    have hnone : first.trace? m = none := by simp [trace?, began]
    refine ⟨Nat.le_refl _, fun n other there hid _ => ?_, fun _ => Iff.rfl, by simp [hnone]⟩
    by_contra hwork
    have hpos := tally_pos (p := Runner.isAtWork) there hid (by simpa using hwork)
    omega
  have hsole : Alone r first.runs.length m w → Sole r m first w :=
    h.preserves (P := fun v => Alone r first.runs.length m v → Sole r m first v)
      (fun hallowed hstep hbefore hafter =>
        hstep.sole hallowed hafter (hbefore (hstep.alone hafter)))
      (fun _ => hstart)
  have hclaimed := (hsole halone).claimed _ _ (trace?_of_getElem? here) (by simp [ends])
  rwa [ends, Progress.ends.injEq] at hclaimed

end Courier.Depot
