import Courier.Proofs.Run.Staged

/-!
# How long runs wait

A call that hangs is waited for until it is released, or its run is given up, or, if the call is
bounded, its time is over. The calls of claims, of lookups and of deliveries are bounded; those that
mark a job as done, release its claim, publish its copy or tell how it ended are not, and each of
them may keep its run waiting for ever.

## Main definitions

* `Rehearsal.Stage.perform`: instructions one after another.
* `Rehearsal.Stage.IsPending`: a run waits for a call that was made at some moment.
* `Rehearsal.Stage.Watched`: a run with the calls that it has made since it began, and the time that
  it has spent waiting for calls that are not bounded.
-/

namespace Courier.Rehearsal

open Run (Await Setup)

/-- The run waits for a call that was made at the given moment, and the time for it is not over. -/
structure Actor.Waits (a : Actor) (w : Stage) (since : Nat) : Prop where
  phase : a.phase = .hanging since
  inTime : a.await.kind.isBounded → w.now < since + w.setup.limits.callTimeout

/-- So much time passes in an instruction. -/
def Instruction.span : Instruction → Nat
  | advance span => span
  | _ => 0

/-- The instruction is to give up the run of a number, or to release the call that it waits for. -/
def Instruction.Concerns (number : Nat) : Instruction → Prop
  | release released _ => released = number
  | abandon abandoned => abandoned = number
  | _ => False

namespace Stage

variable {w w' last : Stage} {number : Nat} {job : Job}

theorem stillHanging_eq_none_iff {kind : Call.Kind} {since : Nat} :
    w.stillHanging kind since = none ↔
      (kind.isBounded → w.now < since + w.setup.limits.callTimeout) := by
  unfold stillHanging Call.Kind.isBounded
  split
  · next late =>
    cases hkind : kind.timedOut? with
    | none => simp
    | some answer => simpa using late
  · next left => simp; omega

/-! ## What one run does -/

/-- A run has gone on, has made calls, and has left everything else that is of interest here. -/
structure Continues (number : Nat) (w w' : Stage) (calls : List Call) : Prop where
  setup : w'.setup = w.setup
  now : w'.now = w.now
  next : w'.next = w.next
  actors : w'.actors = w.actors
  calls : w'.scene.calls = w.scene.calls ++ calls.map (number, ·)

theorem Continues.trans {middle : Stage} {calls more : List Call}
    (h : Continues number w middle calls) (hrest : Continues number middle last more) :
    Continues number w last (calls ++ more) where
  setup := hrest.setup.trans h.setup
  now := hrest.now.trans h.now
  next := hrest.next.trans h.next
  actors := hrest.actors.trans h.actors
  calls := by rw [hrest.calls, h.calls, List.map_append, List.append_assoc]

theorem Continues.stillHanging {calls : List Call} (h : Continues number w w' calls)
    (kind : Call.Kind) (since : Nat) : w'.stillHanging kind since = w.stillHanging kind since := by
  rw [Stage.stillHanging, Stage.stillHanging, h.setup, h.now]

theorem continues_takeBehaviour (w : Stage) (number : Nat) (kind : Call.Kind) :
    Continues number w (w.takeBehaviour kind).2 [] := by
  unfold takeBehaviour
  split
  · exact ⟨rfl, rfl, rfl, rfl, by simp [setScript]⟩
  · exact ⟨rfl, rfl, rfl, rfl, by simp⟩

theorem continues_returnCall (w : Stage) (number : Nat) (job : Job) (kind : Call.Kind)
    (b : Behaviour) : Continues number w (w.returnCall job kind b).1 [] :=
  ⟨rfl, rfl, rfl, rfl, by simp [returnCall]⟩

/-- What comes of waiting for the answer to a call. -/
inductive Answered (w : Stage) (number : Nat) (await : Await) :
    Phase → Stage × Option await.kind.Answer × Phase → Prop where
  /-- The call is made and hangs. -/
  | hangs {w' : Stage} {call : Call} (continues : Continues number w w' [call])
      (inTime : w.stillHanging await.kind w.now = none) :
      Answered w number await .calling (w', none, .hanging w.now)
  /-- It goes on to hang. -/
  | stays {since : Nat} (inTime : w.stillHanging await.kind since = none) :
      Answered w number await (.hanging since) (w, none, .hanging since)
  /-- There is an answer. -/
  | returns {phase phase' : Phase} {w' : Stage} {calls : List Call} {answer : await.kind.Answer}
      (continues : Continues number w w' calls) :
      Answered w number await phase (w', some answer, phase')

theorem answered (w : Stage) (number : Nat) (job : Job) (await : Await) (phase : Phase) :
    Answered w number await phase (w.answer? number job await phase) := by
  cases phase with
  | calling =>
    rw [answer?]
    generalize hcalled : { w with
      scene := { w.scene with
        calls := w.scene.calls ++ [(number, await.call w.setup job w.moment)] } } = called
    have hcall : Continues number w called [await.call w.setup job w.moment] := by
      subst hcalled
      exact ⟨rfl, rfl, rfl, rfl, rfl⟩
    have htake := hcall.trans (continues_takeBehaviour called number await.kind)
    clear hcalled
    generalize called.takeBehaviour await.kind = taken at htake
    obtain ⟨b, middle⟩ := taken
    cases b with
    | hang =>
      have hnow : middle.now = w.now := htake.now
      simp only [hnow, htake.stillHanging]
      cases hanswer : w.stillHanging await.kind w.now with
      | none => exact .hangs htake hanswer
      | some answer => exact .returns htake
    | ok | timeout | nacked | lookup _ | delivery _ =>
      exact .returns (htake.trans (continues_returnCall middle number job await.kind _))
  | hanging since =>
    simp only [answer?]
    cases hanswer : w.stillHanging await.kind since with
    | none => exact .stays hanswer
    | some answer =>
      have hsame : Continues number w w [] := ⟨rfl, rfl, rfl, rfl, by simp⟩
      exact .returns hsame
  | released b => exact .returns (continues_returnCall w number job await.kind b)

/-- What becomes of a run that waits for a call that has come so far, and has then made more calls:
it waits for the same call as before, or for one that has just been made. -/
structure Rests (w : Stage) (number : Nat) (job : Job) (await : Await) (phase : Phase)
    (calls : List Call) (a : Actor) : Prop where
  same : a.number = number
  waits : (a = ⟨number, job, await, phase⟩ ∧ ∃ since, a.Waits w since) ∨
    (a.Waits w w.now ∧ calls ≠ [])

/-- A run goes on until it ends or waits for a call whose time is not over. -/
theorem exists_calls_of_proceed {await : Await} {phase : Phase} {result : Option Actor}
    (h : w.proceed number job await phase = (last, result)) :
    ∃ calls, Continues number w last calls ∧
      ∀ a ∈ result, Rests w number job await phase calls a := by
  induction hrank : await.rank using Nat.strongRecOn generalizing w await phase with
  | ind rank ih =>
  have hanswered := w.answered number job await phase
  rw [proceed] at h
  generalize w.answer? number job await phase = outcome at hanswered h
  cases hanswered with
  | @hangs w' call continues inTime =>
    obtain ⟨rfl, rfl⟩ := Prod.mk.inj h
    refine ⟨[call], continues, fun a ha => ?_⟩
    cases ha
    exact ⟨rfl, .inr ⟨⟨rfl, stillHanging_eq_none_iff.1 inTime⟩, by simp⟩⟩
  | @stays since inTime =>
    obtain ⟨rfl, rfl⟩ := Prod.mk.inj h
    refine ⟨[], ⟨rfl, rfl, rfl, rfl, by simp⟩, fun a ha => ?_⟩
    cases ha
    exact ⟨rfl, .inl ⟨rfl, since, rfl, stillHanging_eq_none_iff.1 inTime⟩⟩
  | @returns _ phase' w' calls answer continues =>
    simp only at h
    split at h
    · next disposition hends =>
      obtain ⟨rfl, rfl⟩ := Prod.mk.inj h
      refine ⟨calls, ?_, fun a ha => nomatch ha⟩
      exact ⟨continues.setup, continues.now, continues.next, continues.actors, continues.calls⟩
    · next next hwaits =>
      have hlt : next.rank < await.rank := by
        have := Run.rank_lt_of_resume w'.setup w'.now job w'.breaker await answer
        rwa [hwaits] at this
      obtain ⟨more, hmore, hrests⟩ := ih next.rank (hrank ▸ hlt) h rfl
      refine ⟨calls ++ more, .trans ?_ hmore, fun a ha => ?_⟩
      · exact ⟨continues.setup, continues.now, continues.next, continues.actors, continues.calls⟩
      obtain ⟨hsame, hwaits⟩ := hrests a ha
      rcases hwaits with ⟨rfl, since, hwaits⟩ | ⟨hwaits, hmade⟩
      · exact absurd hwaits.phase (by simp)
      · refine ⟨hsame, .inr ⟨?_, by simp [hmade]⟩⟩
        obtain ⟨hphase, hinTime⟩ := hwaits
        exact ⟨hphase.trans (congrArg Phase.hanging continues.now), by
          simpa [say, continues.now, continues.setup] using hinTime⟩

/-- A run whose call hangs in time stays as it is. -/
theorem proceed_of_waits {a : Actor} {since : Nat} (h : a.Waits w since) :
    w.proceed a.number a.job a.await a.phase = (w, some a) := by
  obtain ⟨number, job, await, phase⟩ := a
  obtain ⟨rfl, hinTime⟩ := h
  rw [proceed]
  simp [answer?, stillHanging_eq_none_iff.2 hinTime]

/-! ## What all runs do -/

/-- How many calls of a run are to be seen. -/
def callsOf (w : Stage) (number : Nat) : Nat :=
  w.scene.calls.countP (·.1 = number)

/-- Runs have gone on, and no time has passed. -/
structure GoneOn (w w' : Stage) : Prop where
  setup : w'.setup = w.setup
  now : w'.now = w.now
  next : w'.next = w.next
  calls : ∀ number, w.callsOf number ≤ w'.callsOf number

theorem GoneOn.refl (w : Stage) : GoneOn w w :=
  ⟨rfl, rfl, rfl, fun _ => Nat.le_refl _⟩

theorem GoneOn.trans {middle : Stage} (h : GoneOn w middle) (hrest : GoneOn middle last) :
    GoneOn w last where
  setup := hrest.setup.trans h.setup
  now := hrest.now.trans h.now
  next := hrest.next.trans h.next
  calls number := Nat.le_trans (h.calls number) (hrest.calls number)

/-- Who waits, waits at another stage of the same moment as well. -/
theorem GoneOn.waits_iff {a : Actor} {since : Nat} (h : GoneOn w w') :
    a.Waits w' since ↔ a.Waits w since := by
  constructor
  · rintro ⟨hphase, hinTime⟩
    exact ⟨hphase, by rwa [h.now, h.setup] at hinTime⟩
  · rintro ⟨hphase, hinTime⟩
    exact ⟨hphase, by rwa [h.now, h.setup]⟩

/-- A run that has gone on waits for the same call as before, or for one that it has just made. -/
structure Came (w w' : Stage) (b a : Actor) : Prop where
  number : a.number = b.number
  waits : (a = b ∧ ∃ since, a.Waits w since) ∨
    (a.Waits w w.now ∧ w.callsOf b.number < w'.callsOf b.number)

/-- A run goes on, and takes its place after the others if it has not ended. -/
def carryOn (w : Stage) (a : Actor) : Stage :=
  match w.proceed a.number a.job a.await a.phase with
  | (w, some a) => { w with actors := w.actors ++ [a] }
  | (w, none) => w

theorem proceedAll_eq (w : Stage) :
    w.proceedAll = w.actors.foldl carryOn { w with actors := [] } := rfl

theorem Continues.callsOf {calls : List Call} (h : Continues number w w' calls) (n : Nat) :
    w'.callsOf n = w.callsOf n + if number = n then calls.length else 0 := by
  rw [Stage.callsOf, h.calls, List.countP_append, List.countP_map]
  by_cases hn : number = n
  · simp [Stage.callsOf, hn, Function.comp_def]
  · simp [Stage.callsOf, hn, Function.comp_def]

theorem carryOn_spec (w : Stage) (b : Actor) :
    GoneOn w (w.carryOn b) ∧
      ∀ a ∈ (w.carryOn b).actors, a ∈ w.actors ∨ Came w (w.carryOn b) b a := by
  rcases hproceed : w.proceed b.number b.job b.await b.phase with ⟨last, result⟩
  obtain ⟨calls, hcontinues, hrests⟩ := exists_calls_of_proceed hproceed
  have hcalls := hcontinues.callsOf
  have hgone : GoneOn w last := by
    refine ⟨hcontinues.setup, hcontinues.now, hcontinues.next, fun n => ?_⟩
    rw [hcalls]
    exact Nat.le_add_right ..
  rw [carryOn, hproceed]
  cases result with
  | none =>
    refine ⟨hgone, fun a hmem => .inl ?_⟩
    rwa [← hcontinues.actors]
  | some c =>
    refine ⟨⟨hgone.setup, hgone.now, hgone.next, hgone.calls⟩, fun a hmem => ?_⟩
    rcases List.mem_append.1 hmem with hold | hnew
    · exact .inl (hcontinues.actors ▸ hold)
    · obtain rfl := List.mem_singleton.1 hnew
      obtain ⟨hsame, hwaits⟩ := hrests a rfl
      refine .inr ⟨hsame, ?_⟩
      rcases hwaits with ⟨heq, hwaits⟩ | ⟨hwaits, hmade⟩
      · exact .inl ⟨heq, hwaits⟩
      · refine .inr ⟨hwaits, ?_⟩
        have hpos : 0 < calls.length := List.length_pos_iff.2 hmade
        have hthis : last.callsOf b.number = w.callsOf b.number + calls.length := by
          rw [hcalls, if_pos rfl]
        exact Nat.lt_of_lt_of_eq (by omega) hthis.symm

theorem Came.widen {middle middle' : Stage} {a b : Actor} (h : Came middle middle' b a)
    (before : GoneOn w middle) (after : GoneOn middle' last) : Came w last b a := by
  obtain ⟨hnumber, hwaits⟩ := h
  refine ⟨hnumber, ?_⟩
  rcases hwaits with ⟨heq, since, hwaits⟩ | ⟨hwaits, hmade⟩
  · exact .inl ⟨heq, since, before.waits_iff.1 hwaits⟩
  · rw [before.now] at hwaits
    have hle := before.calls b.number
    have hle' := after.calls b.number
    exact .inr ⟨before.waits_iff.1 hwaits, by omega⟩

theorem foldl_carryOn_spec (l : List Actor) (w : Stage) :
    GoneOn w (l.foldl carryOn w) ∧
      ∀ a ∈ (l.foldl carryOn w).actors,
        a ∈ w.actors ∨ ∃ b ∈ l, Came w (l.foldl carryOn w) b a := by
  induction l generalizing w with
  | nil => exact ⟨.refl w, fun a hmem => .inl hmem⟩
  | cons b l ih =>
    obtain ⟨hfirst, hcame⟩ := carryOn_spec w b
    obtain ⟨hrest, hothers⟩ := ih (w.carryOn b)
    refine ⟨hfirst.trans hrest, fun a hmem => ?_⟩
    rcases hothers a hmem with hmem | ⟨c, hc, hlater⟩
    · rcases hcame a hmem with hmem | hnow
      · exact .inl hmem
      · exact .inr ⟨b, List.mem_cons_self, hnow.widen (.refl w) hrest⟩
    · exact .inr ⟨c, List.mem_cons_of_mem b hc, hlater.widen hfirst (.refl _)⟩

/-- Whoever has his place keeps it. -/
theorem mem_foldl_carryOn {l : List Actor} {a : Actor} (h : a ∈ w.actors) :
    a ∈ (l.foldl carryOn w).actors := by
  induction l generalizing w with
  | nil => exact h
  | cons b l ih =>
    refine ih ?_
    rcases hproceed : w.proceed b.number b.job b.await b.phase with ⟨last, result⟩
    obtain ⟨calls, hcontinues, -⟩ := exists_calls_of_proceed hproceed
    rw [carryOn, hproceed]
    cases result with
    | none => exact hcontinues.actors ▸ h
    | some c => exact List.mem_append_left _ (hcontinues.actors ▸ h)

/-- Whoever waits for a call whose time is not over goes on to wait. -/
theorem mem_foldl_carryOn_of_waits {l : List Actor} {a : Actor} {since : Nat} (h : a ∈ l)
    (waits : a.Waits w since) : a ∈ (l.foldl carryOn w).actors := by
  induction l generalizing w with
  | nil => simp at h
  | cons b l ih =>
    rcases List.mem_cons.1 h with rfl | hmem
    · have hplace : a ∈ (w.carryOn a).actors := by
        rw [carryOn, proceed_of_waits waits]
        simp
      rw [List.foldl_cons]
      exact mem_foldl_carryOn hplace
    · exact ih hmem ((carryOn_spec w b).1.waits_iff.2 waits)

/-! ## What an instruction does -/

variable {i : Instruction}

/-- The stage after an instruction, before the runs go on. -/
def told (w : Stage) (i : Instruction) : Stage :=
  ({ w with scene := {} }.carryOut i).1

theorem follow_eq (w : Stage) (i : Instruction) : (w.follow i).1 = (w.told i).proceedAll := rfl

theorem told_spec (w : Stage) (i : Instruction) :
    (w.told i).setup = w.setup ∧ (w.told i).now = w.now + i.span ∧
      w.next ≤ (w.told i).next ∧ ∀ number, (w.told i).callsOf number = 0 := by
  cases i with
  | job payload =>
    simp only [told, carryOut]
    split
    · exact ⟨rfl, rfl, Nat.le_succ _, fun _ => rfl⟩
    · exact ⟨rfl, rfl, Nat.le_succ _, fun _ => rfl⟩
  | release released b =>
    simp only [told, carryOut]
    split
    · exact ⟨rfl, rfl, Nat.le_refl _, fun _ => rfl⟩
    · exact ⟨rfl, rfl, Nat.le_refl _, fun _ => rfl⟩
  | abandon abandoned =>
    simp only [told, carryOut]
    split
    · exact ⟨rfl, rfl, Nat.le_refl _, fun _ => rfl⟩
    · exact ⟨rfl, rfl, Nat.le_refl _, fun _ => rfl⟩
  | script | find | record | advance | readBreaker | idle =>
    exact ⟨rfl, rfl, Nat.le_refl _, fun _ => rfl⟩

/-- Who is on the stage after an instruction has been there before, or is about to make a call or to
get an answer. -/
theorem mem_told {a : Actor} (h : a ∈ (w.told i).actors) :
    a ∈ w.actors ∨ (∀ since, a.phase ≠ .hanging since) ∧
      ((∃ b ∈ w.actors, b.number = a.number) ∨
        a.number = w.next ∧ w.next < (w.told i).next) := by
  cases i with
  | job payload =>
    simp only [told, carryOut] at h ⊢
    split at h
    · rcases List.mem_append.1 h with hold | hnew
      · exact .inl hold
      · obtain rfl := List.mem_singleton.1 hnew
        exact .inr ⟨by simp, .inr ⟨rfl, Nat.lt_succ_self _⟩⟩
    · exact .inl h
  | release released b =>
    simp only [told, carryOut] at h
    split at h
    · obtain ⟨c, hmem, hc⟩ := List.mem_map.1 h
      have hor : a = { c with phase := .released b } ∨ a = c := by
        rw [← hc]
        exact ite_eq_or_eq _ _ _
      rcases hor with rfl | rfl
      · exact .inr ⟨by simp, .inl ⟨c, hmem, rfl⟩⟩
      · exact .inl hmem
    · exact .inl h
  | abandon abandoned =>
    simp only [told, carryOut] at h
    split at h
    · exact .inl h
    · exact .inl (List.mem_filter.1 h).1
  | script | find | record | advance | readBreaker | idle => exact .inl h

/-- An instruction that does not concern a run leaves it on the stage. -/
theorem mem_told_of_mem {a : Actor} (h : a ∈ w.actors) (other : ¬ i.Concerns a.number) :
    a ∈ (w.told i).actors := by
  cases i with
  | job payload =>
    simp only [told, carryOut]
    split
    · exact List.mem_append_left _ h
    · exact h
  | release released b =>
    have hne : (a.number == released) = false := beq_false_of_ne (Ne.symm other)
    simp only [told, carryOut]
    split
    · exact List.mem_map.2 ⟨a, h, by simp [hne]⟩
    · exact h
  | abandon abandoned =>
    simp only [told, carryOut]
    split
    · exact h
    · exact List.mem_filter.2 ⟨h, by simpa using Ne.symm other⟩
  | script | find | record | advance | readBreaker | idle => exact h

/-- Who is on the stage once the runs have gone on has waited there before, or waits for a call that
he has just made. -/
theorem mem_follow {a : Actor} (h : a ∈ (w.follow i).1.actors) :
    (a ∈ w.actors ∧ ∃ since, a.Waits (w.follow i).1 since) ∨
      (a.Waits (w.follow i).1 (w.follow i).1.now ∧ 0 < (w.follow i).1.callsOf a.number ∧
        ((∃ b ∈ w.actors, b.number = a.number) ∨
          a.number = w.next ∧ w.next < (w.follow i).1.next)) := by
  obtain ⟨hsetup, hnow, hnext, hcalls⟩ := w.told_spec i
  rw [follow_eq, proceedAll_eq] at h ⊢
  obtain ⟨hgone, hcame⟩ :=
    foldl_carryOn_spec (w.told i).actors { w.told i with actors := [] }
  generalize (w.told i).actors.foldl carryOn { w.told i with actors := [] } = last
    at h hgone hcame ⊢
  rcases hcame a h with hmem | ⟨b, hb, hnumber, hwaits⟩
  · simp at hmem
  have hcalls' : last.callsOf a.number = last.callsOf b.number := by rw [hnumber]
  have hbefore := hcalls b.number
  rcases mem_told hb with hold | ⟨hready, hplace⟩
  · rcases hwaits with ⟨rfl, since, hwaits⟩ | ⟨hwaits, hmade⟩
    · exact .inl ⟨hold, since, hgone.waits_iff.2 hwaits⟩
    · refine .inr ⟨?_, by omega, .inl ⟨b, hold, hnumber.symm⟩⟩
      rw [hgone.now]
      exact hgone.waits_iff.2 hwaits
  · rcases hwaits with ⟨rfl, since, hwaits⟩ | ⟨hwaits, hmade⟩
    · exact absurd hwaits.phase (hready since)
    · rw [hnumber, hgone.now, hgone.next]
      exact .inr ⟨hgone.waits_iff.2 hwaits, by omega, hplace⟩

/-! ## What always holds on a stage -/

/-- The stage after instructions, one after another. -/
def perform (w : Stage) (instructions : List Instruction) : Stage :=
  instructions.foldl (fun w i => (w.follow i).1) w

/-- A rehearsal has come to this. -/
def IsReached (w : Stage) : Prop :=
  ∃ setup epoch findings instructions, (start setup epoch findings).perform instructions = w

theorem IsReached.follow (h : IsReached w) (i : Instruction) : IsReached (w.follow i).1 := by
  obtain ⟨setup, epoch, findings, instructions, rfl⟩ := h
  exact ⟨setup, epoch, findings, instructions ++ [i], by simp [perform]⟩

/-- Whoever is on the stage has a number, and waits for a call that was made at some moment and
whose time is not over. -/
structure Orderly (w : Stage) : Prop where
  known : ∀ a ∈ w.actors, a.number < w.next
  waits : ∀ a ∈ w.actors, ∃ since ≤ w.now, a.Waits w since

theorem follow_spec (w : Stage) (i : Instruction) :
    (w.follow i).1.setup = w.setup ∧ (w.follow i).1.now = w.now + i.span ∧
      w.next ≤ (w.follow i).1.next := by
  obtain ⟨hsetup, hnow, hnext, -⟩ := w.told_spec i
  obtain ⟨hgone, -⟩ := foldl_carryOn_spec (w.told i).actors { w.told i with actors := [] }
  rw [follow_eq, proceedAll_eq, hgone.setup, hgone.now, hgone.next]
  exact ⟨hsetup, hnow, hnext⟩

theorem Orderly.follow (h : Orderly w) (i : Instruction) : Orderly (w.follow i).1 := by
  obtain ⟨-, hnow, hnext⟩ := w.follow_spec i
  refine ⟨fun a hmem => ?_, fun a hmem => ?_⟩
  · rcases mem_follow hmem with ⟨hold, -⟩ | ⟨-, -, ⟨b, hb, hsame⟩ | ⟨hnumber, hmore⟩⟩
    · exact Nat.lt_of_lt_of_le (h.known a hold) hnext
    · exact Nat.lt_of_lt_of_le (hsame ▸ h.known b hb) hnext
    · rwa [hnumber]
  · rcases mem_follow hmem with ⟨hold, since, hwaits⟩ | ⟨hwaits, -⟩
    · obtain ⟨since', hle, hbefore⟩ := h.waits a hold
      obtain rfl : since' = since := Phase.hanging.inj (hbefore.phase.symm.trans hwaits.phase)
      exact ⟨since', by omega, hwaits⟩
    · exact ⟨_, Nat.le_refl _, hwaits⟩

theorem Orderly.perform (h : Orderly w) (instructions : List Instruction) :
    Orderly (w.perform instructions) := by
  induction instructions generalizing w with
  | nil => exact h
  | cons i instructions ih => exact ih (h.follow i)

theorem IsReached.orderly (h : IsReached w) : Orderly w := by
  obtain ⟨setup, epoch, findings, instructions, rfl⟩ := h
  refine Orderly.perform ?_ instructions
  exact ⟨by simp [start], by simp [start]⟩

theorem perform_spec (w : Stage) (instructions : List Instruction) :
    (w.perform instructions).setup = w.setup ∧ w.now ≤ (w.perform instructions).now := by
  induction instructions generalizing w with
  | nil => exact ⟨rfl, Nat.le_refl _⟩
  | cons i instructions ih =>
    obtain ⟨hsetup, hnow, -⟩ := w.follow_spec i
    obtain ⟨hsetup', hnow'⟩ := ih (w.follow i).1
    have hle : w.now ≤ (w.follow i).1.now := by omega
    exact ⟨hsetup'.trans hsetup, Nat.le_trans hle hnow'⟩

/-- Whoever waits goes on to wait until he is released or given up or his time is over. -/
theorem mem_perform {a : Actor} {since : Nat} {instructions : List Instruction} (h : a ∈ w.actors)
    (other : ∀ i ∈ instructions, ¬ i.Concerns a.number) (phase : a.phase = .hanging since)
    (inTime : a.await.kind.isBounded →
      (w.perform instructions).now < since + w.setup.limits.callTimeout) :
    a ∈ (w.perform instructions).actors := by
  induction instructions generalizing w with
  | nil => exact h
  | cons i instructions ih =>
    obtain ⟨hsetup, hnow, -⟩ := w.follow_spec i
    obtain ⟨hsetup', hnow', -⟩ := w.told_spec i
    obtain ⟨-, hlater⟩ := perform_spec (w.follow i).1 instructions
    have hwaits : a.Waits { w.told i with actors := [] } since := by
      refine ⟨phase, fun hbounded => ?_⟩
      have hlt : ((w.follow i).1.perform instructions).now < since + w.setup.limits.callTimeout :=
        inTime hbounded
      simp only [hsetup', hnow']
      omega
    refine ih ?_ (fun j hj => other j (List.mem_cons_of_mem i hj)) (hsetup ▸ inTime)
    exact mem_foldl_carryOn_of_waits (mem_told_of_mem h (other i List.mem_cons_self)) hwaits

/-! ## Pending calls -/

/-- The run of a number waits for a call that was made at the given moment. -/
def IsPending (w : Stage) (number : Nat) (await : Await) (since : Nat) : Prop :=
  ∃ a ∈ w.actors, a.number = number ∧ a.await = await ∧ a.phase = .hanging since

theorem isPending_iff {await : Await} {since : Nat} :
    w.IsPending number await since ↔
      (number, await, .hanging since) ∈ w.actors.map fun a => (a.number, a.await, a.phase) := by
  simp [IsPending]

instance (w : Stage) (number : Nat) (await : Await) (since : Nat) :
    Decidable (w.IsPending number await since) :=
  decidable_of_iff _ isPending_iff.symm

/-- Whoever is pending in order has time left. -/
theorem Orderly.waits_of_isPending {await : Await} {since : Nat} (h : Orderly w)
    (pending : w.IsPending number await since) :
    ∃ a ∈ w.actors, a.number = number ∧ a.await = await ∧ a.Waits w since := by
  obtain ⟨a, hmem, hnumber, hawait, hphase⟩ := pending
  obtain ⟨since', -, hwaits⟩ := h.waits a hmem
  obtain rfl := Phase.hanging.inj (hphase.symm.trans hwaits.phase)
  exact ⟨a, hmem, hnumber, hawait, hwaits⟩

/-- The run of a number waits for a call that is not bounded. -/
def isHeldUp (w : Stage) (number : Nat) : Bool :=
  w.actors.any fun a => a.number = number && !a.await.kind.isBounded

/-- The run of a number, since the moment when it began: so many calls it has made, and so much time
it has spent waiting for calls that are not bounded. No more time has passed at once than was left
for a bounded call. -/
inductive Watched (number began : Nat) : Stage → Nat → Nat → Prop where
  | begins {w : Stage} (reached : w.IsReached) (fresh : w.next = number) (now : w.now = began)
      (payload : List UInt8) :
      Watched number began (w.follow (.job payload)).1
        ((w.follow (.job payload)).1.callsOf number) 0
  | goesOn {w : Stage} {calls held : Nat} (before : Watched number began w calls held)
      (i : Instruction)
      (prompt : ∀ await since, w.IsPending number await since → await.kind.isBounded →
        w.now + i.span ≤ since + w.setup.limits.callTimeout) :
      Watched number began (w.follow i).1 (calls + (w.follow i).1.callsOf number)
        (held + if w.isHeldUp number then i.span else 0)

namespace Watched

variable {began calls held : Nat}

theorem orderly (h : Watched number began w calls held) : w.Orderly := by
  induction h with
  | begins reached _ _ payload => exact reached.orderly.follow _
  | goesOn _ i _ ih => exact ih.follow i

theorem lt_next (h : Watched number began w calls held) : number < w.next := by
  induction h with
  | @begins w reached fresh now payload =>
    have hmore : w.next < (w.told (.job payload)).next := by
      simp only [told, carryOut]
      split
      · exact Nat.lt_succ_self _
      · exact Nat.lt_succ_self _
    obtain ⟨hgone, -⟩ := foldl_carryOn_spec (w.told (.job payload)).actors
      { w.told (.job payload) with actors := [] }
    rw [follow_eq, proceedAll_eq, hgone.next, ← fresh]
    exact hmore
  | @goesOn w calls held before i prompt ih =>
    obtain ⟨-, -, hnext⟩ := w.follow_spec i
    exact Nat.lt_of_lt_of_le ih hnext

/-- What has been spent of the time of a run that still waits: the times of all its calls but the
one that it waits for are over at most, and while it waits for one that is not bounded the clock is
stopped. -/
theorem spent (h : Watched number began w calls held) {a : Actor} {since : Nat}
    (hmem : a ∈ w.actors) (hnumber : a.number = number) (hwaits : a.Waits w since) :
    (if a.await.kind.isBounded then since else w.now) + w.setup.limits.callTimeout ≤
      began + calls * w.setup.limits.callTimeout + held := by
  induction h generalizing a since with
  | @begins w reached fresh now payload =>
    obtain ⟨hsetup, hnow, -⟩ := w.follow_spec (.job payload)
    rcases mem_follow hmem with ⟨hold, -⟩ | ⟨hanew, hmade, -⟩
    · have hknown := reached.orderly.known a hold
      omega
    · obtain rfl := Phase.hanging.inj (hwaits.phase.symm.trans hanew.phase)
      have hbegan : (w.follow (.job payload)).1.now = began := hnow.trans now
      rw [ite_self, hbegan, ← hnumber, Nat.add_zero]
      exact Nat.add_le_add_left (Nat.le_mul_of_pos_left _ hmade) began
  | @goesOn w calls held before i prompt ih =>
    obtain ⟨hsetup, hnow, -⟩ := w.follow_spec i
    have horderly := before.orderly
    have hheld {b : Actor} (hb : b ∈ w.actors) (hsame : b.number = number)
        (unbounded : ¬ b.await.kind.isBounded) : w.isHeldUp number :=
      List.any_eq_true.2 ⟨b, hb, by simp [hsame, unbounded]⟩
    rw [hsetup, hnow, Nat.add_mul]
    rcases mem_follow hmem with ⟨hold, -⟩ | ⟨hanew, hmade, hplace⟩
    · -- It waits for the same call as before.
      obtain ⟨since', -, hbefore⟩ := horderly.waits a hold
      obtain rfl := Phase.hanging.inj (hbefore.phase.symm.trans hwaits.phase)
      have hspent := ih hold hnumber hbefore
      by_cases hbounded : a.await.kind.isBounded
      · rw [if_pos hbounded] at hspent ⊢
        omega
      · rw [if_neg hbounded] at hspent ⊢
        rw [if_pos (hheld hold hnumber hbounded)]
        omega
    · -- It waits for a new one, so the call that it has waited for before was over by now.
      obtain rfl := Phase.hanging.inj (hwaits.phase.symm.trans hanew.phase)
      obtain ⟨b, hb, hsame⟩ : ∃ b ∈ w.actors, b.number = a.number := by
        rcases hplace with hplace | ⟨hfresh, -⟩
        · exact hplace
        · have hknown := before.lt_next
          omega
      obtain ⟨since', -, hbefore⟩ := horderly.waits b hb
      have hspent := ih hb (hsame.trans hnumber) hbefore
      have hone : w.setup.limits.callTimeout ≤
          (w.follow i).1.callsOf number * w.setup.limits.callTimeout :=
        Nat.le_mul_of_pos_left _ (hnumber ▸ hmade)
      rw [hnow, ite_self]
      by_cases hbounded : b.await.kind.isBounded
      · have hpending : w.IsPending number b.await since' :=
          ⟨b, hb, hsame.trans hnumber, rfl, hbefore.phase⟩
        have hprompt := prompt b.await since' hpending hbounded
        rw [if_pos hbounded] at hspent
        omega
      · rw [if_neg hbounded] at hspent
        rw [if_pos (hheld hb (hsame.trans hnumber) hbounded)]
        omega

end Watched

/-- Whatever a rehearsal has come to, every run that has not ended waits for one call, and a bounded
call is waited for until its time is over at most. Whoever is neither released nor given up waits
for a bounded call just as long as that, and for any other call for ever. So the time that a run
takes, the waiting for calls that are not bounded apart, is at most so many times the time of a call
as it has made calls. -/
theorem pending_until_released_or_over (reached : w.IsReached) :
    (∀ a ∈ w.actors, ∃ since ≤ w.now, w.IsPending a.number a.await since) ∧
    (∀ number await since, w.IsPending number await since →
      (await.kind.isBounded → w.now < since + w.setup.limits.callTimeout) ∧
      ∀ later : List Instruction, (∀ i ∈ later, ¬ i.Concerns number) →
        ((w.perform later).IsPending number await since ↔
          (await.kind.isBounded →
            (w.perform later).now < since + w.setup.limits.callTimeout))) ∧
    ∀ number began calls held, Watched number began w calls held →
      ∀ await since, w.IsPending number await since →
        if await.kind.isBounded then
          w.now < began + calls * w.setup.limits.callTimeout + held
        else
          w.now + w.setup.limits.callTimeout ≤
            began + calls * w.setup.limits.callTimeout + held := by
  have horderly := reached.orderly
  refine ⟨?_, ?_, ?_⟩
  · intro a hmem
    obtain ⟨since, hle, hwaits⟩ := horderly.waits a hmem
    exact ⟨since, hle, a, hmem, rfl, rfl, hwaits.phase⟩
  · intro number await since hpending
    obtain ⟨a, hmem, rfl, rfl, hwaits⟩ := horderly.waits_of_isPending hpending
    refine ⟨hwaits.inTime, fun later hother => ⟨fun hlater => ?_, fun hinTime => ?_⟩⟩
    · obtain ⟨b, -, -, hawait, hstill⟩ := (horderly.perform later).waits_of_isPending hlater
      rw [← hawait, ← (perform_spec w later).1]
      exact hstill.inTime
    · exact ⟨a, mem_perform hmem hother hwaits.phase hinTime, rfl, rfl, hwaits.phase⟩
  · intro number began calls held hwatched await since hpending
    obtain ⟨a, hmem, hnumber, rfl, hwaits⟩ := horderly.waits_of_isPending hpending
    have hspent := hwatched.spent hmem hnumber hwaits
    split
    · next hbounded =>
      rw [if_pos hbounded] at hspent
      exact Nat.lt_of_lt_of_le (hwaits.inTime hbounded) hspent
    · next hunbounded =>
      rwa [if_neg hunbounded] at hspent

/-- The store does not answer to the mark of a delivered job, and the run goes on to wait for it
when the time of a call is over. -/
theorem exists_pending_too_long :
    ∃ w : Stage, w.IsReached ∧ ∃ number await since, w.IsPending number await since ∧
      since + w.setup.limits.callTimeout ≤ w.now := by
  let job : Job := { requestId := "r", userId := "u", templateId := "t" }
  let findings : Findings :=
    { profile := { pushToken := "d" }, template := { title := "Hello", body := "It works" } }
  let instructions : List Instruction :=
    [.script .mark [.hang], .job job.encode, .advance 200]
  refine ⟨_, ⟨{ limits := { callTimeout := 200 } }, default, findings, instructions, rfl⟩,
    0, .mark, 0, ?_, ?_⟩
  · decide +kernel
  · decide +kernel

/-- The store does not answer to a claim, and then nobody answers who the user is. -/
theorem pending_of_silence :
    ∃ w : Stage, w.IsReached ∧ w.IsPending 0 .user 200 ∧ w.now < 200 + 200 ∧
      w.now < 0 + 2 * 200 + 0 := by
  let job : Job := { requestId := "r", userId := "u", templateId := "t" }
  let scripts : List Instruction := [.script .claim [.hang], .script .user [.hang]]
  let first : Stage := (start { limits := { callTimeout := 200 } } default {}).perform scripts
  let second : Stage := (first.follow (.job job.encode)).1
  let third : Stage := (second.follow (.advance 200)).1
  have hbefore : first.IsReached := ⟨_, _, _, scripts, rfl⟩
  have hactors : second.actors.map (fun a => (a.number, a.await, a.phase)) =
      [(0, .claim, .hanging 0)] := by decide +kernel
  have hnow : second.now = 0 ∧ second.setup.limits.callTimeout = 200 := by decide +kernel
  have hcalls : second.callsOf 0 = 1 ∧ third.callsOf 0 = 1 ∧ second.isHeldUp 0 = false := by
    decide +kernel
  have hfirst : Watched 0 0 second 1 0 := by
    have hbegins : Watched 0 0 second (second.callsOf 0) 0 :=
      .begins hbefore rfl rfl job.encode
    rwa [hcalls.1] at hbegins
  have hwatched : Watched 0 0 third 2 0 := by
    have hgoesOn : Watched 0 0 third (1 + third.callsOf 0)
        (0 + if second.isHeldUp 0 then 200 else 0) := by
      refine hfirst.goesOn (.advance 200) fun await since hpending _ => ?_
      rw [isPending_iff, hactors] at hpending
      obtain ⟨-, -, hphase⟩ : 0 = 0 ∧ await = .claim ∧ Phase.hanging since = .hanging 0 := by
        simpa using hpending
      rw [Phase.hanging.inj hphase, hnow.1, hnow.2]
      exact Nat.le_refl _
    rwa [hcalls.2.1, hcalls.2.2] at hgoesOn
  have hpending : third.IsPending 0 .user 200 := by decide +kernel
  have hlimit : third.setup.limits.callTimeout = 200 := by decide +kernel
  have hreached : third.IsReached := (hbefore.follow (.job job.encode)).follow (.advance 200)
  clear_value third
  obtain ⟨-, hinTime, hspent⟩ := pending_until_released_or_over hreached
  have hleft := (hinTime 0 .user 200 hpending).1 rfl
  have htotal := hspent 0 0 2 0 hwatched .user 200 hpending
  rw [hlimit] at hleft htotal
  exact ⟨third, hreached, hpending, hleft, htotal⟩

end Stage

end Courier.Rehearsal
