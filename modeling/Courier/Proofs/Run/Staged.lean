import Courier.Proofs.Run.Lifecycle
import Courier.Run.Rehearsal
import Mathlib.Logic.Function.Basic

/-!
# Runs on a stage

A rehearsal makes up the answers as it goes, from scripts and records that change with every call.
Looked at from the end, the answers that a run got are a world, and the run has taken its course in
it. So whatever holds of courses holds of the runs of a rehearsal.

## Main definitions

* `Run.World.meeting`: a world in which something else is met with.
* `Rehearsal.Stage.exists_world_of_proceed`: the course of a run on a stage.
* `Rehearsal.Stage.exists_lifecycle_of_proceed`: what is to be seen of a run on a stage.
-/

namespace Courier

namespace Run

/-- The world with another encounter in the place of one. -/
def World.meeting (world : World) (await : Await) (encounter : Encounter await) : World :=
  Function.update world await encounter

variable {setup : Setup} {job : Job} {world other : World}

/-- A run does not come back to what it would have waited for longer. -/
theorem rank_le_of_mem_awaits {first await : Await}
    (h : await ∈ (course setup world job first).awaits) : await.rank ≤ first.rank := by
  induction first using course.induct setup world job with
  | case1 first next hnext ih =>
    rw [course_of_progress hnext, conclude, Report.awaits_after, List.singleton_append,
      List.mem_cons] at h
    obtain rfl | hlater := h
    · exact Nat.le_refl _
    · exact Nat.le_trans (ih hlater) (Nat.le_of_lt (World.rank_lt hnext))
  | case2 first disposition hends =>
    rw [course_of_progress hends, conclude, Report.awaits_after, List.append_nil,
      List.mem_singleton] at h
    exact Nat.le_of_eq (congrArg Await.rank h)

/-- The course of a run depends on nothing but what it meets with. -/
theorem course_congr {first : Await}
    (h : ∀ await ∈ (course setup world job first).awaits, other await = world await) :
    course setup other job first = course setup world job first := by
  induction first using course.induct setup world job with
  | case1 first next hnext ih =>
    have hcourse := course_of_progress hnext
    rw [conclude] at hcourse
    rw [hcourse, Report.awaits_after] at h
    have hsame : other.progress setup job first = .waits next := by
      rw [← hnext, World.progress, World.progress, h first List.mem_cons_self]
    have hlater : course setup other job next = course setup world job next := by
      refine ih ?_
      intro await hmem
      exact h await (List.mem_cons_of_mem _ hmem)
    rw [course_of_progress hsame, conclude, hlater, hcourse]
  | case2 first disposition hends =>
    have hcourse := course_of_progress hends
    rw [hcourse, Report.awaits_after] at h
    have hsame : other.progress setup job first = .ends disposition := by
      rw [← hends, World.progress, World.progress, h first List.mem_cons_self]
    rw [course_of_progress hsame, hcourse, conclude, conclude]

/-- So does what it calls. -/
theorem calls_congr {first : Await}
    (h : ∀ await ∈ (course setup world job first).awaits, other await = world await) :
    (course setup other job first).calls setup other job =
      (course setup world job first).calls setup world job := by
  rw [course_congr h]
  refine List.map_congr_left ?_
  intro await hmem
  rw [World.call, World.call, h await hmem]

/-- A run that meets with something and then takes its course in a world has taken its course in
one world. -/
theorem exists_course_of_waits {first next : Await} (encounter : Encounter first)
    (h : (resume setup encounter.now job encounter.breaker first encounter.answer).progress =
      .waits next) (world : World) :
    ∃ whole : World,
      (course setup whole job first).calls setup whole job =
        first.call setup job encounter.made ::
          (course setup world job next).calls setup world job ∧
      (course setup whole job first).disposition =
        (course setup world job next).disposition := by
  have hmet : world.meeting first encounter first = encounter := Function.update_self ..
  have hprogress : (world.meeting first encounter).progress setup job first = .waits next := by
    rw [World.progress, hmet, h]
  have hother : ∀ await ∈ (course setup world job next).awaits,
      world.meeting first encounter await = world await := by
    -- Whatever is waited for later has a smaller rank, so it is not what is replaced.
    intro await hmem
    refine Function.update_of_ne ?_ ..
    rintro rfl
    exact Nat.not_lt_of_le (rank_le_of_mem_awaits hmem) (World.rank_lt hprogress)
  refine ⟨world.meeting first encounter, ?_, ?_⟩
  · rw [course_of_progress hprogress, conclude, Report.calls_after, calls_congr hother]
    simp [World.call, hmet]
  · rw [course_of_progress hprogress, conclude, Report.disposition_after, course_congr hother]

theorem exists_course_of_ends {first : Await} {disposition : Disposition}
    (encounter : Encounter first)
    (h : (resume setup encounter.now job encounter.breaker first encounter.answer).progress =
      .ends disposition) (world : World) :
    ∃ whole : World,
      (course setup whole job first).calls setup whole job =
        [first.call setup job encounter.made] ∧
      (course setup whole job first).disposition = disposition := by
  have hmet : world.meeting first encounter first = encounter := Function.update_self ..
  have hprogress : (world.meeting first encounter).progress setup job first =
      .ends disposition := by
    rw [World.progress, hmet, h]
  refine ⟨world.meeting first encounter, ?_, ?_⟩
  · rw [course_of_progress hprogress, conclude, Report.calls_after]
    simp [World.call, hmet, Report.calls]
  · rw [course_of_progress hprogress, conclude, Report.disposition_after]

end Run

namespace Rehearsal.Stage

open Run (Await Encounter World course)

@[simp] theorem setup_takeBehaviour (w : Stage) (kind : Call.Kind) :
    (w.takeBehaviour kind).2.setup = w.setup := by
  unfold takeBehaviour
  split <;> rfl

@[simp] theorem scene_takeBehaviour (w : Stage) (kind : Call.Kind) :
    (w.takeBehaviour kind).2.scene = w.scene := by
  unfold takeBehaviour
  split <;> rfl

/-- What is to be seen of a call that is made is the call. -/
theorem answer?_calling (w : Stage) (number : Nat) (job : Job) (await : Await) :
    (w.answer? number job await .calling).1.setup = w.setup ∧
      (w.answer? number job await .calling).1.scene =
        { w.scene with
          calls := w.scene.calls ++ [(number, await.call w.setup job w.moment)] } := by
  rw [answer?]
  generalize hw : { w with
    scene := { w.scene with
      calls := w.scene.calls ++ [(number, await.call w.setup job w.moment)] } } = called
  have hsetup := called.setup_takeBehaviour await.kind
  have hscene := called.scene_takeBehaviour await.kind
  generalize called.takeBehaviour await.kind = taken at hsetup hscene
  subst hw
  match taken with
  | (.hang, _) => exact ⟨hsetup, hscene⟩
  | (.ok, _) | (.timeout, _) | (.nacked, _) | (.lookup _, _) | (.delivery _, _) =>
    exact ⟨hsetup, hscene⟩

/-- A run that comes to its end without hanging has taken its course in some world: what is to be
seen of it are the calls and the disposition of the course. -/
theorem exists_world_of_proceed {w last : Stage} {number : Nat} {job : Job} {await : Await}
    (h : w.proceed number job await .calling = (last, none)) :
    ∃ world : World,
      last.scene.calls = w.scene.calls ++
        ((course w.setup world job await).calls w.setup world job).map (number, ·) ∧
      last.scene.endings = w.scene.endings ++
        [(number, (course w.setup world job await).disposition)] := by
  induction hrank : await.rank using Nat.strongRecOn generalizing w await with
  | ind rank ih =>
  obtain ⟨hsetup, hscene⟩ := w.answer?_calling number job await
  rw [proceed] at h
  generalize w.answer? number job await .calling = answered at hsetup hscene h
  match answered with
  | (_, none, _) => cases h
  | (w₁, some answer, _) =>
    simp only at hsetup hscene
    rw [← hsetup]
    let encounter : Encounter await := ⟨w.moment, w₁.now, w₁.breaker, answer⟩
    simp only at h
    split at h
    · next disposition hends =>
      obtain ⟨rfl, -⟩ := Prod.mk.inj h
      obtain ⟨whole, hcalls, hdisposition⟩ :=
        Run.exists_course_of_ends encounter hends (.fine default {} {} {})
      refine ⟨whole, ?_, ?_⟩
      · rw [hcalls]
        simp [close, say, hscene, hsetup, encounter]
      · rw [hdisposition]
        simp [close, say, hscene]
    · next next hwaits =>
      have hlt : next.rank < await.rank := by
        have := Run.rank_lt_of_resume w₁.setup w₁.now job w₁.breaker await answer
        rwa [hwaits] at this
      obtain ⟨world, hcalls, hendings⟩ := ih next.rank (hrank ▸ hlt) h rfl
      obtain ⟨whole, hfirst, hdisposition⟩ := Run.exists_course_of_waits encounter hwaits world
      refine ⟨whole, ?_, ?_⟩
      · rw [hcalls, hfirst]
        simp [say, hscene, hsetup, encounter]
      · rw [hendings, hdisposition]
        simp [say, hscene]

/-- Whatever the collaborators are told to do, a run that comes to its end without hanging goes one
of the ways of its lifecycle for all to see. -/
theorem exists_lifecycle_of_proceed {w last : Stage} {number : Nat} {job : Job}
    (h : w.proceed number job .claim .calling = (last, none)) :
    ∃ (world : World) (calls : List Call) (disposition : Disposition),
      Run.Lifecycle w.setup world job calls disposition ∧
        last.scene.calls = w.scene.calls ++ calls.map (number, ·) ∧
        last.scene.endings = w.scene.endings ++ [(number, disposition)] := by
  obtain ⟨world, hcalls, hendings⟩ := exists_world_of_proceed h
  exact ⟨world, _, _, .of_course w.setup world job, hcalls, hendings⟩

end Rehearsal.Stage

end Courier
