import Courier.Slot
import Courier.Text.Entries
import Mathlib.Data.List.Basic

/-!
# Every message is disposed of once

A slot at work has its stream, from which messages come one after another until it ends, fails or
just brings nothing more, and it may be told to stop at any time. When it notices, and in which
order its tasks get on, is open.

All that happens to the slot and all that it does is noted. What the notes say of one message is
one of few courses, according to how far the message has come. In none of them is the broker told of
it twice, and if the slot has ended it has been told of every message that was taken, unless the
grace was over and the message was given up. A slot does not go on for ever: at any time only so
many events are left that can happen.

The messages of a stream have different tags.

## Main definitions

* `Slot.Shift`, `Slot.Shift.Move`, `Slot.Shift.go`: a slot at work.
* `Slot.Stage`, `Slot.Stage.notes`: how far a message has come, and what is noted of it until then.
* `Slot.Shift.Kept`: what is always true of a slot at work.
* `Slot.Shift.left`: how many events are left.
* `Slot.Shift.each_message_disposed_of_once`.
-/

namespace Courier.Slot

/-! ## Slots at work -/

/-- What a stream does after its last message. -/
inductive Ending where
  /-- It brings nothing more. -/
  | silent
  | closed
  | failed (error : String)
  deriving DecidableEq, Repr

/-- Something that happens to a slot, or that the slot does. -/
inductive Note where
  | event (event : Event)
  | effect (effect : Effect)
  deriving DecidableEq, Repr

/-- A slot at work. -/
structure Shift where
  slot : Slot
  /-- The tags of the messages that the stream still brings. -/
  coming : List Nat
  ending : Ending
  /-- The slot has been told to stop. -/
  isTold : Bool := false
  /-- The grace that it was given then is over. -/
  isLate : Bool := false
  /-- What has happened and what the slot has done, from the first. -/
  notes : List Note := []
  deriving DecidableEq, Repr

namespace Shift

/-- A slot that begins to take messages. -/
def start (number : Nat) (messages : List Nat) (ending : Ending) : Shift where
  slot := { number }
  coming := messages
  ending := ending

/-- Something happens to the slot. -/
def happen (s : Shift) (e : Event) : Shift :=
  { s with
    slot := (s.slot.step e).1
    notes := s.notes ++ .event e :: (s.slot.step e).2.map .effect }

/-- What can come next. -/
inductive Move where
  /-- The slot is told to stop, but has not noticed yet. -/
  | told
  /-- Something happens to it. -/
  | event (event : Event)
  deriving DecidableEq, Repr

/-- Something happens then. -/
def Move.isEvent : Move → Bool
  | .told => false
  | .event _ => true

/-- A task gets on from where it is. The stream brings its next message, ends or fails only while
the slot takes messages, and the grace begins when the slot is told to stop. -/
def CanHappen (s : Shift) : Move → Prop
  | .told => True
  | .event (.delivered tag) => s.slot.isTaking ∧ s.coming.head? = some tag
  | .event (.processed tag _) => s.slot.tasks.lookup tag = some .processing
  | .event (.applied tag _) =>
    s.slot.tasks.lookup tag ≠ none ∧ s.slot.tasks.lookup tag ≠ some .processing
  | .event .stopped => s.slot.isTaking ∧ s.isTold
  | .event .streamEnded => s.slot.isTaking ∧ s.coming = [] ∧ s.ending = .closed
  | .event (.streamFailed error) => s.slot.isTaking ∧ s.coming = [] ∧ s.ending = .failed error
  | .event .graceOver => s.isTold ∧ s.slot.hasEnded = false

instance (s : Shift) : (m : Move) → Decidable (s.CanHappen m)
  | .told => inferInstanceAs (Decidable True)
  | .event (.processed ..) => inferInstanceAs (Decidable (_ = _))
  | .event (.delivered _) | .event (.applied ..) | .event .stopped | .event .streamEnded
  | .event (.streamFailed _) | .event .graceOver => inferInstanceAs (Decidable (_ ∧ _))

/-- One step of a slot at work. -/
def go (s : Shift) : Move → Shift
  | .told => { s with isTold := true }
  | .event (.delivered tag) => { s with coming := s.coming.tail }.happen (.delivered tag)
  | .event .graceOver => { s with isLate := true }.happen .graceOver
  | .event e => s.happen e

/-- The slot after moves, one after another, if all of them can happen. -/
def play (s : Shift) : List Move → Option Shift
  | [] => some s
  | m :: ms => if s.CanHappen m then (s.go m).play ms else none

end Shift

/-! ## What is noted of a message -/

namespace Note

/-- The message that a note is about. -/
def tag? : Note → Option Nat
  | .event (.delivered tag) | .event (.processed tag _) | .event (.applied tag _)
  | .effect (.process tag) | .effect (.acknowledge tag _) | .effect (.reject tag _)
  | .effect (.abandon tag) => some tag
  | .event .stopped | .event .streamEnded | .event (.streamFailed _) | .event .graceOver
  | .effect (.say _) => none

/-- The message that was taken then. -/
def taken? : Note → Option Nat
  | .event (.delivered tag) => some tag
  | _ => none

theorem taken?_eq_none {n : Note} (h : n.tag? = none) : n.taken? = none := by
  cases n with
  | event e => cases e <;> first | rfl | cases h
  | effect f => rfl

/-- The slot has noticed the stop, or the end of its stream. -/
def isClosing : Note → Bool
  | .event .stopped | .event .streamEnded | .event (.streamFailed _) | .event .graceOver => true
  | _ => false

/-- The broker is told of a message. -/
def isCall : Note → Bool
  | .effect (.acknowledge ..) | .effect (.reject ..) => true
  | _ => false

end Note

namespace Shift

/-- What is noted of one message. -/
def course (s : Shift) (tag : Nat) : List Note :=
  s.notes.filter (·.tag? = some tag)

/-- The messages that have been taken, from the first. -/
def taken (s : Shift) : List Nat :=
  s.notes.filterMap Note.taken?

end Shift

/-- How far a message has come. -/
inductive Stage where
  /-- It has not been taken. -/
  | ahead
  | processing
  /-- The broker is being told of its disposition. -/
  | applying (disposition : Disposition)
  /-- The broker has been told, or that has failed. -/
  | settled (disposition : Disposition) (failure : Option String)
  /-- It was given up, in the latter case when the broker was being told of its disposition. -/
  | givenUp (disposition : Option Disposition)
  deriving DecidableEq, Repr

namespace Stage

/-- The notes of a message that is being processed. -/
def opening (tag : Nat) : List Note :=
  [.event (.delivered tag), .effect (.process tag)]

/-- The notes of a message of whose disposition the broker is being told: it alone is acknowledged,
or it is rejected and not to be handed out again. -/
def closing (tag : Nat) (disposition : Disposition) : List Note :=
  [.event (.processed tag disposition),
    .effect (if disposition.isAck then .acknowledge tag false else .reject tag false)]

/-- All that is noted of a message. -/
def notes (tag : Nat) : Stage → List Note
  | ahead => []
  | processing => opening tag
  | applying disposition => opening tag ++ closing tag disposition
  | settled disposition failure =>
    opening tag ++ closing tag disposition ++ [.event (.applied tag failure)]
  | givenUp none => opening tag ++ [.effect (.abandon tag)]
  | givenUp (some disposition) =>
    opening tag ++ closing tag disposition ++ [.effect (.abandon tag)]

/-- The task of a message. -/
def task : Stage → Option Task
  | processing => some .processing
  | applying disposition => some (.applying disposition)
  | ahead | settled .. | givenUp _ => none

/-- The message was given up. -/
def isGivenUp : Stage → Bool
  | givenUp _ => true
  | _ => false

theorem countP_isCall_closing (tag : Nat) (d : Disposition) :
    (closing tag d).countP Note.isCall = 1 := by
  cases d <;> rfl

/-- The broker is told of a message once from when it has been processed, and not before. -/
theorem countP_isCall_notes (tag : Nat) (stage : Stage) :
    (stage.notes tag).countP Note.isCall =
      match stage with
      | ahead | processing | givenUp none => 0
      | applying _ | settled .. | givenUp (some _) => 1 := by
  cases stage with
  | ahead | processing => rfl
  | applying d => rw [notes, List.countP_append, countP_isCall_closing]; rfl
  | settled d failure =>
    rw [notes, List.countP_append, List.countP_append, countP_isCall_closing]; rfl
  | givenUp disposition =>
    cases disposition with
    | none => rfl
    | some d => rw [notes, List.countP_append, List.countP_append, countP_isCall_closing]; rfl

end Stage

/-! ## Tasks -/

variable {s : Slot} {tag : Nat} {d : Disposition}

theorem ofDisposition_eq (tag : Nat) (d : Disposition) :
    Effect.ofDisposition tag d =
      if d.isAck then .acknowledge tag false else .reject tag false := by
  cases d <;> rfl

/-- A slot that takes messages takes one. -/
theorem step_delivered (taking : s.isTaking) : s.step (.delivered tag) =
    ({ s with tasks := s.tasks ++ [(tag, .processing)] }, [.process tag]) := by
  rw [step, if_pos taking]

/-- When a message has been processed the broker is told. -/
theorem step_processed (task : s.tasks.lookup tag = some .processing) (d : Disposition) :
    s.step (.processed tag d) = (s.setTask tag (.applying d), [.ofDisposition tag d]) := by
  simp only [step, task]

/-- When the broker has been told the task is over. -/
theorem step_applied (task : s.tasks.lookup tag = some (.applying d)) (failure : Option String) :
    s.step (.applied tag failure) =
      ({ s with tasks := s.tasks.filter (·.1 ≠ tag) },
        failure.toList.map fun e => .say (.dispositionUnapplied d e)) := by
  simp only [step, task]

theorem lookup_cons_eq_ite (key : Nat) (task : Task) (ts : List (Nat × Task)) (other : Nat) :
    ((key, task) :: ts).lookup other = if other = key then some task else ts.lookup other := by
  rw [List.lookup_cons]
  by_cases h : other = key
  · simp [h]
  · rw [if_neg h, beq_eq_false_iff_ne.2 h]

theorem lookup_setTask (s : Slot) (tag : Nat) (task : Task) (other : Nat) :
    (s.setTask tag task).tasks.lookup other =
      if other = tag then (s.tasks.lookup tag).map fun _ => task else s.tasks.lookup other := by
  simp only [setTask]
  induction s.tasks with
  | nil => simp
  | cons t ts ih =>
    obtain ⟨key, old⟩ := t
    rw [List.map_cons, lookup_cons_eq_ite, lookup_cons_eq_ite]
    by_cases hkey : key = tag
    · rw [if_pos hkey, lookup_cons_eq_ite, ih]
      grind
    · rw [if_neg hkey, lookup_cons_eq_ite, ih]
      grind

theorem lookup_filter_ne (tasks : List (Nat × Task)) (tag other : Nat) :
    (tasks.filter (·.1 ≠ tag)).lookup other =
      if other = tag then none else tasks.lookup other := by
  induction tasks with
  | nil => simp
  | cons t ts ih =>
    obtain ⟨key, task⟩ := t
    rw [List.filter_cons, lookup_cons_eq_ite]
    by_cases hkey : key = tag
    · rw [if_neg (by simpa using hkey), ih]
      grind
    · rw [if_pos (by simpa using hkey), lookup_cons_eq_ite, ih]
      grind

theorem keys_setTask (s : Slot) (tag : Nat) (task : Task) :
    (s.setTask tag task).tasks.map (·.1) = s.tasks.map (·.1) := by
  simp only [setTask, List.map_map]
  apply List.map_congr_left
  intro t _
  simp only [Function.comp_apply]
  split
  · next htag => exact htag.symm
  · rfl

theorem mem_keys {tasks : List (Nat × Task)} {task : Task} (h : tasks.lookup tag = some task) :
    tag ∈ tasks.map (·.1) := by
  by_contra hnot
  rw [Entries.lookup_eq_none_iff_not_mem.2 hnot] at h
  cases h

/-- What is noted of one message when all that are under way are given up. -/
theorem filter_abandon {tasks : List (Nat × Task)} (keys : (tasks.map (·.1)).Nodup) (tag : Nat) :
    ((tasks.map fun t => Effect.abandon t.1).map Note.effect).filter (·.tag? = some tag) =
      if tag ∈ tasks.map (·.1) then [.effect (.abandon tag)] else [] := by
  induction tasks with
  | nil => rfl
  | cons t ts ih =>
    obtain ⟨hnot, hrest⟩ := List.nodup_cons.1 keys
    have hmem : tag ∈ (t :: ts).map (·.1) ↔ tag = t.1 ∨ tag ∈ ts.map (·.1) := List.mem_cons
    rw [List.map_cons, List.map_cons, List.filter_cons, ih hrest]
    by_cases htag : t.1 = tag
    · subst htag
      simp only [Note.tag?, decide_true, if_true, if_neg hnot, hmem, true_or]
    · simp only [Note.tag?, Option.some.injEq, decide_eq_true_iff, if_neg htag, hmem,
        Ne.symm htag, false_or]

theorem length_filter_ne_lt {tasks : List (Nat × Task)} (h : tag ∈ tasks.map (·.1)) :
    (tasks.filter (·.1 ≠ tag)).length < tasks.length := by
  obtain ⟨t, ht, htag⟩ := List.mem_map.1 h
  exact List.length_filter_lt_length_iff_exists.2 ⟨t, ht, by simp [htag]⟩

/-- Once a message has been processed, one less is being processed. -/
theorem countP_processing_setTask_lt (h : s.tasks.lookup tag = some .processing)
    (d : Disposition) :
    (s.setTask tag (.applying d)).tasks.countP (·.2 = .processing) <
      s.tasks.countP (·.2 = .processing) := by
  have hmem : (tag, Task.processing) ∈ s.tasks := by
    obtain ⟨before, after, htasks, -⟩ := List.lookup_eq_some_iff.1 h
    simp [htasks]
  have hothers : (s.setTask tag (.applying d)).tasks.countP (·.2 = .processing) =
      ((s.tasks.filter (·.2 = .processing)).filter (·.1 ≠ tag)).length := by
    rw [setTask, List.countP_map, List.filter_filter, ← List.countP_eq_length_filter]
    refine List.countP_congr fun t _ => ?_
    by_cases htag : t.1 = tag <;> simp [htag]
  rw [hothers, List.countP_eq_length_filter]
  refine length_filter_ne_lt (List.mem_map.2 ⟨(tag, .processing), ?_, rfl⟩)
  simpa using hmem

/-! ## What happens to one message -/

namespace Shift

variable {s t : Shift} {tag : Nat} {stage : Stage} {messages : List Nat} {e : Event}

theorem play_cons_iff {m : Move} {ms : List Move} :
    s.play (m :: ms) = some t ↔ s.CanHappen m ∧ (s.go m).play ms = some t := by
  rw [play]
  split
  · next can => exact (and_iff_right can).symm
  · next cannot => simp [cannot]

theorem play_append (s : Shift) (first more : List Move) :
    s.play (first ++ more) = (s.play first).bind (·.play more) := by
  induction first generalizing s with
  | nil => rfl
  | cons m ms ih =>
    rw [List.cons_append, play, play]
    split
    · exact ih _
    · rfl

theorem course_happen (s : Shift) (e : Event) (tag : Nat) :
    (s.happen e).course tag = s.course tag ++
      (Note.event e :: (s.slot.step e).2.map .effect).filter (·.tag? = some tag) := by
  simp only [course, happen, List.filter_append]

theorem taken_happen (s : Shift) (e : Event) :
    (s.happen e).taken = s.taken ++ (Note.event e).taken?.toList := by
  have heffects : ((s.slot.step e).2.map Note.effect).filterMap Note.taken? = [] := by
    simp [List.filterMap_eq_nil_iff, Note.taken?]
  simp only [taken, happen, List.filterMap_append, List.filterMap_cons, heffects]
  cases (Note.event e).taken? <;> rfl

theorem exists_applying_of_canHappen {failure : Option String}
    (can : s.CanHappen (.event (.applied tag failure))) :
    ∃ d, s.slot.tasks.lookup tag = some (.applying d) := by
  obtain ⟨some_task, unready⟩ := can
  obtain ⟨task, htask⟩ := Option.ne_none_iff_exists'.1 some_task
  cases task with
  | processing => exact absurd htask unready
  | applying d => exact ⟨d, htask⟩

/-- A message has come so far. -/
structure IsAt (s : Shift) (tag : Nat) (stage : Stage) : Prop where
  course : s.course tag = stage.notes tag
  task : s.slot.tasks.lookup tag = stage.task
  ahead_iff : stage = .ahead ↔ tag ∉ s.taken
  late : stage.isGivenUp → s.isLate

namespace IsAt

/-- The message is still where it was. -/
theorem frame (h : s.IsAt tag stage) (course : t.course tag = s.course tag)
    (task : t.slot.tasks.lookup tag = s.slot.tasks.lookup tag)
    (taken : tag ∈ t.taken ↔ tag ∈ s.taken) (late : s.isLate → t.isLate) : t.IsAt tag stage where
  course := course.trans h.course
  task := task.trans h.task
  ahead_iff := by rw [h.ahead_iff, taken]
  late := fun hgiven => late (h.late hgiven)

/-- The message gets on. -/
theorem next {last : Stage} {more : List Note} (h : s.IsAt tag stage)
    (course : t.course tag = s.course tag ++ more)
    (notes : last.notes tag = stage.notes tag ++ more)
    (task : t.slot.tasks.lookup tag = last.task) (taken : tag ∈ t.taken) (some_way : last ≠ .ahead)
    (late : last.isGivenUp → t.isLate) : t.IsAt tag last where
  course := by rw [course, h.course, notes]
  task := task
  ahead_iff := by simp [taken, some_way]
  late := late

/-- One message gets on and the others are where they were. -/
theorem advance {last : Stage} {more : List Note} (h : s.IsAt tag stage)
    (stages : ∀ other, ∃ stage, s.IsAt other stage)
    (course : ∀ other, t.course other = s.course other ++ if tag = other then more else [])
    (notes : last.notes tag = stage.notes tag ++ more)
    (task : ∀ other, t.slot.tasks.lookup other =
      if other = tag then last.task else s.slot.tasks.lookup other)
    (taken : ∀ other, other ∈ t.taken ↔ other = tag ∨ other ∈ s.taken)
    (some_way : last ≠ .ahead) (stays : last.isGivenUp = false) (late : s.isLate → t.isLate)
    (other : Nat) : ∃ stage, t.IsAt other stage := by
  by_cases hother : other = tag
  · subst hother
    refine ⟨last, h.next ?_ notes ?_ ((taken other).2 (.inl rfl)) some_way ?_⟩
    · rw [course, if_pos rfl]
    · rw [task, if_pos rfl]
    · simp [stays]
  · obtain ⟨stage, hstage⟩ := stages other
    refine ⟨stage, hstage.frame ?_ ?_ ?_ late⟩
    · rw [course, if_neg (Ne.symm hother), List.append_nil]
    · rw [task, if_neg hother]
    · rw [taken, or_iff_right hother]

theorem eq_processing (h : s.IsAt tag stage) (task : s.slot.tasks.lookup tag = some .processing) :
    stage = .processing := by
  rw [h.task] at task
  cases stage <;> simp_all [Stage.task]

theorem eq_applying {d : Disposition} (h : s.IsAt tag stage)
    (task : s.slot.tasks.lookup tag = some (.applying d)) : stage = .applying d := by
  rw [h.task] at task
  cases stage <;> simp_all [Stage.task]

theorem mem_taken (h : s.IsAt tag stage) (some_way : stage ≠ .ahead) : tag ∈ s.taken := by
  by_contra hnot
  exact some_way (h.ahead_iff.2 hnot)

end IsAt

/-- What is always true of a slot at work. -/
structure Kept (messages : List Nat) (s : Shift) : Prop where
  split : messages = s.taken ++ s.coming
  keys : (s.slot.tasks.map (·.1)).Nodup
  stages : ∀ tag, ∃ stage, s.IsAt tag stage
  /-- No message is taken after the slot has noticed that it is to stop. -/
  order : s.notes.Pairwise fun a b => a.isClosing → b.taken? = none
  closed : ∀ n ∈ s.notes, n.isClosing → s.slot.isTaking = false

theorem kept_start (number : Nat) (messages : List Nat) (ending : Ending) :
    Kept messages (start number messages ending) where
  split := rfl
  keys := List.nodup_nil
  stages := fun _ => ⟨.ahead, rfl, rfl, by simp [start, taken], by simp [Stage.isGivenUp]⟩
  order := .nil
  closed := by simp [start]

namespace Kept

/-- An event that takes no message. -/
theorem happen (h : Kept messages s) (untaken : (Note.event e).taken? = none)
    (closes : (Note.event e).isClosing → (s.slot.step e).1.isTaking = false)
    (keys : ((s.slot.step e).1.tasks.map (·.1)).Nodup)
    (stages : ∀ tag, ∃ stage, (s.happen e).IsAt tag stage) : Kept messages (s.happen e) where
  split := by
    rw [taken_happen, untaken, Option.toList_none, List.append_nil]
    exact h.split
  keys := keys
  stages := stages
  order := by
    have hnew : ∀ n ∈ Note.event e :: (s.slot.step e).2.map .effect, n.taken? = none := by
      intro n hn
      rcases List.mem_cons.1 hn with rfl | heffect
      · exact untaken
      · obtain ⟨f, -, rfl⟩ := List.mem_map.1 heffect
        rfl
    refine List.pairwise_append.2 ⟨h.order, ?_, fun _ _ n hn _ => hnew n hn⟩
    exact List.pairwise_of_forall_mem_list fun _ _ n hn _ => hnew n hn
  closed := by
    intro n hn hclosing
    rcases List.mem_append.1 hn with hold | hnew
    · exact isTaking_step_of_not (h.closed n hold hclosing) e
    · rcases List.mem_cons.1 hnew with rfl | heffect
      · exact closes hclosing
      · obtain ⟨f, -, rfl⟩ := List.mem_map.1 heffect
        simp [Note.isClosing] at hclosing

/-- The slot notices that it is to stop, which it does not do twice. -/
theorem close {effects : List Effect} (h : Kept messages s)
    (hstep : s.slot.step e = s.slot.close effects) (event : (Note.event e).tag? = none)
    (untagged : ∀ f ∈ effects, (Note.effect f).tag? = none) : Kept messages (s.happen e) := by
  have htasks : (s.slot.step e).1.tasks = s.slot.tasks := by
    rw [hstep, Slot.close]
    split <;> rfl
  have hclosed : (s.slot.step e).1.isTaking = false := by
    rw [hstep, Slot.close]
    split
    · rfl
    · next idle => exact eq_false_of_ne_true idle
  have heffects : ∀ f ∈ (s.slot.step e).2, (Note.effect f).tag? = none := by
    rw [hstep, Slot.close]
    split
    · exact untagged
    · simp
  refine h.happen (Note.taken?_eq_none event) (fun _ => hclosed) (htasks ▸ h.keys) fun tag => ?_
  obtain ⟨stage, hstage⟩ := h.stages tag
  refine ⟨stage, hstage.frame ?_ (congrArg _ htasks) ?_ id⟩
  · rw [course_happen, List.filter_eq_nil_iff.2, List.append_nil]
    simp_all
  · rw [taken_happen, Note.taken?_eq_none event, Option.toList_none, List.append_nil]

/-- A message gets on that was taken before. -/
theorem advance {last : Stage} {more : List Note} (h : Kept messages s)
    (at_stage : s.IsAt tag stage) (begun : stage ≠ .ahead) (untaken : (Note.event e).taken? = none)
    (opens : (Note.event e).isClosing = false)
    (keys : ((s.slot.step e).1.tasks.map (·.1)).Nodup)
    (course : ∀ other, (Note.event e :: (s.slot.step e).2.map .effect).filter
      (·.tag? = some other) = if tag = other then more else [])
    (notes : last.notes tag = stage.notes tag ++ more)
    (task : ∀ other, (s.slot.step e).1.tasks.lookup other =
      if other = tag then last.task else s.slot.tasks.lookup other)
    (some_way : last ≠ .ahead) (stays : last.isGivenUp = false) : Kept messages (s.happen e) := by
  refine h.happen untaken (by simp [opens]) keys ?_
  refine at_stage.advance h.stages (fun other => ?_) notes task (fun other => ?_) some_way stays id
  · rw [course_happen, course]
  · rw [taken_happen, untaken, Option.toList_none, List.append_nil, iff_or_self]
    rintro rfl
    exact at_stage.mem_taken begun

/-- A message has been processed, and the broker is told of its disposition. -/
theorem processed (h : Kept messages s) (task : s.slot.tasks.lookup tag = some .processing)
    (d : Disposition) : Kept messages (s.happen (.processed tag d)) := by
  have hstep := step_processed task d
  have htag : (Note.effect (.ofDisposition tag d)).tag? = some tag := by
    cases d <;> rfl
  obtain ⟨stage, at_stage⟩ := h.stages tag
  obtain rfl := at_stage.eq_processing task
  have hlast : Stage.notes tag (.applying d) = Stage.notes tag .processing ++
      [.event (.processed tag d), .effect (.ofDisposition tag d)] := by
    rw [ofDisposition_eq]
    rfl
  refine h.advance at_stage (by simp) rfl rfl ?_ (fun other => ?_) hlast (fun other => ?_)
    (by simp) rfl
  · rw [hstep, keys_setTask]
    exact h.keys
  · rw [hstep, List.map_singleton, List.filter_cons, List.filter_singleton, htag]
    by_cases hother : tag = other <;> simp [Note.tag?, hother]
  · rw [hstep, lookup_setTask, task]
    rfl

/-- The broker has been told of a disposition, or that has failed. -/
theorem applied (h : Kept messages s) (task : s.slot.tasks.lookup tag = some (.applying d))
    (failure : Option String) : Kept messages (s.happen (.applied tag failure)) := by
  have hstep := step_applied task failure
  obtain ⟨stage, at_stage⟩ := h.stages tag
  obtain rfl := at_stage.eq_applying task
  have hlast : Stage.notes tag (.settled d failure) =
      Stage.notes tag (.applying d) ++ [.event (.applied tag failure)] := rfl
  refine h.advance at_stage (by simp) rfl rfl ?_ (fun other => ?_) hlast (fun other => ?_)
    (by simp) rfl
  · rw [hstep]
    exact h.keys.sublist (List.filter_sublist.map _)
  · rw [hstep]
    by_cases hother : tag = other <;> cases failure <;> simp [Note.tag?, hother]
  · rw [hstep]
    exact lookup_filter_ne s.slot.tasks tag other

/-- The grace is over. -/
theorem graceOver (h : Kept messages s) (late : s.isLate) :
    Kept messages (s.happen .graceOver) := by
  have htaken : (s.happen .graceOver).taken = s.taken := by
    rw [taken_happen]
    exact List.append_nil s.taken
  have hnotes : ∀ tag, (s.happen .graceOver).course tag =
      s.course tag ++ if tag ∈ s.slot.tasks.map (·.1) then [.effect (.abandon tag)] else [] := by
    intro tag
    rw [course_happen]
    exact congrArg _ (filter_abandon h.keys tag)
  refine h.happen rfl (fun _ => rfl) List.nodup_nil fun tag => ?_
  obtain ⟨stage, hstage⟩ := h.stages tag
  have hsame (idle : stage.task = none) : (s.happen .graceOver).IsAt tag stage := by
    refine hstage.frame ?_ ?_ (by rw [htaken]) id
    · have habsent := Entries.lookup_eq_none_iff_not_mem.1 (hstage.task.trans idle)
      rw [hnotes, if_neg habsent, List.append_nil]
    · rw [hstage.task, idle]
      rfl
  have hlast {last : Stage} {task : Task} (busy : stage.task = some task)
      (notes : last.notes tag = stage.notes tag ++ [.effect (.abandon tag)])
      (given : last.isGivenUp) (idle : last.task = none) :
      (s.happen .graceOver).IsAt tag last := by
    refine hstage.next ?_ notes idle.symm ?_ (by rintro rfl; cases given) fun _ => late
    · rw [hnotes, if_pos (mem_keys (hstage.task.trans busy))]
    · rw [htaken]
      exact hstage.mem_taken (by rintro rfl; cases busy)
  cases stage with
  | ahead | settled | givenUp => exact ⟨_, hsame rfl⟩
  | processing => exact ⟨.givenUp none, hlast rfl rfl rfl rfl⟩
  | applying d => exact ⟨.givenUp (some d), hlast rfl rfl rfl rfl⟩

/-- The stream brings a message. -/
theorem delivered {rest : List Nat} (h : Kept messages s) (distinct : messages.Nodup)
    (taking : s.slot.isTaking) (coming : s.coming = tag :: rest) :
    Kept messages ({ s with coming := rest }.happen (.delivered tag)) := by
  have hstep : s.slot.step (.delivered tag) =
      ({ s.slot with tasks := s.slot.tasks ++ [(tag, .processing)] }, [.process tag]) :=
    step_delivered taking
  have hnotes : ({ s with coming := rest }.happen (.delivered tag)).notes =
      s.notes ++ Stage.opening tag := by
    rw [Shift.happen, hstep]
    rfl
  have htaken : ({ s with coming := rest }.happen (.delivered tag)).taken = s.taken ++ [tag] :=
    taken_happen { s with coming := rest } (.delivered tag)
  have hopen : ∀ n ∈ s.notes, n.isClosing → False := fun n hn closing =>
    absurd taking (by simp [h.closed n hn closing])
  have at_stage : s.IsAt tag .ahead := by
    obtain ⟨stage, at_stage⟩ := h.stages tag
    rw [h.split, coming] at distinct
    have hnew : tag ∉ s.taken := fun hold =>
      (List.nodup_append.1 distinct).2.2 tag hold tag List.mem_cons_self rfl
    obtain rfl := at_stage.ahead_iff.2 hnew
    exact at_stage
  have hlast : Stage.notes tag .processing = Stage.notes tag .ahead ++ Stage.opening tag :=
    (List.nil_append _).symm
  refine ⟨?_, ?_, at_stage.advance h.stages (fun other => ?_) hlast (fun other => ?_)
    (fun other => ?_) (by simp) rfl id, ?_, ?_⟩
  · rw [htaken, h.split, coming]
    simp [Shift.happen]
  · rw [Shift.happen, hstep]
    refine List.map_append ▸ List.nodup_append.2 ⟨h.keys, by simp, ?_⟩
    rintro key hkey _ hlast rfl
    obtain rfl : key = tag := List.mem_singleton.1 hlast
    exact Entries.lookup_eq_none_iff_not_mem.1 at_stage.task hkey
  · rw [course, course, hnotes, List.filter_append]
    by_cases hother : tag = other <;> simp [Note.tag?, Stage.opening, hother]
  · rw [Shift.happen, hstep, List.lookup_append, lookup_cons_eq_ite]
    by_cases hother : other = tag
    · rw [if_pos hother, if_pos hother, hother, at_stage.task]
      rfl
    · rw [if_neg hother, if_neg hother, List.lookup_nil, Option.or_none]
  · rw [htaken, List.mem_append, List.mem_singleton, or_comm]
  · rw [hnotes]
    refine List.pairwise_append.2 ⟨h.order, by simp [Stage.opening, Note.isClosing], ?_⟩
    exact fun a ha _ _ closing => (hopen a ha closing).elim
  · intro n hn closing
    rw [hnotes, List.mem_append] at hn
    rcases hn with hold | hlast
    · exact (hopen n hold closing).elim
    · obtain rfl | rfl : n = .event (.delivered tag) ∨ n = .effect (.process tag) := by
        simpa [Stage.opening] using hlast
      all_goals cases closing

/-- What a slot is told, and whether the grace is over, is beside the point. -/
theorem withFlags (h : Kept messages s) (told late : Bool) (onward : s.isLate → late) :
    Kept messages { s with isTold := told, isLate := late } where
  split := h.split
  keys := h.keys
  stages := fun tag =>
    let ⟨stage, hstage⟩ := h.stages tag
    ⟨stage, hstage.frame rfl rfl Iff.rfl onward⟩
  order := h.order
  closed := h.closed

/-- One step. -/
theorem go {m : Move} (h : Kept messages s) (distinct : messages.Nodup) (can : s.CanHappen m) :
    Kept messages (s.go m) := by
  cases m with
  | told => exact h.withFlags true s.isLate id
  | event e =>
    cases e with
    | delivered tag =>
      obtain ⟨taking, hhead⟩ := can
      have hcoming : s.coming = tag :: s.coming.tail := List.eq_cons_of_mem_head? hhead
      exact h.delivered distinct taking hcoming
    | processed tag d => exact h.processed can d
    | applied tag failure =>
      obtain ⟨d, htask⟩ := exists_applying_of_canHappen can
      exact h.applied htask failure
    | stopped => exact h.close rfl rfl (by simp)
    | streamEnded => exact h.close rfl rfl (by simp [Note.tag?])
    | streamFailed error => exact h.close rfl rfl (by simp [Note.tag?])
    | graceOver => exact (h.withFlags s.isTold true fun _ => rfl).graceOver rfl

/-- Steps one after another. -/
theorem of_play {moves : List Move} (h : Kept messages s) (distinct : messages.Nodup)
    (played : s.play moves = some t) : Kept messages t := by
  induction moves generalizing s with
  | nil =>
    obtain rfl : s = t := Option.some.inj played
    exact h
  | cons m ms ih =>
    obtain ⟨can, hrest⟩ := play_cons_iff.1 played
    exact ih (h.go distinct can) hrest

end Kept

/-! ## The end of a slot -/

/-- A task gets on, and a message that has been processed has the disposition that is given for
it. -/
def Move.IsWork (ends : Nat → Disposition) : Move → Prop
  | .event (.processed tag disposition) => disposition = ends tag
  | .event (.applied ..) => True
  | .told | .event (.delivered _) | .event .stopped | .event .streamEnded
  | .event (.streamFailed _) | .event .graceOver => False

/-- While tasks get on no message is taken and no grace is over. -/
theorem play_of_isWork {ends : Nat → Disposition} {moves : List Move}
    (work : ∀ m ∈ moves, m.IsWork ends) (played : s.play moves = some t) :
    t.taken = s.taken ∧ t.isLate = s.isLate := by
  induction moves generalizing s with
  | nil =>
    obtain rfl : s = t := Option.some.inj played
    exact ⟨rfl, rfl⟩
  | cons m ms ih =>
    obtain ⟨hm, hms⟩ := List.forall_mem_cons.1 work
    obtain ⟨-, hrest⟩ := play_cons_iff.1 played
    obtain ⟨htaken, hlate⟩ := ih hms hrest
    have hone : (s.go m).taken = s.taken ∧ (s.go m).isLate = s.isLate := by
      cases m with
      | told => exact hm.elim
      | event e =>
        cases e with
        | delivered | stopped | streamEnded | streamFailed | graceOver => exact hm.elim
        | processed | applied =>
          exact ⟨(taken_happen s _).trans (List.append_nil s.taken), rfl⟩
    exact ⟨htaken.trans hone.1, hlate.trans hone.2⟩

/-- A task that is under way comes to where the broker is told. -/
theorem exists_applying {task : Task} (ends : Nat → Disposition)
    (htask : s.slot.tasks.lookup tag = some task) :
    ∃ moves t d, s.play moves = some t ∧ (∀ m ∈ moves, m.IsWork ends) ∧
      t.slot.tasks.lookup tag = some (.applying d) ∧
      t.slot.tasks.length = s.slot.tasks.length ∧ t.slot.isTaking = s.slot.isTaking := by
  cases task with
  | applying d => exact ⟨[], s, d, rfl, by simp, htask, rfl, rfl⟩
  | processing =>
    have hstep := step_processed htask (ends tag)
    refine ⟨[.event (.processed tag (ends tag))], s.happen (.processed tag (ends tag)), ends tag,
      if_pos htask, by simp [Move.IsWork], ?_, ?_, ?_⟩
    · rw [Shift.happen, hstep, lookup_setTask, if_pos rfl, htask]
      rfl
    · rw [Shift.happen, hstep]
      exact List.length_map _
    · rw [Shift.happen, hstep]
      rfl

/-- A slot that takes no more messages can end, whatever becomes of those under way. -/
theorem exists_hasEnded (ends : Nat → Disposition) (closed : s.slot.isTaking = false) :
    ∃ moves t, s.play moves = some t ∧ (∀ m ∈ moves, m.IsWork ends) ∧ t.slot.hasEnded := by
  -- On the number of tasks: the first of them comes to its end, whichever it is.
  induction hlength : s.slot.tasks.length using Nat.strongRecOn generalizing s with
  | ind n ih =>
  cases htasks : s.slot.tasks with
  | nil => exact ⟨[], s, rfl, by simp, by simp [hasEnded, closed, htasks]⟩
  | cons first rest =>
    obtain ⟨tag, task⟩ := first
    have htask : s.slot.tasks.lookup tag = some task := by
      rw [htasks, lookup_cons_eq_ite, if_pos rfl]
    obtain ⟨before, u, d, hbefore, hwork, hready, hsame, hclosed⟩ := exists_applying ends htask
    have hstep := step_applied hready none
    have hcan : u.CanHappen (.event (.applied tag none)) := by
      simp [CanHappen, hready]
    have hfewer : (u.happen (.applied tag none)).slot.tasks.length < n := by
      rw [Shift.happen, hstep, ← hlength, ← hsame]
      exact length_filter_ne_lt (mem_keys hready)
    obtain ⟨more, v, hmore, hmoreWork, hend⟩ := ih _ hfewer
      (by rw [Shift.happen, hstep]; exact hclosed.trans closed) rfl
    refine ⟨before ++ .event (.applied tag none) :: more, v, ?_, ?_, hend⟩
    · rw [play_append, hbefore, Option.bind_some]
      exact play_cons_iff.2 ⟨hcan, hmore⟩
    · exact List.forall_mem_append.2 ⟨hwork, List.forall_mem_cons.2 ⟨trivial, hmoreWork⟩⟩

/-! ## How long a slot goes on -/

/-- Nothing happens to a slot that has ended. -/
theorem hasEnded_eq_false (can : s.CanHappen (.event e)) : s.slot.hasEnded = false := by
  have hbusy {tag : Nat} {task : Task} (h : s.slot.tasks.lookup tag = some task) :
      s.slot.hasEnded = false := by
    have hsome : s.slot.tasks ≠ [] := by
      intro hnil
      rw [hnil] at h
      cases h
    simp [hasEnded, hsome]
  cases e with
  | delivered | stopped | streamEnded | streamFailed => simp [hasEnded, can.1]
  | processed tag d => exact hbusy can
  | applied tag failure =>
    obtain ⟨d, htask⟩ := exists_applying_of_canHappen can
    exact hbusy htask
  | graceOver => exact can.2

/-- How many events can still happen to the slot: three for a message that has not been taken, of
which two are left when it is being processed and one when the broker is being told, one by which
the slot notices that it is to stop, and the end of the grace. -/
def left (s : Shift) : Nat :=
  3 * s.coming.length + s.slot.tasks.length + s.slot.tasks.countP (·.2 = .processing) +
    s.slot.isTaking.toNat + (!s.slot.hasEnded).toNat

/-- Every event leaves fewer. -/
theorem left_go_lt (can : s.CanHappen (.event e)) : (s.go (.event e)).left < s.left := by
  have hbefore : (!s.slot.hasEnded).toNat = 1 := by
    rw [hasEnded_eq_false can]
    rfl
  have hafter := Bool.toNat_le (!(s.go (.event e)).slot.hasEnded)
  -- Stop and end of the stream have in common that the slot takes messages no more.
  have hclose {effects : List Effect} (hstep : s.slot.step e = s.slot.close effects)
      (hgo : s.go (.event e) = s.happen e) (taking : s.slot.isTaking) :
      (s.go (.event e)).left < s.left := by
    have hslot : (s.go (.event e)).slot = { s.slot with isTaking := false } := by
      rw [hgo, happen, hstep, Slot.close, if_pos taking]
    have hcoming : (s.go (.event e)).coming = s.coming := by
      rw [hgo]
      rfl
    simp only [left, hslot, hcoming, taking, Bool.toNat_true, Bool.toNat_false] at hafter ⊢
    omega
  cases e with
  | delivered tag =>
    obtain ⟨taking, hhead⟩ := can
    have hcoming : s.coming.length = s.coming.tail.length + 1 :=
      congrArg List.length (List.eq_cons_of_mem_head? hhead)
    have hrest : (s.go (.event (.delivered tag))).coming = s.coming.tail := rfl
    have hslot : (s.go (.event (.delivered tag))).slot =
        { s.slot with tasks := s.slot.tasks ++ [(tag, .processing)] } :=
      congrArg Prod.fst (step_delivered taking)
    have hcount : (s.slot.tasks ++ [(tag, Task.processing)]).countP (·.2 = .processing) =
        s.slot.tasks.countP (·.2 = .processing) + 1 := by
      simp
    simp only [left, hslot, hrest, hcount, List.length_append, List.length_singleton] at hafter ⊢
    omega
  | processed tag d =>
    have hrest : (s.go (.event (.processed tag d))).coming = s.coming := rfl
    have hslot : (s.go (.event (.processed tag d))).slot = s.slot.setTask tag (.applying d) :=
      congrArg Prod.fst (step_processed can d)
    have hcount := countP_processing_setTask_lt can d
    have hlength : (s.slot.setTask tag (.applying d)).tasks.length = s.slot.tasks.length :=
      List.length_map _
    have htaking : (s.slot.setTask tag (.applying d)).isTaking = s.slot.isTaking := rfl
    simp only [left, hslot, hrest, hlength, htaking] at hafter ⊢
    omega
  | applied tag failure =>
    obtain ⟨d, htask⟩ := exists_applying_of_canHappen can
    have hrest : (s.go (.event (.applied tag failure))).coming = s.coming := rfl
    have hslot : (s.go (.event (.applied tag failure))).slot =
        { s.slot with tasks := s.slot.tasks.filter (·.1 ≠ tag) } :=
      congrArg Prod.fst (step_applied htask failure)
    have hlength := length_filter_ne_lt (mem_keys htask)
    have hcount : (s.slot.tasks.filter (·.1 ≠ tag)).countP (·.2 = .processing) ≤
        s.slot.tasks.countP (·.2 = .processing) := List.filter_sublist.countP_le
    simp only [left, hslot, hrest] at hafter ⊢
    omega
  | stopped => exact hclose rfl rfl can.1
  | streamEnded => exact hclose rfl rfl can.1
  | streamFailed error => exact hclose rfl rfl can.1
  | graceOver =>
    have hrest : (s.go (.event .graceOver)).coming = s.coming := rfl
    have hslot : (s.go (.event .graceOver)).slot = { s.slot with isTaking := false, tasks := [] } :=
      rfl
    have hended : ({ s.slot with isTaking := false, tasks := [] } : Slot).hasEnded = true := rfl
    simp only [left, hslot, hrest, hended, hbefore, List.length_nil, List.countP_nil,
      Bool.toNat_false, Bool.not_true]
    omega

/-- A slot does not go on for ever. -/
theorem countP_isEvent_add_left_le {moves : List Move} (played : s.play moves = some t) :
    moves.countP Move.isEvent + t.left ≤ s.left := by
  induction moves generalizing s with
  | nil =>
    obtain rfl : s = t := Option.some.inj played
    exact Nat.le_of_eq (Nat.zero_add _)
  | cons m ms ih =>
    obtain ⟨can, hrest⟩ := play_cons_iff.1 played
    have hle := ih hrest
    cases m with
    | told => exact hle
    | event e =>
      have hlt := left_go_lt can
      rw [List.countP_cons_of_pos rfl]
      omega

/-! ## Messages are disposed of once -/

/-- However the tasks of a slot get on, whatever its stream does and whenever it is told to stop,
the messages are taken in their order, none of them after the slot has noticed that it is to stop,
and all that is noted of a message is what there is to note at the stage that it has come to. The
broker is told of a message at most once, after it has been processed: that it alone is done with,
or that it is not wanted and not to be handed out again. A slot has ended only if all
messages that were taken are settled or given up, and they are given up only if the grace is over.
So if it has ended before, the broker was told of each of them once. A slot does not go on for
ever, and one that takes no more messages can end, whatever the dispositions of those that are being
processed. -/
theorem each_message_disposed_of_once {number : Nat} {messages : List Nat} {ending : Ending}
    {moves : List Move} {s : Shift} (distinct : messages.Nodup)
    (played : (start number messages ending).play moves = some s) :
    messages = s.taken ++ s.coming ∧
    s.notes.Pairwise (fun a b => a.isClosing → b.taken? = none) ∧
    (∀ tag, ∃ stage : Stage,
      s.course tag = stage.notes tag ∧
      (stage = .ahead ↔ tag ∉ s.taken) ∧
      (stage.isGivenUp → s.isLate) ∧
      (s.slot.hasEnded → tag ∈ s.taken →
        (∃ disposition failure, stage = .settled disposition failure) ∨ stage.isGivenUp)) ∧
    (∀ tag, (s.course tag).countP Note.isCall ≤ 1) ∧
    (s.slot.hasEnded → s.isLate = false → ∀ tag ∈ s.taken,
      (s.course tag).countP Note.isCall = 1) ∧
    moves.countP Move.isEvent ≤ 3 * messages.length + 2 ∧
    (s.slot.isTaking = false → ∀ ends, ∃ more t, s.play more = some t ∧
      (∀ m ∈ more, m.IsWork ends) ∧
      t.slot.hasEnded ∧ t.taken = s.taken ∧ t.isLate = s.isLate) := by
  have kept : Kept messages s := (kept_start number messages ending).of_play distinct played
  have hended {tag : Nat} {stage : Stage} (at_stage : s.IsAt tag stage) (ended : s.slot.hasEnded)
      (htaken : tag ∈ s.taken) :
      (∃ disposition failure, stage = .settled disposition failure) ∨ stage.isGivenUp := by
    have htask : stage.task = none := by
      rw [← at_stage.task, List.isEmpty_iff.1 (Bool.and_eq_true_iff.1 ended).2]
      rfl
    cases stage with
    | ahead => exact absurd htaken (at_stage.ahead_iff.1 rfl)
    | processing | applying => cases htask
    | settled disposition failure => exact .inl ⟨disposition, failure, rfl⟩
    | givenUp => exact .inr rfl
  refine ⟨kept.split, kept.order, fun tag => ?_, fun tag => ?_, fun ended intime tag htaken => ?_,
    Nat.le_of_add_right_le (countP_isEvent_add_left_le played), fun closed ends => ?_⟩
  · obtain ⟨stage, at_stage⟩ := kept.stages tag
    exact ⟨stage, at_stage.course, at_stage.ahead_iff, at_stage.late, hended at_stage⟩
  · obtain ⟨stage, at_stage⟩ := kept.stages tag
    rw [at_stage.course, Stage.countP_isCall_notes]
    split <;> decide
  · obtain ⟨stage, at_stage⟩ := kept.stages tag
    obtain ⟨d, failure, rfl⟩ | given := hended at_stage ended htaken
    · rw [at_stage.course, Stage.countP_isCall_notes]
    · exact absurd (at_stage.late given) (by simp [intime])
  · obtain ⟨more, t, hplay, hwork, hend⟩ := exists_hasEnded ends closed
    exact ⟨more, t, hplay, hwork, hend, play_of_isWork hwork hplay⟩

/-- Two messages are taken, of which the second is done with first, and the slot notices that it is
told to stop before the first has been processed. -/
def outOfOrder : List Move :=
  [.event (.delivered 7), .event (.delivered 9), .event (.processed 9 (.reject .malformed)),
    .told, .event .stopped, .event (.applied 9 (some "closed")),
    .event (.processed 7 (.ack .delivered)), .event (.applied 7 none)]

/-- Both of them are told of once. -/
theorem outOfOrder_disposed_of_once :
    [7, 9].Nodup ∧
    ∃ s, (start 0 [7, 9] .silent).play outOfOrder = some s ∧
      s.slot.hasEnded ∧ s.isLate = false ∧
      ∀ tag ∈ [7, 9], (s.course tag).countP Note.isCall = 1 := by
  have distinct : [7, 9].Nodup := by decide
  have played : (start 0 [7, 9] .silent).play outOfOrder = some _ := rfl
  refine ⟨distinct, _, played, by decide +kernel, rfl, fun tag htag => ?_⟩
  obtain ⟨-, -, -, -, once, -⟩ := each_message_disposed_of_once distinct played
  exact once (by decide +kernel) rfl tag htag

end Shift

end Courier.Slot
