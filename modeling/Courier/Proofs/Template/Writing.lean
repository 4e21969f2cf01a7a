import Courier.Proofs.Template.Joining
import Mathlib.Data.List.Chain

/-!
# Templates are read as they are written

A template may be put down from its segments: texts as they are, and references between marks, with
blanks around them or without. What is put down so is parsed to the same segments, and no blanks are
lost, as long as the segments do not run into each other. Two texts side by side would become one,
and a brace at the end of a text would be taken for a part of the mark behind it.

## Main definitions

* `Segment.IsSound`, `Segment.CanPrecede`, `AreSound`: segments that can be put down.
* `Written`: the sources that segments are put down as.

## Main results

* `parseFrom_append_text`: text in front of a reference.
* `parseFrom_of_written`, `written_is_read`: what is written is read.
-/

namespace Courier

namespace Text

variable {c : Char} {name : List Char}

/-- The code points of the blanks. -/
def blanks : List Nat :=
  [9, 10, 11, 12, 13, 0x20, 0x85, 0xA0, 0x1680, 0x2000, 0x2001, 0x2002, 0x2003, 0x2004, 0x2005,
    0x2006, 0x2007, 0x2008, 0x2009, 0x200A, 0x2028, 0x2029, 0x202F, 0x205F, 0x3000]

theorem mem_blanks (h : isBlank c) : c.toNat ∈ blanks := by
  simp only [isBlank, Bool.or_eq_true, Bool.and_eq_true, decide_eq_true_eq, beq_iff_eq] at h
  simp only [blanks, List.mem_cons, List.not_mem_nil, or_false]
  omega

theorem not_isBlank_of_isLetterOrNumber (h : isLetterOrNumber c) : ¬ isBlank c := by
  have hnone : ∀ n ∈ blanks, isLetterOrNumber (Char.ofNat n) = false := by decide +kernel
  intro blank
  have hc := hnone c.toNat (mem_blanks blank)
  rw [Char.ofNat_toNat, h] at hc
  cases hc

theorem isLetterOrNumber_of_isLetter (h : isLetter c) : isLetterOrNumber c := by
  unfold isLetter at h
  unfold isLetterOrNumber
  split
  · next hsmall =>
    rw [if_pos hsmall] at h
    simp [Char.isAlphanum, h]
  · next hsmall =>
    rw [if_neg hsmall] at h
    simp [h]

/-- An identifier is made of letters, numbers and underscores. -/
theorem isLetterOrNumber_or_of_mem (h : isIdentifier name) (mem : c ∈ name) :
    isLetterOrNumber c ∨ c = '_' := by
  cases name with
  | nil => cases mem
  | cons first others =>
    simp only [isIdentifier, Bool.and_eq_true, Bool.or_eq_true, beq_iff_eq, List.all_eq_true] at h
    rcases List.mem_cons.1 mem with rfl | mem
    · exact h.1.imp isLetterOrNumber_of_isLetter id
    · exact h.2 c mem

theorem not_isBlank_of_mem (h : isIdentifier name) (mem : c ∈ name) : ¬ isBlank c := by
  rcases isLetterOrNumber_or_of_mem h mem with hc | rfl
  · exact not_isBlank_of_isLetterOrNumber hc
  · decide

end Text

namespace Template

variable {cs before after name source : List Char} {segments : List Segment}

/-! ## Writing -/

/-- A segment that can be put down: a text that is not empty and has no mark in it, or a reference
to an identifier. -/
def Segment.IsSound : Segment → Prop
  | text cs => cs ≠ [] ∧ ¬ opening <:+: cs
  | reference name => Text.isIdentifier name

/-- One segment can be put down directly in front of another. -/
def Segment.CanPrecede : Segment → Segment → Prop
  | text _, text _ => False
  | text cs, reference _ => ¬ ['\x7b'] <:+ cs
  | reference _, _ => True

instance : (s : Segment) → Decidable s.IsSound
  | .text cs => inferInstanceAs (Decidable (cs ≠ [] ∧ ¬ opening <:+: cs))
  | .reference name => inferInstanceAs (Decidable (Text.isIdentifier name))

instance : (s t : Segment) → Decidable (s.CanPrecede t)
  | .text _, .text _ => inferInstanceAs (Decidable False)
  | .text cs, .reference _ => inferInstanceAs (Decidable (¬ ['\x7b'] <:+ cs))
  | .reference _, _ => inferInstanceAs (Decidable True)

/-- The segments can be put down one after the other. -/
structure AreSound (segments : List Segment) : Prop where
  each : ∀ s ∈ segments, s.IsSound
  apart : segments.IsChain Segment.CanPrecede

instance (segments : List Segment) : Decidable (AreSound segments) :=
  decidable_of_iff ((∀ s ∈ segments, s.IsSound) ∧ segments.IsChain Segment.CanPrecede)
    ⟨fun h => ⟨h.1, h.2⟩, fun h => ⟨h.each, h.apart⟩⟩

theorem AreSound.tail {segment : Segment} (h : AreSound (segment :: segments)) :
    AreSound segments :=
  ⟨fun s mem => h.each s (List.mem_cons_of_mem _ mem), h.apart.tail⟩

/-- The segments are put down as a source, with blanks in the actions or without. -/
inductive Written : List Segment → List Char → Prop where
  | nil : Written [] []
  | text {cs source : List Char} {segments : List Segment} (later : Written segments source) :
      Written (.text cs :: segments) (cs ++ source)
  | reference {before name after source : List Char} {segments : List Segment}
      (leading : ∀ c ∈ before, Text.isBlank c) (trailing : ∀ c ∈ after, Text.isBlank c)
      (later : Written segments source) :
      Written (.reference name :: segments)
        (opening ++ (before ++ ".Vars.".toList ++ name ++ after ++ (closing ++ source)))

/-! ## Reading -/

/-- There is neither a minus sign nor a brace between the marks of a reference. -/
theorem ne_of_mem_reference {c : Char} (identifier : Text.isIdentifier name)
    (leading : ∀ c ∈ before, Text.isBlank c) (trailing : ∀ c ∈ after, Text.isBlank c)
    (mem : c ∈ before ++ ".Vars.".toList ++ name ++ after) : c ≠ '-' ∧ c ≠ '\x7d' := by
  have hblank : Text.isBlank c → c ≠ '-' ∧ c ≠ '\x7d' := by
    intro blank
    constructor
    · rintro rfl
      exact absurd blank (by decide)
    · rintro rfl
      exact absurd blank (by decide)
  simp only [List.mem_append] at mem
  rcases mem with ((mem | mem) | mem) | mem
  · exact hblank (leading c mem)
  · have hmark : ".Vars.".toList.all fun c => c ≠ '-' ∧ c ≠ '\x7d' := by decide +kernel
    exact of_decide_eq_true (List.all_eq_true.1 hmark c mem)
  · rcases Text.isLetterOrNumber_or_of_mem identifier mem with hc | rfl
    · constructor
      · rintro rfl
        exact absurd hc (by decide)
      · rintro rfl
        exact absurd hc (by decide)
    · decide
  · exact hblank (trailing c mem)

/-- Blanks around a text that neither begins nor ends with one come off. -/
theorem strip_blanks {middle : List Char} (leading : ∀ c ∈ before, Text.isBlank c)
    (trailing : ∀ c ∈ after, Text.isBlank c) (first : ∀ c ∈ middle.head?, ¬ Text.isBlank c)
    (last : ∀ c ∈ middle.getLast?, ¬ Text.isBlank c) (some : middle ≠ []) :
    strip true true (before ++ middle ++ after) = middle := by
  have hfront : (before ++ middle ++ after).dropWhile Text.isBlank = middle ++ after := by
    rw [List.append_assoc, List.dropWhile_append_of_pos leading]
    cases middle with
    | nil => exact absurd rfl some
    | cons c middle => exact List.dropWhile_cons_of_neg (first c rfl)
  have hback : (middle ++ after).rdropWhile Text.isBlank = middle := by
    rw [List.rdropWhile, List.reverse_append, List.dropWhile_append_of_pos]
    · cases hmiddle : middle.reverse with
      | nil => exact absurd (List.reverse_eq_nil_iff.1 hmiddle) some
      | cons c rest =>
        have hlast : ¬ Text.isBlank c := by
          apply last
          rw [List.getLast?_eq_head?_reverse, hmiddle]
          rfl
        rw [List.dropWhile_cons_of_neg hlast, ← hmiddle, List.reverse_reverse]
    · intro c mem
      exact trailing c (List.mem_reverse.1 mem)
  rw [strip, if_pos rfl, if_pos rfl, hfront, hback]

/-- A reference is read as what it is. -/
theorem isReadOf_reference (identifier : Text.isIdentifier name)
    (leading : ∀ c ∈ before, Text.isBlank c) (trailing : ∀ c ∈ after, Text.isBlank c) :
    Action.IsReadOf (before ++ ".Vars.".toList ++ name ++ after)
      ⟨false, false, .ok (some name)⟩ := by
  have hminus : '-' ∉ before ++ ".Vars.".toList ++ name ++ after := fun mem =>
    (ne_of_mem_reference identifier leading trailing mem).1 rfl
  have hname : name ≠ [] := by
    rintro rfl
    cases identifier
  have hstrip : strip true true (before ++ ".Vars.".toList ++ name ++ after) =
      ".Vars.".toList ++ name := by
    rw [List.append_assoc before]
    refine strip_blanks leading trailing ?_ ?_ (by simp)
    · rintro c ⟨⟩
      decide
    · intro c mem
      rw [List.getLast?_append_of_ne_nil _ hname] at mem
      exact Text.not_isBlank_of_mem identifier (List.mem_of_getLast? mem)
  refine .intro (.of_head? fun h => hminus (List.mem_of_head? h))
    (.of_getLast? fun h => hminus (List.mem_of_getLast? h)) ?_
  rw [hstrip]
  exact .reference identifier

/-- A reference with text in front of it that does not end with a brace. -/
theorem parseFrom_reference (source : List Char) (plain : ¬ opening <:+: cs)
    (free : ¬ ['\x7b'] <:+ cs) (identifier : Text.isIdentifier name)
    (leading : ∀ c ∈ before, Text.isBlank c) (trailing : ∀ c ∈ after, Text.isBlank c) :
    parseFrom false (cs ++ (opening ++
        (before ++ ".Vars.".toList ++ name ++ after ++ (closing ++ source)))) =
      (parseFrom false source).map (textSegment cs ++ [.reference name] ++ ·) := by
  have hbrace : '\x7d' ∉ before ++ ".Vars.".toList ++ name ++ after := fun mem =>
    (ne_of_mem_reference identifier leading trailing mem).2 rfl
  have hread := isReadOf_reference identifier leading trailing
  generalize before ++ ".Vars.".toList ++ name ++ after = inner at hbrace hread ⊢
  have opens : CutAt opening (cs ++ (opening ++ (inner ++ (closing ++ source)))) (cs ++ [])
      (inner ++ (closing ++ source)) :=
    (CutAt.here '\x7b' _).append_left plain fun h => free h.1
  have closes : CutAt closing (inner ++ (closing ++ source)) (inner ++ []) source := by
    apply (CutAt.here '\x7d' source).append_left
    · exact fun h => hbrace (h.subset (by decide))
    · exact fun h => hbrace (h.1.subset (by decide))
  rw [List.append_nil] at opens closes
  rw [parseFrom_action opens closes hread]
  rfl

/-- Text in front of a reference is a segment of its own. -/
theorem parseFrom_append_text (plain : ¬ opening <:+: cs) (free : ¬ ['\x7b'] <:+ cs)
    (identifier : Text.isIdentifier name) (written : Written (.reference name :: segments) source)
    (parsed : parseFrom false source = .ok (.reference name :: segments)) :
    parseFrom false (cs ++ source) = .ok (textSegment cs ++ .reference name :: segments) := by
  cases written with
  | @reference before _ after source _ leading trailing later =>
    have hnothing : ¬ opening <:+: [] := by decide
    have hfirst := parseFrom_reference source hnothing (by decide) identifier leading trailing
    rw [List.nil_append, parsed] at hfirst
    rw [parseFrom_reference source plain free identifier leading trailing]
    cases hsource : parseFrom false source with
    | error e =>
      rw [hsource] at hfirst
      cases hfirst
    | ok more =>
      rw [hsource] at hfirst
      obtain rfl : segments = more := (List.cons.inj (Except.ok.inj hfirst)).2
      simp [Except.map]

/-- What is written is read. -/
theorem parseFrom_of_written (written : Written segments source) (sound : AreSound segments) :
    parseFrom false source = .ok segments := by
  induction written with
  | nil => exact parseFrom_plain (by decide) false
  | @reference before name after source segments leading trailing later ih =>
    have hidentifier : Text.isIdentifier name := sound.each _ List.mem_cons_self
    have hlater : AreSound segments := sound.tail
    have hnothing : ¬ opening <:+: [] := by decide
    have hparse := parseFrom_reference source hnothing (by decide) hidentifier leading trailing
    rw [ih hlater] at hparse
    exact hparse
  | @text cs source segments later ih =>
    obtain ⟨hsome, hplain⟩ := sound.each _ List.mem_cons_self
    have hlater : AreSound segments := sound.tail
    have hsegment : textSegment cs = [.text cs] := by
      cases cs with
      | nil => exact absurd rfl hsome
      | cons c cs => rfl
    -- what comes behind a text is nothing or a reference
    cases segments with
    | nil =>
      cases later
      rw [List.append_nil, parseFrom_plain hplain, strip_false, hsegment]
    | cons segment segments =>
      have hnext := sound.apart.rel
      cases segment with
      | text cs' => exact hnext.elim
      | reference name =>
        have hidentifier : Text.isIdentifier name := hlater.each _ List.mem_cons_self
        rw [parseFrom_append_text hplain hnext hidentifier later (ih hlater), hsegment]
        rfl

/-- **Templates survive writing.** Sound segments are parsed from whatever they are written as, so
what is written renders, whatever the values are: the texts come out whole, with all their braces
and blanks. -/
theorem written_is_read {source : String} (sound : AreSound segments)
    (written : Written segments source.toList) :
    parse source = .ok segments ∧
      ∀ (values : Dictionary) (part : Part), renderPart values part source =
        ((renderSegments values segments).missing.map fun name => ⟨part, String.ofList name⟩,
          .ok (String.ofList (renderSegments values segments).text)) := by
  have hparse : parse source = .ok segments := parseFrom_of_written written sound
  refine ⟨hparse, fun values part => ?_⟩
  rw [renderPart, renderSource, hparse]
  rfl

/-- Texts with braces and blanks at their ends, on either side of two references, one of them with
blanks around it. -/
theorem braces_survive :
    let segments : List Segment := [.text " \x7d\x7d\n".toList, .reference "a".toList,
      .reference "_b".toList, .text "\x7d\x7b ".toList]
    let source := " \x7d\x7d\n\x7b\x7b\t.Vars.a\u00a0\x7d\x7d\x7b\x7b.Vars._b\x7d\x7d\x7d\x7b "
    AreSound segments ∧ Written segments source.toList ∧ parse source = .ok segments ∧
      renderPart (.ofList [("_b", "B")]) .body source =
        ([⟨.body, "a"⟩], .ok " \x7d\x7d\nB\x7d\x7b ") := by
  intro segments source
  have sound : AreSound segments := by decide +kernel
  have hsource : source.toList = " \x7d\x7d\n".toList ++
      (opening ++ (['\t'] ++ ".Vars.".toList ++ "a".toList ++ ['\u00a0'] ++ (closing ++
        (opening ++ ([] ++ ".Vars.".toList ++ "_b".toList ++ [] ++ (closing ++
          ("\x7d\x7b ".toList ++ []))))))) := by
    decide +kernel
  have written : Written segments source.toList := by
    rw [hsource]
    have hnothing : ∀ c ∈ [], Text.isBlank c := List.forall_mem_nil _
    exact .text (.reference (List.forall_mem_singleton.2 rfl) (List.forall_mem_singleton.2 rfl)
      (.reference hnothing hnothing (.text .nil)))
  obtain ⟨hparse, hrender⟩ := written_is_read sound written
  refine ⟨sound, written, hparse, ?_⟩
  rw [hrender]
  decide +kernel

end Template

end Courier
