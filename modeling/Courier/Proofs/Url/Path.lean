import Courier.Proofs.Url.Percent
import Courier.Url.Path
import Mathlib.Data.List.Basic

/-!
# One segment further on

A text that is put at the end of a path becomes one segment there, whatever characters it has, for
those that would end a segment are escaped. There are two exceptions. Tabs and line breaks do not
count, so texts that differ in these alone become the same segment. And a text in which nothing else
counts than one or two points is no name: it does not lead one segment further on.

This is about paths without drives.

## Main definitions

* `Path.kept`, `Path.IsName`: what counts of a text, and whether it is a name.
* `Path.stem`, `Path.place`: where a path goes on.
* `Path.IsSegment`: what stays one segment in a path.
* `Path.child_of_isName`, `Path.child_of_not_isName`.
-/

namespace Courier.Url.Path

open Percent (encode)

variable {style : Style} {p : Path} {cs ds : List Char}

/-- What counts of a text in a path. -/
def kept (cs : List Char) : List Char :=
  cs.filter (!isIgnored ·)

/-- The text is the name of a segment: it does not come to one or two points. -/
def IsName (cs : List Char) : Prop :=
  kept cs ≠ ['.'] ∧ kept cs ≠ ['.', '.']

instance (cs : List Char) : Decidable (IsName cs) :=
  inferInstanceAs (Decidable (_ ∧ _))

/-- The path without its last segment, if that is empty. -/
def stem (p : Path) : Path :=
  if p.getLast? = some [] then p.dropLast else p

/-- The path after which a segment is put. -/
def place (p : Path) : Path :=
  if popEmpty p = [[]] then [] else popEmpty p

/-- The text is a segment of its own wherever it stands in a path. -/
structure IsSegment (style : Style) (segment : List Char) : Prop where
  ne_nil : segment ≠ []
  whole : ∀ c ∈ segment, isSeparator style c = false ∧ c ≠ '?' ∧ c ≠ '#'
  isDown : move segment = .down

/-! ## Points -/

theorem plainPoints_cons_of_ne {c : Char} (h : c ≠ '%') (cs : List Char) :
    plainPoints (c :: cs) = c :: plainPoints cs := by
  rw [plainPoints]
  · intro rest hpercent
    exact absurd hpercent h
  · intro rest hpercent
    exact absurd hpercent h

/-- The only escape that is taken for a point is that of a point. -/
theorem plainPoints_encodeByte (b : UInt8) (cs : List Char) :
    plainPoints (Percent.encodeByte b ++ cs) =
      if b.toNat = 0x2E then '.' :: plainPoints cs else Percent.encodeByte b ++ plainPoints cs := by
  have hbyte : b.toNat < 256 := b.toNat_lt
  have hpoint : ∀ n < 256, Percent.hexDigit (n / 16) = '2' →
      (Percent.hexDigit (n % 16) = 'e' ∨ Percent.hexDigit (n % 16) = 'E') → n = 0x2E := by
    decide +kernel
  have hdigit : ∀ n < 16, Percent.hexDigit n ≠ '%' := by decide
  split
  · next point =>
    have hescape : Percent.encodeByte b = ['%', '2', 'E'] := by
      rw [Percent.encodeByte, point]
      rfl
    rw [hescape]
    exact plainPoints.eq_2 cs
  · next other =>
    simp only [Percent.encodeByte, List.cons_append, List.nil_append]
    rw [plainPoints, plainPoints_cons_of_ne (hdigit _ (by omega)),
      plainPoints_cons_of_ne (hdigit _ (by omega))]
    · intro rest _ htail
      simp only [List.cons.injEq] at htail
      exact other (hpoint _ hbyte htail.1 (.inl htail.2.1))
    · intro rest _ htail
      simp only [List.cons.injEq] at htail
      exact other (hpoint _ hbyte htail.1 (.inr htail.2.1))

theorem decode_plainPoints_flatMap_encodeByte (bytes : List UInt8) (cs : List Char) :
    Percent.decode (plainPoints (bytes.flatMap Percent.encodeByte ++ cs)) =
      bytes ++ Percent.decode (plainPoints cs) := by
  induction bytes with
  | nil => rfl
  | cons b bytes ih =>
    rw [List.flatMap_cons, List.append_assoc, plainPoints_encodeByte]
    split
    · next point =>
      have hself : b = 0x2E := UInt8.toNat_inj.1 point
      rw [Percent.decode_cons_of_ne (by decide), ih, hself]
      rfl
    · rw [Percent.decode_encodeByte, ih, List.cons_append]

/-- Points that are made plain mean the same bytes. -/
theorem decode_plainPoints_encode {part : Percent.Part} (escaped : '%' ∈ part.reserved)
    (cs : List Char) : Percent.decode (plainPoints (encode part cs)) = Text.Utf8.encode cs := by
  induction cs with
  | nil => rfl
  | cons c cs ih =>
    rw [Percent.encode_cons, Text.Utf8.encode_cons, Percent.encodeChar]
    split
    · next safe =>
      have hne : c ≠ '%' := Percent.ne_percent_of_isSafe escaped safe
      rw [List.singleton_append, plainPoints_cons_of_ne hne, Percent.decode_cons_of_ne hne, ih]
    · rw [decode_plainPoints_flatMap_encodeByte, ih]

/-! ## Segments -/

theorem percent_mem_reserved (style : Style) :
    '%' ∈ (Percent.Part.segment style.backslashSeparates).reserved := by
  cases style.backslashSeparates <;> decide

theorem segment_eq (style : Style) (cs : List Char) :
    segment style cs = encode (.segment style.backslashSeparates) (kept cs) := rfl

/-- All of a text counts that has neither tabs nor line breaks. -/
theorem kept_eq_self (plain : ∀ c ∈ cs, isIgnored c = false) : kept cs = cs := by
  refine List.filter_eq_self.2 fun c mem => ?_
  rw [plain c mem]
  rfl

/-- What counts of a text is read back from its segment. -/
theorem decode_segment (style : Style) (cs : List Char) :
    Percent.decode (segment style cs) = Text.Utf8.encode (kept cs) := by
  rw [segment_eq, Percent.decode_encode (percent_mem_reserved style)]

/-- Texts become the same segment if the same counts of them. -/
theorem segment_eq_segment_iff : segment style cs = segment style ds ↔ kept cs = kept ds := by
  rw [segment_eq, segment_eq]
  exact (Percent.encode_injective (percent_mem_reserved style)).eq_iff

theorem segment_ne_nil (filled : kept cs ≠ []) : segment style cs ≠ [] := by
  intro hnil
  have hkept : kept cs = kept [] := segment_eq_segment_iff.1 hnil
  exact filled hkept

/-- If the segment of a text is plain points, so is what counts of the text. -/
theorem kept_eq_of_plainPoints (h : plainPoints (segment style cs) = ds)
    (points : Percent.decode ds = Text.Utf8.encode ds) : kept cs = ds := by
  apply Text.Utf8.encode_injective
  rw [← points, ← h, segment_eq, decode_plainPoints_encode (percent_mem_reserved style)]

/-- What the segment of a text means is what the text means. -/
theorem move_segment (style : Style) (cs : List Char) :
    move (segment style cs) =
      if kept cs = ['.', '.'] then .up else if kept cs = ['.'] then .stay else .down := by
  by_cases up : kept cs = ['.', '.']
  · rw [if_pos up, segment_eq, up]
    cases style.backslashSeparates <;> rfl
  by_cases stay : kept cs = ['.']
  · rw [if_neg up, if_pos stay, segment_eq, stay]
    cases style.backslashSeparates <;> rfl
  rw [if_neg up, if_neg stay, move]
  split
  · next points => exact absurd (kept_eq_of_plainPoints points rfl) up
  · next point => exact absurd (kept_eq_of_plainPoints point rfl) stay
  · rfl

theorem isSegment_segment (name : IsName cs) (filled : kept cs ≠ []) :
    IsSegment style (segment style cs) where
  ne_nil := segment_ne_nil filled
  whole := by
    intro c hmem
    refine ⟨?_, ?_, ?_⟩
    · by_contra separates
      simp only [isSeparator, Bool.not_eq_false, Bool.or_eq_true, Bool.and_eq_true,
        beq_iff_eq] at separates
      rcases separates with rfl | ⟨backslash, rfl⟩
      · refine Percent.notMem_encode ?_ (by decide) (by decide) _ hmem
        cases style.backslashSeparates <;> decide
      · refine Percent.notMem_encode ?_ (by decide) (by decide) _ hmem
        rw [backslash]
        decide
    · rintro rfl
      refine Percent.notMem_encode ?_ (by decide) (by decide) _ hmem
      cases style.backslashSeparates <;> decide
    · rintro rfl
      refine Percent.notMem_encode ?_ (by decide) (by decide) _ hmem
      cases style.backslashSeparates <;> decide
  isDown := by rw [move_segment, if_neg name.2, if_neg name.1]

/-! ## Going on -/

theorem popEmpty_concat (front : Path) (last : List Char) :
    popEmpty (front ++ [last]) =
      if front ≠ [] ∧ last = [] then front else front ++ [last] := by
  rw [popEmpty, List.getLast?_concat, List.dropLast_concat]
  cases front <;> simp

theorem stem_concat (front : Path) (last : List Char) :
    stem (front ++ [last]) = if last = [] then front else front ++ [last] := by
  simp [stem]

/-- Where a path goes on its empty last segment is left out; of two empty segments and no others
both are. -/
theorem place_eq_stem (double : p ≠ [[], []]) : place p = stem p := by
  rcases List.eq_nil_or_concat' p with rfl | ⟨front, last, rfl⟩
  · rfl
  · rw [place, popEmpty_concat, stem_concat]
    by_cases hlast : last = []
    · subst hlast
      by_cases hfront : front = []
      · simp [hfront]
      · have hone : front ≠ [[]] := by
          rintro rfl
          exact double rfl
        simp [hfront, hone]
    · have hone : front ++ [last] ≠ [[]] := by
        intro h
        have hend := congrArg List.getLast? h
        simp [hlast] at hend
      simp [hlast, hone]

/-- A path of two empty segments and no others goes on from nothing. -/
theorem place_eq_ite (p : Path) : place p = if p = [[], []] then [] else stem p := by
  by_cases double : p = [[], []]
  · subst double
    rfl
  · rw [if_neg double, place_eq_stem double]

/-- Both where a path goes on and the path without its empty last segment are all that is left of
it, unless only an empty segment is left. -/
theorem place_eq_popEmpty (some_left : popEmpty p ≠ [[]]) : place p = popEmpty p :=
  if_neg some_left

theorem stem_eq_popEmpty (some_left : popEmpty p ≠ [[]]) : stem p = popEmpty p := by
  have double : p ≠ [[], []] := by
    rintro rfl
    exact some_left rfl
  rw [← place_eq_stem double, place_eq_popEmpty some_left]

section

variable (drives : style.hasDrives = false)

include drives

theorem finish_segment (p : Path) (cs : List Char) :
    finish style p (segment style cs) =
      if kept cs = ['.', '.'] then parent p ++ [[]]
      else if kept cs = ['.'] then p ++ [[]] else p ++ [segment style cs] := by
  rw [finish, move_segment]
  by_cases up : kept cs = ['.', '.']
  · rw [if_pos up, if_pos up]
  by_cases stay : kept cs = ['.']
  · rw [if_neg up, if_neg up, if_pos stay, if_pos stay]
  · rw [if_neg up, if_neg up, if_neg stay, if_neg stay]
    simp [append, drives]

theorem child_eq (p : Path) (cs : List Char) :
    child style p cs =
      if cs = ['.'] ∨ cs = ['.', '.'] then popEmpty p
      else finish style (place p) (segment style cs) := by
  simp [child, place, trimFront, drives]

/-- A name leads one segment further on. -/
theorem child_of_isName (p : Path) (name : IsName cs) :
    child style p cs = place p ++ [segment style cs] := by
  have hpoint : cs ≠ ['.'] := by
    rintro rfl
    exact name.1 rfl
  have hpoints : cs ≠ ['.', '.'] := by
    rintro rfl
    exact name.2 rfl
  rw [child_eq drives, if_neg (by simp [hpoint, hpoints]), finish_segment drives, if_neg name.2,
    if_neg name.1]

/-- What is no name leads to the place itself, or to an empty segment there or above. -/
theorem child_of_not_isName (p : Path) (points : ¬ IsName cs) :
    child style p cs = popEmpty p ∨ ∃ q, child style p cs = q ++ [[]] := by
  rw [child_eq drives]
  split
  · exact .inl rfl
  · right
    rw [finish_segment drives]
    by_cases up : kept cs = ['.', '.']
    · exact ⟨parent (place p), if_pos up⟩
    · have stay : kept cs = ['.'] := by
        by_contra other
        exact points ⟨other, up⟩
      exact ⟨place p, by rw [if_neg up, if_pos stay]⟩

/-- What is no name leads one segment further on neither from where paths go on nor from the path
without its empty last segment. -/
theorem child_ne_append_of_not_isName (points : ¬ IsName cs) {q : Path}
    (left : q = place p ∨ q = stem p) {segment : List Char} (filled : segment ≠ []) :
    child style p cs ≠ q ++ [segment] := by
  intro h
  rcases child_of_not_isName drives p points with here | ⟨q', there⟩
  · rw [here] at h
    by_cases one : popEmpty p = [[]]
    · rw [one] at h
      have hlast := congrArg List.getLast? h
      simp [Ne.symm filled] at hlast
    · have hq : q = popEmpty p := by
        rcases left with rfl | rfl
        · exact place_eq_popEmpty one
        · exact stem_eq_popEmpty one
      have hlength := congrArg List.length h
      simp [hq] at hlength
  · rw [there] at h
    have hlast := congrArg List.getLast? h
    simp [Ne.symm filled] at hlast

/-- A text leads one segment further on from the path without its empty last segment just if it is a
name, unless the path has two empty segments and no others. -/
theorem exists_child_eq_stem_append_iff (filled : kept cs ≠ []) :
    (∃ segment, IsSegment style segment ∧ child style p cs = stem p ++ [segment]) ↔
      IsName cs ∧ p ≠ [[], []] := by
  constructor
  · rintro ⟨other, hother, h⟩
    have name : IsName cs := by
      by_contra points
      exact child_ne_append_of_not_isName drives points (.inr rfl) hother.ne_nil h
    refine ⟨name, ?_⟩
    rintro rfl
    rw [child_of_isName drives _ name] at h
    have hlength := congrArg List.length h
    simp [place, stem, popEmpty] at hlength
  · rintro ⟨name, double⟩
    refine ⟨segment style cs, isSegment_segment name filled, ?_⟩
    rw [child_of_isName drives p name, place_eq_stem double]

/-- What leads to the same place as a name is a text of which the same counts. -/
theorem child_eq_child_iff (name : IsName cs) (filled : kept cs ≠ []) :
    child style p ds = child style p cs ↔ kept ds = kept cs := by
  rw [child_of_isName drives p name]
  constructor
  · intro h
    by_cases other : IsName ds
    · rw [child_of_isName drives p other] at h
      have hsegment : segment style ds = segment style cs :=
        List.singleton_injective (List.append_cancel_left h)
      exact segment_eq_segment_iff.1 hsegment
    · exact absurd h
        (child_ne_append_of_not_isName drives other (.inl rfl) (segment_ne_nil filled))
  · intro h
    have other : IsName ds := by rwa [IsName, h]
    rw [child_of_isName drives p other, segment_eq_segment_iff.2 h]

end

end Courier.Url.Path
