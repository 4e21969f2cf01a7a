/-!
# Blank characters

White space in the sense of the Unicode property `White_Space`, and the three ways of taking it
off a text. Identifiers are refused when nothing but blanks is left of them, and trim markers and
action texts of a template lose their blanks by the same rule, so there is one definition of both.

## Main definitions

* `isBlank`: the property.
* `trimStart`, `trimEnd`, `trim`: a text without its leading, trailing, or outer blanks.
* `IsBlank`: a text with nothing but blanks in it.
-/

namespace Courier.Text

/-- The 25 characters with the property `White_Space`. -/
def isBlank (c : Char) : Bool :=
  let n := c.toNat
  (9 ≤ n && n ≤ 13) || n == 0x20 || n == 0x85 || n == 0xA0 || n == 0x1680 ||
    (0x2000 ≤ n && n ≤ 0x200A) || n == 0x2028 || n == 0x2029 || n == 0x202F || n == 0x205F ||
    n == 0x3000

/-- The text from its first character that is not blank. -/
def trimStart (cs : List Char) : List Char :=
  cs.dropWhile isBlank

/-- The text up to its last character that is not blank. -/
def trimEnd : List Char → List Char
  | [] => []
  | c :: cs =>
    match trimEnd cs with
    | [] => if isBlank c then [] else [c]
    | kept => c :: kept

/-- The text between its outermost characters that are not blank. -/
def trim (cs : List Char) : List Char :=
  trimEnd (trimStart cs)

/-- Nothing is left of the text once blanks are taken off. -/
def IsBlank (s : String) : Prop :=
  ∀ c ∈ s.toList, isBlank c

instance (s : String) : Decidable (IsBlank s) :=
  List.decidableBAll (isBlank ·) s.toList

@[simp] theorem trimStart_nil : trimStart [] = [] := rfl

@[simp] theorem trimEnd_nil : trimEnd [] = [] := rfl

/-- What is not blank stays, and so does all that stands in front of it. -/
theorem trimEnd_cons_of_not_isBlank {c : Char} (h : ¬ isBlank c) (cs : List Char) :
    trimEnd (c :: cs) = c :: trimEnd cs := by
  rw [trimEnd]
  split
  · next hnil => rw [if_neg h, hnil]
  · rfl

/-- Trimming at the end takes off nothing but blanks. -/
theorem trimEnd_append_blank (cs : List Char) :
    ∃ blanks, cs = trimEnd cs ++ blanks ∧ ∀ c ∈ blanks, isBlank c := by
  induction cs with
  | nil => exact ⟨[], rfl, by simp⟩
  | cons c cs ih =>
    obtain ⟨blanks, happ, hblank⟩ := ih
    cases htail : trimEnd cs with
    | nil =>
      rw [htail] at happ
      by_cases hc : isBlank c
      · refine ⟨c :: cs, by simp [trimEnd, htail, hc], ?_⟩
        intro d hd
        rcases List.mem_cons.1 hd with rfl | hd
        · exact hc
        · exact hblank d ((happ.trans (List.nil_append blanks)) ▸ hd)
      · exact ⟨blanks, by simpa [trimEnd, htail, hc] using happ, hblank⟩
    | cons d ds =>
      rw [htail] at happ
      exact ⟨blanks, by simpa [trimEnd, htail] using happ, hblank⟩

end Courier.Text
