import Courier.Text.Blank
import Courier.Text.Letter

/-!
# Template sources

A source is text with actions in it, each between `{{` and the first `}}` after it. An action is
either a reference to a variable, `.Vars.name`, or a comment between `/*` and `*/`. A minus sign at
either end of an action, set off by a blank, takes the blanks off the text on that side, as far as
the next action.

## Main definitions

* `Segment`: what a source is made of once it is parsed.
* `SyntaxError`: why a source is no template.
* `parseAction`, `parse`.
-/

namespace Courier.Template

/-- A piece of a template: text, or a reference to the variable of a name. -/
inductive Segment where
  | text (cs : List Char)
  | reference (name : List Char)
  deriving DecidableEq, Repr

/-- Why a source is no template. -/
inductive SyntaxError where
  /-- An action has no end. -/
  | unclosedAction
  /-- An action has nothing in it. -/
  | emptyAction
  /-- A comment has no end within its action. -/
  | unclosedComment
  /-- An action is neither a comment nor a reference. -/
  | unsupportedAction (action : List Char)
  /-- A reference names no identifier. -/
  | invalidReference (action : List Char)
  deriving DecidableEq, Repr

/-- The words for an error. -/
def SyntaxError.text : SyntaxError → String
  | unclosedAction => "unclosed action"
  | emptyAction => "empty action"
  | unclosedComment => "unclosed comment"
  | unsupportedAction action => "unsupported action '" ++ String.ofList action ++ "'"
  | invalidReference action => "invalid variable reference '" ++ String.ofList action ++ "'"

/-- The text before the first place where `c` stands twice in a row, and the text after it. -/
def splitAtDouble (c : Char) : List Char → Option (List Char × List Char)
  | [] => none
  | [_] => none
  | x :: y :: rest =>
    if x = c ∧ y = c then some ([], rest)
    else (splitAtDouble c (y :: rest)).map fun (before, after) => (x :: before, after)

/-- What follows the second of the two characters is shorter than the text. -/
theorem length_lt_of_splitAtDouble {c : Char} {cs before after : List Char}
    (h : splitAtDouble c cs = some (before, after)) : after.length < cs.length := by
  fun_induction splitAtDouble c cs generalizing before after with
  | case1 => simp at h
  | case2 => simp at h
  | case3 x y rest hxy =>
    simp only [Option.some.injEq, Prod.mk.injEq] at h
    obtain ⟨-, rfl⟩ := h
    simp only [List.length_cons]; omega
  | case4 x y rest hxy ih =>
    simp only [Option.map_eq_some_iff, Prod.exists, Prod.mk.injEq] at h
    obtain ⟨b, a, hab, -, rfl⟩ := h
    have := ih hab
    simp only [List.length_cons] at this ⊢; omega

/-- An action's inner text without the trim marker in front of it, if there is one: a minus sign
with a blank behind it. -/
def leftTrimmed? : List Char → Option (List Char)
  | '-' :: c :: rest => if Text.isBlank c then some (c :: rest) else none
  | _ => none

/-- An action's inner text without the trim marker at its end, if there is one: a minus sign with a
blank in front of it. -/
def rightTrimmed? (inner : List Char) : Option (List Char) :=
  (leftTrimmed? inner.reverse).map List.reverse

/-- What stands in front of the name of a variable. -/
def referenceMark : List Char := ['.', 'V', 'a', 'r', 's', '.']

/-- The meaning of an action from which the outer blanks and the markers have been taken off: a
comment is `none`, and a reference the name of its variable. -/
def parseAction (action : List Char) : Except SyntaxError (Option (List Char)) :=
  if ['/', '*'].isPrefixOf action then
    if 4 ≤ action.length ∧ ['*', '/'].isSuffixOf action then .ok none else .error .unclosedComment
  else if action.isEmpty then .error .emptyAction
  else if referenceMark.isPrefixOf action then
    let name := action.drop referenceMark.length
    if Text.isIdentifier name then .ok (some name) else .error (.invalidReference action)
  else .error (.unsupportedAction action)

/-- A text as a segment, unless it is empty. -/
def textSegment : List Char → List Segment
  | [] => []
  | cs => [.text cs]

/-- A reference as a segment; a comment is none. -/
def actionSegment : Option (List Char) → List Segment
  | none => []
  | some name => [.reference name]

/-- Parse the rest of a source. `trimming` tells whether the action in front of it takes the blanks
off its beginning. -/
def parseFrom (trimming : Bool) (cs : List Char) : Except SyntaxError (List Segment) :=
  let trimmed (text : List Char) := if trimming then Text.trimStart text else text
  match _hopen : splitAtDouble '\x7b' cs with
  | none => .ok (textSegment (trimmed cs))
  | some (text, opened) =>
    match _hclose : splitAtDouble '\x7d' opened with
    | none => .error .unclosedAction
    | some (inner, rest) =>
      let (text, inner) :=
        match leftTrimmed? inner with
        | some inner => (Text.trimEnd (trimmed text), inner)
        | none => (trimmed text, inner)
      let (trimming, inner) :=
        match rightTrimmed? inner with
        | some inner => (true, inner)
        | none => (false, inner)
      match parseAction (Text.trim inner) with
      | .error e => .error e
      | .ok action => (parseFrom trimming rest).map (textSegment text ++ actionSegment action ++ ·)
termination_by cs.length
decreasing_by
  have := length_lt_of_splitAtDouble _hopen
  have := length_lt_of_splitAtDouble _hclose
  omega

/-- Parse a source. -/
def parse (source : String) : Except SyntaxError (List Segment) :=
  parseFrom false source.toList

end Courier.Template
