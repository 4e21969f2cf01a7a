import Courier.Template.Render
import Mathlib.Data.List.Defs
import Mathlib.Data.List.DropRight

/-!
# What templates mean

What a source renders to, said in two passes over it. The first cuts the source into its actions and
the texts between them, from the left, each action at its first mark. The second reads each action
by itself. Only then the texts lose the blanks that the actions next to them take off, and texts and
values are put together.

Nothing here is shared with the parser, which goes over a source once and takes off blanks as it
goes.

## Main definitions

* `Cuts`: the actions of a source and the texts between them.
* `Action`, `Action.IsReadOf`: what an action says.
* `firstError`: why a source is no template.
* `assemble`: the texts and the values put together.
* `Reading`, `Reading.outcome`: what a source renders to.
-/

namespace Courier.Template

/-! ## Cutting -/

/-- The mark that opens an action. -/
def opening : List Char := ['\x7b', '\x7b']

/-- The mark that closes an action. -/
def closing : List Char := ['\x7d', '\x7d']

/-- What stands in front of the first place where a text has the mark, and what stands behind it. -/
structure CutAt (mark cs before after : List Char) : Prop where
  eq : cs = before ++ mark ++ after
  first : ∀ before' after', cs = before' ++ mark ++ after' → before.length ≤ before'.length

/-- An action, not yet read, and the text between the one in front of it and itself. -/
structure Cutting where
  text : List Char
  inner : List Char

/-- What stands behind the last action. -/
inductive Tail where
  | text (cs : List Char)
  /-- An action that is opened and not closed. -/
  | unclosed

/-- The text behind the last action, if it is one. -/
def Tail.texts : Tail → List (List Char)
  | text cs => [cs]
  | unclosed => []

/-- A source is cut at its marks from the left. -/
inductive Cuts : List Char → List Cutting → Tail → Prop where
  | text {cs : List Char} (plain : ¬ opening <:+: cs) : Cuts cs [] (.text cs)
  | unclosed {cs text opened : List Char} (opens : CutAt opening cs text opened)
      (unclosed : ¬ closing <:+: opened) : Cuts cs [] .unclosed
  | action {cs text opened inner rest : List Char} {cuttings : List Cutting} {tail : Tail}
      (opens : CutAt opening cs text opened) (closes : CutAt closing opened inner rest)
      (later : Cuts rest cuttings tail) : Cuts cs (⟨text, inner⟩ :: cuttings) tail

/-! ## Reading -/

/-- A text without the blanks at its beginning, or at its end, or both. -/
def strip (leading trailing : Bool) (text : List Char) : List Char :=
  let text := if leading then text.dropWhile Text.isBlank else text
  if trailing then text.rdropWhile Text.isBlank else text

/-- Whether a text begins with a trim marker, a minus sign in front of a blank, and the text without
it. -/
inductive LeftMarker : List Char → Bool → List Char → Prop where
  | present {c : Char} {rest : List Char} (blank : Text.isBlank c) :
      LeftMarker ('-' :: c :: rest) true (c :: rest)
  | absent {cs : List Char} (h : ∀ c rest, cs = '-' :: c :: rest → ¬ Text.isBlank c) :
      LeftMarker cs false cs

/-- Whether a text ends with a trim marker, a minus sign behind a blank, and the text without it. -/
inductive RightMarker : List Char → Bool → List Char → Prop where
  | present {c : Char} {front : List Char} (blank : Text.isBlank c) :
      RightMarker (front ++ [c, '-']) true (front ++ [c])
  | absent {cs : List Char} (h : ∀ front c, cs = front ++ [c, '-'] → ¬ Text.isBlank c) :
      RightMarker cs false cs

/-- The text is a comment. Its two marks do not share their star. -/
structure IsComment (cs : List Char) : Prop where
  begins : ['/', '*'] <+: cs
  ends : ['*', '/'] <:+ cs
  size : 4 ≤ (String.ofList cs).utf8ByteSize

/-- What is meant by what is left of an action: nothing, if it is a comment, or a variable of some
name. -/
inductive Meaning : List Char → Except SyntaxError (Option (List Char)) → Prop where
  | comment {cs : List Char} (comment : IsComment cs) : Meaning cs (.ok none)
  | reference {name : List Char} (identifier : Text.isIdentifier name) :
      Meaning (".Vars.".toList ++ name) (.ok (some name))
  | empty : Meaning [] (.error .emptyAction)
  | unclosedComment {cs : List Char} (begins : ['/', '*'] <+: cs) (comment : ¬ IsComment cs) :
      Meaning cs (.error .unclosedComment)
  | invalidReference {name : List Char} (identifier : ¬ Text.isIdentifier name) :
      Meaning (".Vars.".toList ++ name) (.error (.invalidReference (".Vars.".toList ++ name)))
  | unsupported {cs : List Char} (nonempty : cs ≠ []) (comment : ¬ ['/', '*'] <+: cs)
      (reference : ¬ ".Vars.".toList <+: cs) : Meaning cs (.error (.unsupportedAction cs))

/-- An action that has been read. -/
structure Action where
  /-- It takes the blanks off the text in front of it. -/
  left : Bool
  /-- It takes the blanks off the text behind it. -/
  right : Bool
  meaning : Except SyntaxError (Option (List Char))

namespace Action

/-- The action is what stands between two marks: the trim markers are taken off, the left one first,
and then the outer blanks. -/
inductive IsReadOf : List Char → Action → Prop where
  | intro {inner middle core : List Char} {a : Action} (left : LeftMarker inner a.left middle)
      (right : RightMarker middle a.right core)
      (meaning : Meaning (strip true true core) a.meaning) : IsReadOf inner a

/-- What is wrong with an action. -/
def error? (a : Action) : Option SyntaxError :=
  match a.meaning with
  | .error e => some e
  | .ok _ => none

/-- What an action is replaced with: the value of its variable, if it names one that has a value. -/
def value (values : Dictionary) (a : Action) : List Char :=
  match a.meaning with
  | .ok (some name) => ((values.get? (String.ofList name)).map String.toList).getD []
  | _ => []

/-- The variable that an action names and that has no value. -/
def missing? (values : Dictionary) (a : Action) : Option (List Char) :=
  match a.meaning with
  | .ok (some name) => if (values.get? (String.ofList name)).isNone then some name else none
  | _ => none

end Action

/-! ## Putting together -/

/-- Why a source is no template: what is wrong at the leftmost place where something is. -/
def firstError (actions : List Action) (tail : Tail) : Option SyntaxError :=
  (actions.findSome? Action.error?).or <|
    match tail with
    | .text _ => none
    | .unclosed => some .unclosedAction

/-- Texts, without the blanks that are taken off at their beginnings and at their ends, each with a
value behind it. -/
def assemble (leading trailing : List Bool) (texts values : List (List Char)) : List Char :=
  (List.zipWith (· ++ ·) (List.zipWith3 strip leading trailing texts) values).flatten

/-- A source that has been read. -/
structure Reading (source : List Char) where
  cuttings : List Cutting
  tail : Tail
  actions : List Action
  cuts : Cuts source cuttings tail
  reads : List.Forall₂ (fun cutting action => Action.IsReadOf cutting.inner action) cuttings actions

namespace Reading

variable {source : List Char}

/-- The texts of a source, the last of which stands behind the last action. -/
def texts (r : Reading source) : List (List Char) :=
  r.cuttings.map Cutting.text ++ r.tail.texts

/-- What a source renders to. The first text has no action in front of it, and the last has none
behind it. -/
def outcome (values : Dictionary) (r : Reading source) : Except SyntaxError Rendering :=
  match firstError r.actions r.tail with
  | some e => .error e
  | none => .ok {
      text := assemble (false :: r.actions.map Action.right) (r.actions.map Action.left ++ [false])
        r.texts (r.actions.map (Action.value values) ++ [[]])
      missing := r.actions.filterMap (Action.missing? values) }

end Reading

end Courier.Template
