/-!
# Pieces of a text

A text with separators is a sequence of pieces. There is always one piece more than there are
separators, so even the empty text has a piece.

## Main definitions

* `pieces`: the pieces between the separators.
* `splitLast?`: the parts before and after the last separator.
-/

namespace Courier.Text

/-- The pieces of a text between the separators. -/
def pieces (isSeparator : Char → Bool) : List Char → List (List Char)
  | [] => [[]]
  | c :: cs =>
    if isSeparator c then [] :: pieces isSeparator cs
    else
      match pieces isSeparator cs with
      | [] => [[c]]
      | piece :: rest => (c :: piece) :: rest

/-- The parts before and after the last separator, if there is one. -/
def splitLast? (separator : Char) : List Char → Option (List Char × List Char)
  | [] => none
  | c :: cs =>
    match splitLast? separator cs with
    | some (before, after) => some (c :: before, after)
    | none => if c = separator then some ([], cs) else none

@[simp] theorem pieces_nil (isSeparator : Char → Bool) : pieces isSeparator [] = [[]] := rfl

example : pieces (· == '/') "a//b/".toList = [['a'], [], ['b'], []] := by decide +kernel

end Courier.Text
