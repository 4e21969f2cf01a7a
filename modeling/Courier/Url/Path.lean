import Courier.Text.Pieces
import Courier.Url.Percent

/-!
# Paths

A path is a sequence of segments, each as it is written. One point as a segment means the place
itself and two points the place above it, also if a point is percent-encoded; neither stays in a
path, but at its end they leave an empty segment. A segment that names a drive is never left again.

## Main definitions

* `Path`, `Path.text`.
* `Path.ofPieces`: the path that a text's pieces describe.
* `Path.child`: one segment further on.
-/

namespace Courier.Url

/-- A path: its segments, percent-encoded. -/
abbrev Path := List (List Char)

namespace Path

/-- How segments are read and written, which depends on the scheme. -/
structure Style where
  /-- A backslash separates segments as a slash does. -/
  backslashSeparates : Bool
  /-- The first segment may name a drive. -/
  hasDrives : Bool
  deriving DecidableEq, Repr

/-- Every segment follows a slash. -/
def text (p : Path) : List Char :=
  p.flatMap ('/' :: ·)

/-- A letter and a colon, or a bar in place of the colon. -/
def isDrive : List Char → Bool
  | [c, mark] => c.isAlpha && (mark == ':' || mark == '|')
  | _ => false

/-- The written form of a drive. -/
def driveText (segment : List Char) : List Char :=
  segment.take 1 ++ [':']

/-- A segment in which encoded points are plain ones. -/
def plainPoints : List Char → List Char
  | '%' :: '2' :: 'e' :: cs | '%' :: '2' :: 'E' :: cs => '.' :: plainPoints cs
  | c :: cs => c :: plainPoints cs
  | [] => []

/-- What a segment means for the path before it. -/
inductive Move where
  /-- To the place above. -/
  | up
  /-- To the place itself. -/
  | stay
  /-- To the place of that name. -/
  | down
  deriving DecidableEq, Repr

/-- What a segment means. -/
def move (segment : List Char) : Move :=
  match plainPoints segment with
  | ['.', '.'] => .up
  | ['.'] => .stay
  | _ => .down

/-- The place above. -/
def parent (p : Path) : Path :=
  if p.getLast?.any isDrive then p else p.dropLast

/-- A segment further on. -/
def append (style : Style) (p : Path) (segment : List Char) : Path :=
  if style.hasDrives ∧ p = [] ∧ isDrive segment then [driveText segment] else p ++ [segment]

/-- A segment that is followed by others. -/
def pass (style : Style) (p : Path) (segment : List Char) : Path :=
  match move segment with
  | .up => parent p
  | .stay => p
  | .down => append style p segment

/-- The last segment. -/
def finish (style : Style) (p : Path) (segment : List Char) : Path :=
  match move segment with
  | .up => parent p ++ [[]]
  | .stay => p ++ [[]]
  | .down => append style p segment

/-- Empty segments in front of others do not count where there are drives. -/
def trimFront (style : Style) (p : Path) : Path :=
  if style.hasDrives then
    match p.dropWhile List.isEmpty with
    | [] => [[]]
    | rest => rest
  else p

/-- Walk along segments, from a place. -/
def walk (style : Style) : Path → List (List Char) → Path
  | p, [] => p
  | p, [segment] => finish style p segment
  | p, segment :: rest => walk style (pass style p segment) rest

/-- The character separates segments. -/
def isSeparator (style : Style) (c : Char) : Bool :=
  c == '/' || (style.backslashSeparates && c == '\\')

/-- The path that a text describes, before empty segments are trimmed. -/
def read (style : Style) (cs : List Char) : Path :=
  walk style [] ((Text.pieces (isSeparator style) cs).map (Percent.encode .path))

/-! ## Going on from a path -/

/-- The path without its last segment, if that is empty and not the only one. -/
def popEmpty (p : Path) : Path :=
  if 2 ≤ p.length ∧ p.getLast? = some [] then p.dropLast else p

/-- A line break or a tab. Such a character does not count anywhere in a URL. -/
def isIgnored (c : Char) : Bool :=
  c == '\t' || c == '\n' || c == '\r'

/-- A text as one segment. -/
def segment (style : Style) (cs : List Char) : List Char :=
  Percent.encode (.segment style.backslashSeparates) (cs.filter (!isIgnored ·))

/-- The path that leads one segment further on, from a path with or without an empty segment at its
end. One or two points lead nowhere; only if there are ignored characters between them, they mean
what they mean in a path. -/
def child (style : Style) (p : Path) (cs : List Char) : Path :=
  let base := popEmpty p
  if cs = ['.'] ∨ cs = ['.', '.'] then base
  else
    trimFront style (finish style (if base = [[]] then [] else base) (segment style cs))

@[simp] theorem text_nil : text [] = [] := rfl

@[simp] theorem text_cons (segment : List Char) (p : Path) :
    text (segment :: p) = '/' :: segment ++ text p := rfl

end Path

end Courier.Url
