import Courier.Json.Token
import Courier.Text.Utf8

/-!
# Documents

A document is what can be seen of a JSON text: the tree as far as the text is well-formed, with a
mark where it breaks off. Readers walk it in the order of the text, so of two faults they meet the
one that stands first, and a reader that never gets as far as the break does not notice it.

Every container ends in either `closed` or `cut`. A text breaks off at one place only, and all
containers that are open there are cut; that makes `isWhole`, which skipping a value asks, a
question about the last link of one chain.

The builder keeps the open containers on a stack, so it recurses on the tokens alone and any depth
of nesting is the same to it.

## Main definitions

* `Document`, `Items`, `Members`.
* `Document.isWhole`: the text did not break off within the value.
* `Frame`, `Expected`, `build`: the builder.
* `Document.ofBytes`: the document of a text, and whether the text ends with it.
-/

namespace Courier.Json

mutual

/-- A value of a text, as far as it goes. -/
inductive Document where
  | null
  | bool (b : Bool)
  /-- A number, `none` if it is out of range. -/
  | number (n : Option Number)
  /-- A string, `none` if it spells no text. -/
  | string (s : Option String)
  | array (items : Items)
  | object (members : Members)
  /-- The text breaks off where the value should be. -/
  | broken

/-- The items of an array. -/
inductive Items where
  | closed
  | cut
  | cons (head : Document) (tail : Items)

/-- The members of an object. -/
inductive Members where
  | closed
  /-- The text breaks off; `misnamed` tells whether it does so at a value that is no string, where
  a name should stand. -/
  | cut (misnamed : Bool)
  /-- A member; its name is a string, `none` if it spells no text. -/
  | cons (name : Option String) (value : Document) (tail : Members)

end

/-- The chain ends with its closing bracket. -/
def Items.isClosed : Items → Bool
  | .closed => true
  | .cut => false
  | .cons _ tail => tail.isClosed

/-- The chain ends with its closing brace. -/
def Members.isClosed : Members → Bool
  | .closed => true
  | .cut _ => false
  | .cons _ _ tail => tail.isClosed

/-- The text does not break off within the value. -/
def Document.isWhole : Document → Bool
  | .array items => items.isClosed
  | .object members => members.isClosed
  | .broken => false
  | _ => true

/-! ## The builder -/

/-- A container that is open, with what stands in it, the last first. -/
inductive Frame where
  /-- An array. -/
  | items (before : List Document)
  /-- An object, and the name whose value is being read. -/
  | members (before : List (Option String × Document)) (name : Option String)

/-- The items in front of a chain. -/
def Items.prepend : List Document → Items → Items
  | [], items => items
  | d :: before, items => Items.prepend before (.cons d items)

/-- The members in front of a chain. -/
def Members.prepend : List (Option String × Document) → Members → Members
  | [], members => members
  | (name, d) :: before, members => Members.prepend before (.cons name d members)

/-- Break off within the innermost container: it and all that hold it are cut. -/
def breakOff : List Frame → Document → Document
  | [], d => d
  | .items before :: outer, d => breakOff outer (.array (Items.prepend before (.cons d .cut)))
  | .members before name :: outer, d =>
    breakOff outer (.object (Members.prepend before (.cons name d (.cut false))))

/-- What the builder looks for next. -/
inductive Expected where
  /-- A value. -/
  | value
  /-- A value or the end of an array that has none yet. -/
  | firstItem
  /-- A comma or the end of the array, whose items are given, the last first. -/
  | nextItem (before : List Document)
  /-- A name, or the end if `mayEnd`, in an object whose members are given, the last first. -/
  | name (mayEnd : Bool) (before : List (Option String × Document))
  /-- The colon after a name. -/
  | colon
  /-- A comma or the end of the object. -/
  | nextMember (before : List (Option String × Document))

/-- What to do after a complete value: it is the document, or a part of the innermost container. -/
inductive Placed where
  | done (d : Document)
  | more (expected : Expected) (outer : List Frame)

/-- Put a complete value in its place. -/
def place (d : Document) : List Frame → Placed
  | [] => .done d
  | .items before :: outer => .more (.nextItem (d :: before)) outer
  | .members before name :: outer => .more (.nextMember ((name, d) :: before)) outer

/-- The frames with the container that the builder stands in between two of its parts, cut. -/
def cutAt : Expected → List Frame → Document
  | .value, outer => breakOff outer .broken
  | .colon, outer => breakOff outer .broken
  | .firstItem, outer => breakOff outer (.array .cut)
  | .nextItem before, outer => breakOff outer (.array (Items.prepend before .cut))
  | .name _ before, outer | .nextMember before, outer =>
    breakOff outer (.object (Members.prepend before (.cut false)))

/-- The token begins a value that is no string. -/
def Token.beginsOther : Token → Bool
  | .null | .bool _ | .number (some _) | .openArray | .openObject => true
  | _ => false

/-- The document at the head of the tokens, and the tokens after it. -/
def build : Expected → List Frame → List Token → Document × List Token
  | expected, outer, [] => (cutAt expected outer, [])
  | expected, outer, token :: rest =>
    let complete (d : Document) (outer : List Frame) : Document × List Token :=
      match place d outer with
      | .done d => (d, rest)
      | .more expected outer => build expected outer rest
    let value (outer : List Frame) (otherwise : Document × List Token) : Document × List Token :=
      match token with
      | .null => complete .null outer
      | .bool b => complete (.bool b) outer
      | .number n => complete (.number n) outer
      | .string s => complete (.string s) outer
      | .openArray => build .firstItem outer rest
      | .openObject => build (.name true []) outer rest
      | _ => otherwise
    match expected, token with
    | .firstItem, .closeArray => complete (.array .closed) outer
    | .firstItem, _ => value (.items [] :: outer) (cutAt expected outer, rest)
    | .value, _ => value outer (cutAt expected outer, rest)
    | .nextItem before, .comma => build .value (.items before :: outer) rest
    | .nextItem before, .closeArray => complete (.array (Items.prepend before .closed)) outer
    | .name _ before, .string s => build .colon (.members before s :: outer) rest
    | .name true before, .closeObject =>
      complete (.object (Members.prepend before .closed)) outer
    | .name _ before, token =>
      (breakOff outer (.object (Members.prepend before (.cut token.beginsOther))), rest)
    | .colon, .colon => build .value outer rest
    | .nextMember before, .comma => build (.name false before) outer rest
    | .nextMember before, .closeObject =>
      complete (.object (Members.prepend before .closed)) outer
    | _, _ => (cutAt expected outer, rest)

namespace Document

/-- The document of a text, and whether nothing but blanks follows it. -/
def ofUnits (units : List (Option Char)) : Document × Bool :=
  let (d, rest) := build .value [] (tokens units)
  (d, rest.isEmpty)

/-- The document of the bytes of a text. -/
def ofBytes (bytes : List UInt8) : Document × Bool :=
  ofUnits (Text.Utf8.decode bytes)

end Document

end Courier.Json
