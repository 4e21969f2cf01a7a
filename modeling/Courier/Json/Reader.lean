import Courier.Json.Document
import Courier.Text.Entries

/-!
# Readers

A reader turns a document into a value of one type, or says what stands in the way first. Readers of
containers take the containers apart themselves, since each has its own opinion on names, on values
that are absent and on how deep a text may nest.

A text that is read may be nested 127 levels deep. The limit binds where values are read; what is
skipped may be nested at will.

## Main definitions

* `Fault`, `Fault.text`.
* `Reader`, `decode`.
* `string`, `bool`, `natural`, `optional`, `nullAsDefault`, `pairs`, `choice`, `value`.
-/

namespace Courier.Json

/-- What stands in the way of reading a text. -/
inductive Fault where
  /-- It is no JSON, or ends too early or too late, or nests too deep. -/
  | malformed
  /-- A value of another type stands where one was expected. -/
  | invalidType
  /-- A number is beyond what its place admits. -/
  | invalidValue
  /-- An array has fewer items than it must. -/
  | invalidLength
  /-- A word is none of those that its place admits. -/
  | unknownVariant
  /-- A member that must be there is not. -/
  | missingField (name : String)
  /-- A member stands there twice. -/
  | duplicateField (name : String)
  deriving DecidableEq, Repr

namespace Fault

/-- The words for a fault. -/
def text : Fault → String
  | malformed => "malformed JSON"
  | invalidType => "invalid type"
  | invalidValue => "invalid value"
  | invalidLength => "invalid length"
  | unknownVariant => "unknown variant"
  | missingField name => "missing field `" ++ name ++ "`"
  | duplicateField name => "duplicate field `" ++ name ++ "`"

end Fault

/-- A reader of one type of value. The number says how many containers it may still open, one within
the other. -/
abbrev Reader (α : Type) : Type := Nat → Document → Except Fault α

/-- How deep a text may nest where it is read. -/
def depthLimit : Nat := 127

/-- Read a text: its one value, and nothing after it. -/
def decodeUnits {α : Type} (read : Reader α) (units : List (Option Char)) : Except Fault α := do
  let (d, atEnd) := Document.ofUnits units
  let a ← read depthLimit d
  if atEnd then .ok a else .error .malformed

/-- Read the text that the bytes spell. -/
def decode {α : Type} (read : Reader α) (bytes : List UInt8) : Except Fault α :=
  decodeUnits read (Text.Utf8.decode bytes)

namespace Reader

/-- The fault of a value that is not of the type a reader expects. A scalar is looked at as a whole
before it is refused, a container only at its first character. -/
def mismatch : Document → Fault
  | .broken | .string none | .number none => .malformed
  | _ => .invalidType

/-- A text. -/
def string : Reader String
  | _, .string (some s) => .ok s
  | _, d => .error (mismatch d)

/-- A truth value. -/
def bool : Reader Bool
  | _, .bool b => .ok b
  | _, d => .error (mismatch d)

/-- A natural number up to a bound. -/
def natural (bound : Nat) : Reader Nat
  | _, .number (some (.natural n)) => if n ≤ bound then .ok n else .error .invalidValue
  | _, .number (some (.negative _)) => .error .invalidValue
  | _, d => .error (mismatch d)

/-- Null, for nothing, or a value. -/
def optional {α : Type} (read : Reader α) : Reader (Option α)
  | _, .null => .ok none
  | depth, d => (read depth d).map some

/-- Null, for a default, or a value. -/
def nullAsDefault {α : Type} (default : α) (read : Reader α) : Reader α :=
  fun depth d => (optional read depth d).map (·.getD default)

/-- Nothing but null. -/
def null : Reader Unit
  | _, .null => .ok ()
  | _, d => .error (mismatch d)

/-- The members of an object all of whose values are read alike, in the order of the text. -/
def membersWith {α : Type} (read : Reader α) (depth : Nat) :
    Members → Except Fault (List (String × α))
  | .closed => .ok []
  | .cut _ => .error .malformed
  | .cons none _ _ => .error .malformed
  | .cons (some name) d tail => do
    let a ← read depth d
    let others ← membersWith read depth tail
    return (name, a) :: others

/-- An object all of whose values are read alike. -/
def pairs {α : Type} (read : Reader α) : Reader (List (String × α))
  | depth + 1, .object members => membersWith read depth members
  | 0, .object _ => .error .malformed
  | _, d => .error (mismatch d)

/-- One of several words, given as a string or as the name of the one member of an object whose
value is null. -/
def choice {α : Type} (find : String → Option α) : Reader α
  | _, .string (some s) => (find s).elim (.error .unknownVariant) .ok
  | depth + 1, .object (.cons (some name) d tail) => do
    let a ← (find name).elim (.error .unknownVariant) .ok
    null depth d
    match tail with
    | .closed => .ok a
    | _ => .error .malformed
  | _ + 1, .object (.cut true) => .error .invalidType
  | _, _ => .error .malformed

mutual

/-- Any value. Objects come out in the order of their names, and of equal names the last counts. -/
def value : Nat → Document → Except Fault Value
  | _, .null => .ok .null
  | _, .bool b => .ok (.bool b)
  | _, .number (some n) => .ok (.number n)
  | _, .string (some s) => .ok (.string s)
  | depth + 1, .array items => (valueItems depth items).map .array
  | depth + 1, .object members => (valueMembers depth [] members).map .object
  | _, _ => .error .malformed

/-- The items of an array of any values. -/
def valueItems : Nat → Items → Except Fault (List Value)
  | _, .closed => .ok []
  | _, .cut => .error .malformed
  | depth, .cons d tail => do
    let v ← value depth d
    let vs ← valueItems depth tail
    return v :: vs

/-- The members of an object of any values, added to those before them. -/
def valueMembers : Nat → List (String × Value) → Members → Except Fault (List (String × Value))
  | _, before, .closed => .ok before
  | _, _, .cut _ => .error .malformed
  | _, _, .cons none _ _ => .error .malformed
  | depth, before, .cons (some name) d tail => do
    let v ← value depth d
    valueMembers depth (Entries.insert name v before) tail

end

/-- Anything that can be skipped. -/
def skip : Reader Unit
  | _, d => if d.isWhole then .ok () else .error .malformed

end Reader

end Courier.Json
