import Courier.Json.Value
import Courier.Binary64.Shortest

/-!
# Printing JSON

Values are written without any blanks. A string escapes the quote, the backslash and the characters
below U+0020, of which five have an escape of their own, and holds all others as they are.

## Main definitions

* `escape`: how one character stands in a string.
* `Value.chars`, `Value.text`: a value's text.
-/

namespace Courier.Json

/-- A character within a string. -/
def escape (c : Char) : List Char :=
  if c = '"' then ['\\', '"']
  else if c = '\\' then ['\\', '\\']
  else if c = '\x08' then ['\\', 'b']
  else if c = '\x0c' then ['\\', 'f']
  else if c = '\n' then ['\\', 'n']
  else if c = '\r' then ['\\', 'r']
  else if c = '\t' then ['\\', 't']
  else if c.toNat < 0x20 then
    ['\\', 'u', '0', '0', Nat.digitChar (c.toNat / 16), Nat.digitChar (c.toNat % 16)]
  else [c]

/-- A string with its quotes. -/
def quoted (s : String) : List Char :=
  '"' :: s.toList.flatMap escape ++ ['"']

/-- The digits of a natural number. -/
def naturalChars (n : Nat) : List Char :=
  Nat.toDigits 10 n

/-- A number's text. -/
def Number.chars : Number → List Char
  | .natural n => naturalChars n
  | .negative n => '-' :: naturalChars n
  | .double x => x.jsonText.toList

namespace Value

mutual

/-- A value's text, character by character. -/
def chars : Value → List Char
  | .null => ['n', 'u', 'l', 'l']
  | .bool true => ['t', 'r', 'u', 'e']
  | .bool false => ['f', 'a', 'l', 's', 'e']
  | .number n => n.chars
  | .string s => quoted s
  | .array items => '[' :: itemsChars true items ++ [']']
  | .object members => '\x7b' :: membersChars true members ++ ['\x7d']

/-- The items of an array, each but the first after a comma. -/
def itemsChars : Bool → List Value → List Char
  | _, [] => []
  | first, v :: vs => (if first then [] else [',']) ++ chars v ++ itemsChars false vs

/-- The members of an object, each but the first after a comma. -/
def membersChars : Bool → List (String × Value) → List Char
  | _, [] => []
  | first, (name, v) :: members =>
    (if first then [] else [',']) ++ quoted name ++ ':' :: chars v ++ membersChars false members

end

/-- A value's text. -/
def text (v : Value) : String :=
  String.ofList v.chars

end Value

end Courier.Json
