import Courier.Binary64.Basic

/-!
# JSON values

The tree of a JSON text, without its spelling. An integer that fits a machine word is exact and any
other number is a double, so `1` and `1.0` are different values. An object that was read has its
members in the order of their names and no name twice; an object that is only written may keep the
order in which it is to appear.

## Main definitions

* `Number`, `Value`.
* `Value.member?`: the member of a name.
-/

namespace Courier.Json

/-- A number: an integer of 64 bits, signed or not, or a double. -/
inductive Number where
  /-- A natural number below 2⁶⁴. -/
  | natural (n : Nat)
  /-- The negative integer `-n`, with `0 < n ≤ 2⁶³`. -/
  | negative (n : Nat)
  /-- Anything else. -/
  | double (x : Binary64)
  deriving DecidableEq, Repr

/-- A JSON value. -/
inductive Value where
  | null
  | bool (b : Bool)
  | number (n : Number)
  | string (s : String)
  | array (items : List Value)
  | object (members : List (String × Value))
  deriving Repr, Inhabited

namespace Value

/-- A natural number. -/
def nat (n : Nat) : Value := .number (.natural n)

/-- A string, or null in its absence. -/
def stringOrNull : Option String → Value
  | some s => .string s
  | none => .null

/-- The member of an object with the given name. -/
def member? (name : String) : Value → Option Value
  | .object members => members.lookup name
  | _ => none

/-- The member that is written only if there is something to write. -/
def optionalMember (name : String) : Option Value → List (String × Value)
  | some value => [(name, value)]
  | none => []

end Value

end Courier.Json
