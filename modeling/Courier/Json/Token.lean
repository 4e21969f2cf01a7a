import Courier.Json.Value

/-!
# Tokens of a JSON text

Reading starts with a machine that takes one unit of the text at a time and gives out a token
whenever one is complete. A unit is a character, or a gap where the bytes are no character.

Two tokens keep more than one reader wants and less than another does. A string may be well-formed
as a string and still spell no text (a lone surrogate, a gap), and a number may be well-formed and
out of range; both can be skipped but not read, and carry `none`. What cannot even be skipped is the
token `bad`, and nothing follows it.

## Main definitions

* `Token`.
* `NumberText`: the parts of a number as they are spelt, and `NumberText.value?`.
* `State`, `step`: the machine.
* `tokens`: the tokens of a text.
-/

namespace Courier.Json

/-- A token of a JSON text. -/
inductive Token where
  | openArray
  | closeArray
  | openObject
  | closeObject
  | colon
  | comma
  | null
  | bool (b : Bool)
  /-- A number, `none` if it is out of range. -/
  | number (n : Option Number)
  /-- A string, `none` if it spells no text. -/
  | string (s : Option String)
  /-- Something that no text may contain at this place. -/
  | bad
  deriving DecidableEq, Repr

/-! ## Numbers -/

/-- A number as it is spelt. Each list of digits has its last digit first. -/
structure NumberText where
  /-- A minus sign stands in front. -/
  negative : Bool
  /-- The digits before the point. -/
  whole : List Nat := []
  /-- The digits after the point, if there is a point. -/
  fraction : Option (List Nat) := none
  /-- The sign and the digits of the exponent, if there is one. -/
  exponent : Option (Bool × List Nat) := none
  deriving DecidableEq, Repr

/-- Add digits to a significand of 64 bits until one does not fit any more. The rest of the digits
come back with it. -/
def accumulate (significand : Nat) : List Nat → Nat × List Nat
  | [] => (significand, [])
  | d :: ds =>
    if significand * 10 + d < UInt64.size then accumulate (significand * 10 + d) ds
    else (significand, d :: ds)

/-- The number of the digits, the last digit first. -/
def ofDigits (digits : List Nat) : Nat :=
  digits.foldr (fun d n => n * 10 + d) 0

/-- Divide by 10³⁰⁸ until the exponent is within the range of the powers of ten. Each division takes
at least one bit off a value, so few suffice to reach zero. -/
def scaleDown : Nat → Binary64 → Nat → Binary64
  | 0, x, _ => x
  | fuel + 1, x, e =>
    if e ≤ 308 then x.div (.ofDecimal 1 e)
    else if x.word = 0 then x
    else scaleDown fuel (x.div (.ofDecimal 1 308)) (e - 308)

/-- A significand times a power of ten, computed in doubles: the significand is rounded first and
the product or quotient is rounded again. A product beyond the range is no number. -/
def scaled? (significand : Nat) (exponent : Int) : Option Binary64 :=
  let x := Binary64.ofNat significand
  match exponent with
  | .ofNat e =>
    if e ≤ 308 then
      let y := x.mul (.ofDecimal 1 e)
      if y.isInfinite then none else some y
    else if x.word = 0 then some x
    else none
  | .negSucc e => some (scaleDown 20 x (e + 1))

/-- The exponents that a reader tells apart end here; beyond, all are as large. -/
def exponentLimit : Nat := UInt32.size / 2 - 1

namespace NumberText

/-- The double that the parts spell, `none` if it is out of range. Digits that the significand has
no room for count as powers of ten before the point and are left out behind it. -/
def double? (t : NumberText) : Option Binary64 :=
  let (whole, unread) := accumulate 0 t.whole.reverse
  let (significand, places) :=
    match t.fraction with
    | none => (whole, (unread.length : Int))
    | some digits =>
      let (all, left) := accumulate whole digits.reverse
      (all, (unread.length : Int) - ((digits.length - left.length : Nat) : Int))
  let magnitude? :=
    match t.exponent with
    | none => scaled? significand places
    | some (down, digits) =>
      let e := ofDigits digits
      if exponentLimit < e then
        if significand = 0 ∨ down then some .zero else none
      else
        let e : Int := if down then places - e else places + e
        scaled? significand (max (-exponentLimit - 1) (min exponentLimit e))
  magnitude?.map fun x => if t.negative then x.neg else x

/-- The number that the parts spell. Without point and exponent it is an integer if one of 64 bits
has that value; negative zero is a double. -/
def value? (t : NumberText) : Option Number :=
  if t.fraction.isNone ∧ t.exponent.isNone then
    let n := ofDigits t.whole
    if ¬ t.negative ∧ n < UInt64.size then some (.natural n)
    else if t.negative ∧ 0 < n ∧ n ≤ UInt64.size / 2 then some (.negative n)
    else t.double?.map .double
  else t.double?.map .double

end NumberText

/-! ## The machine -/

/-- Where in the grammar of a number the reader stands. -/
inductive Place where
  /-- After the minus sign. -/
  | sign
  /-- After a leading zero. -/
  | zero
  /-- Among the digits before the point. -/
  | whole
  /-- After the point. -/
  | point
  /-- Among the digits after the point. -/
  | fraction
  /-- After the letter of the exponent. -/
  | letter
  /-- After the sign of the exponent. -/
  | exponentSign
  /-- Among the digits of the exponent. -/
  | exponent
  deriving DecidableEq, Repr

/-- A number may end here. -/
def Place.isFinal : Place → Bool
  | .zero | .whole | .fraction | .exponent => true
  | _ => false

/-- Where in a string the reader stands. -/
inductive Inside where
  /-- Between two characters. -/
  | plain
  /-- After a backslash. -/
  | escape
  /-- Within the four digits of a `\u` escape: how many are still to come, and the number so far. -/
  | code (remaining : Nat) (number : Nat)
  deriving DecidableEq, Repr

/-- The state of the machine between two units. -/
inductive State where
  /-- Between two tokens. -/
  | between
  /-- Within one of the three words: what is still to come, and the token that it completes. -/
  | word (rest : List Char) (token : Token)
  /-- Within a number. -/
  | number (place : Place) (text : NumberText)
  /-- Within a string: where, a high surrogate that waits for its other half, and the characters so
  far, the last one first, or `none` once they spell no text. -/
  | string (inside : Inside) (high : Option Nat) (text : Option (List Char))
  /-- After something bad. -/
  | stopped
  deriving DecidableEq, Repr

/-- The machine stops at something bad. -/
def stop : List Token × State := ([.bad], .stopped)

/-- A unit between two tokens. -/
def begin : Option Char → List Token × State
  | some ' ' | some '\n' | some '\r' | some '\t' => ([], .between)
  | some '[' => ([.openArray], .between)
  | some ']' => ([.closeArray], .between)
  | some '\x7b' => ([.openObject], .between)
  | some '\x7d' => ([.closeObject], .between)
  | some ':' => ([.colon], .between)
  | some ',' => ([.comma], .between)
  | some '"' => ([], .string .plain none (some []))
  | some 'n' => ([], .word ['u', 'l', 'l'] .null)
  | some 't' => ([], .word ['r', 'u', 'e'] (.bool true))
  | some 'f' => ([], .word ['a', 'l', 's', 'e'] (.bool false))
  | some '-' => ([], .number .sign ⟨true, [], none, none⟩)
  | some '0' => ([], .number .zero ⟨false, [0], none, none⟩)
  | some c =>
    if c.isDigit then ([], .number .whole ⟨false, [c.toNat - 48], none, none⟩) else stop
  | none => stop

/-- One more digit of a number, `none` where none is allowed. -/
def digit? (place : Place) (text : NumberText) (d : Nat) : Option (Place × NumberText) :=
  match place with
  | .sign => some (if d = 0 then .zero else .whole, { text with whole := [d] })
  | .zero => none
  | .whole => some (.whole, { text with whole := d :: text.whole })
  | .point | .fraction =>
    some (.fraction, { text with fraction := some (d :: text.fraction.getD []) })
  | .letter => some (.exponent, { text with exponent := some (false, [d]) })
  | .exponentSign | .exponent =>
    some (.exponent, { text with
      exponent := text.exponent.map fun (down, digits) => (down, d :: digits) })

/-- A unit within a number: it goes on, or ends before the unit, or is bad. -/
def stepNumber (place : Place) (text : NumberText) (unit : Option Char) : List Token × State :=
  let ended : List Token × State :=
    if place.isFinal then
      let (tokens, state) := begin unit
      (.number text.value? :: tokens, state)
    else stop
  match unit with
  | none => ended
  | some c =>
    if c.isDigit then
      match digit? place text (c.toNat - 48) with
      | some (place, text) => ([], .number place text)
      | none => stop
    else if c = '.' ∧ (place = .zero ∨ place = .whole) then
      ([], .number .point { text with fraction := some [] })
    else if (c = 'e' ∨ c = 'E') ∧ (place = .zero ∨ place = .whole ∨ place = .fraction) then
      ([], .number .letter { text with exponent := some (false, []) })
    else if (c = '+' ∨ c = '-') ∧ place = .letter then
      ([], .number .exponentSign { text with exponent := some (c = '-', []) })
    else ended

/-- The character of an escape of one letter. -/
def escape? : Char → Option Char
  | '"' => some '"'
  | '\\' => some '\\'
  | '/' => some '/'
  | 'b' => some '\x08'
  | 'f' => some '\x0c'
  | 'n' => some '\n'
  | 'r' => some '\r'
  | 't' => some '\t'
  | _ => none

/-- The value of a hexadecimal digit. -/
def hexDigit? (c : Char) : Option Nat :=
  if c.isDigit then some (c.toNat - 48)
  else if 'a' ≤ c ∧ c ≤ 'f' then some (c.toNat - 87)
  else if 'A' ≤ c ∧ c ≤ 'F' then some (c.toNat - 55)
  else none

/-- One more character of a string. A high surrogate that still waits has lost its other half. -/
def append (high : Option Nat) (text : Option (List Char)) (c : Char) : Option (List Char) :=
  if high.isSome then none else text.map (c :: ·)

/-- The number of a `\u` escape is complete: two surrogates make one character, and a surrogate
without its other half none. -/
def appendCode (high : Option Nat) (text : Option (List Char)) (n : Nat) : State :=
  if 0xD800 ≤ n ∧ n < 0xDC00 then
    .string .plain (some n) (if high.isSome then none else text)
  else if 0xDC00 ≤ n ∧ n < 0xE000 then
    match high with
    | some h =>
      let c := Char.ofNat (0x10000 + (h - 0xD800) * 0x400 + (n - 0xDC00))
      .string .plain none (text.map (c :: ·))
    | none => .string .plain none none
  else .string .plain none (append high text (Char.ofNat n))

/-- A unit within a string. -/
def stepString (inside : Inside) (high : Option Nat) (text : Option (List Char))
    (unit : Option Char) : List Token × State :=
  match inside, unit with
  | .plain, none => ([], .string .plain none none)
  | .plain, some '"' =>
    let spelt := if high.isSome then none else text.map fun cs => String.ofList cs.reverse
    ([.string spelt], .between)
  | .plain, some '\\' => ([], .string .escape high text)
  | .plain, some c =>
    if c.toNat < 0x20 then stop else ([], .string .plain none (append high text c))
  | .escape, some 'u' => ([], .string (.code 4 0) high text)
  | .escape, some c =>
    match escape? c with
    | some c => ([], .string .plain none (append high text c))
    | none => stop
  | .code remaining number, some c =>
    match hexDigit? c with
    | none => stop
    | some d =>
      let number := number * 16 + d
      if remaining ≤ 1 then ([], appendCode high text number)
      else ([], .string (.code (remaining - 1) number) high text)
  | _, none => stop

/-- One unit of the text: the tokens it completes, and the state after it. -/
def step : State → Option Char → List Token × State
  | .between, unit => begin unit
  | .word rest token, unit =>
    match rest, unit with
    | [c], some d => if c = d then ([token], .between) else stop
    | c :: rest, some d => if c = d then ([], .word rest token) else stop
    | _, _ => stop
  | .number place text, unit => stepNumber place text unit
  | .string inside high text, unit => stepString inside high text unit
  | .stopped, _ => ([], .stopped)

/-- The end of the text: it completes a number, and leaves a word or a string incomplete. -/
def finish : State → List Token
  | .between | .stopped => []
  | .number place text => if place.isFinal then [.number text.value?] else [.bad]
  | .word .. | .string .. => [.bad]

/-- The tokens of the rest of a text, read from a state. -/
def tokensFrom : State → List (Option Char) → List Token
  | state, [] => finish state
  | state, unit :: units => (step state unit).1 ++ tokensFrom (step state unit).2 units

/-- The tokens of a text. -/
def tokens (units : List (Option Char)) : List Token :=
  tokensFrom .between units

end Courier.Json
