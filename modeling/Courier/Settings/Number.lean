import Courier.Binary64.Basic
import Courier.Text.Digits

/-!
# Numbers in settings

Settings are given as texts. A natural number is a run of digits with a plus sign in front of it or
without. A real number is decimal, with a point and an exponent or without them, or one of the words
for infinity and NaN, and is read as the double nearest to it.

## Main definitions

* `NumberError`, `natural?`, `real?`.
-/

namespace Courier.Settings

/-- Why a text is not the number that a setting takes. -/
inductive NumberError where
  | emptyNatural
  | invalidDigit
  | tooLarge
  | emptyReal
  | invalidReal
  deriving DecidableEq, Repr

/-- The words for an error. -/
def NumberError.text : NumberError → String
  | emptyNatural => "cannot parse integer from empty string"
  | invalidDigit => "invalid digit found in string"
  | tooLarge => "number too large to fit in target type"
  | emptyReal => "cannot parse float from empty string"
  | invalidReal => "invalid float literal"

/-- The rest of a text after a sign in front of it, and whether that is a minus sign. -/
def splitSign : List Char → Bool × List Char
  | '+' :: cs => (false, cs)
  | '-' :: cs => (true, cs)
  | cs => (false, cs)

/-- The digits of a natural number, one after another: the first thing that is wrong with them
counts, be it a character that is no digit or a number that has grown beyond the bound. -/
def naturalFrom (bound : Nat) : Nat → List Char → Except NumberError Nat
  | n, [] => .ok n
  | n, c :: cs =>
    if ¬ c.isDigit then .error .invalidDigit
    else
      let n := n * 10 + (c.toNat - 48)
      if bound < n then .error .tooLarge else naturalFrom bound n cs

/-- A natural number up to a bound. -/
def natural? (bound : Nat) (text : String) : Except NumberError Nat :=
  match text.toList with
  | [] => .error .emptyNatural
  | ['+'] => .error .invalidDigit
  | '+' :: cs => naturalFrom bound 0 cs
  | cs => naturalFrom bound 0 cs

/-- The double nearest to `significand · 10 ^ exponent`. Whether it is beyond the range of the
doubles is seen from the position of its first digit, so no large power is computed in vain. -/
def nearestDouble (significand : Nat) (exponent : Int) : Binary64 :=
  if significand = 0 then .zero
  else
    let position := (Nat.toDigits 10 significand).length + exponent
    if 310 < position then .infinity false
    else if position < -330 then .zero
    else .ofDecimal significand exponent

/-- A decimal number without a sign. -/
def decimal? (cs : List Char) : Option Binary64 :=
  let whole := cs.takeWhile Char.isDigit
  let rest := cs.dropWhile Char.isDigit
  let (fraction, rest) := match rest with
    | '.' :: rest => (rest.takeWhile Char.isDigit, rest.dropWhile Char.isDigit)
    | rest => ([], rest)
  if whole.isEmpty ∧ fraction.isEmpty then none
  else
    let significand := Text.digitsValue (whole ++ fraction)
    match rest with
    | [] => some (nearestDouble significand (-fraction.length))
    | e :: rest =>
      let (down, digits) := splitSign rest
      if (e = 'e' ∨ e = 'E') ∧ ¬ digits.isEmpty ∧ digits.all Char.isDigit then
        let n : Int := Text.digitsValue digits
        some (nearestDouble significand ((if down then -n else n) - fraction.length))
      else none

/-- A real number. -/
def real? (text : String) : Except NumberError Binary64 :=
  match text.toList with
  | [] => .error .emptyReal
  | cs =>
    let (negative, magnitude) := splitSign cs
    let word := String.ofList (magnitude.map Char.toLower)
    let value := if word = "inf" ∨ word = "infinity" then some (Binary64.infinity false)
      else if word = "nan" then some Binary64.nan
      else decimal? magnitude
    match value with
    | some x => .ok (if negative then x.neg else x)
    | none => .error .invalidReal

example : (real? "+.5").toOption = some (.ofRatio 1 2) := by decide +kernel
example : (real? "5.").toOption = some (.ofNat 5) := by decide +kernel
example : (real? "-1e400").toOption = some (.infinity true) := by decide +kernel
example : (real? ".").toOption = none := by decide +kernel
example : (natural? 10 "+007").toOption = some 7 := by decide +kernel

end Courier.Settings
