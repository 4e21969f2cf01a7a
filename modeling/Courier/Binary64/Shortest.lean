import Courier.Binary64.Basic

/-!
# The shortest decimal of a double

A double is written with the fewest digits that read back as the same double, and of those with the
digits nearest to it. The reals that round to a double form an interval around it, whose ends
belong to it exactly when its word is even. For one digit, two digits and so on the two points of
the decimal grid next to the double are tried; if any point of a grid lies in the interval, one of
those two does, so the first grid with a hit is the shortest.

## Main definitions

* `Decimal`: digits and a power of ten.
* `Binary64.shortest`: the decimal of a finite word.
* `Decimal.positional`: digits with a point and no exponent.
* `Binary64.plainText`: a double as it stands in a message.
* `Binary64.jsonText`: a finite double as it stands in a JSON document.
-/

namespace Courier

/-- The number `digits · 10 ^ exponent`. -/
structure Decimal where
  /-- The digits, as one number. -/
  digits : Nat
  /-- The power of ten of the last digit. -/
  exponent : Int
  deriving DecidableEq, Repr

namespace Binary64

/-- The decimal `c · 10 ^ e` lies in the interval of the reals that round to the word. -/
def readsBackAs (word c : Nat) (e : Int) : Bool :=
  let below := (units (word - 1) + units word) * Nat.pow 10 (-e).toNat
  let above := (units word + units (word + 1)) * Nat.pow 10 (-e).toNat
  let point := (c * Nat.pow 10 e.toNat) <<< 1075
  if word % 2 = 0 then below ≤ point && point ≤ above else below < point && point < above

/-- The position of the first digit: the magnitude is at least 10 ^ (p - 1) and less than 10 ^ p. -/
def leadingPosition (word : Nat) : Int :=
  (Nat.toDigits 10 ((units word * Nat.pow 10 400) >>> 1074)).length - 400

/-- Try the grid of the given number of digits: the nearer of the two neighbours if both read back,
else the one that does. -/
def nearestOnGrid (word : Nat) (position : Int) (count : Nat) : Option Decimal :=
  let e := position - count
  let num := units word * Nat.pow 10 (-e).toNat
  let den := Nat.pow 10 e.toNat <<< 1074
  let lower := num / den
  match readsBackAs word lower e, readsBackAs word (lower + 1) e with
  | true, false => some ⟨lower, e⟩
  | false, true => some ⟨lower + 1, e⟩
  | true, true => some ⟨roundDiv num den, e⟩
  | false, false => none

/-- Leave out the zeros at the end of the digits. -/
def stripZeros : Nat → Nat → Int → Decimal
  | 0, digits, e => ⟨digits, e⟩
  | fuel + 1, digits, e =>
    if digits % 10 = 0 then stripZeros fuel (digits / 10) (e + 1) else ⟨digits, e⟩

/-- The shortest decimal of a finite word other than zero. Seventeen digits always read back. -/
def shortest (word : Nat) : Decimal :=
  let position := leadingPosition word
  match (List.range 17).findSome? fun i => nearestOnGrid word position (i + 1) with
  | some d => stripZeros 17 d.digits d.exponent
  | none => ⟨0, 0⟩

end Binary64

/-- The digits of a decimal with a point where it belongs, and no exponent. -/
def Decimal.positional (d : Decimal) : String :=
  let digits := Nat.toDigits 10 d.digits
  match d.exponent with
  | .ofNat zeros => String.ofList (digits ++ List.replicate zeros '0')
  | .negSucc n =>
    let places := n + 1
    let padded := List.replicate (places + 1 - digits.length) '0' ++ digits
    let whole := padded.length - places
    String.ofList (padded.take whole ++ '.' :: padded.drop whole)

namespace Binary64

/-- A double in a message: its shortest decimal without exponent, whole numbers without a point. -/
def plainText (x : Binary64) : String :=
  if x.isNaN then "NaN"
  else
    let sign := if x.negative then "-" else ""
    if x.isInfinite then sign ++ "inf"
    else if x.word = 0 then sign ++ "0"
    else sign ++ (shortest x.word).positional

/-- A finite double in a JSON document. Whole numbers keep `.0`; above sixteen digits before the
point, or with more than four zeros behind it, the exponent is written. -/
def jsonText (x : Binary64) : String :=
  let sign := if x.negative then "-" else ""
  if x.word = 0 then sign ++ "0.0"
  else
    let d := shortest x.word
    let digits := Nat.toDigits 10 d.digits
    let position := d.exponent + digits.length
    if 0 ≤ d.exponent ∧ position ≤ 16 then sign ++ d.positional ++ ".0"
    else if -5 < position ∧ position ≤ 16 then sign ++ d.positional
    else
      let mantissa := match digits with
        | [] => []
        | [c] => [c]
        | c :: cs => c :: '.' :: cs
      sign ++ String.ofList mantissa ++ "e" ++ toString (position - 1)

example : plainText (ofRatio 3 5) = "0.6" := by decide +kernel
example : plainText (ofNat (Nat.pow 10 21)) = "1000000000000000000000" := by decide +kernel
example : plainText (ofRatio 3 2) = "1.5" := by decide +kernel
example : plainText ⟨false, 1⟩ = "0." ++ String.ofList (List.replicate 323 '0') ++ "5" := by
  decide +kernel
example : jsonText (ofNat 1) = "1.0" := by decide +kernel
example : jsonText (ofNat (Nat.pow 10 16)) = "1e16" := by decide +kernel
example : jsonText (ofRatio 1 100000) = "0.00001" := by decide +kernel
example : jsonText (ofRatio 15 (Nat.pow 10 8)) = "1.5e-7" := by decide +kernel

end Binary64

end Courier
