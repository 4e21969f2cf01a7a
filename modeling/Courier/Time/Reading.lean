import Courier.Text.Blank
import Courier.Text.Digits
import Courier.Time.Stamp

/-!
# Reading time stamps

A stamp is read with some freedom: blanks may stand around the parts of a date and a time, numbers
may have fewer digits than they are written with, a space or a small `t` may divide date and time,
and the offset from universal time may be given in several ways. Digits of a fraction beyond the
ninth are left out.

## Main definitions

* `Scan`: take something off the front of a text, or fail.
* `Stamp.parse?`.
-/

namespace Courier.Time

/-- Take something off the front of a text, or fail. -/
abbrev Scan (α : Type) : Type := StateT (List Char) Option α

namespace Scan

/-- Leave out blanks. -/
def blanks : Scan Unit :=
  modify Text.trimStart

/-- Take the given character. -/
def char (c : Char) : Scan Unit := do
  match ← get with
  | d :: rest => if c = d then set rest else failure
  | [] => failure

/-- Take digits, at least one and at most the given number. -/
def digits (most : Nat) : Scan (List Char) := do
  let cs ← get
  let taken := (cs.take most).takeWhile Char.isDigit
  if taken.isEmpty then failure
  set (cs.drop taken.length)
  return taken

/-- A number of at most two digits, after blanks. -/
def short : Scan Nat := do
  blanks
  return Text.digitsValue (← digits 2)

/-- Numbers are read up to this one. -/
def numberLimit : Nat := UInt64.size / 2 - 1

/-- The digits of a number that has a sign. -/
def signed : Scan Nat := do
  let n := Text.digitsValue (← digits (← get).length)
  if numberLimit < n then failure
  return n

/-- A year: at most four digits, or a sign and any number of digits. -/
def year : Scan Int := do
  blanks
  match ← get with
  | '-' :: rest => do
    set rest
    return -(← signed : Int)
  | '+' :: rest => do
    set rest
    return (← signed : Int)
  | _ => return (Text.digitsValue (← digits 4) : Int)

/-- The mark between two parts, after blanks. -/
def mark (c : Char) : Scan Unit := do
  blanks
  char c

/-- The nanoseconds of a fraction; without a point there are none. -/
def fraction : Scan Nat := do
  match ← get with
  | '.' :: rest => do
    set rest
    let taken ← digits 9
    modify (·.dropWhile Char.isDigit)
    return Text.digitsValue taken * Nat.pow 10 (9 - taken.length)
  | _ => return 0

/-- Exactly two digits. -/
def twoDigits : Scan Nat := do
  match ← get with
  | a :: b :: rest =>
    if a.isDigit ∧ b.isDigit then
      set rest
      return Text.digitsValue [a, b]
    else failure
  | _ => failure

/-- The offset from universal time, in seconds: `Z`, `UTC`, or hours and minutes with a sign. -/
def offset : Scan Int := do
  match ← get with
  | 'Z' :: rest | 'z' :: rest => do
    set rest
    return 0
  | sign :: rest => do
    let word := (sign :: rest).take 3
    if word.map Char.toUpper = ['U', 'T', 'C'] then
      set (rest.drop 2)
      return 0
    let negative ← if sign = '+' then pure false
      else if sign = '-' ∨ sign = '\u2212' then pure true
      else failure
    set rest
    let hours ← twoDigits
    modify (·.dropWhile fun c => c = ':' || Text.isBlank c)
    let minutes ← twoDigits
    if 59 < minutes then failure
    let seconds : Int := hours * 3600 + minutes * 60
    return if negative then -seconds else seconds
  | [] => failure

end Scan

/-- The years that a stamp may lie in. -/
def firstYear : Int := -262143

/-- The last of them. -/
def lastYear : Int := 262142

/-- A moment, up to blanks at the end of the text. -/
def Stamp.scan : Scan Stamp := do
  let year ← Scan.year
  Scan.mark '-'
  let month ← Scan.short
  Scan.mark '-'
  let day ← Scan.short
  match ← get with
  | 't' :: rest | 'T' :: rest | ' ' :: rest => set rest
  | _ => failure
  let hour ← Scan.short
  Scan.mark ':'
  let minute ← Scan.short
  Scan.mark ':'
  let second ← Scan.short
  let nanos ← Scan.fraction
  Scan.blanks
  let offset ← Scan.offset
  Scan.blanks
  unless (← get).isEmpty do failure
  let date : Date := ⟨year, month, day⟩
  unless firstYear ≤ year ∧ year ≤ lastYear ∧ date.isValid do failure
  unless hour < 24 ∧ minute < 60 ∧ second ≤ 60 do failure
  unless -86400 < offset ∧ offset < 86400 do failure
  let (second, nanos) := if second = 60 then (59, nanos + 1000000000) else (second, nanos)
  let time : Int := hour * 3600 + minute * 60 + second
  let seconds := date.toDays * 86400 + time - offset
  let inUtc := (Date.ofDays (seconds / 86400)).year
  unless firstYear ≤ inUtc ∧ inUtc ≤ lastYear do failure
  return ⟨seconds, nanos⟩

/-- The moment that a text gives. -/
def Stamp.parse? (text : String) : Option Stamp :=
  (Stamp.scan.run text.toList).map (·.1)

example : Stamp.parse? "2026-01-01T00:00:00Z" = some ⟨1767225600, 0⟩ := by decide +kernel
example : Stamp.parse? "2026-01-01 02:00:00.5 +0200" = some ⟨1767225600, 500000000⟩ := by
  decide +kernel
example : Stamp.parse? "2026-02-30T00:00:00Z" = none := by decide +kernel

end Courier.Time
