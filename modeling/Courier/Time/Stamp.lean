import Courier.Time.Calendar

/-!
# Time stamps

A moment of universal time, to the nanosecond. A leap second is the second before it, drawn out: its
nanoseconds run on to two thousand million.

Stamps are written as in RFC 3339, with `Z`, and with no fraction or three, six or nine digits of
it, the fewest that are exact.

## Main definitions

* `Stamp`, `Stamp.ofMicros`.
* `Stamp.text`.
-/

namespace Courier.Time

/-- A moment of universal time. -/
structure Stamp where
  /-- Whole seconds since 1970-01-01T00:00:00Z. -/
  seconds : Int
  /-- Nanoseconds on top of them; a thousand million and more within a leap second. -/
  nanos : Nat := 0
  deriving DecidableEq, Repr, Inhabited

namespace Stamp

/-- The moment that many microseconds after another. -/
def addMicros (s : Stamp) (micros : Nat) : Stamp :=
  let nanos := s.nanos + micros * 1000
  ⟨s.seconds + nanos / 1000000000, nanos % 1000000000⟩

/-- The digits of a number, with zeros in front up to the given width. -/
def padded (width n : Nat) : List Char :=
  let digits := Nat.toDigits 10 n
  List.replicate (width - digits.length) '0' ++ digits

/-- A year has four digits. One that needs more, or that is before the year 0, has a sign. -/
def yearChars (year : Int) : List Char :=
  match year with
  | .ofNat y => if y < 10000 then padded 4 y else '+' :: padded 4 y
  | .negSucc y => '-' :: padded 4 (y + 1)

/-- A fraction with three, six or nine digits, or none. -/
def fractionChars (nanos : Nat) : List Char :=
  if nanos = 0 then []
  else if nanos % 1000000 = 0 then '.' :: padded 3 (nanos / 1000000)
  else if nanos % 1000 = 0 then '.' :: padded 6 (nanos / 1000)
  else '.' :: padded 9 nanos

/-- A moment in writing. -/
def text (s : Stamp) : String :=
  let date := Date.ofDays (s.seconds / 86400)
  let time := (s.seconds % 86400).toNat
  let leap := s.nanos / 1000000000
  String.ofList <|
    yearChars date.year ++ '-' :: padded 2 date.month ++ '-' :: padded 2 date.day
      ++ 'T' :: padded 2 (time / 3600) ++ ':' :: padded 2 (time / 60 % 60)
      ++ ':' :: padded 2 (time % 60 + leap) ++ fractionChars (s.nanos % 1000000000) ++ ['Z']

example : text ⟨1767225600, 0⟩ = "2026-01-01T00:00:00Z" := by decide +kernel
example : text ⟨1767225600, 120000000⟩ = "2026-01-01T00:00:00.120Z" := by decide +kernel
example : text ⟨-1, 1000⟩ = "1969-12-31T23:59:59.000001Z" := by decide +kernel

end Stamp

end Courier.Time
