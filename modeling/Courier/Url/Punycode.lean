/-!
# Punycode

A label of a domain name that has other characters than those of ASCII is written in ASCII: the
ASCII characters first, and then, as numbers of variable length, where each of the others goes. The
others are taken in the order of their code points, so a number only says how far on from the last
insertion the next one is.

## Main definitions

* `Punycode.encode`, `Punycode.decode?`, both without the mark in front of a label.
-/

namespace Courier.Url.Punycode

/-- A digit of base 36: letters first, then the digits of ten. -/
def digit (n : Nat) : Char :=
  if n < 26 then Char.ofNat (97 + n) else Char.ofNat (22 + n)

/-- The value of a digit. -/
def digitValue? (c : Char) : Option Nat :=
  if 'a' ≤ c ∧ c ≤ 'z' then some (c.toNat - 97)
  else if 'A' ≤ c ∧ c ≤ 'Z' then some (c.toNat - 65)
  else if c.isDigit then some (c.toNat - 22)
  else none

/-- The value from which on the digit at a position is not the last of its number. -/
def threshold (position bias : Nat) : Nat :=
  min 26 (max 1 (position - bias))

/-- Divide by 35 while the number is large, counting the divisions. -/
def damp : Nat → Nat → Nat → Nat × Nat
  | 0, n, k => (n, k)
  | fuel + 1, n, k => if 455 < n then damp fuel (n / 35) (k + 36) else (n, k)

/-- The bias after a number, given how many characters there are by then. -/
def adapt (number count : Nat) (first : Bool) : Nat :=
  let n := if first then number / 700 else number / 2
  let (n, k) := damp 20 (n + n / count) 0
  k + 36 * n / (n + 38)

/-- A number as digits, from the given position on. -/
def number : Nat → Nat → Nat → Nat → List Char
  | 0, _, _, _ => []
  | fuel + 1, n, position, bias =>
    let t := threshold position bias
    if n < t then [digit n]
    else digit (t + (n - t) % (36 - t)) :: number fuel ((n - t) / (36 - t)) (position + 36) bias

/-- What encoding remembers between two insertions. -/
structure State where
  /-- How far on the next insertion is. -/
  delta : Nat := 0
  bias : Nat := 72
  /-- The number of characters written. -/
  written : Nat
  first : Bool := true
  output : List Char := []

/-- Go past one character of the label, inserting it if it is the one whose turn it is. -/
def visit (current : Nat) (s : State) (c : Nat) : State :=
  if c < current then { s with delta := s.delta + 1 }
  else if c = current then
    { delta := 0
      bias := adapt s.delta (s.written + 1) s.first
      written := s.written + 1
      first := false
      output := s.output ++ number 40 s.delta 36 s.bias }
  else s

/-- Insert all characters of one code point, the last code point being given. -/
def insertAll (label : List Nat) (s : State) (last current : Nat) : State :=
  let s := { s with delta := s.delta + (current - last) * (s.written + 1) }
  let s := label.foldl (visit current) s
  { s with delta := s.delta + 1 }

/-- The code points beyond ASCII, each once, in ascending order. -/
def others (label : List Nat) : List Nat :=
  ((label.filter (128 ≤ ·)).mergeSort (· ≤ ·)).eraseReps

/-- Insert characters, one code point after another. -/
def insertOthers (label : List Nat) : State → Nat → List Nat → State
  | s, _, [] => s
  | s, last, current :: rest =>
    insertOthers label (insertAll label s last current) (current + 1) rest

/-- A label in ASCII. -/
def encode (label : List Char) : List Char :=
  let basic := label.filter (·.toNat < 128)
  let codes := label.map Char.toNat
  let s := insertOthers codes { written := basic.length } 128 (others codes)
  (if basic.isEmpty then [] else basic ++ ['-']) ++ s.output

/-- What decoding remembers between two digits. -/
structure Reading where
  label : List Nat
  code : Nat := 128
  /-- Where the last insertion was. -/
  index : Nat := 0
  /-- How far on the next one is, as far as it has been read. -/
  offset : Nat := 0
  weight : Nat := 1
  position : Nat := 36
  bias : Nat := 72
  first : Bool := true

/-- Read a digit; the last of a number inserts a character. -/
def Reading.take (r : Reading) (d : Nat) : Reading :=
  let offset := r.offset + d * r.weight
  let t := threshold r.position r.bias
  if d < t then
    let count := r.label.length + 1
    let place := r.index + offset
    let code := r.code + place / count
    let index := place % count
    { label := r.label.take index ++ code :: r.label.drop index
      code, index := index + 1
      bias := adapt offset count r.first
      first := false }
  else { r with offset, weight := r.weight * (36 - t), position := r.position + 36 }

/-- The part of a label after its last hyphen, and the part before it. -/
def splitLabel (label : List Char) : List Char × List Char :=
  let tail := label.reverse.takeWhile (· != '-')
  if tail.length = label.length then ([], label)
  else (label.take (label.length - tail.length - 1), tail.reverse)

/-- The label that was encoded, if the text encodes one. -/
def decode? (label : List Char) : Option (List Char) := do
  let (basic, tail) := splitLabel label
  let digits ← tail.mapM digitValue?
  let r := digits.foldl Reading.take { label := basic.map Char.toNat }
  let complete := r.offset = 0 ∧ r.position = 36
  let valid := r.label.all fun n => n < 0xD800 ∨ (0xE000 ≤ n ∧ n < 0x110000)
  if complete ∧ valid then some (r.label.map Char.ofNat) else none

example : encode ['b', 'ü', 'c', 'h', 'e', 'r'] = "bcher-kva".toList := by decide +kernel
example : decode? "bcher-kva".toList = some ['b', 'ü', 'c', 'h', 'e', 'r'] := by decide +kernel

end Courier.Url.Punycode
