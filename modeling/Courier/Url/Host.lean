import Courier.Text.Pieces
import Courier.Url.Percent

/-!
# Hosts

A host is a name or a numerical address. An address of 32 bits is written as one to four numbers,
the last of which fills all the bytes that are left; an address of 128 bits as eight pieces of
sixteen bits, and one run of zeros may be left out.

## Main definitions

* `Host`, `Host.text`.
* `Host.ofNumbers?`, `Host.ofPieces?`: reading the two kinds of addresses.
* `Host.endsInNumber`: whether a name has to be an address of 32 bits.
-/

namespace Courier.Url

/-- A host. -/
inductive Host where
  /-- A name, as it is written. -/
  | name (text : List Char)
  /-- An address of 32 bits. -/
  | ipv4 (address : Nat)
  /-- An address of eight pieces of 16 bits. -/
  | ipv6 (pieces : List Nat)
  deriving DecidableEq, Repr

namespace Host

/-! ## Addresses of 32 bits -/

/-- A number in the given base. -/
def numberIn? (base : Nat) (cs : List Char) : Option Nat :=
  cs.foldlM (fun n c => do
    let d ← Percent.hexValue? c
    if d < base then some (n * base + d) else none) 0

/-- A number of an address: with `0x` in front it is hexadecimal, with another zero octal. -/
def number? : List Char → Option Nat
  | [] => none
  | '0' :: 'x' :: cs | '0' :: 'X' :: cs => numberIn? 16 cs
  | '0' :: c :: cs => numberIn? 8 (c :: cs)
  | cs => numberIn? 10 cs

/-- The labels of a name. One empty label at the end does not count as long as there is another. -/
def labels (name : List Char) : List (List Char) :=
  let all := Text.pieces (· == '.') name
  if all.length > 1 ∧ all.getLast? = some [] then all.dropLast else all

/-- The last label is a number, so the name has to be an address. -/
def endsInNumber (name : List Char) : Bool :=
  match (labels name).getLast? with
  | none | some [] => false
  | some label => label.all Char.isDigit || (number? label).isSome

/-- The address that numbers make: all but the last are bytes. -/
def ofNumbers : List Nat → Option Host
  | numbers =>
    match numbers.getLast? with
    | none => none
    | some last =>
      let bytes := numbers.dropLast
      if numbers.length ≤ 4 ∧ bytes.all (· < 256) ∧ last < Nat.pow 256 (4 - bytes.length) then
        some (.ipv4 (bytes.zipIdx.foldl (fun sum (b, i) => sum + b * Nat.pow 256 (3 - i)) last))
      else none

/-- The address that a name stands for. -/
def ofNumbers? (name : List Char) : Option Host := do
  let numbers ← (labels name).mapM number?
  ofNumbers numbers

/-! ## Addresses of 128 bits -/

/-- A piece: one to four hexadecimal digits. -/
def piece? (cs : List Char) : Option Nat :=
  if 1 ≤ cs.length ∧ cs.length ≤ 4 then numberIn? 16 cs else none

/-- A decimal number up to 255 without a zero in front. -/
def byte? (cs : List Char) : Option Nat := do
  let n ← numberIn? 10 cs
  let plain := cs.length = 1 ∨ (cs.length ≤ 3 ∧ cs.head? ≠ some '0')
  if cs ≠ [] ∧ plain ∧ n < 256 then some n else none

/-- Four bytes with points between them, as two pieces. -/
def bytePieces? (cs : List Char) : Option (List Nat) := do
  match ← (Text.pieces (· == '.') cs).mapM byte? with
  | [a, b, c, d] => some [a * 256 + b, c * 256 + d]
  | _ => none

/-- Pieces with colons between them, of which the last may be four bytes if they end an address. -/
def run? (isLast : Bool) (cs : List Char) : Option (List Nat) :=
  if cs = [] then some []
  else do
    let texts := Text.pieces (· == ':') cs
    let last := texts.getLastD []
    let front ← texts.dropLast.mapM piece?
    let back ← if isLast ∧ last.contains '.' then bytePieces? last else (piece? last).map ([·])
    some (front ++ back)

/-- The parts around the first two colons in a row. -/
def splitGap? : List Char → Option (List Char × List Char)
  | [] => none
  | ':' :: ':' :: cs => some ([], cs)
  | c :: cs => (splitGap? cs).map fun (before, after) => (c :: before, after)

/-- The address that a text stands for. A gap stands for one zero at least. -/
def ofPieces? (cs : List Char) : Option Host := do
  match splitGap? cs with
  | none =>
    let pieces ← run? true cs
    if pieces.length = 8 then some (.ipv6 pieces) else none
  | some (before, after) =>
    let front ← run? false before
    let back ← run? true after
    let count := front.length + back.length
    if count ≤ 7 then some (.ipv6 (front ++ List.replicate (8 - count) 0 ++ back)) else none

/-! ## Writing hosts -/

/-- The length of the run of zeros at the start. -/
def zeros (pieces : List Nat) : Nat :=
  (pieces.takeWhile (· == 0)).length

/-- Where the longest run of zeros starts and how long it is; of two, the first. -/
def longestZeros : Nat → List Nat → Nat × Nat
  | _, [] => (0, 0)
  | start, p :: ps =>
    let here := zeros (p :: ps)
    let later := longestZeros (start + 1) ps
    if later.2 ≤ here then (start, here) else later

/-- A number in hexadecimal. -/
def hex (n : Nat) : List Char :=
  Nat.toDigits 16 n

/-- Pieces with colons between them. -/
def joinPieces (pieces : List Nat) : List Char :=
  (pieces.map hex).intersperse [':'] |>.flatten

/-- An address of 128 bits; its longest run of zeros is left out if it has two or more. -/
def piecesText (pieces : List Nat) : List Char :=
  let (start, length) := longestZeros 0 pieces
  if length < 2 then joinPieces pieces
  else
    joinPieces (pieces.take start) ++ [':', ':'] ++ joinPieces (pieces.drop (start + length))

/-- The written form of a host. -/
def text : Host → List Char
  | name text => text
  | ipv4 address =>
    let byte (i : Nat) : List Char := (toString (address / Nat.pow 256 i % 256)).toList
    byte 3 ++ ['.'] ++ byte 2 ++ ['.'] ++ byte 1 ++ ['.'] ++ byte 0
  | ipv6 pieces => ['['] ++ piecesText pieces ++ [']']

/-- There is nothing written. -/
def isEmpty : Host → Bool
  | name text => text.isEmpty
  | _ => false

example : (ofNumbers? "0x7f.1".toList).map text = some "127.0.0.1".toList := by decide +kernel
example : ofNumbers? "1.2.3.256".toList = none := by decide +kernel
example : (ofPieces? "1:0:0:2:0:0:0:3".toList).map text = some "[1:0:0:2::3]".toList := by
  decide +kernel
example : (ofPieces? "::ffff:1.2.3.4".toList).map text = some "[::ffff:102:304]".toList := by
  decide +kernel
example : ofPieces? "1::2::3".toList = none := by decide +kernel

end Host

end Courier.Url
