import Courier.Text.Utf8

/-!
# Byte order marks

A mark at the start of a text says how its characters are written in bytes. Without a mark the text
is in UTF-8. The mark itself is no part of the text, and whatever is no character becomes U+FFFD.

## Main definitions

* `units`, `decodeUnits`: UTF-16.
* `decodeMarked`: a text with or without a mark.
-/

namespace Courier.Text

/-- Bytes in pairs, the one that counts more first or last; a byte that is left over is no pair. -/
def units (bigEndian : Bool) : List UInt8 → List (Option Nat)
  | a :: b :: rest =>
    some (if bigEndian then a.toNat * 256 + b.toNat else b.toNat * 256 + a.toNat)
      :: units bigEndian rest
  | [_] => [none]
  | [] => []

/-- The first half of a character beyond U+FFFF. -/
def isHigh (n : Nat) : Bool := 0xD800 ≤ n && n < 0xDC00

/-- The second half of a character beyond U+FFFF. -/
def isLow (n : Nat) : Bool := 0xDC00 ≤ n && n < 0xE000

/-- The characters of units of 16 bits. -/
def decodeUnits : List (Option Nat) → List Char
  | [] => []
  | none :: rest => '\uFFFD' :: decodeUnits rest
  | some a :: some b :: rest =>
    if isHigh a ∧ isLow b then
      Char.ofNat (0x10000 + (a - 0xD800) * 0x400 + (b - 0xDC00)) :: decodeUnits rest
    else (if isHigh a ∨ isLow a then '\uFFFD' else Char.ofNat a) :: decodeUnits (some b :: rest)
  | some a :: rest =>
    (if isHigh a ∨ isLow a then '\uFFFD' else Char.ofNat a) :: decodeUnits rest

/-- A text that may start with a mark. -/
def decodeMarked : List UInt8 → String
  | 0xEF :: 0xBB :: 0xBF :: rest => Utf8.decodeLossy rest
  | 0xFE :: 0xFF :: rest => String.ofList (decodeUnits (units true rest))
  | 0xFF :: 0xFE :: rest => String.ofList (decodeUnits (units false rest))
  | bytes => Utf8.decodeLossy bytes

example : decodeMarked [0xFE, 0xFF, 0xD8, 0x3D, 0xDE, 0x00, 0x41] = "😀\uFFFD" := by decide +kernel
example : decodeMarked [0xFF, 0x41] = "\uFFFDA" := by decide +kernel

end Courier.Text
