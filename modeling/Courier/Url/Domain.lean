import Courier.Text.Pieces
import Courier.Text.SmallLetter
import Courier.Text.Utf8
import Courier.Url.Punycode

/-!
# Domain names

A domain name is a sequence of labels with points between them. It is looked up in ASCII and in
small letters: a label with other characters is written in Punycode, with a mark in front. Several
characters count as a point, full-width forms as the plain ones, and some that are not seen do not
count at all.

## Main definitions

* `Domain.mapChar`: what a character counts as.
* `Domain.isForbidden`, `Domain.isDisallowed`: what no domain name has.
* `Domain.toAscii?`.
-/

namespace Courier.Url.Domain

/-- Ranges of characters that do not count. -/
def ignoredRanges : List (Nat × Nat) :=
  [(0xAD, 0xAD), (0x34F, 0x34F), (0x180B, 0x180D), (0x180F, 0x180F), (0x200B, 0x200B),
   (0x2060, 0x2060), (0x2064, 0x2064), (0xFE00, 0xFE0F), (0xFEFF, 0xFEFF), (0xE0100, 0xE01EF)]

/-- Ranges of characters that are neither letters nor signs. -/
def disallowedRanges : List (Nat × Nat) :=
  [(0x80, 0xA0), (0xA8, 0xA8), (0xAF, 0xAF), (0xB4, 0xB4), (0xB8, 0xB8), (0x2000, 0x200F),
   (0x2024, 0x2026), (0x2028, 0x202F), (0x205F, 0x206F), (0x2FF0, 0x3000), (0xD800, 0xF8FF),
   (0xFDD0, 0xFDEF), (0xFFF0, 0xFFFF), (0x1FFFE, 0x1FFFF), (0xE0000, 0x10FFFF)]

/-- Ranges of marks that join the character before them. -/
def markRanges : List (Nat × Nat) :=
  [(0x300, 0x36F), (0x483, 0x489), (0x591, 0x5BD), (0x610, 0x61A), (0x64B, 0x65F), (0x1AB0, 0x1ACE),
   (0x1DC0, 0x1DFF), (0x20D0, 0x20F0), (0xFE20, 0xFE2F)]

/-- One of the ranges holds the code point. -/
def within (n : Nat) (ranges : List (Nat × Nat)) : Bool :=
  ranges.any fun (first, last) => first ≤ n && n ≤ last

/-- Characters that count as a point. -/
def points : List Char := ['.', '\u3002', '\uFF0E', '\uFF61']

/-- Single characters that count as others. -/
def variants : List (Char × Char) :=
  [('ª', 'a'), ('º', 'o'), ('¹', '1'), ('²', '2'), ('³', '3'), ('µ', 'μ'), ('ſ', 's')]

/-- What a character counts as. -/
def mapChar (c : Char) : List Char :=
  if points.contains c then ['.']
  else if within c.toNat ignoredRanges then []
  else if 0xFF01 ≤ c.toNat ∧ c.toNat ≤ 0xFF5E then [(Char.ofNat (c.toNat - 0xFEE0)).toLower]
  else [(variants.lookup c).getD (Text.smallLetter c)]

/-- Characters of ASCII that no domain name has. -/
def isForbidden (c : Char) : Bool :=
  c.toNat ≤ 0x20 || c.toNat == 0x7F || "%#/:<>?@[\\]^|".toList.contains c

/-- The character is no letter and no sign. -/
def isDisallowed (c : Char) : Bool :=
  within c.toNat disallowedRanges

/-- The mark in front of a label in Punycode. -/
def mark : List Char := "xn--".toList

/-- A label may be a part of a domain name. -/
def isLabel (label : List Char) : Bool :=
  !label.any isDisallowed && !(label.head?.any fun c => within c.toNat markRanges)

/-- A label has characters beyond ASCII. -/
def isWide (label : List Char) : Bool :=
  label.any fun c => 0x80 ≤ c.toNat

/-- A label, every character of which has been mapped, in ASCII. -/
def labelToAscii? (label : List Char) : Option (List Char) :=
  if mark.isPrefixOf label then do
    if isWide label then none
    let wide ← Punycode.decode? (label.drop mark.length)
    if isWide wide ∧ isLabel wide ∧ wide.flatMap mapChar = wide then some label else none
  else if ¬ isWide label then some label
  else if isLabel label then some (mark ++ Punycode.encode label)
  else none

/-- The bytes of a domain name in ASCII, if it is one. -/
def toAscii? (bytes : List UInt8) : Option (List Char) := do
  let cs ← (Text.Utf8.decode bytes).mapM id
  let mapped := cs.flatMap mapChar
  if mapped.any isForbidden then none
  let labels ← (Text.pieces (· == '.') mapped).mapM labelToAscii?
  some (labels.intersperse ['.']).flatten

example : toAscii? (Text.Utf8.encode "BÜCHER。De".toList) = some "xn--bcher-kva.de".toList := by
  decide +kernel
example : toAscii? (Text.Utf8.encode "xn--BCHER-kva".toList) = some "xn--bcher-kva".toList := by
  decide +kernel
example : toAscii? (Text.Utf8.encode "xn--a".toList) = none := by decide +kernel
example : toAscii? [0xFF] = none := by decide +kernel

end Courier.Url.Domain
