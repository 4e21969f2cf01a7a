import Courier.Text.Utf8

/-!
# Percent encoding

A character that must not stand as it is in a part of a URL stands there as its bytes, each written
as a percent sign and two hexadecimal digits. Which characters these are depends on the part; beyond
ASCII it is all of them.

## Main definitions

* `Percent.isSafe`: the characters that stand for themselves in a part of a URL.
* `Percent.encode`, `Percent.decode`.
-/

namespace Courier.Url.Percent

/-- The control characters of ASCII. -/
def isControl (c : Char) : Bool :=
  c.toNat < 0x20 || c.toNat == 0x7F

/-- A part of a URL, as far as encoding goes. -/
inductive Part where
  /-- The name and the password of a user. -/
  | userinfo
  /-- The name of a host about which nothing is known. -/
  | host
  /-- A path that is read as a whole. -/
  | path
  /-- One segment that is put into a path. A backslash separates segments in some schemes. -/
  | segment (backslashSeparates : Bool)
  /-- A query. In some schemes an apostrophe is encoded there. -/
  | query (encodesApostrophe : Bool)
  /-- A fragment. -/
  | fragment
  deriving DecidableEq, Repr

/-- The characters, besides controls and those beyond ASCII, that are encoded in a part. -/
def Part.reserved : Part → List Char
  | host => []
  | fragment => [' ', '"', '<', '>', '\x60']
  | path => [' ', '"', '<', '>', '\x60', '#', '?', '\x7b', '\x7d']
  | segment false => [' ', '"', '<', '>', '\x60', '#', '?', '\x7b', '\x7d', '/', '%']
  | segment true => [' ', '"', '<', '>', '\x60', '#', '?', '\x7b', '\x7d', '/', '%', '\\']
  | userinfo =>
    [' ', '"', '<', '>', '\x60', '#', '?', '\x7b', '\x7d', '/', ':', ';', '=', '@', '[', '\\', ']',
      '^', '|']
  | query false => [' ', '"', '#', '<', '>']
  | query true => [' ', '"', '#', '<', '>', '\x27']

/-- The character stands for itself. -/
def isSafe (part : Part) (c : Char) : Bool :=
  !isControl c && c.toNat < 0x80 && !part.reserved.contains c

/-- A hexadecimal digit, a capital letter above nine. -/
def hexDigit (n : Nat) : Char :=
  if n < 10 then Char.ofNat (48 + n) else Char.ofNat (55 + n)

/-- A byte as a percent sign and two digits. -/
def encodeByte (b : UInt8) : List Char :=
  ['%', hexDigit (b.toNat / 16), hexDigit (b.toNat % 16)]

/-- A character in a part of a URL. -/
def encodeChar (part : Part) (c : Char) : List Char :=
  if isSafe part c then [c] else (String.utf8EncodeChar c).flatMap encodeByte

/-- A text in a part of a URL. -/
def encode (part : Part) (cs : List Char) : List Char :=
  cs.flatMap (encodeChar part)

/-- The value of a hexadecimal digit. -/
def hexValue? (c : Char) : Option Nat :=
  if c.isDigit then some (c.toNat - 48)
  else if 'A' ≤ c ∧ c ≤ 'F' then some (c.toNat - 55)
  else if 'a' ≤ c ∧ c ≤ 'f' then some (c.toNat - 87)
  else none

/-- The bytes that an encoded text stands for. A percent sign without two digits after it stands for
itself. -/
def decode : List Char → List UInt8
  | [] => []
  | '%' :: a :: b :: cs =>
    match hexValue? a, hexValue? b with
    | some m, some n => UInt8.ofNat (m * 16 + n) :: decode cs
    | _, _ => String.utf8EncodeChar '%' ++ decode (a :: b :: cs)
  | c :: cs => String.utf8EncodeChar c ++ decode cs

@[simp] theorem encode_nil (part : Part) : encode part [] = [] := rfl

@[simp] theorem encode_cons (part : Part) (c : Char) (cs : List Char) :
    encode part (c :: cs) = encodeChar part c ++ encode part cs := rfl

@[simp] theorem encode_append (part : Part) (cs ds : List Char) :
    encode part (cs ++ ds) = encode part cs ++ encode part ds := by
  simp [encode]

end Courier.Url.Percent
