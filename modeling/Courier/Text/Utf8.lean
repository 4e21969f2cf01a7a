/-!
# UTF-8

Payloads and answers arrive as bytes. Not all of them are text: a string that is only skipped may
hold anything, so decoding keeps its place instead of giving up. Each character comes out as
`some c`, and each longest run of bytes that begins a character and does not complete it as one
`none`; what follows such a run is read afresh.

## Main definitions

* `decode`: bytes as characters and gaps.
* `encode`: the bytes of a text.
* `decodeLossy`: gaps become U+FFFD, for texts that are only quoted.
-/

namespace Courier.Text.Utf8

/-- Between two bytes the decoder is either at a character's start, or has read a beginning of it:
the bits so far, how many bytes are still to come, and the closed range the next of them lies in. -/
inductive State where
  | start
  | within (bits remaining first last : Nat)
  deriving DecidableEq, Repr

/-- What a byte at a character's start brings about: a character or a gap, or the state within a
longer character. The ranges leave out the overlong forms, the surrogates and the code points
above U+10FFFF. -/
def lead (b : Nat) : Option Char ⊕ State :=
  if b < 0x80 then .inl (some (Char.ofNat b))
  else if b < 0xC2 then .inl none
  else if b < 0xE0 then .inr (.within (b - 0xC0) 1 0x80 0xBF)
  else if b = 0xE0 then .inr (.within 0 2 0xA0 0xBF)
  else if b = 0xED then .inr (.within 0xD 2 0x80 0x9F)
  else if b < 0xF0 then .inr (.within (b - 0xE0) 2 0x80 0xBF)
  else if b = 0xF0 then .inr (.within 0 3 0x90 0xBF)
  else if b < 0xF4 then .inr (.within (b - 0xF0) 3 0x80 0xBF)
  else if b = 0xF4 then .inr (.within 4 3 0x80 0x8F)
  else .inl none

/-- Decode the rest of the bytes from the given state. -/
def decodeFrom : State → List UInt8 → List (Option Char)
  | .start, [] => []
  | .within .., [] => [none]
  | .start, b :: bs =>
    match lead b.toNat with
    | .inl unit => unit :: decodeFrom .start bs
    | .inr state => decodeFrom state bs
  | .within bits remaining first last, b :: bs =>
    if first ≤ b.toNat ∧ b.toNat ≤ last then
      let bits := bits * 0x40 + (b.toNat - 0x80)
      if remaining ≤ 1 then some (Char.ofNat bits) :: decodeFrom .start bs
      else decodeFrom (.within bits (remaining - 1) 0x80 0xBF) bs
    else
      none :: match lead b.toNat with
        | .inl unit => unit :: decodeFrom .start bs
        | .inr state => decodeFrom state bs

/-- The characters of the bytes, with a gap for each run that is no character. -/
def decode (bytes : List UInt8) : List (Option Char) :=
  decodeFrom .start bytes

/-- The bytes of a text. -/
def encode (cs : List Char) : List UInt8 :=
  cs.flatMap String.utf8EncodeChar

/-- The text of the bytes, each gap read as U+FFFD. -/
def decodeLossy (bytes : List UInt8) : String :=
  String.ofList ((decode bytes).map (·.getD '\uFFFD'))

@[simp] theorem decode_nil : decode [] = [] := rfl

@[simp] theorem encode_nil : encode [] = [] := rfl

@[simp] theorem encode_cons (c : Char) (cs : List Char) :
    encode (c :: cs) = String.utf8EncodeChar c ++ encode cs := rfl

@[simp] theorem encode_append (cs ds : List Char) : encode (cs ++ ds) = encode cs ++ encode ds := by
  simp [encode]

end Courier.Text.Utf8
