import Courier.Proofs.Text.Utf8
import Courier.Url.Percent

/-!
# Escapes are read back

In some parts of a URL the percent sign itself is escaped. There an encoded text says exactly which
text it was: its bytes are read back, so two texts are never encoded alike, and nothing that is
reserved in the part stands in it.

## Main definitions

* `decode_encode`: the bytes of an encoded text.
* `encode_injective`: different texts are encoded differently.
* `isSafe_or_of_mem_encode`: the characters of an encoded text.
-/

namespace Courier.Url.Percent

variable {part : Part}

theorem hexValue?_hexDigit : ∀ n < 16, hexValue? (hexDigit n) = some n := by
  decide

theorem isAlphanum_hexDigit : ∀ n < 16, (hexDigit n).isAlphanum := by
  decide

/-! ## Reading back -/

theorem decode_cons_of_ne {c : Char} (h : c ≠ '%') (cs : List Char) :
    decode (c :: cs) = String.utf8EncodeChar c ++ decode cs := by
  rw [decode]
  intro a b rest hpercent
  exact absurd hpercent h

/-- An escape is read as its byte. -/
theorem decode_encodeByte (b : UInt8) (cs : List Char) :
    decode (encodeByte b ++ cs) = b :: decode cs := by
  have hbyte : b.toNat < 256 := b.toNat_lt
  have hself : UInt8.ofNat (b.toNat / 16 * 16 + b.toNat % 16) = b := by
    rw [Nat.div_add_mod', UInt8.ofNat_toNat]
  simp only [encodeByte, List.cons_append, List.nil_append]
  rw [decode, hexValue?_hexDigit _ (by omega), hexValue?_hexDigit _ (by omega)]
  exact congrArg (· :: decode cs) hself

theorem decode_flatMap_encodeByte (bytes : List UInt8) (cs : List Char) :
    decode (bytes.flatMap encodeByte ++ cs) = bytes ++ decode cs := by
  induction bytes with
  | nil => rfl
  | cons b bytes ih =>
    rw [List.flatMap_cons, List.append_assoc, decode_encodeByte, ih, List.cons_append]

/-- Where the percent sign is escaped, no percent sign stands for itself. -/
theorem ne_percent_of_isSafe (escaped : '%' ∈ part.reserved) {c : Char} (h : isSafe part c) :
    c ≠ '%' := by
  rintro rfl
  simp [isSafe, escaped] at h

theorem decode_encodeChar (escaped : '%' ∈ part.reserved) (c : Char) (cs : List Char) :
    decode (encodeChar part c ++ cs) = String.utf8EncodeChar c ++ decode cs := by
  unfold encodeChar
  split
  · next safe =>
    rw [List.singleton_append, decode_cons_of_ne (ne_percent_of_isSafe escaped safe)]
  · exact decode_flatMap_encodeByte _ cs

/-- The bytes of an encoded text are those of the text. -/
theorem decode_encode (escaped : '%' ∈ part.reserved) (cs : List Char) :
    decode (encode part cs) = Text.Utf8.encode cs := by
  induction cs with
  | nil => rfl
  | cons c cs ih => rw [encode_cons, decode_encodeChar escaped, ih, Text.Utf8.encode_cons]

/-- Different texts are encoded differently. -/
theorem encode_injective (escaped : '%' ∈ part.reserved) : Function.Injective (encode part) := by
  intro cs ds h
  apply Text.Utf8.encode_injective
  rw [← decode_encode escaped, ← decode_encode escaped, h]

/-! ## What stands in an encoded text -/

theorem mem_encodeByte {b : UInt8} {c : Char} (h : c ∈ encodeByte b) :
    c = '%' ∨ c.isAlphanum := by
  have hbyte : b.toNat < 256 := b.toNat_lt
  simp only [encodeByte, List.mem_cons, List.not_mem_nil, or_false] at h
  rcases h with rfl | rfl | rfl
  · exact .inl rfl
  · exact .inr (isAlphanum_hexDigit _ (by omega))
  · exact .inr (isAlphanum_hexDigit _ (by omega))

/-- A character of an encoded text stands for itself or belongs to an escape. -/
theorem isSafe_or_of_mem_encode {c : Char} {cs : List Char} (h : c ∈ encode part cs) :
    isSafe part c ∨ c = '%' ∨ c.isAlphanum := by
  obtain ⟨d, -, hmem⟩ := List.mem_flatMap.1 h
  unfold encodeChar at hmem
  split at hmem
  · next safe =>
    rw [List.mem_singleton.1 hmem]
    exact .inl safe
  · obtain ⟨b, -, hmem⟩ := List.mem_flatMap.1 hmem
    exact .inr (mem_encodeByte hmem)

/-- What is reserved in a part does not stand in it, but for what escapes are made of. -/
theorem notMem_encode {c : Char} (reserved : c ∈ part.reserved) (plain : c ≠ '%')
    (sign : c.isAlphanum = false) (cs : List Char) : c ∉ encode part cs := by
  intro hmem
  rcases isSafe_or_of_mem_encode hmem with safe | percent | letter
  · simp [isSafe, reserved] at safe
  · exact plain percent
  · simp [sign] at letter

end Courier.Url.Percent
