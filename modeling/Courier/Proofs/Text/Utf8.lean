import Courier.Text.Utf8
import Mathlib.Logic.Function.Defs

/-!
# The bytes of a text spell the text

Decoding goes byte by byte, and encoding character by character. The two meet in what each byte of a
character does to the decoder: the first opens a range for the second that leaves the character in,
and every further byte adds six bits.

## Main definitions

* `decode_encode`: the characters of the bytes of a text.
* `encode_injective`: different texts have different bytes.
-/

namespace Courier.Text.Utf8

/-- A byte that fits adds its bits, and the last one completes the character. -/
theorem decodeFrom_within {bits remaining first last n : Nat} {bs : List UInt8} (hn : n < 256)
    (hfirst : first ≤ n) (hlast : n ≤ last) :
    decodeFrom (.within bits remaining first last) (UInt8.ofNat n :: bs) =
      if remaining ≤ 1 then some (Char.ofNat (bits * 0x40 + (n - 0x80))) :: decodeFrom .start bs
      else decodeFrom (.within (bits * 0x40 + (n - 0x80)) (remaining - 1) 0x80 0xBF) bs := by
  have hbyte : (UInt8.ofNat n).toNat = n := UInt8.toNat_ofNat_of_lt hn
  rw [decodeFrom, hbyte, if_pos ⟨hfirst, hlast⟩]

/-- Six bits in a byte of their own. -/
theorem decodeFrom_bits {bits remaining first last n : Nat} {bs : List UInt8}
    (hfirst : first ≤ n % 0x40 + 0x80) (hlast : n % 0x40 + 0x80 ≤ last) :
    decodeFrom (.within bits remaining first last) (UInt8.ofNat (n % 0x40 + 0x80) :: bs) =
      if remaining ≤ 1 then some (Char.ofNat (bits * 0x40 + n % 0x40)) :: decodeFrom .start bs
      else decodeFrom (.within (bits * 0x40 + n % 0x40) (remaining - 1) 0x80 0xBF) bs := by
  rw [decodeFrom_within (by omega) hfirst hlast, Nat.add_sub_cancel]

/-- The first byte of a character. -/
theorem decodeFrom_lead {n : Nat} {bs : List UInt8} (hn : n < 256) {state : State}
    (h : lead n = .inr state) : decodeFrom .start (UInt8.ofNat n :: bs) = decodeFrom state bs := by
  have hbyte : (UInt8.ofNat n).toNat = n := UInt8.toNat_ofNat_of_lt hn
  rw [decodeFrom, hbyte, h]

/-- A character of two bytes. -/
theorem lead_two {n : Nat} (hlow : 0x7F < n) (hhigh : n ≤ 0x7FF) :
    lead (n / 64 % 0x20 + 0xC0) = .inr (.within (n / 64) 1 0x80 0xBF) := by
  have hmod : n / 64 % 0x20 = n / 64 := Nat.mod_eq_of_lt (by omega)
  rw [hmod, lead, if_neg (by omega), if_neg (by omega), if_pos (by omega), Nat.add_sub_cancel]

/-- A character of three bytes: the range of the second one leaves out what two bytes can spell and
the surrogates. -/
theorem lead_three {n : Nat} (hlow : 0x7FF < n) (hhigh : n ≤ 0xFFFF)
    (hchar : n < 0xD800 ∨ 0xDFFF < n) :
    ∃ first last, lead (n / 4096 % 0x10 + 0xE0) = .inr (.within (n / 4096) 2 first last) ∧
      first ≤ n / 64 % 0x40 + 0x80 ∧ n / 64 % 0x40 + 0x80 ≤ last := by
  have hmod : n / 4096 % 0x10 = n / 4096 := Nat.mod_eq_of_lt (by omega)
  rw [hmod, lead, if_neg (by omega), if_neg (by omega), if_neg (by omega)]
  by_cases hzero : n / 4096 = 0
  · refine ⟨0xA0, 0xBF, ?_, ?_, ?_⟩
    · rw [if_pos (by omega), hzero]
    · omega
    · omega
  · rw [if_neg (by omega)]
    by_cases hsurrogate : n / 4096 = 0xD
    · refine ⟨0x80, 0x9F, ?_, ?_, ?_⟩
      · rw [if_pos (by omega), hsurrogate]
      · omega
      · omega
    · refine ⟨0x80, 0xBF, ?_, ?_, ?_⟩
      · rw [if_neg (by omega), if_pos (by omega), Nat.add_sub_cancel]
      · omega
      · omega

/-- A character of four bytes: the range of the second one leaves out what three bytes can spell and
what is no character. -/
theorem lead_four {n : Nat} (hlow : 0xFFFF < n) (hhigh : n < 0x110000) :
    ∃ first last, lead (n / 262144 % 0x08 + 0xF0) = .inr (.within (n / 262144) 3 first last) ∧
      first ≤ n / 4096 % 0x40 + 0x80 ∧ n / 4096 % 0x40 + 0x80 ≤ last := by
  have hmod : n / 262144 % 0x08 = n / 262144 := Nat.mod_eq_of_lt (by omega)
  rw [hmod, lead, if_neg (by omega), if_neg (by omega), if_neg (by omega), if_neg (by omega),
    if_neg (by omega), if_neg (by omega)]
  by_cases hzero : n / 262144 = 0
  · refine ⟨0x90, 0xBF, ?_, ?_, ?_⟩
    · rw [if_pos (by omega), hzero]
    · omega
    · omega
  · rw [if_neg (by omega)]
    by_cases hfour : n / 262144 = 4
    · refine ⟨0x80, 0x8F, ?_, ?_, ?_⟩
      · rw [if_neg (by omega), if_pos (by omega), hfour]
      · omega
      · omega
    · refine ⟨0x80, 0xBF, ?_, ?_, ?_⟩
      · rw [if_pos (by omega), Nat.add_sub_cancel]
      · omega
      · omega

/-- The bytes of a character spell it, whatever follows. -/
theorem decodeFrom_utf8EncodeChar (c : Char) (bs : List UInt8) :
    decodeFrom .start (String.utf8EncodeChar c ++ bs) = some c :: decodeFrom .start bs := by
  have hself : Char.ofNat c.val.toNat = c := Char.ofNat_toNat c
  have hvalid : c.val.toNat < 0xD800 ∨ 0xDFFF < c.val.toNat ∧ c.val.toNat < 0x110000 := c.valid
  unfold String.utf8EncodeChar
  generalize c.val.toNat = n at hself hvalid ⊢
  simp only
  split
  · have hlt : n < 256 := by omega
    have hbyte : (UInt8.ofNat n).toNat = n := UInt8.toNat_ofNat_of_lt hlt
    have hlead : lead n = .inl (some (Char.ofNat n)) := by rw [lead, if_pos (by omega)]
    rw [List.singleton_append, decodeFrom, hbyte, hlead, hself]
  · split
    · simp only [List.cons_append, List.nil_append]
      rw [decodeFrom_lead (by omega) (lead_two (by omega) (by omega)),
        decodeFrom_bits (by omega) (by omega), if_pos (Nat.le_refl 1),
        show n / 64 * 0x40 + n % 0x40 = n by omega, hself]
    · split
      · obtain ⟨first, last, hlead, hfirst, hlast⟩ :=
          lead_three (n := n) (by omega) (by omega) (by omega)
        simp only [List.cons_append, List.nil_append]
        rw [decodeFrom_lead (by omega) hlead, decodeFrom_bits hfirst hlast, if_neg (by omega),
          decodeFrom_bits (by omega) (by omega), if_pos (by omega),
          show (n / 4096 * 0x40 + n / 64 % 0x40) * 0x40 + n % 0x40 = n by omega, hself]
      · obtain ⟨first, last, hlead, hfirst, hlast⟩ := lead_four (n := n) (by omega) (by omega)
        simp only [List.cons_append, List.nil_append]
        rw [decodeFrom_lead (by omega) hlead, decodeFrom_bits hfirst hlast, if_neg (by omega),
          decodeFrom_bits (by omega) (by omega), if_neg (by omega),
          decodeFrom_bits (by omega) (by omega), if_pos (by omega),
          show ((n / 262144 * 0x40 + n / 4096 % 0x40) * 0x40 + n / 64 % 0x40) * 0x40 +
            n % 0x40 = n by omega, hself]

/-- The bytes of a text spell it. -/
@[simp] theorem decode_encode (cs : List Char) : decode (encode cs) = cs.map some := by
  unfold decode
  induction cs with
  | nil => rfl
  | cons c cs ih => rw [encode_cons, decodeFrom_utf8EncodeChar, ih, List.map_cons]

/-- Different texts have different bytes. -/
theorem encode_injective : Function.Injective encode := by
  intro cs ds h
  have hread := congrArg decode h
  rw [decode_encode, decode_encode] at hread
  exact (List.map_inj_right fun _ _ => Option.some.inj).1 hread

end Courier.Text.Utf8
