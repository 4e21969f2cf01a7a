/-!
# Doubles

The IEEE 754 binary64 numbers with the arithmetic that the service needs: rounding a quotient of
two natural numbers, products and quotients, and comparison. Nothing here is opaque: a double is a
sign and a word, and the word says how many units of 2⁻¹⁰⁷⁴ the magnitude has, so every operation
is one exact computation on natural numbers and one rounding.

Words ascend with the magnitudes they stand for. That makes comparison the comparison of words,
and makes the carry of a rounding run over into the next binade by itself.

## Main definitions

* `Binary64`: a sign and the 63 lower bits.
* `Binary64.units`: the magnitude of a finite word in units of 2⁻¹⁰⁷⁴.
* `Binary64.roundWord`: the nearest word to a quotient of units, a tie going to the even one.
* `Binary64.ofRatio`, `Binary64.ofNat`, `Binary64.mul`, `Binary64.div`, `Binary64.le`.
-/

namespace Courier

/-- A double: whether its sign bit is set, and the rest of its bits. -/
structure Binary64 where
  /-- The sign bit. -/
  negative : Bool
  /-- The lower 63 bits: exponent and significand. -/
  word : Nat
  deriving DecidableEq, Repr, Inhabited

namespace Binary64

/-- The word of infinity; every greater one is that of a NaN. -/
def infinityWord : Nat := 0x7FF0000000000000

/-- Positive zero. -/
def zero : Binary64 := ⟨false, 0⟩

/-- The infinity of the given sign. -/
def infinity (negative : Bool) : Binary64 := ⟨negative, infinityWord⟩

/-- The quiet NaN. -/
def nan : Binary64 := ⟨false, 0x7FF8000000000000⟩

/-- The value is no number. -/
def isNaN (x : Binary64) : Bool := infinityWord < x.word

/-- The value is infinite. -/
def isInfinite (x : Binary64) : Bool := x.word == infinityWord

/-- All 64 bits. -/
def toBits (x : Binary64) : Nat := (if x.negative then UInt64.size / 2 else 0) + x.word

/-- The same magnitude with the other sign. -/
def neg (x : Binary64) : Binary64 := { x with negative := !x.negative }

/-- The magnitude of a finite word, in units of 2⁻¹⁰⁷⁴. -/
def units (word : Nat) : Nat :=
  if word < 1 <<< 52 then word
  else (1 <<< 52 + word % (1 <<< 52)) <<< (word >>> 52 - 1)

/-- The natural number nearest to `num / den`, a tie going to the even one. -/
def roundDiv (num den : Nat) : Nat :=
  let quotient := num / den
  let doubled := 2 * (num % den)
  if doubled < den then quotient
  else if den < doubled then quotient + 1
  else quotient + quotient % 2

/-- The word nearest to `num / den` units. Below 2⁵³ units words count units; beyond, each binade
takes one bit off the quotient before it is rounded. -/
def roundWord (num den : Nat) : Nat :=
  let shift := (num / den).log2 - 52
  min infinityWord (shift <<< 52 + roundDiv num (den <<< shift))

/-- The double nearest to `num / den`. -/
def ofRatio (num den : Nat) : Binary64 :=
  ⟨false, roundWord (num <<< 1074) den⟩

/-- The double nearest to a natural number. -/
def ofNat (n : Nat) : Binary64 :=
  ofRatio n 1

/-- The double nearest to `significand · 10 ^ exponent`. -/
def ofDecimal (significand : Nat) (exponent : Int) : Binary64 :=
  match exponent with
  | .ofNat e => ofRatio (significand * Nat.pow 10 e) 1
  | .negSucc e => ofRatio significand (Nat.pow 10 (e + 1))

/-- The product of two finite doubles. -/
def mul (x y : Binary64) : Binary64 :=
  ⟨x.negative != y.negative, roundWord (units x.word * units y.word) (1 <<< 1074)⟩

/-- The quotient of two finite doubles, of which the second is not zero. -/
def div (x y : Binary64) : Binary64 :=
  ⟨x.negative != y.negative, roundWord (units x.word <<< 1074) (units y.word)⟩

/-- A number whose order is that of the doubles that are not NaN; both zeros have the same. -/
def rank (x : Binary64) : Int :=
  if x.negative then -(x.word : Int) else x.word

/-- Comparison as numbers: a NaN is below nothing, and nothing is below it. -/
def le (x y : Binary64) : Bool :=
  !x.isNaN && !y.isNaN && decide (x.rank ≤ y.rank)

/-- Strict comparison as numbers. -/
def lt (x y : Binary64) : Bool :=
  !x.isNaN && !y.isNaN && decide (x.rank < y.rank)

/-! ## Equal quotients -/

theorem roundDiv_mul_left {c : Nat} (hc : 0 < c) (num den : Nat) :
    roundDiv (c * num) (c * den) = roundDiv num den := by
  have hquotient : c * num / (c * den) = num / den := Nat.mul_div_mul_left num den hc
  have hrest : c * num % (c * den) = c * (num % den) := Nat.mul_mod_mul_left c num den
  have hdouble : 2 * (c * (num % den)) = c * (2 * (num % den)) := Nat.mul_left_comm 2 c _
  simp only [roundDiv, hquotient, hrest, hdouble, Nat.mul_lt_mul_left hc]

theorem roundWord_mul_left {c : Nat} (hc : 0 < c) (num den : Nat) :
    roundWord (c * num) (c * den) = roundWord num den := by
  simp only [roundWord, Nat.mul_div_mul_left num den hc, Nat.shiftLeft_eq, Nat.mul_assoc,
    roundDiv_mul_left hc]

/-- Equal quotients have the same double. -/
theorem ofRatio_mul_left {c : Nat} (hc : 0 < c) (num den : Nat) :
    ofRatio (c * num) (c * den) = ofRatio num den := by
  simp only [ofRatio, Nat.shiftLeft_eq, Nat.mul_assoc, roundWord_mul_left hc]

/-- All of something is a share of one. -/
theorem ofRatio_self {n : Nat} (hn : 0 < n) : ofRatio n n = ofNat 1 := by
  have hscaled := ofRatio_mul_left hn 1 1
  rwa [Nat.mul_one] at hscaled

/-! ## Shares -/

theorem roundDiv_le {num den n : Nat} (hden : 0 < den) (h : num ≤ n * den) :
    roundDiv num den ≤ n := by
  have hquotient : num / den ≤ n := Nat.div_le_of_le_mul (Nat.mul_comm n den ▸ h)
  have hsplit : den * (num / den) + num % den = num := Nat.div_add_mod num den
  by_cases hall : num / den = n
  · have hrest : num % den = 0 := by
      rw [hall, Nat.mul_comm] at hsplit
      omega
    simp [roundDiv, hall, hrest, hden]
  · simp only [roundDiv]
    split
    · exact hquotient
    · split
      · omega
      · omega

/-- A quotient of few binary digits has a word up to that of the next power of two. -/
theorem roundWord_le {num den k : Nat} (hden : 0 < den) (hk : 53 ≤ k)
    (h : (num / den).log2 < k) : roundWord num den ≤ (k - 51) <<< 52 := by
  let shift := (num / den).log2 - 52
  have hbinade : num / den < 2 ^ (shift + 53) :=
    Nat.lt_of_lt_of_le Nat.lt_log2_self (Nat.pow_le_pow_right (by omega) (by omega))
  have hshift : shift + 53 ≤ k := by omega
  have hquotient : num ≤ 2 ^ 53 * (den <<< shift) :=
    calc num ≤ (num / den + 1) * den := by
          rw [Nat.mul_comm]
          exact Nat.le_of_lt (Nat.lt_mul_div_succ num hden)
      _ ≤ 2 ^ (shift + 53) * den := Nat.mul_le_mul_right den hbinade
      _ = 2 ^ 53 * (den <<< shift) := by
        rw [Nat.shiftLeft_eq, Nat.pow_add, Nat.mul_comm (2 ^ shift), Nat.mul_assoc,
          Nat.mul_comm den]
  have hpos : 0 < den <<< shift := by
    rw [Nat.shiftLeft_eq]
    exact Nat.mul_pos hden (Nat.two_pow_pos shift)
  calc roundWord num den ≤ shift <<< 52 + roundDiv num (den <<< shift) := Nat.min_le_right ..
    _ ≤ shift <<< 52 + 2 ^ 53 := Nat.add_le_add_left (roundDiv_le hpos hquotient) _
    _ = (shift + 2) <<< 52 := by
      rw [Nat.shiftLeft_eq, Nat.shiftLeft_eq]
      omega
    _ ≤ (k - 51) <<< 52 := by
      rw [Nat.shiftLeft_eq, Nat.shiftLeft_eq]
      exact Nat.mul_le_mul_right _ (by omega)

theorem not_isNaN_ofRatio (num den : Nat) : (ofRatio num den).isNaN = false :=
  decide_eq_false (Nat.not_lt.2 (Nat.min_le_left ..))

/-- A part of something is a share of at most one. -/
theorem ofRatio_le_one {num den : Nat} (h : num ≤ den) (hden : 0 < den) :
    (ofRatio num den).le (ofNat 1) := by
  have hone : (ofNat 1).word = (1074 - 51) <<< 52 := by decide +kernel
  have hword : (ofRatio num den).word ≤ (ofNat 1).word := by
    rcases Nat.lt_or_eq_of_le h with hlt | rfl
    · have hdigits (k : Nat) (hk : 0 < k) : (num <<< k / den).log2 < k := by
        by_cases hzero : num <<< k / den = 0
        · rw [hzero]
          exact hk
        · rw [Nat.log2_lt hzero, Nat.shiftLeft_eq]
          exact Nat.div_lt_of_lt_mul (Nat.mul_lt_mul_of_pos_right hlt (Nat.two_pow_pos k))
      rw [hone]
      exact roundWord_le hden (by decide) (hdigits 1074 (by decide))
    · exact Nat.le_of_eq (congrArg word (ofRatio_self hden))
  have hrank : (ofRatio num den).rank ≤ (ofNat 1).rank := Int.ofNat_le.2 hword
  have hnumber : (ofNat 1).isNaN = false := not_isNaN_ofRatio 1 1
  rw [le, not_isNaN_ofRatio, hnumber, decide_eq_true hrank]
  rfl

example : ofRatio 3 5 = ⟨false, 0x3FE3333333333333⟩ := by decide +kernel
example : ofRatio 1 (1 <<< 1074) = ⟨false, 1⟩ := by decide +kernel
example : ofRatio 1 (1 <<< 1075) = zero := by decide +kernel
example : ofNat (1 <<< 53 + 1) = ofNat (1 <<< 53) := by decide +kernel
example : (ofDecimal 1 309).isInfinite := by decide +kernel

end Binary64

end Courier
