/-!
# Decimal digits

Numbers are written in decimal wherever they are part of a text: in settings, in time stamps and in
addresses.

## Main definitions

* `digitsValue`: the number that digits stand for.
-/

namespace Courier.Text

/-- The number of a run of digits. -/
def digitsValue (digits : List Char) : Nat :=
  digits.foldl (fun n c => n * 10 + (c.toNat - 48)) 0

/-- A digit is read as the number it was written for. -/
theorem digitChar_toNat_sub {d : Nat} (h : d < 10) : (Nat.digitChar d).toNat - 48 = d := by
  rw [Nat.toNat_digitChar_of_lt_ten h, Nat.add_sub_cancel_left]

end Courier.Text
