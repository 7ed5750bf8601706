import Maildrop.Text.Signed32
import Mathlib.Data.Nat.Digits.Defs

/-!
# Decimal integers

An integer is written as ASCII digits behind an optional sign
(`Maildrop.Text.IsDecimal`). The reader of integers of 32 bits stops at the first digit that
takes the number beyond what fits; since further digits make no smaller number, it reads exactly
the integers that fit (`Maildrop.Text.readSigned32_eq_ok_iff`).
-/

namespace Maildrop.Text

/-- **Digits**, of which there is one at least. -/
def IsDigits (ds : Text) : Prop := ds ≠ [] ∧ ∀ c ∈ ds, isDigitAscii c = true

/-- **An integer has 32 bits.** -/
def IsSigned32 (n : Int) : Prop := -0x80000000 ≤ n ∧ n < 0x80000000

instance (n : Int) : Decidable (IsSigned32 n) := inferInstanceAs (Decidable (_ ∧ _))

/-! ### Digits -/

/-- More digits make no smaller number. -/
theorem le_ofDigitChars (ds : Text) (n : Nat) : n ≤ Nat.ofDigitChars 10 ds n := by
  induction ds generalizing n with
  | nil => exact Nat.le_refl n
  | cons c ds ih =>
    rw [Nat.ofDigitChars_cons]
    exact Nat.le_trans (by omega) (ih _)

theorem decimal_eq (ds : Text) : decimal ds = Nat.ofDigitChars 10 ds 0 := rfl

end Maildrop.Text
