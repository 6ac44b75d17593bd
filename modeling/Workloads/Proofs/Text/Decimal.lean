import Mathlib.Logic.Function.Basic

/-!
# Decimal texts

A natural number is written by its decimal digits, of which there is at least
one, and these digits stand for no other number.
-/

namespace Workloads.Decimal

/-- The number that decimal digits stand for. -/
def valueOf (digits : List Char) : Nat :=
  Nat.ofDigitChars 10 digits 0

/-- Whether letters are decimal digits, at least one, that stand for a
number. -/
structure Spells (digits : List Char) (value : Nat) : Prop where
  nonempty : digits ≠ []
  areDigits : ∀ letter ∈ digits, letter.isDigit = true
  value_eq : valueOf digits = value

theorem toList_toString (value : Nat) :
    (toString value).toList = Nat.toDigits 10 value := by
  rw [Nat.toString_eq_repr, Nat.repr_eq_ofList_toDigits, String.toList_ofList]

theorem spells_toString (value : Nat) :
    Spells (toString value).toList value where
  nonempty := by
    rw [toList_toString]
    exact Nat.toDigits_ne_nil
  areDigits letter member := by
    rw [toList_toString] at member
    exact Nat.isDigit_of_mem_toDigits (by decide) (by decide) member
  value_eq := by
    rw [toList_toString]
    exact Nat.ofDigitChars_ten_toDigits

theorem toString_injective :
    Function.Injective (fun value : Nat => toString value) := by
  intro first second same
  have digits := congrArg (fun text => valueOf text.toList) same
  simpa only [(spells_toString _).value_eq] using digits

end Workloads.Decimal
