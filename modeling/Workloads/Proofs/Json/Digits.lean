import Mathlib.Tactic.IntervalCases
import Workloads.Json.Writer
import Workloads.Proofs.Json.Numbers
import Workloads.Proofs.Text.Order

/-!
# Numbers are read back

A natural number is written by its decimal digits, without a zero in front.
Where no digit, point or exponent follows, the reader takes exactly these
digits, and they mean the number that was written as long as it fits a word.
-/

namespace Workloads.Json

/-! ## Written digits -/

theorem writeNat_of_lt {value : Nat} (low : value < 10) :
    writeNat value = [(48 + value).toUInt8] := by
  interval_cases value <;> rfl

theorem writeNat_of_le {value : Nat} (high : 10 ≤ value) :
    writeNat value =
      writeNat (value / 10) ++ [(48 + value % 10).toUInt8] := by
  have low : value % 10 < 10 := Nat.mod_lt value (by decide)
  rw [← writeNat_of_lt low]
  simp [writeNat, ascii, Nat.toDigits_of_base_le (by decide) high,
    Nat.toDigits_of_lt_base low]

/-- The digit of a number below ten. -/
theorem isDigit_toUInt8 {value : Nat} (low : value < 10) :
    Bytes.isDigit (48 + value).toUInt8 = true ∧
      digitValue (48 + value).toUInt8 = value := by
  interval_cases value <;> decide

/-- Induction on the number of decimal digits. -/
@[elab_as_elim]
theorem decimal_induction {motive : Nat → Prop}
    (digit : ∀ value, value < 10 → motive value)
    (more : ∀ value, 10 ≤ value → motive (value / 10) → motive value)
    (value : Nat) : motive value := by
  induction value using Nat.strong_induction_on with
  | _ value hypothesis =>
      by_cases low : value < 10
      · exact digit value low
      · have high : 10 ≤ value := Nat.le_of_not_lt low
        exact more value high (hypothesis (value / 10) (by omega))

theorem isDigit_of_mem_writeNat (value : Nat) :
    ∀ octet ∈ writeNat value, Bytes.isDigit octet = true := by
  intro octet member
  induction value using decimal_induction with
  | digit value low =>
      rw [writeNat_of_lt low, List.mem_singleton] at member
      exact member ▸ (isDigit_toUInt8 low).1
  | more value high hypothesis =>
      rw [writeNat_of_le high, List.mem_append, List.mem_singleton] at member
      rcases member with front | last
      · exact hypothesis front
      · exact last ▸ (isDigit_toUInt8 (Nat.mod_lt value (by decide))).1

theorem digitsValue_writeNat (value : Nat) :
    digitsValue (writeNat value) = value := by
  induction value using decimal_induction with
  | digit value low =>
      rw [writeNat_of_lt low]
      simpa [digitsValue] using (isDigit_toUInt8 low).2
  | more value high front =>
      have last := (isDigit_toUInt8 (Nat.mod_lt value (by decide))).2
      rw [digitsValue] at front
      rw [writeNat_of_le high, digitsValue, List.foldl_append, front,
        List.foldl_cons, List.foldl_nil, last]
      omega

/-- Only zero is written with a zero in front. -/
theorem writeNat_eq_cons (value : Nat) :
    ∃ octet digits, writeNat value = octet :: digits ∧
      (octet = 48 → digits = []) := by
  induction value using decimal_induction with
  | digit value low => exact ⟨_, [], writeNat_of_lt low, fun _ => rfl⟩
  | more value high hypothesis =>
      rcases hypothesis with ⟨octet, digits, front, alone⟩
      refine ⟨octet, digits ++ [(48 + value % 10).toUInt8], ?_, ?_⟩
      · rw [writeNat_of_le high, front, List.cons_append]
      · intro zero
        -- A zero alone in front would be the number zero.
        have nothing := digitsValue_writeNat (value / 10)
        rw [front, alone zero, zero] at nothing
        have none : value / 10 = 0 := nothing.symm
        omega

/-! ## Reading them -/

theorem isWhole_writeNat (value : Nat) : IsWhole (writeNat value) := by
  rcases writeNat_eq_cons value with ⟨octet, digits, written, alone⟩
  have each := isDigit_of_mem_writeNat value
  rw [written] at each ⊢
  by_cases zero : octet = 48
  · rw [zero, alone zero]
    exact .zero
  · exact .digits zero ⟨List.cons_ne_nil _ _, each⟩

theorem readParts_written (value : Nat) {rest : Bytes} (ends : Ends rest) :
    readParts (writeNat value ++ rest) =
      .ok ({ whole := writeNat value }, rest) := by
  have magnitude : IsMagnitude (writeNat value ++ ([] ++ []))
      { whole := writeNat value } :=
    .parts (isWhole_writeNat value) .none .none
  rw [List.append_nil, List.append_nil] at magnitude
  exact readParts_of_isMagnitude magnitude ends

/-- A number that fits a word is read back. -/
theorem readNumber_written {value : Nat} (fits : value < wordLimit)
    {rest : Bytes} (ends : Ends rest) :
    readNumber (writeNat value ++ rest) = .ok (.integer value, rest) := by
  have magnitude :
      readMagnitude false (writeNat value ++ rest) =
        .ok (.integer value, rest) := by
    simp [readMagnitude, readParts_written value ends, NumberParts.value,
      digitsValue_writeNat, fits]
  rcases writeNat_eq_cons value with ⟨octet, digits, written, _⟩
  have digit := isDigit_of_mem_writeNat value octet (by simp [written])
  have unsigned : octet ≠ minus := by
    rintro rfl
    cases digit
  rw [written, List.cons_append] at magnitude ⊢
  rw [readNumber, if_neg unsigned, magnitude]

end Workloads.Json
