import Mathlib.Tactic.SplitIfs
import Workloads.Bytes

/-!
# The order of texts

Texts are ordered by their code points.  This is also the order of their octets:
of two characters the one with the smaller code point has the UTF-8 form that
comes first, whatever follows either of them.
-/

namespace Workloads.Bytes

/-- What is checked for each octet by its number holds of every octet. -/
theorem forall_octet {holds : UInt8 → Prop}
    (every : ∀ value < 256, holds value.toUInt8) (octet : UInt8) :
    holds octet := by
  have own := every octet.toNat octet.toNat_lt
  rwa [Nat.toUInt8_eq, UInt8.ofNat_toNat] at own

/-- A text is written character by character. -/
theorem ofText_eq_flatMap (text : String) :
    ofText text = text.toList.flatMap String.utf8EncodeChar := by
  rw [ofText, ← String.utf8Encode_toList, List.utf8Encode,
    List.toList_data_toByteArray]

theorem ofText_append (first second : String) :
    ofText (first ++ second) = ofText first ++ ofText second := by
  simp only [ofText_eq_flatMap, String.toList_append, List.flatMap_append]

/-- The code point of a character has at most twenty-one bits. -/
theorem codePoint_lt (character : Char) :
    character.val.toNat < 0x110000 := by
  rcases character.valid with low | ⟨_, high⟩
  · exact Nat.lt_trans low (by decide)
  · exact high

/-- Of two numbers the smaller one is smaller in the first digit in which they
differ, in base sixty-four. -/
theorem digits_lt {first second : Nat} (order : first < second) :
    first / 262144 < second / 262144 ∨
      first / 262144 = second / 262144 ∧
        (first / 4096 % 64 < second / 4096 % 64 ∨
          first / 4096 % 64 = second / 4096 % 64 ∧
            (first / 64 % 64 < second / 64 % 64 ∨
              first / 64 % 64 = second / 64 % 64 ∧
                first % 64 < second % 64)) := by
  have last : first / 64 < second / 64 ∨
      first / 64 = second / 64 ∧ first % 64 < second % 64 := by
    omega
  have middle : first / 64 / 64 < second / 64 / 64 ∨
      first / 64 / 64 = second / 64 / 64 ∧
        (first / 64 % 64 < second / 64 % 64 ∨
          first / 64 % 64 = second / 64 % 64 ∧
            first % 64 < second % 64) := by
    omega
  rw [Nat.div_div_eq_div_mul, Nat.div_div_eq_div_mul] at middle
  omega

/-- The forms of two characters differ in an octet in which the smaller
character has the smaller one. -/
theorem encoded_lt {left right : Char} (below : left < right)
    (leftRest rightRest : Bytes) :
    String.utf8EncodeChar left ++ leftRest <
      String.utf8EncodeChar right ++ rightRest := by
  have order : left.val.toNat < right.val.toNat := below
  have bound := codePoint_lt right
  unfold String.utf8EncodeChar
  generalize left.val.toNat = first at order
  generalize right.val.toNat = second at order bound
  have digits := digits_lt order
  dsimp only
  -- Longer forms start with larger octets, so only equal lengths need more.
  split_ifs <;>
    simp only [List.cons_append, List.nil_append, List.cons_lt_cons_iff,
      UInt8.lt_iff_toNat_lt, ← UInt8.toNat_inj, UInt8.toNat_ofNat'] <;>
    simp (disch := omega) only [Nat.mod_eq_of_lt] <;>
    omega

/-- The order of character sequences is that of their forms. -/
theorem flatMap_encoded_lt {left right : List Char} (below : left < right) :
    left.flatMap String.utf8EncodeChar <
      right.flatMap String.utf8EncodeChar := by
  induction below with
  | @nil character rest =>
      have nonempty : String.utf8EncodeChar character ≠ [] :=
        String.utf8EncodeChar_ne_nil
      rw [List.flatMap_nil, List.flatMap_cons]
      cases form : String.utf8EncodeChar character with
      | nil => exact absurd form nonempty
      | cons octet others => exact List.nil_lt_cons octet _
  | rel smaller =>
      rw [List.flatMap_cons, List.flatMap_cons]
      exact encoded_lt smaller _ _
  | cons below hypothesis =>
      rw [List.flatMap_cons, List.flatMap_cons]
      exact List.append_left_lt hypothesis

/-- Texts in increasing order have octets in increasing order. -/
theorem ofText_lt {left right : String} (below : left < right) :
    ofText left < ofText right := by
  rw [ofText_eq_flatMap, ofText_eq_flatMap]
  exact flatMap_encoded_lt below

theorem ofText_le {left right : String} (below : left ≤ right) :
    ofText left ≤ ofText right := by
  by_cases same : left = right
  · rw [same]
    exact List.le_refl _
  · exact List.le_of_lt (ofText_lt (Std.lt_of_le_of_ne below same))

end Workloads.Bytes
