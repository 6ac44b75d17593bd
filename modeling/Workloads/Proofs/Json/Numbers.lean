import Mathlib.Data.List.TakeWhile
import Workloads.Json.Skip

/-!
# The parts of a number

A number is digits without a zero in front, then perhaps a point with digits and
perhaps an exponent.  Where nothing follows that could belong to it, the reader
takes a number apart into exactly these parts, and a number that nobody needs is
passed over as a whole.  Nothing else is ever taken for a number.
-/

namespace Workloads.Json

/-! ## What follows a value -/

/-- Whether an octet ends the value in front of it: white space, a comma or a
closing bracket. -/
def endsValue (octet : UInt8) : Bool :=
  isBlank octet || octet = comma || octet = closeList || octet = closeObject

/-- Whether a value is over where this text follows it. -/
def Ends (rest : Bytes) : Prop :=
  ∀ octet ∈ rest.head?, endsValue octet = true

theorem ends_nil : Ends [] :=
  nofun

theorem ends_cons {octet : UInt8} (ends : endsValue octet = true)
    (rest : Bytes) : Ends (octet :: rest) := by
  intro first here
  cases here
  exact ends

/-- An octet that ends a value continues no number. -/
theorem Ends.not_number {octet : UInt8} {rest : Bytes}
    (ends : Ends (octet :: rest)) :
    Bytes.isDigit octet = false ∧ octet ≠ 46 ∧ isExponentMark octet = false := by
  have here := ends octet rfl
  simp only [endsValue, isBlank, Bool.or_eq_true, decide_eq_true_eq] at here
  rcases here with
    (((((rfl | rfl) | rfl) | rfl) | rfl) | rfl) | rfl <;> decide

/-! ## The grammar -/

/-- One digit or more. -/
def IsDigits (text : Bytes) : Prop :=
  text ≠ [] ∧ ∀ octet ∈ text, Bytes.isDigit octet = true

instance (text : Bytes) : Decidable (IsDigits text) :=
  decidable_of_iff (text ≠ [] ∧ text.all Bytes.isDigit = true)
    (and_congr_right' List.all_eq_true)

/-- The digits before the point: a zero alone, or none in front. -/
inductive IsWhole : Bytes → Prop where
  | zero : IsWhole [48]
  | digits {octet : UInt8} {later : Bytes} (other : octet ≠ 48)
      (digits : IsDigits (octet :: later)) : IsWhole (octet :: later)

/-- A point with the digits after it, or nothing. -/
inductive IsFraction : Bytes → Option Bytes → Prop where
  | none : IsFraction [] none
  | some {digits : Bytes} (are : IsDigits digits) :
      IsFraction (46 :: digits) (some digits)

/-- The mark of an exponent with its sign and digits, or nothing. -/
inductive IsExponent : Bytes → Option (Bool × Bytes) → Prop where
  | none : IsExponent [] none
  | bare {mark : UInt8} {digits : Bytes} (marks : isExponentMark mark = true)
      (are : IsDigits digits) :
      IsExponent (mark :: digits) (some (false, digits))
  | plus {mark : UInt8} {digits : Bytes} (marks : isExponentMark mark = true)
      (are : IsDigits digits) :
      IsExponent (mark :: 43 :: digits) (some (false, digits))
  | minus {mark : UInt8} {digits : Bytes} (marks : isExponentMark mark = true)
      (are : IsDigits digits) :
      IsExponent (mark :: minus :: digits) (some (true, digits))

/-- A number without its sign. -/
inductive IsMagnitude : Bytes → NumberParts → Prop where
  | parts {whole point power : Bytes} {fraction : Option Bytes}
      {exponent : Option (Bool × Bytes)} (front : IsWhole whole)
      (middle : IsFraction point fraction) (back : IsExponent power exponent) :
      IsMagnitude (whole ++ (point ++ power)) { whole, fraction, exponent }

/-- Whether neither a digit nor a point comes next. -/
def Stops (rest : Bytes) : Prop :=
  startsWithDigit rest = false ∧ ∀ octet ∈ rest.head?, octet ≠ 46

theorem Ends.stops {rest : Bytes} (ends : Ends rest) : Stops rest := by
  cases rest with
  | nil => exact ⟨rfl, nofun⟩
  | cons octet rest =>
      refine ⟨ends.not_number.1, ?_⟩
      rintro _ ⟨⟩
      exact ends.not_number.2.1

theorem IsDigits.exists_cons {digits : Bytes} (are : IsDigits digits) :
    ∃ octet later, digits = octet :: later ∧ Bytes.isDigit octet = true := by
  cases digits with
  | nil => exact absurd rfl are.1
  | cons octet later =>
      exact ⟨octet, later, rfl, are.2 octet List.mem_cons_self⟩

/-- A digit is no sign. -/
theorem not_sign_of_isDigit {octet : UInt8}
    (digit : Bytes.isDigit octet = true) : octet ≠ 43 ∧ octet ≠ minus := by
  constructor <;>
    · rintro rfl
      cases digit

theorem isExponentMark_iff {octet : UInt8} :
    isExponentMark octet = true ↔ octet = 101 ∨ octet = 69 := by
  simp [isExponentMark]

theorem IsExponent.stops {power rest : Bytes}
    {exponent : Option (Bool × Bytes)} (back : IsExponent power exponent)
    (ends : Ends rest) : Stops (power ++ rest) := by
  have marked {mark : UInt8} (marks : isExponentMark mark = true)
      (later : Bytes) : Stops (mark :: later) := by
    rcases isExponentMark_iff.mp marks with rfl | rfl <;>
      exact ⟨rfl, by rintro _ ⟨⟩; decide⟩
  cases back with
  | none => exact ends.stops
  | bare marks are => exact marked marks _
  | plus marks are => exact marked marks _
  | minus marks are => exact marked marks _

theorem IsFraction.stops {point rest : Bytes} {fraction : Option Bytes}
    (middle : IsFraction point fraction) (stops : Stops rest) :
    startsWithDigit (point ++ rest) = false := by
  cases middle with
  | none => exact stops.1
  | some are => rfl

/-! ## Runs of digits -/

theorem digitsOf_append {digits rest : Bytes}
    (are : ∀ octet ∈ digits, Bytes.isDigit octet = true)
    (stop : startsWithDigit rest = false) :
    digitsOf (digits ++ rest) = digits ∧
      afterDigits (digits ++ rest) = rest := by
  have silent : rest.takeWhile Bytes.isDigit = [] ∧
      rest.dropWhile Bytes.isDigit = rest := by
    cases rest with
    | nil => exact ⟨rfl, rfl⟩
    | cons next rest =>
        have other : Bytes.isDigit next = false := stop
        simp [other]
  rw [digitsOf, afterDigits, List.takeWhile_append_of_pos are,
    List.dropWhile_append_of_pos are, silent.1, silent.2, List.append_nil]
  exact ⟨rfl, rfl⟩

/-- A text that begins with a digit is digits and what is left after them. -/
theorem isDigits_digitsOf {octet : UInt8} {text : Bytes}
    (digit : Bytes.isDigit octet = true) :
    IsDigits (digitsOf (octet :: text)) ∧
      octet :: text =
        digitsOf (octet :: text) ++ afterDigits (octet :: text) := by
  refine ⟨⟨?_, ?_⟩, List.takeWhile_append_dropWhile.symm⟩
  · simp [digitsOf, digit]
  · exact fun other member => List.mem_takeWhile_imp member

/-! ## Reading and passing -/

theorem readWhole_of_isWhole {whole rest : Bytes} (front : IsWhole whole)
    (stop : startsWithDigit rest = false) :
    readWhole (whole ++ rest) = .ok (whole, rest) := by
  cases front with
  | zero => simp [readWhole, stop]
  | @digits octet later other are =>
      have more : ∀ digit ∈ later, Bytes.isDigit digit = true :=
        fun digit member => are.2 digit (List.mem_cons_of_mem _ member)
      rcases digitsOf_append more stop with ⟨taken, left⟩
      rw [List.cons_append, readWhole, if_neg other,
        if_pos (are.2 octet List.mem_cons_self), taken, left]

theorem passWhole_of_isWhole {whole rest : Bytes} (front : IsWhole whole)
    (stop : startsWithDigit rest = false) :
    passWhole (whole ++ rest) = .ok rest := by
  cases front with
  | zero => simp [passWhole, stop]
  | @digits octet later other are =>
      have more : ∀ digit ∈ later, Bytes.isDigit digit = true :=
        fun digit member => are.2 digit (List.mem_cons_of_mem _ member)
      rw [List.cons_append, passWhole, if_neg other,
        if_pos (are.2 octet List.mem_cons_self),
        (digitsOf_append more stop).2]

theorem readFraction_of_isFraction {point rest : Bytes}
    {fraction : Option Bytes} (middle : IsFraction point fraction)
    (stops : Stops rest) :
    readFraction (point ++ rest) = .ok (fraction, rest) := by
  cases middle with
  | none =>
      cases rest with
      | nil => rfl
      | cons octet rest => simp [readFraction, stops.2 octet rfl]
  | some are =>
      rcases digitsOf_append are.2 stops.1 with ⟨taken, left⟩
      rcases are.exists_cons with ⟨octet, later, rfl, digit⟩
      simp only [List.cons_append] at taken left ⊢
      simp [readFraction, digit, taken, left]

theorem passDigits_of_isDigits {digits rest : Bytes} (are : IsDigits digits)
    (stop : startsWithDigit rest = false) :
    passDigits (digits ++ rest) = .ok rest := by
  have left := (digitsOf_append are.2 stop).2
  rcases are.exists_cons with ⟨octet, later, rfl, digit⟩
  rw [passDigits, left]
  exact if_pos digit

theorem passFraction_of_isFraction {point rest : Bytes}
    {fraction : Option Bytes} (middle : IsFraction point fraction)
    (stops : Stops rest) : passFraction (point ++ rest) = .ok rest := by
  cases middle with
  | none =>
      cases rest with
      | nil => rfl
      | cons octet rest => simp [passFraction, stops.2 octet rfl]
  | some are =>
      rw [List.cons_append, passFraction, if_pos rfl]
      exact passDigits_of_isDigits are stops.1

theorem readExponentDigits_of_isDigits {digits rest : Bytes}
    (negative : Bool) (are : IsDigits digits)
    (stop : startsWithDigit rest = false) :
    readExponentDigits negative (digits ++ rest) =
      .ok (some (negative, digits), rest) := by
  rcases digitsOf_append are.2 stop with ⟨taken, left⟩
  rcases are.exists_cons with ⟨octet, later, rfl, digit⟩
  simp only [List.cons_append] at taken left ⊢
  simp [readExponentDigits, digit, taken, left]

theorem readExponent_of_isExponent {power rest : Bytes}
    {exponent : Option (Bool × Bytes)} (back : IsExponent power exponent)
    (ends : Ends rest) :
    readExponent (power ++ rest) = .ok (exponent, rest) := by
  have stop := ends.stops.1
  cases back with
  | none =>
      cases rest with
      | nil => rfl
      | cons octet rest => simp [readExponent, ends.not_number.2.2]
  | @bare mark digits marks are =>
      have read := readExponentDigits_of_isDigits false are stop
      rcases are.exists_cons with ⟨octet, later, rfl, digit⟩
      rcases not_sign_of_isDigit digit with ⟨plus, negative⟩
      simp only [List.cons_append] at read ⊢
      simp [readExponent, marks, plus, negative, read]
  | plus marks are =>
      simp [readExponent, marks,
        readExponentDigits_of_isDigits false are stop]
  | minus marks are =>
      have other : minus ≠ 43 := by decide
      simp [readExponent, marks, other,
        readExponentDigits_of_isDigits true are stop]

theorem passExponent_of_isExponent {power rest : Bytes}
    {exponent : Option (Bool × Bytes)} (back : IsExponent power exponent)
    (ends : Ends rest) : passExponent (power ++ rest) = .ok rest := by
  have stop := ends.stops.1
  cases back with
  | none =>
      cases rest with
      | nil => rfl
      | cons octet rest => simp [passExponent, ends.not_number.2.2]
  | @bare mark digits marks are =>
      have passed := passDigits_of_isDigits are stop
      rcases are.exists_cons with ⟨octet, later, rfl, digit⟩
      rcases not_sign_of_isDigit digit with ⟨plus, negative⟩
      simp only [List.cons_append] at passed ⊢
      simp [passExponent, marks, plus, negative, passed]
  | plus marks are =>
      simp [passExponent, marks, passDigits_of_isDigits are stop]
  | minus marks are =>
      simp [passExponent, marks, passDigits_of_isDigits are stop]

/-- A number is taken apart into its parts. -/
theorem readParts_of_isMagnitude {text rest : Bytes} {parts : NumberParts}
    (magnitude : IsMagnitude text parts) (ends : Ends rest) :
    readParts (text ++ rest) = .ok (parts, rest) := by
  cases magnitude with
  | parts front middle back =>
      have stops := back.stops ends
      simp only [readParts, List.append_assoc,
        readWhole_of_isWhole front (middle.stops stops),
        readFraction_of_isFraction middle stops,
        readExponent_of_isExponent back ends]

/-- A number that nobody needs is passed over. -/
theorem passNumber_of_isMagnitude {text rest : Bytes} {parts : NumberParts}
    (magnitude : IsMagnitude text parts) (ends : Ends rest) :
    passNumber (text ++ rest) = .ok rest := by
  cases magnitude with
  | parts front middle back =>
      have stops := back.stops ends
      simp only [passNumber, List.append_assoc,
        passWhole_of_isWhole front (middle.stops stops),
        passFraction_of_isFraction middle stops,
        passExponent_of_isExponent back ends]

/-! ## Nothing else is read -/

theorem isWhole_of_readWhole {text whole rest : Bytes}
    (reads : readWhole text = .ok (whole, rest)) :
    text = whole ++ rest ∧ IsWhole whole := by
  cases text with
  | nil => cases reads
  | cons octet text =>
      simp only [readWhole] at reads
      split at reads
      next zero =>
        subst zero
        split at reads
        · cases reads
        · cases reads
          exact ⟨rfl, .zero⟩
      next other =>
        split at reads
        next digit =>
          cases reads
          have run : digitsOf (octet :: text) = octet :: digitsOf text ∧
              afterDigits (octet :: text) = afterDigits text := by
            simp [digitsOf, afterDigits, digit]
          have parts : IsDigits (digitsOf (octet :: text)) ∧
              octet :: text =
                digitsOf (octet :: text) ++ afterDigits (octet :: text) :=
            isDigits_digitsOf digit
          rw [run.1, run.2] at parts
          exact ⟨parts.2, .digits other parts.1⟩
        · cases reads

theorem isFraction_of_readFraction {text rest : Bytes}
    {fraction : Option Bytes}
    (reads : readFraction text = .ok (fraction, rest)) :
    ∃ point, text = point ++ rest ∧ IsFraction point fraction := by
  cases text with
  | nil =>
      cases reads
      exact ⟨[], rfl, .none⟩
  | cons octet text =>
      simp only [readFraction] at reads
      split at reads
      next point =>
        subst point
        split at reads
        · cases reads
        · split at reads
          next digit =>
            cases reads
            rcases isDigits_digitsOf digit with ⟨are, split⟩
            exact ⟨46 :: _, congrArg (46 :: ·) split, .some are⟩
          · cases reads
      · cases reads
        exact ⟨[], rfl, .none⟩

theorem isDigits_of_readExponentDigits {negative : Bool} {text rest : Bytes}
    {exponent : Option (Bool × Bytes)}
    (reads : readExponentDigits negative text = .ok (exponent, rest)) :
    ∃ digits, text = digits ++ rest ∧ IsDigits digits ∧
      exponent = some (negative, digits) := by
  unfold readExponentDigits at reads
  split at reads
  · cases reads
  · split at reads
    next digit =>
      cases reads
      rcases isDigits_digitsOf digit with ⟨are, split⟩
      exact ⟨_, split, are, rfl⟩
    · cases reads

theorem isExponent_of_readExponent {text rest : Bytes}
    {exponent : Option (Bool × Bytes)}
    (reads : readExponent text = .ok (exponent, rest)) :
    ∃ power, text = power ++ rest ∧ IsExponent power exponent := by
  cases text with
  | nil =>
      cases reads
      exact ⟨[], rfl, .none⟩
  | cons mark text =>
      simp only [readExponent] at reads
      split at reads
      next marks =>
        split at reads
        · cases reads
        next sign later =>
          split at reads
          next plus =>
            subst plus
            rcases isDigits_of_readExponentDigits reads with
              ⟨digits, rfl, are, rfl⟩
            exact ⟨mark :: 43 :: digits, rfl, .plus marks are⟩
          · split at reads
            next negative =>
              subst negative
              rcases isDigits_of_readExponentDigits reads with
                ⟨digits, rfl, are, rfl⟩
              exact ⟨mark :: minus :: digits, rfl, .minus marks are⟩
            · rcases isDigits_of_readExponentDigits reads with
                ⟨digits, split, are, rfl⟩
              exact ⟨mark :: digits, congrArg (mark :: ·) split,
                .bare marks are⟩
      · cases reads
        exact ⟨[], rfl, .none⟩

/-- What is taken apart into parts is a number of these parts. -/
theorem isMagnitude_of_readParts {text rest : Bytes} {parts : NumberParts}
    (reads : readParts text = .ok (parts, rest)) :
    ∃ used, text = used ++ rest ∧ IsMagnitude used parts := by
  unfold readParts at reads
  split at reads
  · cases reads
  next whole afterWhole readsWhole =>
    split at reads
    · cases reads
    next fraction afterFraction readsFraction =>
      split at reads
      · cases reads
      next exponent afterExponent readsExponent =>
        cases reads
        rcases isWhole_of_readWhole readsWhole with ⟨rfl, front⟩
        rcases isFraction_of_readFraction readsFraction with
          ⟨point, rfl, middle⟩
        rcases isExponent_of_readExponent readsExponent with
          ⟨power, rfl, back⟩
        exact ⟨whole ++ (point ++ power), by simp, .parts front middle back⟩

end Workloads.Json
