import Workloads.Json.Scan

/-!
# Numbers

A number is scanned into its parts first: the digits before the point, those
after it, and the exponent.  Without point and exponent it is an integer as
long as it fits a signed or unsigned word of sixty-four bits; otherwise it is
floating, and so is a negative zero.  The magnitude of a floating number is
that of its leading digits that fit a word, scaled by a power of ten.
-/

namespace Workloads.Json

/-- The value of a number. -/
inductive Number where
  | integer (value : Int)
  | floating (negative : Bool) (magnitude : Decimal.Binary64)
  deriving DecidableEq, Repr

/-- What a number is found to be. -/
def Number.found : Number → Found
  | integer value => .integer value
  | floating negative magnitude => .floating negative magnitude

/-! ## Parts -/

/-- Digits before the point, after it, and the exponent with its sign. -/
structure NumberParts where
  whole : Bytes
  fraction : Option Bytes := none
  exponent : Option (Bool × Bytes) := none
  deriving DecidableEq, Repr

/-- The digits at the front of a text. -/
def digitsOf (text : Bytes) : Bytes :=
  text.takeWhile Bytes.isDigit

/-- What is left after the digits at the front of a text. -/
def afterDigits (text : Bytes) : Bytes :=
  text.dropWhile Bytes.isDigit

theorem afterDigits_length_le (text : Bytes) :
    (afterDigits text).length ≤ text.length :=
  (List.dropWhile_sublist _).length_le

/-- Whether a text begins with a digit. -/
def startsWithDigit : Bytes → Bool
  | [] => false
  | octet :: _ => Bytes.isDigit octet

/-- Whether an octet announces an exponent. -/
def isExponentMark (octet : UInt8) : Bool :=
  octet = 101 || octet = 69

/-- Reads the digits before the point; a zero stands alone. -/
def readWhole : Bytes → Except Problem (Bytes × Bytes)
  | [] => .error .endInValue
  | octet :: rest =>
    if octet = 48 then
      if startsWithDigit rest then .error .invalidNumber
      else .ok ([octet], rest)
    else if Bytes.isDigit octet then
      .ok (octet :: digitsOf rest, afterDigits rest)
    else
      .error .invalidNumber

/-- Reads the digits after the point, if a point follows. -/
def readFraction : Bytes → Except Problem (Option Bytes × Bytes)
  | [] => .ok (none, [])
  | octet :: rest =>
    if octet = 46 then
      match rest with
      | [] => .error .endInValue
      | next :: _ =>
        if Bytes.isDigit next then
          .ok (some (digitsOf rest), afterDigits rest)
        else
          .error .invalidNumber
    else
      .ok (none, octet :: rest)

/-- Reads the digits of an exponent after its sign. -/
def readExponentDigits (negative : Bool) (text : Bytes) :
    Except Problem (Option (Bool × Bytes) × Bytes) :=
  match text with
  | [] => .error .endInValue
  | octet :: _ =>
    if Bytes.isDigit octet then
      .ok (some (negative, digitsOf text), afterDigits text)
    else
      .error .invalidNumber

/-- Reads the exponent, if its mark follows. -/
def readExponent : Bytes →
    Except Problem (Option (Bool × Bytes) × Bytes)
  | [] => .ok (none, [])
  | octet :: rest =>
    if isExponentMark octet then
      match rest with
      | [] => .error .endInValue
      | sign :: digits =>
        if sign = 43 then readExponentDigits false digits
        else if sign = minus then readExponentDigits true digits
        else readExponentDigits false rest
    else
      .ok (none, octet :: rest)

/-- Reads the parts of a number after its sign. -/
def readParts (text : Bytes) : Except Problem (NumberParts × Bytes) :=
  match readWhole text with
  | .error problem => .error problem
  | .ok (whole, rest) =>
    match readFraction rest with
    | .error problem => .error problem
    | .ok (fraction, rest) =>
      match readExponent rest with
      | .error problem => .error problem
      | .ok (exponent, rest) => .ok ({ whole, fraction, exponent }, rest)

/-! ## Values -/

/-- The value of a digit. -/
def digitValue (octet : UInt8) : Nat :=
  octet.toNat - 48

/-- The number written by decimal digits. -/
def digitsValue (digits : Bytes) : Nat :=
  digits.foldl (fun value digit => value * 10 + digitValue digit) 0

/-- One more than the largest word. -/
def wordLimit : Nat :=
  0x10000000000000000

/-- The magnitude of the lowest signed word. -/
def lowestLimit : Nat :=
  0x8000000000000000

/-- Appends digits to a significand as long as it fits a word; answers the
significand and the digits that did not fit. -/
def appendDigits (significand : Nat) : Bytes → Nat × Bytes
  | [] => (significand, [])
  | digit :: rest =>
    let longer := significand * 10 + digitValue digit
    if longer < wordLimit then appendDigits longer rest
    else (significand, digit :: rest)

/-- The magnitude of the parts as a floating number, unless it is too
large. -/
def NumberParts.magnitude (parts : NumberParts) :
    Option Decimal.Binary64 :=
  let (significand, unread) := appendDigits 0 parts.whole
  let fraction := parts.fraction.getD []
  let (significand, surplus) := appendDigits significand fraction
  let shift : Int := (unread.length : Int) -
    ((fraction.length : Int) - surplus.length)
  let power : Int :=
    match parts.exponent with
    | none => 0
    | some (negative, digits) =>
      if negative then -(digitsValue digits : Int)
      else digitsValue digits
  Decimal.Binary64.scaled significand (shift + power)

/-- The value of the parts of a number with its sign. -/
def NumberParts.value (negative : Bool) (parts : NumberParts) :
    Except Problem Number :=
  let integral := parts.fraction.isNone && parts.exponent.isNone
  let whole := digitsValue parts.whole
  if integral && !negative && whole < wordLimit then
    .ok (.integer whole)
  else if integral && negative && 0 < whole && whole ≤ lowestLimit then
    .ok (.integer (-(whole : Int)))
  else
    match parts.magnitude with
    | some magnitude => .ok (.floating negative magnitude)
    | none => .error .numberOutOfRange

/-- Reads a number after its sign. -/
def readMagnitude (negative : Bool) (text : Bytes) :
    Except Problem (Number × Bytes) :=
  match readParts text with
  | .error problem => .error problem
  | .ok (parts, rest) =>
    match parts.value negative with
    | .error problem => .error problem
    | .ok number => .ok (number, rest)

/-- Reads a number whose first octet is a sign or a digit. -/
def readNumber : Bytes → Except Problem (Number × Bytes)
  | [] => .error .endInValue
  | octet :: rest =>
    if octet = minus then readMagnitude true rest
    else readMagnitude false (octet :: rest)

/-! ## Progress -/

theorem readWhole_length_lt
    {text whole rest : Bytes}
    (reads : readWhole text = .ok (whole, rest)) :
    rest.length < text.length := by
  cases text with
  | nil => simp [readWhole] at reads
  | cons octet text =>
    simp only [readWhole] at reads
    simp only [List.length_cons]
    split at reads
    · split at reads
      · simp at reads
      · cases reads
        omega
    · split at reads
      · cases reads
        have shorter := afterDigits_length_le text
        omega
      · simp at reads

theorem readFraction_length_le
    {text rest : Bytes} {fraction : Option Bytes}
    (reads : readFraction text = .ok (fraction, rest)) :
    rest.length ≤ text.length := by
  cases text with
  | nil => cases reads; simp
  | cons octet text =>
    simp only [readFraction] at reads
    split at reads
    · split at reads
      · simp at reads
      next next digits =>
        split at reads
        · cases reads
          have shorter := afterDigits_length_le (next :: digits)
          simp only [List.length_cons] at *
          omega
        · simp at reads
    · cases reads
      exact Nat.le_refl _

theorem readExponentDigits_length_le
    {negative : Bool} {text rest : Bytes}
    {exponent : Option (Bool × Bytes)}
    (reads : readExponentDigits negative text = .ok (exponent, rest)) :
    rest.length ≤ text.length := by
  unfold readExponentDigits at reads
  split at reads
  · simp at reads
  · split at reads
    · cases reads
      exact afterDigits_length_le _
    · simp at reads

theorem readExponent_length_le
    {text rest : Bytes} {exponent : Option (Bool × Bytes)}
    (reads : readExponent text = .ok (exponent, rest)) :
    rest.length ≤ text.length := by
  cases text with
  | nil => cases reads; simp
  | cons octet text =>
    simp only [readExponent] at reads
    split at reads
    · split at reads
      · simp at reads
      next sign digits =>
        simp only [List.length_cons]
        split at reads
        · have shorter := readExponentDigits_length_le reads
          omega
        · split at reads
          · have shorter := readExponentDigits_length_le reads
            omega
          · have shorter := readExponentDigits_length_le reads
            simp only [List.length_cons] at shorter
            omega
    · cases reads
      exact Nat.le_refl _

theorem readMagnitude_length_lt
    {negative : Bool} {text rest : Bytes} {number : Number}
    (reads : readMagnitude negative text = .ok (number, rest)) :
    rest.length < text.length := by
  unfold readMagnitude readParts at reads
  cases whole : readWhole text with
  | error problem => simp [whole] at reads
  | ok first =>
    obtain ⟨digits, afterWhole⟩ := first
    simp only [whole] at reads
    cases fraction : readFraction afterWhole with
    | error problem => simp [fraction] at reads
    | ok second =>
      obtain ⟨decimals, afterFraction⟩ := second
      simp only [fraction] at reads
      cases exponent : readExponent afterFraction with
      | error problem => simp [exponent] at reads
      | ok third =>
        obtain ⟨power, afterExponent⟩ := third
        simp only [exponent] at reads
        split at reads
        · simp at reads
        · cases reads
          have first := readWhole_length_lt whole
          have second := readFraction_length_le fraction
          have third := readExponent_length_le exponent
          omega

theorem readNumber_length_lt
    {text rest : Bytes} {number : Number}
    (reads : readNumber text = .ok (number, rest)) :
    rest.length < text.length := by
  cases text with
  | nil => simp [readNumber] at reads
  | cons octet text =>
    simp only [readNumber] at reads
    split at reads
    · have shorter := readMagnitude_length_lt reads
      simp only [List.length_cons]
      omega
    · exact readMagnitude_length_lt reads

end Workloads.Json
