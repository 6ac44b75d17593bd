import Workloads.Json.Writer
import Workloads.Proofs.Text.Order

/-!
# Strings are read back

A written string is read octet by octet.  Each octet of the text is written as
itself, as a letter behind a backslash or as a number behind one; the machine
that reads strings comes to the same octet in each case and is then where it was
before.  So the text that was written is read, whatever it is made of, and what
follows the closing quote is left.
-/

namespace Workloads.Json

/-! ## Single octets -/

theorem scanString_proceed {state next : StringState} {octet : UInt8}
    {octets : Bytes}
    (step : stringStep state octet = .ok (.proceed next octets))
    (reversed rest : Bytes) :
    scanString state reversed (octet :: rest) =
      scanString next (octets.reverse ++ reversed) rest := by
  simp only [scanString, step]

/-- The letter of an escape stands for the octet that it escapes. -/
theorem stringStep_letter {octet letter : UInt8}
    (escapes : escapeLetter? octet = some letter) :
    stringStep .escape letter = .ok (.proceed .plain [octet]) := by
  unfold escapeLetter? at escapes
  split_ifs at escapes with here <;>
    · cases escapes
      subst octet
      rfl

/-- An octet that needs no escape stands for itself. -/
theorem stringStep_plain {octet : UInt8}
    (free : escapeLetter? octet = none) (printable : ¬octet < 32) :
    stringStep .plain octet = .ok (.proceed .plain [octet]) := by
  unfold escapeLetter? at free
  split_ifs at free
  simp [stringStep, *]

theorem hexNumber?_hexPair :
    ∀ octet : UInt8,
      hexNumber? (48 :: 48 :: ascii (Bytes.hexPair octet)) =
        some octet.toNat :=
  Bytes.forall_octet (by decide +kernel)

theorem characterOctets_control :
    ∀ octet : UInt8, octet < 32 → characterOctets octet.toNat = [octet] :=
  Bytes.forall_octet (by decide +kernel)

/-- The number of a control stands for the control. -/
theorem unitStep_hexPair {octet : UInt8} (control : octet < 32) :
    unitStep (48 :: 48 :: ascii (Bytes.hexPair octet)) none =
      .ok (.proceed .plain [octet]) := by
  have low : octet.toNat < 32 := control
  have trailing : isTrailing octet.toNat = false := by
    simp [isTrailing]
    omega
  have leading : isLeading octet.toNat = false := by
    simp [isLeading]
    omega
  simp [unitStep, hexNumber?_hexPair, trailing, leading,
    characterOctets_control octet control]

/-- Four digits are collected and then read as what they stand for. -/
theorem scanString_digits {first second third fourth : UInt8}
    {leading : Option Nat} {next : StringState} {octets : Bytes}
    (unit :
      unitStep [first, second, third, fourth] leading =
        .ok (.proceed next octets))
    (reversed rest : Bytes) :
    scanString (.digits [] leading) reversed
        (first :: second :: third :: fourth :: rest) =
      scanString next (octets.reverse ++ reversed) rest := by
  have collected (sofar : Bytes) (short : sofar.length < 3) (digit : UInt8) :
      stringStep (.digits sofar leading) digit =
        .ok (.proceed (.digits (sofar ++ [digit]) leading) []) := by
    simp [stringStep, short]
  have closed :
      stringStep (.digits [first, second, third] leading) fourth =
        .ok (.proceed next octets) := unit
  calc
    _ = scanString (.digits [first] leading) reversed
          (second :: third :: fourth :: rest) :=
      scanString_proceed (collected [] (by simp) first) _ _
    _ = scanString (.digits [first, second] leading) reversed
          (third :: fourth :: rest) :=
      scanString_proceed (collected [first] (by simp) second) _ _
    _ = scanString (.digits [first, second, third] leading) reversed
          (fourth :: rest) :=
      scanString_proceed (collected [first, second] (by simp) third) _ _
    _ = scanString next (octets.reverse ++ reversed) rest :=
      scanString_proceed closed _ _

/-- Four digits behind a backslash and the letter for a number are read as what
they stand for. -/
theorem scanString_unit {first second third fourth : UInt8}
    {next : StringState} {octets : Bytes}
    (unit :
      unitStep [first, second, third, fourth] none =
        .ok (.proceed next octets))
    (reversed rest : Bytes) :
    scanString .plain reversed
        (backslash :: unicodeLetter :: first :: second :: third :: fourth ::
          rest) =
      scanString next (octets.reverse ++ reversed) rest := by
  have opened : stringStep .plain backslash = .ok (.proceed .escape []) := rfl
  have announced :
      stringStep .escape unicodeLetter =
        .ok (.proceed (.digits [] none) []) := rfl
  calc
    _ = scanString .escape reversed
          (unicodeLetter :: first :: second :: third :: fourth :: rest) :=
      scanString_proceed opened _ _
    _ = scanString (.digits [] none) reversed
          (first :: second :: third :: fourth :: rest) :=
      scanString_proceed announced _ _
    _ = scanString next (octets.reverse ++ reversed) rest :=
      scanString_digits unit reversed rest

/-- A written octet is read as the octet. -/
theorem scanString_writeOctet (octet : UInt8) (reversed rest : Bytes) :
    scanString .plain reversed (writeOctet octet ++ rest) =
      scanString .plain (octet :: reversed) rest := by
  unfold writeOctet
  split
  next letter escapes =>
    have opened : stringStep .plain backslash = .ok (.proceed .escape []) := rfl
    rw [List.cons_append, scanString_proceed opened]
    exact scanString_proceed (stringStep_letter escapes) reversed rest
  next free =>
    split
    next control =>
      exact scanString_unit (unitStep_hexPair control) reversed rest
    next printable =>
      exact scanString_proceed (stringStep_plain free printable) reversed rest

/-! ## Texts -/

theorem scanString_written (octets reversed rest : Bytes) :
    scanString .plain reversed
        (octets.flatMap writeOctet ++ quote :: rest) =
      .ok (reversed.reverse ++ octets, rest) := by
  induction octets generalizing reversed with
  | nil => simp [scanString, stringStep]
  | cons octet octets hypothesis =>
      rw [List.flatMap_cons, List.append_assoc, scanString_writeOctet,
        hypothesis]
      simp

/-- A written text is read back up to its closing quote. -/
theorem readString_written (text : String) (rest : Bytes) :
    readString
        ((Bytes.ofText text).flatMap writeOctet ++ quote :: rest) =
      .ok (text, rest) := by
  simp [readString, scanString_written]

end Workloads.Json
