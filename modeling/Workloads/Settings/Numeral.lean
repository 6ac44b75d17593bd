/-!
# Numerals

Whole numbers as they are typed on a command line or set in an environment:
an optional sign, then decimal digits, with any number of leading zeros.  A
numeral is read from the left, and the first thing wrong with it is what is
reported: a number grows too large before a bad digit behind it is seen.
-/

namespace Workloads

/-- What is wrong with a numeral. -/
inductive NumeralFault where
  | empty
  | invalidDigit
  | tooLarge
  | tooSmall
  deriving DecidableEq, Repr

/-- The wording of a numeral fault. -/
def NumeralFault.text : NumeralFault → String
  | empty => "cannot parse integer from empty string"
  | invalidDigit => "invalid digit found in string"
  | tooLarge => "number too large to fit in target type"
  | tooSmall => "number too small to fit in target type"

namespace Numeral

/-- The value of a decimal digit. -/
def digitValue (letter : Char) : Nat :=
  letter.toNat - 48

/-- The value of a digit to a base of at most sixteen, in either letter
case. -/
def digit? (base : Nat) (letter : Char) : Option Nat :=
  let value :=
    if letter.isDigit then letter.toNat - 48
    else if 'a' ≤ letter ∧ letter ≤ 'f' then letter.toNat - 87
    else if 'A' ≤ letter ∧ letter ≤ 'F' then letter.toNat - 55
    else base
  if value < base then some value else none

/-- The number that digits to a base stand for, of which there must be one. -/
def ofDigits? (base : Nat) : List Char → Option Nat
  | [] => none
  | digits =>
    (digits.mapM (digit? base)).map
      (fun values => values.foldl (fun total value => total * base + value) 0)

/-- Reads digits that follow those of a total; a number above the limit is
the given fault. -/
def readDigits (limit : Nat) (beyond : NumeralFault) (total : Nat) :
    List Char → Except NumeralFault Nat
  | [] => .ok total
  | letter :: rest =>
    if letter.isDigit then
      let next := total * 10 + digitValue letter
      if next ≤ limit then readDigits limit beyond next rest
      else .error beyond
    else
      .error .invalidDigit

/-- Reads the digits behind a sign, of which there must be one. -/
def readMagnitude (limit : Nat) (beyond : NumeralFault) :
    List Char → Except NumeralFault Nat
  | [] => .error .invalidDigit
  | digits => readDigits limit beyond 0 digits

/-- Reads a number that has no minus sign and is at most the limit. -/
def readUnsigned (limit : Nat) (text : String) :
    Except NumeralFault Nat :=
  match text.toList with
  | [] => .error .empty
  | '+' :: digits => readMagnitude limit .tooLarge digits
  | digits => readDigits limit .tooLarge 0 digits

/-- Reads a number between the negative of the lower limit and the upper
one. -/
def readSigned (lower upper : Nat) (text : String) :
    Except NumeralFault Int :=
  match text.toList with
  | [] => .error .empty
  | '-' :: digits =>
    (readMagnitude lower .tooSmall digits).map (fun value => -(value : Int))
  | '+' :: digits =>
    (readMagnitude upper .tooLarge digits).map (fun value => (value : Int))
  | digits =>
    (readDigits upper .tooLarge 0 digits).map (fun value => (value : Int))

end Numeral

end Workloads
