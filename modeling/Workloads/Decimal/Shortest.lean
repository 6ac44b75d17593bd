import Workloads.Decimal.Binary64

/-!
# Shortest decimals

The fewest decimal digits that still read back as a given magnitude.  The
numbers that read back are those of an interval around the magnitude; for each
count of digits the two neighbours of the magnitude on that decimal grid are
tested, and the first grid with a hit wins, of two hits the nearer one.
-/

namespace Workloads.Decimal

/-- Digits times the power of ten of an exponent. -/
structure Scientific where
  digits : Nat
  exponent : Int
  deriving DecidableEq, Repr, Inhabited

/-- The interval of the numbers that round to a magnitude, in quarters of its
last place: its ends, and whether they belong to it. -/
structure Interval where
  low : Nat
  high : Nat
  closed : Bool

/-- The numbers that round to this magnitude. -/
def Binary64.interval (value : Binary64) : Interval where
  low :=
    if value.mantissa = Binary64.leastNormal ∧
        Binary64.leastExponent < value.exponent then
      4 * value.mantissa - 1
    else
      4 * value.mantissa - 2
  high := 4 * value.mantissa + 2
  closed := value.mantissa % 2 = 0

/-- The count of decimal digits of a number; zero has one. -/
def digitCount (value : Nat) : Nat :=
  (Nat.toDigits 10 value).length

/-- The power of ten just above a positive magnitude. -/
def Binary64.decimalOrder (value : Binary64) : Int :=
  (digitCount (value.numerator * tenTo 400 / value.denominator) : Int) - 400

/-- Compares `quarters` quarters of the last place of a magnitude with a
decimal number, both as integers over a common denominator. -/
def quarterSides (value : Binary64) (quarters : Nat) (point : Scientific) :
    Nat × Nat :=
  let exponent := value.exponent - 2
  (quarters * twoTo exponent.toNat * tenTo (-point.exponent).toNat,
    point.digits * tenTo point.exponent.toNat * twoTo (-exponent).toNat)

/-- Whether a decimal number reads back as this magnitude. -/
def Binary64.admits (value : Binary64) (point : Scientific) : Bool :=
  let interval := value.interval
  let (low, atLow) := quarterSides value interval.low point
  let (high, atHigh) := quarterSides value interval.high point
  if interval.closed then low ≤ atLow && atHigh ≤ high
  else low < atLow && atHigh < high

/-- How far a decimal number is from this magnitude, in a unit that depends on
the grid alone. -/
def Binary64.distance (value : Binary64) (point : Scientific) : Nat :=
  let (exact, approximate) := quarterSides value (4 * value.mantissa) point
  (exact - approximate) + (approximate - exact)

/-- The neighbours of this magnitude on the grid of so many digits. -/
def Binary64.neighbours (value : Binary64) (count : Nat) :
    Scientific × Scientific :=
  let exponent := value.decimalOrder - count
  let below :=
    value.numerator * tenTo (-exponent).toNat /
      (value.denominator * tenTo exponent.toNat)
  ({ digits := below, exponent := exponent },
    { digits := below + 1, exponent := exponent })

/-- The neighbour on this grid that reads back, if one does; of two the nearer
one, and the even one if they are equally near. -/
def Binary64.onGrid? (value : Binary64) (count : Nat) : Option Scientific :=
  let (below, above) := value.neighbours count
  match value.admits below, value.admits above with
  | true, false => some below
  | false, true => some above
  | false, false => none
  | true, true =>
    let beneath := value.distance below
    let beyond := value.distance above
    if beneath < beyond then some below
    else if beyond < beneath then some above
    else if below.digits % 2 = 0 then some below
    else some above

/-- The digit counts to try; seventeen digits always read back. -/
def digitCounts : List Nat :=
  List.range' 1 17

/-- Drops zeros at the end of the digits. -/
def Scientific.trim (fuel : Nat) (value : Scientific) : Scientific :=
  match fuel with
  | 0 => value
  | fuel + 1 =>
    if value.digits ≠ 0 ∧ value.digits % 10 = 0 then
      trim fuel
        { digits := value.digits / 10, exponent := value.exponent + 1 }
    else
      value

/-- The shortest decimal that reads back as a positive magnitude. -/
def Binary64.shortest (value : Binary64) : Scientific :=
  ((digitCounts.findSome? value.onGrid?).getD default).trim 20

/-- How a decimal number is written out. -/
structure Layout where
  /-- The largest power of ten written with its zeros. -/
  largestPositional : Int
  /-- The smallest power of ten written with its zeros. -/
  smallestPositional : Int
  /-- What follows a number without a fraction. -/
  emptyFraction : String
  /-- What announces a positive exponent. -/
  positiveMark : String
  /-- What announces a negative exponent. -/
  negativeMark : String

/-- A decimal number written out; the first digit stands for the power of ten
that decides between the two notations. -/
def Layout.write (layout : Layout) (value : Scientific) : String :=
  let digits := Nat.toDigits 10 value.digits
  let power := value.exponent + digits.length - 1
  if layout.smallestPositional ≤ power ∧ power ≤ layout.largestPositional then
    if 0 ≤ value.exponent then
      String.ofList (digits ++ List.replicate value.exponent.toNat '0') ++
        layout.emptyFraction
    else if 0 ≤ power then
      String.ofList (digits.take (power.toNat + 1)) ++ "." ++
        String.ofList (digits.drop (power.toNat + 1))
    else
      "0." ++ String.ofList
        (List.replicate ((-power).toNat - 1) '0' ++ digits)
  else
    let fraction := digits.drop 1
    String.ofList (digits.take 1) ++
      (if fraction.isEmpty then ""
        else "." ++ String.ofList fraction) ++
      (if 0 ≤ power then layout.positiveMark else layout.negativeMark) ++
      toString power.natAbs

/-- The shortest decimal of a magnitude written out. -/
def Layout.writeShortest (layout : Layout) (value : Binary64) : String :=
  if value.mantissa = 0 then "0" ++ layout.emptyFraction
  else layout.write value.shortest

end Workloads.Decimal
