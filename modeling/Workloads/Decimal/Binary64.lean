/-!
# Binary floating-point magnitudes

The magnitudes of 64-bit binary floating-point numbers, as integers times
powers of two.  Every operation computes the exact rational result and rounds
it once: to the nearest magnitude, a tie to the even one.  A result beyond the
largest magnitude has no value.
-/

namespace Workloads.Decimal

/-- A power of two. -/
def twoTo (power : Nat) : Nat :=
  Nat.pow 2 power

/-- A power of ten. -/
def tenTo (power : Nat) : Nat :=
  Nat.pow 10 power

/-- A mantissa times the power of two of an exponent. -/
structure Binary64 where
  mantissa : Nat
  exponent : Int
  deriving DecidableEq, Repr, Inhabited

/-- The integer nearest to a quotient, a tie to the even one. -/
def roundedQuotient (numerator denominator : Nat) : Nat :=
  let quotient := numerator / denominator
  let remainder := numerator % denominator
  if 2 * remainder < denominator then quotient
  else if denominator < 2 * remainder then quotient + 1
  else if quotient % 2 = 0 then quotient
  else quotient + 1

namespace Binary64

/-- The least exponent of a magnitude. -/
def leastExponent : Int :=
  -1074

/-- The least mantissa with all its digits. -/
def leastNormal : Nat :=
  0x10000000000000

/-- The least mantissa with a digit too many. -/
def leastWide : Nat :=
  0x20000000000000

/-- The numerator of a magnitude as a quotient of integers. -/
def numerator (value : Binary64) : Nat :=
  value.mantissa * twoTo value.exponent.toNat

/-- The denominator of a magnitude as a quotient of integers. -/
def denominator (value : Binary64) : Nat :=
  twoTo (-value.exponent).toNat

/-- The power of two at or below a positive quotient. -/
def binaryOrder (numerator denominator : Nat) : Int :=
  let estimate : Int := (numerator.log2 : Int) - denominator.log2
  if numerator * twoTo (-estimate).toNat <
      denominator * twoTo estimate.toNat then
    estimate - 1
  else
    estimate

/-- The magnitude nearest to a quotient, unless it is too large. -/
def ofQuotient (numerator denominator : Nat) : Option Binary64 :=
  if numerator = 0 then
    some { mantissa := 0, exponent := leastExponent }
  else
    let exponent :=
      max (binaryOrder numerator denominator - 52) leastExponent
    let rounded :=
      roundedQuotient (numerator * twoTo (-exponent).toNat)
        (denominator * twoTo exponent.toNat)
    let value : Binary64 :=
      if rounded = leastWide then
        { mantissa := leastNormal, exponent := exponent + 1 }
      else
        { mantissa := rounded, exponent := exponent }
    if value.exponent ≤ 971 then some value else none

/-- The magnitude nearest to an integer below the sixty-fourth power of two. -/
def ofNat (value : Nat) : Option Binary64 :=
  ofQuotient value 1

/-- The rounded product. -/
def mul (left right : Binary64) : Option Binary64 :=
  ofQuotient (left.numerator * right.numerator)
    (left.denominator * right.denominator)

/-- The rounded quotient by a positive magnitude. -/
def div (left right : Binary64) : Option Binary64 :=
  ofQuotient (left.numerator * right.denominator)
    (left.denominator * right.numerator)

/-- The magnitude nearest to a power of ten. -/
def powerOfTen (power : Nat) : Option Binary64 :=
  ofQuotient (tenTo power) 1

/-- The largest power of ten below the largest magnitude. -/
def largestPower : Nat :=
  308

/-- A magnitude divided by a power of ten, in steps of at most the largest
power; each step rounds. -/
def shiftDown (value : Binary64) (power : Nat) : Option Binary64 :=
  if power ≤ largestPower then do
    value.div (← powerOfTen power)
  else if value.mantissa = 0 then
    some value
  else do
    shiftDown (← value.div (← powerOfTen largestPower))
      (power - largestPower)
termination_by power
decreasing_by simp only [largestPower] at *; omega

/-- A magnitude multiplied by a power of ten, unless it is too large. -/
def shiftUp (value : Binary64) (power : Nat) : Option Binary64 :=
  if power ≤ largestPower then do
    value.mul (← powerOfTen power)
  else if value.mantissa = 0 then
    some value
  else
    none

/-- An integer scaled by a power of ten: the integer is rounded first, then
the result of each step. -/
def scaled (significand : Nat) (power : Int) : Option Binary64 := do
  let value ← ofNat significand
  if 0 ≤ power then value.shiftUp power.toNat
  else value.shiftDown (-power).toNat

end Binary64

end Workloads.Decimal
