namespace Untrack.Decimal

/-!
# Binary numbers of double width

A binary number is a whole mantissa below 2^53 times a power of two that is at
least 2^-1074. `Binary64.nearest?` finds the one that is nearest to a fraction;
of two that are equally near it takes the one with the even mantissa. All of it
is exact arithmetic on whole numbers.
-/

/-- The size of a binary number: `mantissa * 2 ^ exponent`. -/
structure Binary64 where
  mantissa : Nat
  exponent : Int
  deriving Repr, DecidableEq

namespace Binary64

/-- The number zero. -/
def zero : Binary64 where
  mantissa := 0
  exponent := -1074

/-- The numerator of the number as a fraction. -/
def numerator (number : Binary64) : Nat :=
  number.mantissa * Nat.pow 2 number.exponent.toNat

/-- The denominator of the number as a fraction. -/
def denominator (number : Binary64) : Nat :=
  Nat.pow 2 (-number.exponent).toNat

/-- A quotient rounded to the nearest whole number, a half to the even one. -/
def roundQuotient (numerator denominator : Nat) : Nat :=
  let quotient := numerator / denominator
  let twice := 2 * (numerator % denominator)
  if denominator < twice ∨ (twice = denominator ∧ quotient % 2 = 1) then
    quotient + 1
  else
    quotient

/-- A fraction in units of `2 ^ exponent`, rounded to a whole number of them. -/
def inUnits (numerator denominator : Nat) (exponent : Int) : Nat :=
  roundQuotient
    (numerator * Nat.pow 2 (-exponent).toNat)
    (denominator * Nat.pow 2 exponent.toNat)

/--
The binary number nearest to a fraction, or none if the fraction is too large
for any.
-/
def nearest? (numerator denominator : Nat) : Option Binary64 :=
  if numerator = 0 then
    some zero
  else
    let guess : Int :=
      max (-1074) (Nat.log2 numerator - Nat.log2 denominator - 53)
    let exponent :=
      if Nat.pow 2 53 ≤ inUnits numerator denominator guess then guess + 1 else guess
    let units := inUnits numerator denominator exponent
    let (mantissa, exponent) :=
      if units = Nat.pow 2 53 then (Nat.pow 2 52, exponent + 1) else (units, exponent)
    if 971 < exponent then none else some ⟨mantissa, exponent⟩

/-- The product of two numbers, rounded; none if it is too large. -/
def mul? (left right : Binary64) : Option Binary64 :=
  nearest?
    (left.numerator * right.numerator)
    (left.denominator * right.denominator)

/-- The quotient of two numbers, rounded. -/
def div (left right : Binary64) : Binary64 :=
  (nearest?
    (left.numerator * right.denominator)
    (left.denominator * right.numerator)).getD zero

/-- The binary number nearest to a power of ten, for powers up to 308. -/
def powerOfTen (power : Nat) : Binary64 :=
  (nearest? (Nat.pow 10 power) 1).getD zero

/--
A whole number below 2^64 times a power of ten, rounded after each of the steps
that it is computed in: the whole number first, and then one product or one
quotient by a power of ten. A power below -308 takes a quotient more for each
308 it lies lower. None if the result is too large.
-/
def scaled? (whole : Nat) (power : Int) : Option Binary64 := do
  let start ← nearest? whole 1
  lower start power 8
where
  /-- Bring the power into the range of one step. -/
  lower (number : Binary64) (power : Int) : (fuel : Nat) → Option Binary64
    | 0 => some zero
    | fuel + 1 =>
        if power.natAbs ≤ 308 then
          if 0 ≤ power then
            number.mul? (powerOfTen power.natAbs)
          else
            some (number.div (powerOfTen power.natAbs))
        else if number.mantissa = 0 then
          some number
        else if 0 ≤ power then
          none
        else
          lower (number.div (powerOfTen 308)) (power + 308) fuel

end Binary64

end Untrack.Decimal
