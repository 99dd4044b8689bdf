import Untrack.Decimal.Binary64

namespace Untrack.Decimal

/-!
# The shortest decimal of a binary number

A binary number is written with the fewest digits that are read back as the same
number, and of those with the digits that come nearest to it. The decimals with
a given number of digits form a grid, so only the two grid points on either side
of the number need to be tried.
-/

/-- A decimal number: `digits * 10 ^ power`. -/
structure Numeral where
  digits : Nat
  power : Int
  deriving Repr, DecidableEq

namespace Binary64

/-- The reals that round to the number, as bounds in units of `2 ^ (exponent - 2)`. -/
def bounds (number : Binary64) : Nat × Nat :=
  let below :=
    if number.mantissa = Nat.pow 2 52 ∧ -1074 < number.exponent then 1 else 2
  (4 * number.mantissa - below, 4 * number.mantissa + 2)

/-- A decimal is read back as the number. -/
def readsBack (number : Binary64) (decimal : Numeral) : Bool :=
  let (low, high) := number.bounds
  let unit := number.exponent - 2
  let scale := Nat.pow 2 unit.toNat * Nat.pow 10 (-decimal.power).toNat
  let value :=
    decimal.digits * Nat.pow 10 decimal.power.toNat * Nat.pow 2 (-unit).toNat
  if number.mantissa % 2 = 0 then
    low * scale ≤ value && value ≤ high * scale
  else
    low * scale < value && value < high * scale

/-- The least power of ten above a number that is not zero. -/
def magnitude (number : Binary64) : Int :=
  let whole := number.numerator / number.denominator
  if whole = 0 then
    -(climb number.numerator number.denominator 0 400 : Nat)
  else
    (Nat.toDigits 10 whole).length
where
  /-- The zeros between the point and the first other digit. -/
  climb (numerator denominator zeros : Nat) : (fuel : Nat) → Nat
    | 0 => zeros
    | fuel + 1 =>
        if denominator ≤ 10 * numerator then
          zeros
        else
          climb (10 * numerator) denominator (zeros + 1) fuel

/-- The best decimal with a given number of digits, if one is read back. -/
def withDigits? (number : Binary64) (count : Nat) : Option Numeral :=
  let power := number.magnitude - count
  let numerator := number.numerator * Nat.pow 10 (-power).toNat
  let denominator := number.denominator * Nat.pow 10 power.toNat
  let lower : Numeral := ⟨numerator / denominator, power⟩
  let upper : Numeral := ⟨numerator / denominator + 1, power⟩
  let nearest : Numeral :=
    ⟨Binary64.roundQuotient numerator denominator, power⟩
  if number.readsBack nearest then some nearest
  else if number.readsBack lower then some lower
  else if number.readsBack upper then some upper
  else none

/-- A decimal without zeros at the end of its digits. -/
def stripZeros : (fuel : Nat) → Numeral → Numeral
  | 0, decimal => decimal
  | fuel + 1, decimal =>
      if decimal.digits ≠ 0 ∧ decimal.digits % 10 = 0 then
        stripZeros fuel ⟨decimal.digits / 10, decimal.power + 1⟩
      else
        decimal

/-- The shortest decimal that is read back as a number. -/
def shortest (number : Binary64) : Numeral :=
  if number.mantissa = 0 then
    ⟨0, 0⟩
  else
    match (List.range' 1 17).findSome? number.withDigits? with
    | some decimal => stripZeros 20 decimal
    | none => ⟨0, 0⟩

/-- An exponent with its sign, in as few digits as it takes. -/
def writeExponent (exponent : Int) : String :=
  (if exponent < 0 then "e-" else "e+") ++ toString exponent.natAbs

/--
The text of a number: in full from 10^-5 to below 10^16, always with a point and
a digit after it, and else with an exponent.
-/
def write (number : Binary64) : String :=
  let decimal := number.shortest
  let digits := (Nat.toDigits 10 decimal.digits)
  let point : Int := digits.length + decimal.power
  let zeros (count : Nat) : List Char := List.replicate count '0'
  if decimal.digits = 0 then
    "0.0"
  else if 0 ≤ decimal.power ∧ point ≤ 16 then
    String.ofList (digits ++ zeros decimal.power.toNat) ++ ".0"
  else if 0 < point ∧ point ≤ 16 then
    String.ofList (digits.take point.toNat ++ ['.'] ++ digits.drop point.toNat)
  else if -5 < point ∧ point ≤ 0 then
    String.ofList (['0', '.'] ++ zeros (-point).toNat ++ digits)
  else
    match digits with
    | [only] => String.ofList [only] ++ writeExponent (point - 1)
    | first :: rest =>
        String.ofList (first :: '.' :: rest) ++ writeExponent (point - 1)
    | [] => ""

end Binary64

end Untrack.Decimal
