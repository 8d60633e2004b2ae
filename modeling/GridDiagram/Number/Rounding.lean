/-!
Rounding of quotients and rationals to the nearest integer, where a tie goes to the even neighbour,
and the decimal exponent of a rational.
-/

namespace GridDiagram

/-- The integer nearest `n / d`; a tie goes to the even one. -/
def roundQuotient (n d : Nat) : Nat :=
  let q := n / d
  let r := n % d
  if d < 2 * r ∨ (2 * r = d ∧ q % 2 = 1) then q + 1 else q

/-- The natural number nearest the magnitude of `q`; a tie goes to the even one. -/
def roundMagnitude (q : Rat) : Nat :=
  roundQuotient q.num.natAbs q.den

/-- The number of decimal digits of `n`; 0 has one. -/
def digitCount (n : Nat) : Nat :=
  (Nat.toDigits 10 n).length

/-- The exponent `e` with `10 ^ e ≤ q < 10 ^ (e + 1)`, for a positive `q`. The digit counts of
numerator and denominator leave two candidates. -/
def decimalExponent (q : Rat) : Int :=
  let e := (digitCount q.num.natAbs : Int) - digitCount q.den
  if (10 : Rat) ^ e ≤ q then e else e - 1

/-- The multiple of a power of ten that is nearest to a positive `q` among those with `count`
significant digits: the factor and the exponent of the power. The factor may be `10 ^ count`. -/
def roundToDigits (count : Nat) (q : Rat) : Nat × Int :=
  let unit := decimalExponent q - count + 1
  (roundMagnitude (q / (10 : Rat) ^ unit), unit)

end GridDiagram
