import GridDiagram.Number.Decimal

/-!
The shortest decimal numeral that reads back as a given floating-point number, and of the shortest
ones the nearest.
-/

namespace GridDiagram

/-- The reals that are rounded to a given binary number. The ends belong to them when the mantissa
is even. -/
structure RoundingInterval where
  low : Rat
  high : Rat
  closed : Bool

/-- The interval around a positive binary number. Below a power of two the neighbours are half as
far apart, unless they are subnormal. -/
def Binary.interval (b : Binary) : RoundingInterval where
  low :=
    let v := b.magnitude
    if b.mantissa = 0x10000000000000 ∧ -1074 < b.exponent then v - (2 : Rat) ^ (b.exponent - 2)
    else v - (2 : Rat) ^ (b.exponent - 1)
  high := b.magnitude + (2 : Rat) ^ (b.exponent - 1)
  closed := b.mantissa % 2 == 0

/-- `q` is rounded to the number that the interval surrounds. -/
def RoundingInterval.holds (i : RoundingInterval) (q : Rat) : Bool :=
  if i.closed then i.low ≤ q && q ≤ i.high else i.low < q && q < i.high

/-- The multiple of `unit` inside the interval that is nearest to `v`, if one of the two around `v`
lies inside; a tie goes to the even one. -/
def RoundingInterval.nearest? (i : RoundingInterval) (v unit : Rat) : Option Nat :=
  let below := (v / unit).floor.toNat
  let above := below + 1
  let lower := i.holds (below * unit)
  let upper := i.holds (above * unit)
  if lower && upper then some (roundMagnitude (v / unit))
  else if lower then some below
  else if upper then some above
  else none

/-- The multiple of a power of ten that is read back as a positive binary number and has the fewest
significant digits: the factor and the exponent of the power. Seventeen digits always suffice. -/
def Binary.shortestMultiple (b : Binary) : Nat × Int :=
  let v := b.magnitude
  let e := decimalExponent v
  let found := (List.range 17).findSome? fun (k : Nat) =>
    (b.interval.nearest? v ((10 : Rat) ^ (e - k))).map fun n => (n, e - k)
  found.getD (roundToDigits 17 v)

/-- The form of a number in a data format: as many digits as are needed, positional below
ten to the sixteenth, and with a point that tells it from an integer. -/
def DecimalForm.full : DecimalForm := ⟨16, true⟩

/-- The shortest numeral that reads back as a finite number. -/
def Binary.shortest (b : Binary) : String :=
  let numeral :=
    if b.mantissa = 0 then ['0', '.', '0']
    else
      let (n, unit) := b.shortestMultiple
      DecimalForm.full.write n unit
  String.ofList (Decimal.sign b.negative ++ numeral)

end GridDiagram
