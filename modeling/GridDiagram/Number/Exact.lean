import GridDiagram.Number.Rounding

/-!
The exact value of a number in binary floating point: what is rounded, compared with a decimal and
written as text; and the way back, from a quotient to the number nearest to it.
-/

namespace GridDiagram

/-- What a number stands for. The sign is kept beside the magnitude, because zero has one too. -/
inductive Exact where
  | finite (negative : Bool) (magnitude : Rat)
  | infinite (negative : Bool)
  | nan

/-- A finite number of binary floating point: `± mantissa · 2 ^ exponent`. -/
structure Binary where
  negative : Bool
  mantissa : Nat
  exponent : Int

/-- The magnitude of a binary number. -/
def Binary.magnitude (b : Binary) : Rat :=
  (b.mantissa : Rat) * (2 : Rat) ^ b.exponent

/-- The parts of a floating-point number that is finite. Where the exponent field is zero the
leading bit of the mantissa is 0 (and the exponent that of the smallest normal numbers), elsewhere
it is 1. -/
def Binary.ofFloat? (x : Float) : Option Binary :=
  let bits := x.toBits.toNat
  let field := bits / 0x10000000000000 % 0x800
  let fraction := bits % 0x10000000000000
  let negative := 0x8000000000000000 ≤ bits
  if field = 0x7ff then none
  else if field = 0 then some ⟨negative, fraction, -1074⟩
  else some ⟨negative, fraction + 0x10000000000000, field - 1075⟩

/-- The exponent of the last bit of the floating-point number nearest to `n / d`: 53 bits are kept,
but none below that of the smallest positive number. -/
def lastBit (n d : Nat) : Int :=
  let e : Int := (n.log2 : Int) - d.log2
  let reached :=
    if 0 ≤ e then d * Nat.pow 2 e.toNat ≤ n else d ≤ n * Nat.pow 2 (-e).toNat
  max ((if reached then e else e - 1) - 52) (-1074)

/-- The bits of infinity. Those of the numbers from zero up to it follow one another in the order of
the numbers. -/
def infinityBits : Nat :=
  0x7ff0000000000000

/-- The floating-point number nearest to `n / d`; a tie goes to the even mantissa. The leading bit
of a mantissa with 53 of them counts up the exponent field. -/
def floatOfQuotient (n d : Nat) : Float :=
  if n = 0 then 0.0
  else
    let unit := lastBit n d
    let mantissa := roundQuotient (n * Nat.pow 2 (-unit).toNat) (d * Nat.pow 2 unit.toNat)
    let bits := (unit + 1074).toNat * 0x10000000000000 + mantissa
    Float.ofBits (UInt64.ofNat (min bits infinityBits))

/-- The exact value of a floating-point number. -/
def Exact.ofFloat (x : Float) : Exact :=
  match Binary.ofFloat? x with
  | some b => .finite b.negative b.magnitude
  | none => if x == x then .infinite (x < 0.0) else .nan

/-- The exact value of a rational is itself. -/
def Exact.ofRat (q : Rat) : Exact :=
  .finite (q < 0) (if q < 0 then -q else q)

end GridDiagram
