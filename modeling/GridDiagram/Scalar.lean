import GridDiagram.Number.Decimal
import GridDiagram.Number.Numeral

/-!
The numbers of a diagram. Everything from the attributes to the drawing is written over one class,
so that it runs in binary floating point and can be reasoned about in exact rationals.
-/

namespace GridDiagram

/-- A type of numbers with the operations that a diagram needs. `ofNumeral?` reads a numeral, where
the type has its value; `exact` is the value that is rounded and written. -/
class Scalar (α : Type) extends Add α, Sub α, Mul α, Div α, Neg α, LT α, LE α, BEq α,
    OfScientific α where
  decideLT : DecidableLT α
  decideLE : DecidableLE α
  ofInt : Int → α
  ofNumeral? : Numeral → Option α
  exact : α → Exact

instance Scalar.decidableLT {α : Type} [Scalar α] : DecidableLT α := Scalar.decideLT

instance Scalar.decidableLE {α : Type} [Scalar α] : DecidableLE α := Scalar.decideLE

/-- The number nearest to `± digits * 10 ^ exponent`. Beyond the range of floating point the digit
count decides, so that no large power is computed. -/
def floatOfDecimal (negative : Bool) (digits : Nat) (exponent : Int) : Float :=
  let order := digitCount digits + exponent
  let magnitude : Float :=
    if digits = 0 ∨ order < -330 then 0.0
    else if 310 < order then 1.0 / 0.0
    else
      floatOfQuotient (digits * Nat.pow 10 exponent.toNat) (Nat.pow 10 (-exponent).toNat)
  if negative then -magnitude else magnitude

/-- The floating-point number that a numeral stands for. -/
def floatOfNumeral : Numeral → Float
  | .finite negative digits exponent => floatOfDecimal negative digits exponent
  | .infinite negative => if negative then -(1.0 / 0.0) else 1.0 / 0.0
  | .nan => 0.0 / 0.0

instance Scalar.ofFloat : Scalar Float where
  decideLT := inferInstance
  decideLE := inferInstance
  ofInt n := floatOfDecimal (n < 0) n.natAbs 0
  ofNumeral? n := some (floatOfNumeral n)
  exact := Exact.ofFloat

/-- The rational that a numeral stands for; infinity and no number are none. -/
def ratOfNumeral? : Numeral → Option Rat
  | .finite negative digits exponent =>
    let magnitude := (digits : Rat) * (10 : Rat) ^ exponent
    some (if negative then -magnitude else magnitude)
  | .infinite _ => none
  | .nan => none

instance Scalar.ofRat : Scalar Rat where
  decideLT := inferInstance
  decideLE := inferInstance
  ofInt n := n
  ofNumeral? := ratOfNumeral?
  exact := Exact.ofRat

namespace Scalar

variable {α : Type} [Scalar α]

/-- The first of two numbers, unless the second is strictly greater. -/
def larger (a b : α) : α :=
  if a < b then b else a

/-- The first of two numbers, unless the second is strictly smaller. -/
def smaller (a b : α) : α :=
  if b < a then b else a

/-- The sum of a list, added up from the left. -/
def sum (xs : List α) : α :=
  xs.foldl (· + ·) 0.0

/-- The magnitude of a number. -/
def magnitude (a : α) : α :=
  if a < 0.0 then -a else a

/-- Reads a numeral of a source. -/
def parse? (s : String) : Option α :=
  (Numeral.parse? s).bind ofNumeral?

end Scalar

end GridDiagram
