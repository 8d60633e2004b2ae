import GridDiagram.Number.Error
import GridDiagram.Plane

/-!
The circle and the right-angled triangle, as far as a diagram needs them: turned boxes, regular
polygons and distances. What holds of a diagram holds for any numbers that stand in for the cosines,
sines and lengths, so these are a parameter.
-/

namespace GridDiagram

/-- Half the turn of a circle, the point of the unit circle at an angle (its cosine and its sine),
and the length of the longest side of a right-angled triangle. -/
structure Trigonometry (α : Type) where
  pi : α
  circle : α → Except NumberError (Pair α)
  hypotenuse : α → α → α

/-- The point of the unit circle at an angle in degrees. -/
def Trigonometry.turn {α : Type} [Scalar α] (t : Trigonometry α) (degrees : α) :
    Except NumberError (Pair α) :=
  t.circle (degrees * (t.pi / 180.0))

/-- The largest integer whose square is at most `n`. -/
def integerRoot (n : Nat) : Nat :=
  if n = 0 then 0
  else
    let r := 2 * integerRoot (n / 4)
    if (r + 1) * (r + 1) ≤ n then r + 1 else r
termination_by n

/-- The number nearest to the square root of `n * 4 ^ exponent`. The root is taken with more digits
than a floating-point number has, and a last one that says whether anything is left. -/
def floatRoot (n : Nat) (exponent : Int) : Float :=
  let scaled := n * Nat.pow 4 64
  let r := integerRoot scaled
  let sticky := if r * r = scaled then 0 else 1
  let unit := exponent - 65
  floatOfQuotient ((2 * r + sticky) * Nat.pow 2 unit.toNat) (Nat.pow 2 (-unit).toNat)

/-- The longest side of a right-angled triangle in floating point, rounded once. -/
def floatHypotenuse (a b : Float) : Float :=
  match Binary.ofFloat? a, Binary.ofFloat? b with
  | some a, some b =>
    let e := min a.exponent b.exponent
    let m := a.mantissa * Nat.pow 2 (a.exponent - e).toNat
    let n := b.mantissa * Nat.pow 2 (b.exponent - e).toNat
    floatRoot (m * m + n * n) e
  | _, _ =>
    let infinite (x : Float) := x == 1.0 / 0.0 || x == -(1.0 / 0.0)
    if infinite a || infinite b then 1.0 / 0.0 else 0.0 / 0.0

/-- Trigonometry in floating point. -/
def Trigonometry.float : Trigonometry Float where
  pi := 3.141592653589793
  circle angle :=
    if angle == 1.0 / 0.0 || angle == -(1.0 / 0.0) then .error .angleUnbounded
    else .ok ⟨Float.cos angle, Float.sin angle⟩
  hypotenuse := floatHypotenuse

end GridDiagram
