import GridDiagram.Number.Error

/-!
Coordinates of a drawing as text: an integer where the number is as good as one, and three decimals
at most elsewhere.
-/

namespace GridDiagram.Drawing

variable {α : Type} [Scalar α]

/-- Two numbers are as good as equal: they differ by no more than a billionth of the larger one, or
of one. -/
def isClose (a b : α) : Bool :=
  let difference := Scalar.magnitude (b - a)
  a == b || difference ≤ Scalar.magnitude (1e-9 * b) || difference ≤ Scalar.magnitude (1e-9 * a) ||
    difference ≤ 1e-9

/-- The text of a coordinate, which has to be finite. -/
def coordinate (x : α) : Except NumberError String := do
  let n ← Scalar.round x
  if isClose x (Scalar.ofInt n) then return String.ofList (Decimal.integer n)
  else
    match Scalar.exact x with
    | .finite negative magnitude =>
      return String.ofList (Decimal.shorten (Decimal.fixed 3 negative magnitude))
    | _ => return String.ofList (Decimal.integer n)

end GridDiagram.Drawing
