import GridDiagram.Scalar

/-!
Operations that numbers of a diagram may have no result for: the nearest integer, a point of the
circle, and a quotient.
-/

namespace GridDiagram

/-- Why an operation on numbers has no result. -/
inductive NumberError where
  | roundedNan
  | roundedInfinity
  | angleUnbounded
  | integerTooLarge
  | divisionByZero
  deriving DecidableEq, Repr

/-- The wording of an error. -/
def NumberError.message : NumberError → String
  | roundedNan => "cannot convert float NaN to integer"
  | roundedInfinity => "cannot convert float infinity to integer"
  | angleUnbounded => "math domain error"
  | integerTooLarge => "int too large to convert to float"
  | divisionByZero => "float division by zero"

/-- The integer nearest to a value; a tie goes to the even one. -/
def Exact.round : Exact → Except NumberError Int
  | .nan => .error .roundedNan
  | .infinite _ => .error .roundedInfinity
  | .finite negative magnitude =>
    let n : Int := roundMagnitude magnitude
    .ok (if negative then -n else n)

namespace Scalar

variable {α : Type} [Scalar α]

/-- The integer nearest to a number; a tie goes to the even one. -/
def round (x : α) : Except NumberError Int :=
  (exact x).round

/-- The number nearest to an integer, if one is in range. -/
def ofBoundedInt (n : Int) : Except NumberError α :=
  let x : α := ofInt n
  match exact x with
  | .finite _ _ => .ok x
  | _ => .error .integerTooLarge

/-- The quotient of two numbers, unless the divisor is zero. Beside each definition that divides by
a number of the diagram stands that this division has a result wherever it comes to it. -/
def divide (a b : α) : Except NumberError α :=
  if b == 0.0 then .error .divisionByZero else .ok (a / b)

theorem divide_eq_ok {a b : α} (h : (b == 0.0) = false) : divide a b = .ok (a / b) :=
  if_neg (Bool.eq_false_iff.mp h)

/-- Numbers of which none above zero equals zero, and none that counts something. -/
class ApartFromZero (α : Type) [Scalar α] : Prop where
  of_pos : ∀ {x : α}, 0.0 < x → (x == 0.0) = false
  of_count : ∀ {n : Nat}, n ≠ 0 → ((ofInt n : α) == 0.0) = false

end Scalar

end GridDiagram
