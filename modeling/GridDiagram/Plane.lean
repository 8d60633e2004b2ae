/-!
The two axes of the plane, values that come one to an axis, and values that come one to a side.
-/

namespace GridDiagram

inductive Axis where
  | x
  | y
  deriving DecidableEq, Repr

def Axis.name : Axis → String
  | .x => "x"
  | .y => "y"

/-- One value for each axis: a point, a size, the spans of a placement. -/
structure Pair (β : Type) where
  x : β
  y : β
  deriving DecidableEq, Repr

namespace Pair

variable {β γ : Type}

/-- The value on an axis. -/
def on (p : Pair β) : Axis → β
  | .x => p.x
  | .y => p.y

/-- The pair with the value `f a` on each axis `a`. -/
def ofAxes (f : Axis → β) : Pair β :=
  ⟨f .x, f .y⟩

@[simp] theorem on_ofAxes (f : Axis → β) (a : Axis) : (ofAxes f).on a = f a := by
  cases a <;> rfl

/-- The pair with `f` applied to both values. -/
def map (f : β → γ) (p : Pair β) : Pair γ :=
  ⟨f p.x, f p.y⟩

end Pair

/-- One value for each side of a box. -/
structure Sides (β : Type) where
  left : β
  top : β
  right : β
  bottom : β
  deriving DecidableEq, Repr

/-- The same value on every side. -/
def Sides.all {β : Type} (v : β) : Sides β :=
  ⟨v, v, v, v⟩

end GridDiagram
