import GridDiagram.Plane
import GridDiagram.Scalar

/-!
Boxes: rectangles along the axes.
-/

namespace GridDiagram

/-- A rectangle by its first corner and its size. -/
structure Box (α : Type) where
  x : α
  y : α
  width : α
  height : α
  deriving DecidableEq, Repr

namespace Box

variable {α : Type} [Scalar α]

/-- The end of a box on the x axis. -/
def right (b : Box α) : α :=
  b.x + b.width

/-- The end of a box on the y axis. -/
def bottom (b : Box α) : α :=
  b.y + b.height

/-- The middle of a box. -/
def center (b : Box α) : Pair α :=
  ⟨b.x + b.width / 2.0, b.y + b.height / 2.0⟩

def start (b : Box α) : Axis → α
  | .x => b.x
  | .y => b.y

/-- How long a box is on an axis. -/
def extent (b : Box α) : Axis → α
  | .x => b.width
  | .y => b.height

/-- The box without a strip at each side. No size falls below zero. -/
def shrink (b : Box α) (inset : Sides α) : Box α :=
  ⟨b.x + inset.left, b.y + inset.top,
    Scalar.larger (b.width - inset.left - inset.right) 0.0,
    Scalar.larger (b.height - inset.top - inset.bottom) 0.0⟩

/-- The box moved along both axes. -/
def moved (b : Box α) (d : Pair α) : Box α :=
  ⟨b.x + d.x, b.y + d.y, b.width, b.height⟩

/-- A box lies inside another one, up to a tolerance. -/
def contains (b other : Box α) (tolerance : α) : Bool :=
  b.x - tolerance ≤ other.x && b.y - tolerance ≤ other.y &&
    other.right ≤ b.right + tolerance && other.bottom ≤ b.bottom + tolerance

/-- The box of its starts and its sizes on the two axes. -/
def ofStarts (start size : Pair α) : Box α :=
  ⟨start.x, start.y, size.x, size.y⟩

/-- The box of a size around a point. -/
def around (center size : Pair α) : Box α :=
  ⟨center.x - size.x / 2.0, center.y - size.y / 2.0, size.x, size.y⟩

end Box

end GridDiagram
