import GridDiagram.Number.Error
import GridDiagram.Plane

/-!
Measures of text: how wide a line is, and how high above and below its baseline it reaches.
-/

namespace GridDiagram

/-- The vertical measures of a line of text. -/
structure LineMetrics (α : Type) where
  ascent : α
  descent : α
  height : α
  deriving DecidableEq, Repr

/-- Measures of lines of text in a size and a family of fonts. -/
structure Measurer (α : Type) where
  metrics : α → Option String → Except NumberError (LineMetrics α)
  width : String → α → Option String → Except NumberError α

namespace Measurer

variable {α : Type} [Scalar α]

/-- The width of the widest line, where one of width `widest` has gone before. -/
def widestOf (m : Measurer α) (size : α) (family : Option String) (widest : α) :
    List String → Except NumberError α
  | [] => .ok widest
  | line :: lines => do
    let w ← m.width line size family
    widestOf m size family (Scalar.larger widest w) lines

/-- The size of a text: as wide as its widest line, with one ascent above the first baseline and
one descent below the last. -/
def textSize (m : Measurer α) (lines : List String) (size : α) (family : Option String) :
    Except NumberError (Pair α) :=
  match lines with
  | [] => .ok ⟨0.0, 0.0⟩
  | first :: rest => do
    let v ← m.metrics size family
    let w ← m.width first size family
    let width ← m.widestOf size family w rest
    return ⟨width, v.ascent + v.descent + Scalar.ofInt rest.length * v.height⟩

end Measurer

end GridDiagram
