import GridDiagram.Attribute.Parser

/-!
Placements on a grid: the lines between which a child stands, and the three ways to spell them.
-/

namespace GridDiagram

/-- The two grid lines between which something stands. -/
structure Span where
  start : Int
  stop : Int
  deriving DecidableEq, Repr

/-- The interval behind a line. -/
def Span.cell (line : Int) : Span :=
  ⟨line, line + 1⟩

/-- The number of intervals of a span. -/
def Span.length (s : Span) : Int :=
  s.stop - s.start

/-- The spans of a child on the two axes. -/
abbrev Placement : Type :=
  Pair Span

/-- The placement of a child that is given none: the first cell. -/
def Placement.first : Placement :=
  ⟨Span.cell 1, Span.cell 1⟩

/-- The spelling of a placement: lines for both axes together, and lines for either. -/
structure PlacementText where
  grid : Option String := none
  gridx : Option String := none
  gridy : Option String := none
  deriving DecidableEq, Repr

namespace PlacementText

/-- Nothing is spelled. -/
def isEmpty (t : PlacementText) : Bool :=
  t.grid.isNone && t.gridx.isNone && t.gridy.isNone

/-- The name of the text for one axis. -/
def key : Axis → String
  | .x => "gridx"
  | .y => "gridy"

/-- The placement that one to four lines give: a cell on both axes, a column and a row, the start
and end of a span of columns around a row, or the starts and then the ends of both spans. -/
def ofLines? : List Int → Option Placement
  | [a] => some ⟨Span.cell a, Span.cell a⟩
  | [a, b] => some ⟨Span.cell a, Span.cell b⟩
  | [a, b, c] => some ⟨⟨a, c⟩, Span.cell b⟩
  | [a, b, c, d] => some ⟨⟨a, c⟩, ⟨b, d⟩⟩
  | _ => none

/-- Reads the lines for both axes. -/
def parseGrid (s : String) : Except ValueError Placement := do
  match ofLines? (← parseIntegers s) with
  | some p => .ok p
  | none => .error .gridCount

/-- Reads the lines for one axis: a cell, or the start and the end of a span. -/
def parseSpan (axis : Axis) (s : String) : Except ValueError Span := do
  match ← parseIntegers s with
  | [a] => .ok (Span.cell a)
  | [a, b] => .ok ⟨a, b⟩
  | _ => .error (.axisCount (key axis))

/-- Refuses a span that starts before the first line, or does not end after it starts. -/
def checkSpan (axis : Axis) (s : Span) : Except ValueError Unit :=
  if s.start < 1 ∨ s.stop < 1 then .error .lineBelowOne
  else if s.stop ≤ s.start then .error (.emptySpan axis s.start s.stop)
  else .ok ()

/-- Reads a text that may be missing. -/
def optional {β γ : Type} (f : β → Except ValueError γ) : Option β → Except ValueError (Option γ)
  | none => .ok none
  | some b => (f b).map some

/-- Reads a placement; none where nothing is spelled. The lines for one axis win over those for
both. -/
def parse (t : PlacementText) : Except ValueError (Option Placement) := do
  if t.isEmpty then return none
  let grid := (← optional parseGrid t.grid).getD Placement.first
  let x := (← optional (parseSpan .x) t.gridx).getD grid.x
  let y := (← optional (parseSpan .y) t.gridy).getD grid.y
  checkSpan .x x
  checkSpan .y y
  return some ⟨x, y⟩

end PlacementText

end GridDiagram
