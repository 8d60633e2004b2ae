import GridDiagram.Layout.Measure

/-!
The second pass of a layout, from the root to the leaves: every node is anchored in the box that its
parent gives it, grows its intervals into the space that is left over, and gives boxes to its
children.
-/

namespace GridDiagram

/-- Where the grid of a group lies: the first grid line, where the content starts and how long it is
on each axis, and the positions of the grid lines. -/
structure GridPosition (α : Type) where
  origin : Pair α
  start : Pair α
  extent : Pair α
  lines : Pair (List α)

/-- A node with its boxes. `cell` is the box that its parent gives it, `outer` is the whole of it,
`borderBox` is that without the margin, `content` is what it contains or draws, before it is scaled
and turned, and `bounds` is what that covers afterwards. -/
structure Positioned (α : Type) where
  measured : Measured α
  stage : Stage
  cell : Box α
  outer : Box α
  borderBox : Box α
  content : Box α
  bounds : Box α
  grid : Option (GridPosition α)
  warnings : List (LayoutWarning α)

variable {α : Type} [Scalar α]

/-- Where something of a size starts, anchored in a space: at -1 it starts with the space, at 1 it
ends with it. -/
def anchoredStart (start available size anchor : α) : α :=
  start + (available - size) * (anchor + 1.0) / 2.0

/-- A natural size exceeds the space for it by more than this before it is worth a warning. -/
def overflowTolerance : α :=
  1e-6

namespace Positioned

/-- How much of the space left over a node takes: only a layout takes any. -/
def expansion (m : Measured α) : Pair α :=
  if m.element.tag = .layout then (m.style.get? .expand).getD ⟨0.0, 0.0⟩ else ⟨0.0, 0.0⟩

/-- The anchor of a node. -/
def anchor (settings : LayoutSettings α) (m : Measured α) : Pair α :=
  (m.style.get? .anchor).getD settings.anchor

/-- The size that a node takes on an axis. -/
def takenSize (expand natural available : α) : α :=
  if 0.0 < expand ∧ natural < available then natural + (available - natural) * expand else natural

/-- The warning about a node that is larger than its space on an axis. -/
def overflowWarning (m : Measured α) (available : α) (axis : Axis) : List (LayoutWarning α) :=
  let needed := m.natural.on axis
  if available + overflowTolerance < needed then [.overflow axis needed available m.path] else []

/-- The outer box of a node in a box of its parent. -/
def outerBox (settings : LayoutSettings α) (m : Measured α) (cell : Box α) : Box α :=
  let size := Pair.ofAxes fun axis =>
    takenSize ((expansion m).on axis) (m.natural.on axis) (cell.extent axis)
  let start := Pair.ofAxes fun axis =>
    anchoredStart (cell.start axis) (cell.extent axis) (size.on axis)
      ((anchor settings m).on axis)
  Box.ofStarts start size

structure AxisPosition (α : Type) where
  origin : α
  start : α
  extent : α
  lines : List α
  warnings : List (LayoutWarning α)

/-- Positions the grid of a group in the padded box on an axis. Space that is left over goes to the
intervals with a weight if the group expands, and else around the grid. -/
def axisPosition (path : String) (m : AxisMeasure α) (axis : Axis)
    (start size expand anchor : α) : AxisPosition α :=
  let slack := size - m.extent
  let grows := sizeTolerance < slack ∧ 0.0 < expand ∧ 0.0 < m.grid.totalWeight
  let m := if grows then { m with grid := m.grid.grow slack } else m
  let start :=
    if sizeTolerance < slack ∧ ¬grows then anchoredStart start size m.extent anchor else start
  let origin := start - m.low
  { origin, start, extent := m.extent, lines := m.grid.positions origin,
    warnings :=
      if sizeTolerance < slack ∧ ¬grows ∧ 0.0 < expand then [.unusedExpansion axis path] else [] }

/-- A grid grows only where its weights come to more than zero. -/
theorem axisPosition_grid (path : String) (m : AxisMeasure α) (axis : Axis)
    (start size expand anchor : α) :
    ∃ g, (g = m.grid ∨ 0.0 < m.grid.totalWeight ∧ g = m.grid.grow (size - m.extent)) ∧
      (axisPosition path m axis start size expand anchor).extent =
        AxisMeasure.extent { m with grid := g } ∧
      (axisPosition path m axis start size expand anchor).lines =
        g.positions (axisPosition path m axis start size expand anchor).origin := by
  by_cases hgrows : sizeTolerance < size - m.extent ∧ 0.0 < expand ∧ 0.0 < m.grid.totalWeight
  · refine ⟨m.grid.grow (size - m.extent), .inr ⟨hgrows.2.2, rfl⟩, ?_⟩
    simp only [axisPosition, if_pos hgrows, and_self]
  · refine ⟨m.grid, .inl rfl, ?_⟩
    simp only [axisPosition, if_neg hgrows, and_self]

/-- Positions the grid of a group in its padded box. -/
def gridPosition (settings : LayoutSettings α) (m : Measured α) (axes : Pair (AxisMeasure α))
    (padded : Box α) : GridPosition α × List (LayoutWarning α) :=
  let onAxis (axis : Axis) : AxisPosition α :=
    axisPosition m.path (axes.on axis) axis (padded.start axis) (padded.extent axis)
      ((expansion m).on axis) ((anchor settings m).on axis)
  let x := onAxis .x
  let y := onAxis .y
  (⟨⟨x.origin, y.origin⟩, ⟨x.start, y.start⟩, ⟨x.extent, y.extent⟩, ⟨x.lines, y.lines⟩⟩,
    x.warnings ++ y.warnings)

/-- Positions one node in a box of its parent. Its children still have to follow. -/
def ofMeasured (settings : LayoutSettings α) (m : Measured α) (cell : Box α) : Positioned α :=
  let style := m.style
  let outer := outerBox settings m cell
  let borderBox := outer.shrink style.marginSides
  let padded := (borderBox.shrink (Sides.all style.border)).shrink style.padding
  let overflow :=
    overflowWarning m (cell.extent .x) .x ++ overflowWarning m (cell.extent .y) .y
  match m.axes with
  | some axes =>
    let (grid, warnings) := gridPosition settings m axes padded
    let content := Box.ofStarts grid.start grid.extent
    ⟨m, .boxed, cell, outer, borderBox, content, content, some grid, overflow ++ warnings⟩
  | none =>
    let center := padded.center
    ⟨m, .boxed, cell, outer, borderBox, Box.around center m.content, Box.around center m.drawn,
      none, overflow⟩

def lineAt (axis : Axis) (lines : List α) (line : Int) : Except (LayoutError α) α :=
  match lines[(line - 1).toNat]? with
  | some p => .ok p
  | none => .error (.noLine axis line)

/-- The box of a group for a child: between its grid lines, or of its natural size around its
place. -/
def cellFor (grid : GridPosition α) (child : Measured α) : Except (LayoutError α) (Box α) := do
  match child.place? with
  | some p =>
    return Box.around ⟨grid.origin.x + p.x, grid.origin.y + p.y⟩ child.natural
  | none =>
    let placement := child.element.placement
    let left ← lineAt .x grid.lines.x placement.x.start
    let top ← lineAt .y grid.lines.y placement.y.start
    let right ← lineAt .x grid.lines.x placement.x.stop
    let bottom ← lineAt .y grid.lines.y placement.y.stop
    return ⟨left, top, right - left, bottom - top⟩

/-- How far a node has come. -/
def progress (p : Positioned α) : Progress :=
  ⟨p.measured.path, p.stage⟩

/-- A node that is done, with its children as far as they have come. -/
def finish (p : Positioned α) (children : List Progress) :
    Except (LayoutError α) (Positioned α) := do
  let done ← (p.progress.advance none children .positioned).mapError .stage
  return { p with stage := done.stage }

end Positioned

mutual

/-- Positions a tree in a box, parents before their children. `parent` is how far the node around it
has come. Only a group has boxes for children. -/
def positionTree (settings : LayoutSettings α) (parent : Option Progress) (cell : Box α) :
    Tree (Measured α) → Except (LayoutError α) (Tree (Positioned α))
  | .node m ts => do
    let _ ← (m.progress.advance parent [] .boxed).mapError LayoutError.stage
    let p := Positioned.ofMeasured settings m cell
    match p.grid with
    | some grid =>
      let children ← positionTrees settings p.progress grid ts
      let p ← p.finish (children.map (·.value.progress))
      return .node p children
    | none =>
      let p ← p.finish (ts.map (·.value.progress))
      return .node p []

/-- Positions the children of a group. -/
def positionTrees (settings : LayoutSettings α) (parent : Progress) (grid : GridPosition α) :
    List (Tree (Measured α)) → Except (LayoutError α) (List (Tree (Positioned α)))
  | [] => .ok []
  | t :: ts => do
    let cell ← Positioned.cellFor grid t.value
    let child ← positionTree settings parent cell t
    let rest ← positionTrees settings parent grid ts
    return child :: rest

end

end GridDiagram
