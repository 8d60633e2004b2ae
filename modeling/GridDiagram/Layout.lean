import GridDiagram.Layout.Position

/-!
The layout of a tree of elements: its absolute geometry, and the warnings that came up on the way.
-/

namespace GridDiagram

/-- A node with its final geometry. `gridLines` are the positions of a group's grid lines, and
`vertices` the points of a path. -/
structure Resolved (α : Type) where
  element : Element α
  path : String
  outer : Box α
  borderBox : Box α
  content : Box α
  bounds : Box α
  rotation : α
  scale : α
  gridLines : Option (Pair (List α))
  vertices : List (Pair α)

/-- The geometry of a tree, with the warnings in the order in which they arose. -/
structure Layout (α : Type) where
  tree : Tree (Resolved α)
  warnings : List (LayoutWarning α)

/-- The properties in force at a node. -/
def Resolved.style {α : Type} (r : Resolved α) : Properties α :=
  r.element.effective

variable {α : Type} [Scalar α]

namespace Resolved

/-- The points of a path whose content, line included, starts at a point. -/
def verticesAt (style : Properties α) (start : Pair α) : List (Pair α) :=
  let points := (style.get? .coords).getD []
  match PointBounds.of? points with
  | none => []
  | some bounds =>
    let half := style.strokeExtent / 2.0
    let dx := start.x + half - bounds.low.x
    let dy := start.y + half - bounds.low.y
    points.map fun p => ⟨p.x + dx, p.y + dy⟩

/-- The shift of a node after its layout, added to that of its parent. -/
def shiftOf (offset : Pair α) (m : Measured α) : Pair α :=
  let t := (m.style.get? .translate).getD ⟨0.0, 0.0⟩
  ⟨offset.x + t.x, offset.y + t.y⟩

/-- The final geometry of a node that is shifted. -/
def ofPositioned (shift : Pair α) (p : Positioned α) : Resolved α :=
  let m := p.measured
  let isGroup := m.element.kind = .group
  let content := p.content.moved shift
  { element := m.element
    path := m.path
    outer := p.outer.moved shift
    borderBox := p.borderBox.moved shift
    content
    bounds := p.bounds.moved shift
    rotation := if isGroup then 0.0 else m.style.rotation
    scale := if isGroup then 1.0 else m.style.scaleFactor
    gridLines := p.grid.map fun g =>
      ⟨g.lines.x.map (· + shift.x), g.lines.y.map (· + shift.y)⟩
    vertices := if m.element.kind = .path then verticesAt m.style ⟨content.x, content.y⟩ else [] }

end Resolved

mutual

/-- Shifts a tree: a node takes everything inside it along. -/
def resolveTree (offset : Pair α) : Tree (Positioned α) → Tree (Resolved α)
  | .node p ts =>
    let shift := Resolved.shiftOf offset p.measured
    .node (Resolved.ofPositioned shift p) (resolveTrees shift ts)

/-- Shifts the children of a node. -/
def resolveTrees (offset : Pair α) : List (Tree (Positioned α)) → List (Tree (Resolved α))
  | [] => []
  | t :: ts => resolveTree offset t :: resolveTrees offset ts

end

/-- The boxes of a tree in a size, or in its natural one. -/
def positioned (settings : LayoutSettings α) (t : DiagramTree α) (size : Option (Pair α)) :
    Except (LayoutError α) (Tree (Positioned α)) := do
  let measured ← measureTree settings t.value.label t
  let size := size.getD measured.value.natural
  positionTree settings none ⟨0.0, 0.0, size.x, size.y⟩ measured

/-- Refuses nodes that have not come to the end. -/
def checkFinished (ps : List (Positioned α)) : Except (LayoutError α) Unit :=
  match ps.find? (·.stage ≠ .positioned) with
  | some p => .error (.stage (.unfinished p.measured.path))
  | none => .ok ()

/-- Lays out a tree in a size, or in its natural one. -/
def layout (settings : LayoutSettings α) (t : DiagramTree α) (size : Option (Pair α)) :
    Except (LayoutError α) (Layout α) := do
  let tree ← positioned settings t size
  checkFinished tree.preorder
  return ⟨resolveTree ⟨0.0, 0.0⟩ tree, tree.preorder.flatMap (·.warnings)⟩

end GridDiagram
