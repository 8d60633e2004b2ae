import GridDiagram.Layout.Box
import GridDiagram.Layout.Error
import GridDiagram.Measurer
import GridDiagram.Trigonometry
import GridDiagram.Vocabulary

/-!
The first pass of a layout, from the leaves to the root: the natural size of every node. That of a
group comes of the intervals of its grid, which its constraints and children size.
-/

namespace GridDiagram

/-- What a layout depends on besides the tree: trigonometry, measures of text, and the family and
the anchor of nodes that have none. -/
structure LayoutSettings (α : Type) where
  trigonometry : Trigonometry α
  measurer : Measurer α
  fontFamily : Option String
  anchor : Pair α

namespace Properties

variable {α : Type} [Scalar α]

/-- The width of the line around a shape or path: none where it has no colour. -/
def strokeExtent (ps : Properties α) : α :=
  match ps.get? .stroke with
  | some (some _) => (ps.get? .strokeWidth).getD 0.0
  | _ => 0.0

def fontSize (ps : Properties α) : α :=
  (ps.get? .fontSize).getD 10.0

omit [Scalar α] in
/-- The family of fonts, or else `fallback`. An empty name is no family. -/
def fontFamilyOr (ps : Properties α) (fallback : Option String) : Option String :=
  match (ps.get? .fontFamily).join with
  | some family => if family.isEmpty then fallback else some family
  | none => fallback

/-- The factor by which the content is drawn larger. -/
def scaleFactor (ps : Properties α) : α :=
  (ps.get? .scale).getD 1.0

/-- The angle by which the content is turned, in degrees. -/
def rotation (ps : Properties α) : α :=
  (ps.get? .rotate).getD 0.0

/-- The space around the content inside the border. -/
def padding (ps : Properties α) : Sides α :=
  (ps.get? .pad).getD (Sides.all 0.0)

/-- The space around the border. -/
def marginSides (ps : Properties α) : Sides α :=
  (ps.get? .margin).getD (Sides.all 0.0)

/-- The width of the border. -/
def border (ps : Properties α) : α :=
  (ps.get? .borderWidth).getD 0.0

omit [Scalar α] in
/-- What the intervals of a grid ask for on an axis. -/
def constraints (ps : Properties α) : Axis → List (IntervalConstraint α)
  | .x => (ps.get? .minx).getD []
  | .y => (ps.get? .miny).getD []

end Properties

variable {α : Type} [Scalar α]

/-- The size of the smallest box along the axes around a turned box. -/
def rotatedSize (t : Trigonometry α) (size : Pair α) (degrees : α) :
    Except NumberError (Pair α) := do
  if degrees == 0.0 then return size
  let p ← t.turn degrees
  let c := Scalar.magnitude p.x
  let s := Scalar.magnitude p.y
  return ⟨size.x * c + size.y * s, size.x * s + size.y * c⟩

/-- The size of the box that content covers once it is scaled and turned. -/
def drawnSize (t : Trigonometry α) (size : Pair α) (scale degrees : α) :
    Except NumberError (Pair α) :=
  rotatedSize t ⟨size.x * scale, size.y * scale⟩ degrees

/-- The first of a list that no later one is strictly below. -/
def least (first : α) (rest : List α) : α :=
  rest.foldl Scalar.smaller first

/-- The first of a list that no later one is strictly above. -/
def greatest (first : α) (rest : List α) : α :=
  rest.foldl Scalar.larger first

/-- The smallest box around points, of which there is one at least. -/
structure PointBounds (α : Type) where
  low : Pair α
  high : Pair α

def PointBounds.of? : List (Pair α) → Option (PointBounds α)
  | [] => none
  | p :: ps =>
    some {
      low := ⟨least p.x (ps.map (·.x)), least p.y (ps.map (·.y))⟩
      high := ⟨greatest p.x (ps.map (·.x)), greatest p.y (ps.map (·.y))⟩ }

/-- The measure of a group on one axis: its intervals, and how far the children at a place of their
own reach from the first grid line, downwards and upwards. -/
structure AxisMeasure (α : Type) where
  grid : GridAxis α
  low : α
  high : α

/-- The length of the smallest stretch that holds the grid and the children at a place of their
own. -/
def AxisMeasure.extent (m : AxisMeasure α) : α :=
  Scalar.larger m.grid.total m.high - m.low

/-- A node with its natural size. `content` is the size of its content, `drawn` that of the content
scaled and turned, and `natural` that with the space around it. `axes` is the measure of a group,
and `stage` says how far the node has come. -/
structure Measured (α : Type) where
  element : Element α
  path : String
  stage : Stage
  content : Pair α
  drawn : Pair α
  natural : Pair α
  axes : Option (Pair (AxisMeasure α))

namespace Measured

/-- The properties in force at a node. -/
def style (m : Measured α) : Properties α :=
  m.element.effective

/-- The point at which a node wants to be centred, instead of a place on the grid. -/
def place? (m : Measured α) : Option (Pair α) :=
  m.style.get? .place

/-- How far a node has come. -/
def progress (m : Measured α) : Progress :=
  ⟨m.path, m.stage⟩

end Measured

namespace AxisMeasure

/-- The number of grid lines that constraints and children need. -/
def lineCount (axis : Axis) (constraints : List (IntervalConstraint α))
    (gridded : List (Measured α)) : Int :=
  let ofChildren := gridded.foldl (fun n c => max n (c.element.placement.on axis).stop) 1
  constraints.foldl (fun n c => max n (c.line + 1)) ofChildren

/-- Makes room for a child that stands in one cell. -/
def addCell (axis : Axis) (grid : GridAxis α) (child : Measured α) :
    Except (LayoutError α) (GridAxis α) :=
  let span := child.element.placement.on axis
  if span.length = 1 then
    (grid.addCell span.start (child.natural.on axis)).mapError (GridError.on axis child.path)
  else .ok grid

/-- Makes room for a child that stands across cells. -/
def addSpan (axis : Axis) (grid : GridAxis α) (child : Measured α) :
    Except (LayoutError α) (GridAxis α) :=
  (grid.addSpan (child.element.placement.on axis) (child.natural.on axis)).mapError
    (GridError.on axis child.path)

/-- The children that stand across cells of an axis, the shorter spans first. -/
def spanning (axis : Axis) (gridded : List (Measured α)) : List (Measured α) :=
  (gridded.filter fun c => (c.element.placement.on axis).length ≠ 1).mergeSort fun a b =>
    (a.element.placement.on axis).length ≤ (b.element.placement.on axis).length

/-- The intervals of an axis: floors first, then cells, then spans. -/
def sizeGrid (axis : Axis) (constraints : List (IntervalConstraint α))
    (gridded : List (Measured α)) : Except (LayoutError α) (GridAxis α) := do
  let empty := GridAxis.ofLineCount (lineCount axis constraints gridded)
  let floored ← (empty.applyConstraints constraints).mapError (GridError.on axis "")
  let celled ← gridded.foldlM (addCell axis) floored
  let spanned ← (spanning axis gridded).foldlM (addSpan axis) celled
  return spanned.freezeMinimums

/-- How far down from the first grid line a child at a place of its own reaches. -/
def lowOf (axis : Axis) (low : α) (child : Measured α) : α :=
  match child.place? with
  | some p => Scalar.smaller low (p.on axis - child.natural.on axis / 2.0)
  | none => low

/-- How far up from the first grid line a child at a place of its own reaches. -/
def highOf (axis : Axis) (high : α) (child : Measured α) : α :=
  match child.place? with
  | some p => Scalar.larger high (p.on axis + child.natural.on axis / 2.0)
  | none => high

/-- The measure of a group on an axis. -/
def ofChildren (style : Properties α) (children : List (Measured α)) (axis : Axis) :
    Except (LayoutError α) (AxisMeasure α) := do
  let grid ← sizeGrid axis (style.constraints axis) (children.filter (·.place?.isNone))
  return ⟨grid, children.foldl (lowOf axis) 0.0, children.foldl (highOf axis) 0.0⟩

end AxisMeasure

namespace Measured

/-- The size of a shape, a text or a path, with the line around it. -/
def leafContent (settings : LayoutSettings α) (e : Element α) (path : String) :
    Except (LayoutError α) (Pair α) := do
  let style := e.effective
  match e.kind with
  | .shape =>
    let width := (style.get? .width).getD 0.0
    let height := (style.get? .height).getD width
    let stroke := style.strokeExtent
    return ⟨width + stroke, height + stroke⟩
  | .text =>
    (settings.measurer.textSize e.lines style.fontSize
      (style.fontFamilyOr settings.fontFamily)).mapError .number
  | .path =>
    match PointBounds.of? ((style.get? .coords).getD []) with
    | none => throw (.noCoordinates path)
    | some bounds =>
      let stroke := style.strokeExtent
      return ⟨bounds.high.x - bounds.low.x + stroke, bounds.high.y - bounds.low.y + stroke⟩
  | _ => throw (.notLaidOut e.tag.name path)

/-- The size of content with the padding, the margin and the border on both sides of it. -/
def naturalSize (style : Properties α) (drawn : Pair α) : Pair α :=
  let p := style.padding
  let m := style.marginSides
  let b := style.border
  ⟨drawn.x + p.left + p.right + m.left + m.right + 2.0 * b,
    drawn.y + p.top + p.bottom + m.top + m.bottom + 2.0 * b⟩

/-- Measures one node, whose children have been measured. -/
def ofElement (settings : LayoutSettings α) (e : Element α) (path : String)
    (children : List (Measured α)) : Except (LayoutError α) (Measured α) := do
  let style := e.effective
  if e.kind = .group then
    let x ← AxisMeasure.ofChildren style children .x
    let y ← AxisMeasure.ofChildren style children .y
    let content : Pair α := ⟨x.extent, y.extent⟩
    let drawn : Pair α := ⟨content.x * style.scaleFactor, content.y * style.scaleFactor⟩
    return ⟨e, path, .unresolved, content, drawn, naturalSize style drawn, some ⟨x, y⟩⟩
  else
    let content ← leafContent settings e path
    let drawn ← (drawnSize settings.trigonometry content style.scaleFactor style.rotation).mapError
      .number
    return ⟨e, path, .unresolved, content, drawn, naturalSize style drawn, none⟩

/-- A node whose measures are taken, behind its children. -/
def finish (m : Measured α) (children : List (Measured α)) :
    Except (LayoutError α) (Measured α) := do
  let p ← (m.progress.advance none (children.map progress) .measured).mapError .stage
  return { m with stage := p.stage }

end Measured

/-- The path of a child: the parent's with the child's label, and with its number where it has no
id. -/
def childPath (path : String) (number : Nat) (e : Element α) : String :=
  match e.id with
  | some _ => path ++ "/" ++ e.label
  | none => path ++ "/" ++ e.label ++ "[" ++ toString number ++ "]"

mutual

/-- Measures a tree, children before their parents. -/
def measureTree (settings : LayoutSettings α) (path : String) :
    DiagramTree α → Except (LayoutError α) (Tree (Measured α))
  | .node e ts => do
    let children ← measureTrees settings path 1 ts
    let m ← Measured.ofElement settings e path (children.map Tree.value)
    let m ← m.finish (children.map Tree.value)
    return .node m children

/-- Measures the children of a node, of which the first has the number `number`. -/
def measureTrees (settings : LayoutSettings α) (path : String) (number : Nat) :
    List (DiagramTree α) → Except (LayoutError α) (List (Tree (Measured α)))
  | [] => .ok []
  | t :: ts => do
    let child ← measureTree settings (childPath path number t.value) t
    let rest ← measureTrees settings path (number + 1) ts
    return child :: rest

end

end GridDiagram
