import GridDiagram.Drawing.Polygon

/-!
Figures: what is drawn for a primitive, with its coordinates still numbers.
-/

namespace GridDiagram.Drawing

/-- A line around something: its colour and its width. -/
structure Stroke (α : Type) where
  color : Color
  width : α

/-- How an area is filled and what line is drawn around it. -/
structure Paint (α : Type) where
  fill : Option Color
  stroke : Option (Stroke α)

/-- A rectangle, with the radius of its corners where they are round. -/
structure Rectangle (α : Type) where
  box : Box α
  radius : Option α

/-- A polygon or a star inside an ellipse: the number of its corners, how far above and below the
middle the inner points of a star are, and the radius of its corners where they are round. -/
structure RegularPolygon (α : Type) where
  ellipse : Ellipse α
  vertices : Int
  stellate : α
  radius : Option α

/-- Lines of text: the first baseline, the distance of baselines, and the font. -/
structure TextBlock (α : Type) where
  baseline : Pair α
  lineHeight : α
  fontSize : α
  fill : Option Color
  fontFamily : Option String
  fontWeight : Option String
  fontStyle : Option String
  lines : List String

/-- What is drawn for a primitive that is not a group. -/
inductive Figure (α : Type) where
  | rectangle (shape : Rectangle α) (paint : Paint α)
  | ellipse (shape : Ellipse α) (paint : Paint α)
  | polygon (shape : RegularPolygon α) (paint : Paint α)
  | text (block : TextBlock α)
  | path (points : List (Pair α)) (closed : Bool) (paint : Paint α)

variable {α : Type} [Scalar α]

/-- A number unless it is zero. -/
def nonzero? (x : Option α) : Option α :=
  x.filter fun x => !(x == 0.0)

/-- A text unless it is empty. -/
def nonempty? (s : Option String) : Option String :=
  s.filter (!·.isEmpty)

def Paint.of (ps : Properties α) : Paint α where
  fill := (ps.get? .fill).join
  stroke := (ps.get? .stroke).join.map fun color => ⟨color, (ps.get? .strokeWidth).getD 0.0⟩

/-- The line of a border that has a colour and a width. -/
def borderStroke (ps : Properties α) : Option (Stroke α) :=
  let width := ps.border
  match (ps.get? .borderColor).join with
  | some color => if 0.0 < width then some ⟨color, width⟩ else none
  | none => none

/-- The rectangle in the border box of a primitive that has a background or a border: half the
border's width inside it. -/
def decoration? (p : Primitive α) : Option (Rectangle α × Paint α) :=
  let ps := p.attributes
  let fill := (ps.get? .bg).join
  let stroke := borderStroke ps
  if fill.isNone && stroke.isNone then none
  else
    let inset : α :=
      match stroke with
      | some s => s.width / 2.0
      | none => 0.0
    some (⟨p.borderBox.shrink (Sides.all inset), nonzero? (ps.get? .borderRound)⟩, ⟨fill, stroke⟩)

/-- The box of a shape without half the line around it. -/
def innerBox (p : Primitive α) : Box α :=
  p.box.shrink (Sides.all (p.attributes.strokeExtent / 2.0))

/-- The ellipse that fills a box. -/
def Ellipse.inside (b : Box α) : Ellipse α :=
  ⟨b.center, ⟨b.width / 2.0, b.height / 2.0⟩⟩

def RegularPolygon.of (p : Primitive α) : RegularPolygon α where
  ellipse := Ellipse.inside (innerBox p)
  vertices := (p.attributes.get? .vertices).getD 4
  stellate := (p.attributes.get? .stellate).getD 0.0
  radius := nonzero? (p.attributes.get? .round)

def RegularPolygon.points (t : Trigonometry α) (s : RegularPolygon α) :
    Except NumberError (List (Pair α)) :=
  polygonPoints t s.ellipse s.vertices s.stellate

/-- The lines of text of a primitive. -/
def textBlock (measurer : Measurer α) (fontFamily : Option String) (p : Primitive α) :
    Except NumberError (TextBlock α) := do
  let ps := p.attributes
  let family := ps.fontFamilyOr fontFamily
  let v ← measurer.metrics ps.fontSize family
  return {
    baseline := ⟨p.box.x, p.box.y + v.ascent⟩
    lineHeight := v.height
    fontSize := ps.fontSize
    fill := (ps.get? .fill).join
    fontFamily := nonempty? family
    fontWeight := nonempty? (ps.get? .fontWeight).join
    fontStyle := nonempty? (ps.get? .fontStyle).join
    lines := p.lines }

/-- What is drawn for a primitive, if it is not a group. -/
def Figure.of? (measurer : Measurer α) (fontFamily : Option String) (p : Primitive α) :
    Except DrawingError (Option (Figure α)) :=
  let ps := p.attributes
  let paint := Paint.of ps
  match p.kind with
  | .group => .ok none
  | .rect => .ok (some (.rectangle ⟨innerBox p, nonzero? (ps.get? .round)⟩ paint))
  | .circle => .ok (some (.ellipse (Ellipse.inside (innerBox p)) paint))
  | .polygon => .ok (some (.polygon (RegularPolygon.of p) paint))
  | .text =>
    ((textBlock measurer fontFamily p).map fun b => some (.text b)).mapError DrawingError.number
  | .path => .ok (some (.path p.vertices ((ps.get? .closed).getD false) paint))
  | .other name => .error (.unknownPrimitive name)

end GridDiagram.Drawing
