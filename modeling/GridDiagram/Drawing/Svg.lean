import GridDiagram.Drawing.Coordinate
import GridDiagram.Drawing.Figure
import GridDiagram.Drawing.Transform
import GridDiagram.Xml

/-!
SVG documents of drawing primitives: for each primitive the rectangle behind it, if it has one, and
one element for what it draws. Groups draw nothing themselves.
-/

namespace GridDiagram.Drawing

variable {α : Type} [Scalar α]

/-- The name space of SVG documents. -/
def svgNamespace : String :=
  "http://www.w3.org/2000/svg"

/-- A coordinate, as part of a drawing. -/
def coordinateText (x : α) : Except DrawingError String :=
  (coordinate x).mapError .number

/-- The two coordinates of a point, with `between` between them. -/
def pointText (between : String) (p : Pair α) : Except DrawingError String := do
  let x ← coordinateText p.x
  let y ← coordinateText p.y
  return x ++ between ++ y

/-- Attributes with coordinates as their values. -/
def coordinateAttributes (pairs : List (String × α)) :
    Except DrawingError (List (String × String)) :=
  pairs.mapM fun (name, x) => do return (name, ← coordinateText x)

/-- The attributes of a paint. The width of a line is given only where there is one. -/
def paintAttributes (paint : Paint α) : Except DrawingError (List (String × String)) := do
  let color := paint.stroke.map (·.color)
  let width ← coordinateAttributes (paint.stroke.toList.map fun s => ("stroke-width", s.width))
  return [("fill", paintText paint.fill), ("stroke", paintText color)] ++ width

def boxAttributes (b : Box α) : Except DrawingError (List (String × String)) :=
  coordinateAttributes [("x", b.x), ("y", b.y), ("width", b.width), ("height", b.height)]

/-- The attribute of round corners. -/
def radiusAttribute (radius : Option α) : Except DrawingError (List (String × String)) :=
  coordinateAttributes (radius.toList.map fun r => ("rx", r))

/-- The element of the rectangle behind a primitive. -/
def decorationElement (r : Rectangle α) (paint : Paint α) : Except DrawingError XmlElement := do
  let box ← boxAttributes r.box
  let radius ← radiusAttribute r.radius
  let stroke ←
    match paint.stroke with
    | none => pure []
    | some s => do
      let width ← coordinateAttributes [("stroke-width", s.width)]
      pure (("stroke", paintText (some s.color)) :: width)
  return { name := "rect",
           attributes := box ++ [("fill", paintText paint.fill)] ++ radius ++ stroke }

/-- The path of an outline with rounded corners: a line to each corner, and a curve around it. -/
def outlineText (o : RoundedOutline α) : Except DrawingError String := do
  let start ← pointText " " o.start
  let corners ← o.corners.mapM fun c => do
    let before ← pointText " " c.before
    let corner ← pointText " " c.corner
    let after ← pointText " " c.after
    return " L " ++ before ++ " Q " ++ corner ++ " " ++ after
  return "M " ++ start ++ String.join corners ++ " Z"

/-- The path through points. -/
def pathText (points : List (Pair α)) (closed : Bool) : Except DrawingError String := do
  let points ← points.mapM (pointText " ")
  return "M " ++ " L ".intercalate points ++ (if closed then " Z" else "")

/-- The name of the element that draws a polygon, and the attribute with its outline. -/
def polygonForm (t : Trigonometry α) (shape : RegularPolygon α) :
    Except DrawingError (String × String × String) := do
  let corners ← (shape.points t).mapError .number
  match shape.radius with
  | none =>
    let points ← corners.mapM (pointText ",")
    return ("polygon", "points", " ".intercalate points)
  | some radius =>
    match RoundedOutline.of? t.hypotenuse corners radius with
    | none => throw .noCorners
    | some outline => return ("path", "d", ← outlineText outline)

/-- The attribute of a text that may be missing. -/
def textAttribute (name : String) (value : Option String) : List (String × String) :=
  value.toList.map fun v => (name, v)

/-- The lines of a text, each with its distance from the one before it; `first` says that none is
before. -/
def lineElements (x : String) (height : α) (first : Bool) :
    List String → Except DrawingError (List XmlTree)
  | [] => .ok []
  | line :: lines => do
    let dy ← if first then pure "0" else coordinateText height
    let rest ← lineElements x height false lines
    return .node { name := "tspan", attributes := [("x", x), ("dy", dy)], text := line } [] :: rest

/-- The element of a text, with one element inside it for each line. -/
def textElement (b : TextBlock α) : Except DrawingError (XmlElement × List XmlTree) := do
  let x ← coordinateText b.baseline.x
  let y ← coordinateText b.baseline.y
  let size ← coordinateText b.fontSize
  let attributes :=
    [("x", x), ("y", y), ("font-size", size), ("fill", paintText b.fill)] ++
      textAttribute "font-family" b.fontFamily ++ textAttribute "font-weight" b.fontWeight ++
      textAttribute "font-style" b.fontStyle
  let lines ← lineElements x b.lineHeight true b.lines
  return ({ name := "text", attributes }, lines)

/-- The element of a figure, and those inside it. -/
def Figure.element (t : Trigonometry α) :
    Figure α → Except DrawingError (XmlElement × List XmlTree)
  | .rectangle shape paint => do
    let paint ← paintAttributes paint
    let box ← boxAttributes shape.box
    let radius ← radiusAttribute shape.radius
    return ({ name := "rect", attributes := box ++ radius ++ paint }, [])
  | .ellipse shape paint => do
    let paint ← paintAttributes paint
    let form ← coordinateAttributes [("cx", shape.center.x), ("cy", shape.center.y),
      ("rx", shape.radii.x), ("ry", shape.radii.y)]
    return ({ name := "ellipse", attributes := form ++ paint }, [])
  | .polygon shape paint => do
    let paint ← paintAttributes paint
    let (name, form) ← polygonForm t shape
    return ({ name, attributes := form :: paint }, [])
  | .text block => textElement block
  | .path points closed paint => do
    let d ← pathText points closed
    let paint ← paintAttributes paint
    return ({ name := "path", attributes := ("d", d) :: paint }, [])

/-- A step of a transformation as it is written. -/
def TransformStep.text : TransformStep α → Except DrawingError String
  | .translate offset => do return "translate(" ++ (← pointText " " offset) ++ ")"
  | .rotate degrees => do return "rotate(" ++ (← coordinateText degrees) ++ ")"
  | .rotateAbout degrees center => do
    return "rotate(" ++ (← coordinateText degrees) ++ " " ++ (← pointText " " center) ++ ")"
  | .scale factor => do return "scale(" ++ (← coordinateText factor) ++ ")"

/-- The attribute of a transformation, if it has any steps. -/
def transformAttribute (steps : List (TransformStep α)) :
    Except DrawingError (List (String × String)) := do
  if steps.isEmpty then return []
  let texts ← steps.mapM TransformStep.text
  return [("transform", " ".intercalate texts)]

/-- What an element for a primitive of an id has in addition: the id, unless it is empty. -/
def idAttribute (id : Option String) : List (String × String) :=
  textAttribute "id" (nonempty? id)

/-- The elements of a primitive. The id is that of what it draws, or of the rectangle of a group. -/
def primitiveElements (t : Trigonometry α) (measurer : Measurer α) (fontFamily : Option String)
    (p : Primitive α) : Except DrawingError (List XmlTree) := do
  let decoration ← (decoration? p).mapM fun (r, paint) => decorationElement r paint
  match ← Figure.of? measurer fontFamily p with
  | none =>
    return (decoration.map fun e =>
      .node { e with attributes := e.attributes ++ idAttribute p.id } []).toList
  | some figure =>
    let (e, inside) ← figure.element t
    let transform ← transformAttribute (transformSteps p)
    let attributes := e.attributes ++ idAttribute p.id ++ transform
    return (decoration.map fun e => .node e []).toList ++ [.node { e with attributes } inside]

/-- What a drawing is made with. -/
structure DrawingSettings (α : Type) where
  trigonometry : Trigonometry α
  measurer : Measurer α
  fontFamily : Option String

/-- The SVG document of primitives in a size. -/
def svgTree (settings : DrawingSettings α) (primitives : List (Primitive α)) (size : Pair α) :
    Except DrawingError XmlTree := do
  let width ← coordinateText size.x
  let height ← coordinateText size.y
  let elements ← primitives.mapM
    (primitiveElements settings.trigonometry settings.measurer settings.fontFamily)
  let attributes :=
    [("xmlns", svgNamespace), ("width", width), ("height", height),
      ("viewBox", "0 0 " ++ width ++ " " ++ height)]
  return .node { name := "svg", attributes } elements.flatten

/-- The text of the SVG document of primitives. -/
def svg (settings : DrawingSettings α) (primitives : List (Primitive α)) (size : Pair α) :
    Except DrawingError String :=
  (svgTree settings primitives size).map Xml.write

end GridDiagram.Drawing
