import GridDiagram.Compile
import GridDiagram.Json
import GridDiagram.Primitive

/-!
Primitives and compiled diagrams as JSON: the form in which other programs take over the geometry of
a diagram.
-/

namespace GridDiagram

/-- A pair of numbers as an array. -/
def Pair.toJson (p : Pair Float) : Json :=
  .array [.number p.x, .number p.y]

/-- The numbers of the sides of a box as an array. -/
def Sides.toJson (s : Sides Float) : Json :=
  .array [.number s.left, .number s.top, .number s.right, .number s.bottom]

/-- A box as an array of its corner and its size. -/
def Box.toJson (b : Box Float) : Json :=
  .array [.number b.x, .number b.y, .number b.width, .number b.height]

/-- A paint as an array of channels, or null. -/
def Color.paintToJson : Option Color → Json
  | none => .null
  | some c => .array [.integer c.red, .integer c.green, .integer c.blue]

/-- A constraint as an object. -/
def IntervalConstraint.toJson (c : IntervalConstraint Float) : Json :=
  .object [("line", .integer c.line), ("size", .number c.size), ("weight", .number c.weight)]

/-- The value of an attribute. `constraint` writes those that are constraints. -/
def Attribute.valueToJson (constraint : IntervalConstraint Float → Json) (a : Attribute)
    (v : a.Value Float) : Json :=
  match a, v with
  | .anchor, v | .expand, v | .place, v | .translate, v => Pair.toJson v
  | .minx, v | .miny, v => .array (List.map constraint v)
  | .pad, v | .margin, v => Sides.toJson v
  | .bg, v | .borderColor, v | .fill, v | .stroke, v => Color.paintToJson v
  | .borderWidth, v | .borderRound, v | .scale, v | .rotate, v | .strokeWidth, v | .width, v
  | .height, v | .round, v | .stellate, v | .fontSize, v => .number v
  | .vertices, v => .integer v
  | .fontFamily, v | .fontWeight, v | .fontStyle, v => .ofString? v
  | .coords, v => .array (List.map Pair.toJson v)
  | .closed, v => .bool v
  | .ref, v | .select, v | .style, v => .string v

/-- Properties as an object, in the order of their names. -/
def Properties.toJson (constraint : IntervalConstraint Float → Json) (ps : Properties Float) :
    Json :=
  let fields := ps.map fun ⟨a, v⟩ => (a.name, a.valueToJson constraint v)
  .object (fields.mergeSort fun a b => a.1 ≤ b.1)

/-- A primitive as an object. -/
def Primitive.toJson (p : Primitive Float) : Json :=
  .object [
    ("kind", .string p.kind.name),
    ("id", .ofString? p.id),
    ("path", .string p.path),
    ("box", p.box.toJson),
    ("border_box", p.borderBox.toJson),
    ("rotation", .number p.rotation),
    ("scale", .number p.scale),
    ("bounds", p.bounds.toJson),
    ("attributes", Properties.toJson IntervalConstraint.toJson p.attributes),
    ("text_lines", .array (p.lines.map .string)),
    ("path_vertices", .array (p.vertices.map Pair.toJson))]

/-- A warning as an object. -/
def LayoutWarning.toJson (w : LayoutWarning Float) : Json :=
  .object [("code", .string w.code), ("message", .string w.reason), ("node_path", .string w.path)]

/-- A compiled diagram as an object. -/
def Compiled.toJson (c : Compiled Float) : Json :=
  .object [
    ("width", .number c.size.x),
    ("height", .number c.size.y),
    ("primitives", .array (c.primitives.map Primitive.toJson)),
    ("warnings", .array (c.warnings.map LayoutWarning.toJson))]

end GridDiagram
