import GridDiagram.Layout

/-!
Drawing primitives: the flat list of what is drawn, which is all that is left of a laid-out tree.
-/

namespace GridDiagram

/-- What a primitive draws. A name that is none of the others is kept, so that it can be refused. -/
inductive PrimitiveKind where
  | group
  | rect
  | circle
  | polygon
  | text
  | path
  | other (name : String)
  deriving DecidableEq, Repr

def PrimitiveKind.name : PrimitiveKind → String
  | group => "group"
  | rect => "rect"
  | circle => "circle"
  | polygon => "polygon"
  | text => "text"
  | path => "path"
  | other name => name

def PrimitiveKind.ofName : String → PrimitiveKind
  | "group" => group
  | "rect" => rect
  | "circle" => circle
  | "polygon" => polygon
  | "text" => text
  | "path" => path
  | name => other name

/-- Why something is not drawn. -/
inductive DrawingError where
  | notDrawn (tag kind path : String)
  | unknownPrimitive (name : String)
  | noCorners
  | number (error : NumberError)
  deriving DecidableEq, Repr

namespace DrawingError

/-- The wording of an error, without the place where it arose. -/
def reason : DrawingError → String
  | notDrawn tag kind _ => "cannot render <" ++ tag ++ "> (" ++ kind ++ ")"
  | unknownPrimitive name => "no SVG mapping for primitive " ++ Text.quoted name
  | noCorners => "list index out of range"
  | number error => error.message

/-- The place where an error arose, if it is known. -/
def path? : DrawingError → Option String
  | notDrawn _ _ path => some path
  | _ => none

end DrawingError

/-- A primitive. `box` is its content before it is scaled and turned about its middle, `borderBox`
is where its background and its border are drawn, and `bounds` is what the content covers in the
end. -/
structure Primitive (α : Type) where
  kind : PrimitiveKind
  id : Option String
  path : String
  box : Box α
  borderBox : Box α
  rotation : α
  scale : α
  bounds : Box α
  attributes : Properties α
  lines : List String
  vertices : List (Pair α)

namespace Primitive

/-- The kind of primitive for a kind of element and the name of its tag. -/
def kindOf? (kind : Kind) (tagName : String) : Option PrimitiveKind :=
  match kind with
  | .group => some .group
  | .text => some .text
  | .path => some .path
  | .shape =>
    match PrimitiveKind.ofName tagName with
    | .rect => some .rect
    | .circle => some .circle
    | .polygon => some .polygon
    | _ => none
  | _ => none

variable {α : Type}

/-- The primitive of a node. -/
def ofResolved (r : Resolved α) : Except DrawingError (Primitive α) :=
  let e := r.element
  match kindOf? e.kind e.tag.name with
  | none => .error (.notDrawn e.tag.name e.kind.name r.path)
  | some kind =>
    .ok {
      kind, id := e.id, path := r.path, box := r.content, borderBox := r.borderBox,
      rotation := r.rotation, scale := r.scale, bounds := r.bounds, attributes := r.style,
      lines := e.lines, vertices := r.vertices }

/-- The primitives of a tree, each node's before those below it. -/
def ofTree (t : Tree (Resolved α)) : Except DrawingError (List (Primitive α)) :=
  t.preorder.mapM ofResolved

end Primitive

end GridDiagram
