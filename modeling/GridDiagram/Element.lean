import GridDiagram.Placement
import GridDiagram.Properties
import GridDiagram.Tree

/-!
Elements: what a node of a diagram is, once the texts of its source have been read.
-/

namespace GridDiagram

/-- The part that an element plays in a diagram. -/
inductive Kind where
  | group
  | shape
  | text
  | path
  | style
  | rule
  | use
  deriving DecidableEq, Repr

def Kind.name : Kind → String
  | .group => "group"
  | .shape => "shape"
  | .text => "text"
  | .path => "path"
  | .style => "style"
  | .rule => "rule"
  | .use => "use"

inductive Tag where
  | layout
  | group
  | rect
  | circle
  | polygon
  | text
  | path
  | style
  | rule
  | use
  deriving DecidableEq, Repr

namespace Tag

/-- The name of a tag in a source. -/
def name : Tag → String
  | layout => "layout"
  | group => "group"
  | rect => "rect"
  | circle => "circle"
  | polygon => "polygon"
  | text => "text"
  | path => "path"
  | style => "style"
  | rule => "rule"
  | use => "use"

def kind : Tag → Kind
  | layout | group => .group
  | rect | circle | polygon => .shape
  | text => .text
  | path => .path
  | style => .style
  | rule => .rule
  | use => .use

def all : List Tag :=
  [layout, group, rect, circle, polygon, text, path, style, rule, use]

theorem mem_all (t : Tag) : t ∈ all := by
  cases t <;> decide

def ofName? (s : String) : Option Tag :=
  all.find? (·.name == s)

end Tag

/-- One element of a diagram. `placed` says that its source spells a placement, and `style` holds
the properties that a style sheet has given it, if one has been applied. -/
structure Element (α : Type) where
  tag : Tag
  id : Option String := none
  classes : List String := []
  placement : Placement := Placement.first
  placed : Bool := false
  attributes : Properties α := []
  lines : List String := []
  style : Properties α := []

namespace Element

variable {α : Type}

def kind (e : Element α) : Kind :=
  e.tag.kind

/-- The short name of an element in messages: its tag with its id, or else with its first class. -/
def label (e : Element α) : String :=
  match e.id, e.classes with
  | some id, _ => e.tag.name ++ "#" ++ id
  | none, c :: _ => e.tag.name ++ "." ++ c
  | none, [] => e.tag.name

/-- The properties in force: the style, or the element's own attributes where there is none. -/
def effective (e : Element α) : Properties α :=
  if e.style.isEmpty then e.attributes else e.style

end Element

abbrev DiagramTree (α : Type) : Type :=
  Tree (Element α)

end GridDiagram
