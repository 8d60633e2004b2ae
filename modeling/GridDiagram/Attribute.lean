import GridDiagram.Color
import GridDiagram.Plane

/-!
The attributes of elements and the type of value that each of them has.
-/

namespace GridDiagram

/-- What the interval behind a grid line asks for: a least size, or with a positive weight a share
of the space that is left over. -/
structure IntervalConstraint (α : Type) where
  line : Int
  size : α
  weight : α
  deriving DecidableEq, Repr

/-- The attributes of elements. -/
inductive Attribute where
  | anchor
  | expand
  | minx
  | miny
  | place
  | pad
  | margin
  | bg
  | borderColor
  | borderWidth
  | borderRound
  | translate
  | scale
  | rotate
  | fill
  | stroke
  | strokeWidth
  | width
  | height
  | round
  | vertices
  | stellate
  | fontFamily
  | fontSize
  | fontWeight
  | fontStyle
  | coords
  | closed
  | ref
  | select
  | style
  deriving DecidableEq, Repr

namespace Attribute

/-- The type of an attribute's value, where numbers are of the type `α`. A paint is a colour or
none, and a face of a font is a name or unspecified. -/
abbrev Value (α : Type) : Attribute → Type
  | anchor | expand | place | translate => Pair α
  | minx | miny => List (IntervalConstraint α)
  | pad | margin => Sides α
  | bg | borderColor | fill | stroke => Option Color
  | borderWidth | borderRound | scale | rotate | strokeWidth | width | height | round | stellate
  | fontSize => α
  | vertices => Int
  | fontFamily | fontWeight | fontStyle => Option String
  | coords => List (Pair α)
  | closed => Bool
  | ref | select | style => String

/-- The name of an attribute in a source. -/
def name : Attribute → String
  | anchor => "anchor"
  | expand => "expand"
  | minx => "minx"
  | miny => "miny"
  | place => "place"
  | pad => "pad"
  | margin => "margin"
  | bg => "bg"
  | borderColor => "border-color"
  | borderWidth => "border-width"
  | borderRound => "border-round"
  | translate => "translate"
  | scale => "scale"
  | rotate => "rotate"
  | fill => "fill"
  | stroke => "stroke"
  | strokeWidth => "stroke-width"
  | width => "width"
  | height => "height"
  | round => "round"
  | vertices => "vertices"
  | stellate => "stellate"
  | fontFamily => "font-family"
  | fontSize => "font-size"
  | fontWeight => "font-weight"
  | fontStyle => "font-style"
  | coords => "coords"
  | closed => "closed"
  | ref => "ref"
  | select => "select"
  | style => "style"

def all : List Attribute :=
  [anchor, expand, minx, miny, place, pad, margin, bg, borderColor, borderWidth, borderRound,
    translate, scale, rotate, fill, stroke, strokeWidth, width, height, round, vertices, stellate,
    fontFamily, fontSize, fontWeight, fontStyle, coords, closed, ref, select, style]

theorem mem_all (a : Attribute) : a ∈ all := by
  cases a <;> decide

def ofName? (s : String) : Option Attribute :=
  all.find? (·.name == s)

end Attribute

end GridDiagram
