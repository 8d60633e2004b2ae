import GridDiagram.Element
import GridDiagram.Scalar

/-!
Which attributes an element may carry, which of them a group passes on to what it contains, and the
values that hold where nothing gives one.
-/

namespace GridDiagram

namespace Attribute

/-- The attributes of the box around any element. -/
def isBox : Attribute → Bool
  | anchor | place | pad | margin | bg | borderColor | borderWidth | borderRound | translate => true
  | _ => false

/-- The attributes whose values a group passes on to descendants that have none. -/
def isInherited : Attribute → Bool
  | fill | stroke | strokeWidth | fontFamily | fontSize | fontWeight | fontStyle => true
  | _ => false

def inherited : List Attribute :=
  [fill, stroke, strokeWidth, fontFamily, fontSize, fontWeight, fontStyle]

/-- The attributes that a style or a rule may declare. -/
def isPresentation : Attribute → Bool
  | pad | margin | bg | borderColor | borderWidth | borderRound | translate | scale | round
  | stellate => true
  | a => a.isInherited

/-- The attributes of an element that contains no others. -/
def isLeaf : Attribute → Bool
  | rotate | scale => true
  | a => a.isBox

def isShape : Attribute → Bool
  | fill | stroke | strokeWidth | width | height => true
  | a => a.isLeaf

end Attribute

namespace Tag

open Attribute

def allows : Tag → Attribute → Bool
  | layout, a => a.isBox || a.isInherited || a == expand || a == minx || a == miny
  | group, a => a.isBox || a.isInherited
  | rect, a => a.isShape || a == round
  | circle, a => a.isShape
  | polygon, a => a.isShape || a == vertices || a == round || a == stellate
  | text, a =>
    a.isLeaf || a == fill || a == fontFamily || a == fontSize || a == fontWeight || a == fontStyle
  | path, a =>
    a.isLeaf || a == fill || a == stroke || a == strokeWidth || a == coords || a == closed
  | style, a => a.isPresentation
  | rule, a => a.isPresentation || a == select || a == .style
  | use, a => a != select && a != .style

variable {α : Type} [Scalar α]

/-- The box properties that hold where nothing gives others. The anchor is left to the layout. -/
def boxDefaults : Properties α :=
  [⟨pad, Sides.all 0.0⟩, ⟨margin, Sides.all 0.0⟩, ⟨bg, none⟩, ⟨borderColor, none⟩,
    ⟨borderWidth, 0.0⟩, ⟨borderRound, 0.0⟩, ⟨translate, ⟨0.0, 0.0⟩⟩]

/-- The properties of a shape that hold where nothing gives others, apart from the round corners. -/
def shapeDefaults : Properties α :=
  boxDefaults ++
    [⟨rotate, 0.0⟩, ⟨scale, 1.0⟩, ⟨fill, none⟩, ⟨stroke, some Color.black⟩, ⟨strokeWidth, 1.0⟩,
      ⟨width, 10.0⟩]

/-- The properties of a tag's elements that hold where nothing gives others. -/
def defaults : Tag → Properties α
  | layout => boxDefaults ++ [⟨expand, ⟨0.0, 0.0⟩⟩, ⟨minx, []⟩, ⟨miny, []⟩]
  | group => boxDefaults
  | rect => shapeDefaults ++ [⟨round, 0.0⟩]
  | circle => shapeDefaults
  | polygon => shapeDefaults ++ [⟨round, 0.0⟩, ⟨vertices, (4 : Int)⟩, ⟨stellate, 0.0⟩]
  | text =>
    boxDefaults ++
      [⟨rotate, 0.0⟩, ⟨scale, 1.0⟩, ⟨fill, some Color.black⟩, ⟨fontFamily, none⟩,
        ⟨fontSize, 10.0⟩, ⟨fontWeight, none⟩, ⟨fontStyle, none⟩]
  | path =>
    boxDefaults ++
      [⟨rotate, 0.0⟩, ⟨scale, 1.0⟩, ⟨fill, none⟩, ⟨stroke, some Color.black⟩, ⟨strokeWidth, 1.0⟩,
        ⟨closed, false⟩]
  | style | rule | use => []

end Tag

end GridDiagram
