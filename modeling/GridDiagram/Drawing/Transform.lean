import GridDiagram.Primitive

/-!
How a figure is moved to where it is drawn: it is scaled about the middle of its box and turned
about it. The last step of a list is the first that is done to a point.
-/

namespace GridDiagram.Drawing

/-- A step of a transformation: a move, a turn about the origin or about a point, in degrees, or a
stretch from the origin. -/
inductive TransformStep (α : Type) where
  | translate (offset : Pair α)
  | rotate (degrees : α)
  | rotateAbout (degrees : α) (center : Pair α)
  | scale (factor : α)

variable {α : Type} [Scalar α]

/-- The transformation of a primitive; no steps where it is drawn as it is laid out. -/
def transformSteps (p : Primitive α) : List (TransformStep α) :=
  let center := p.box.center
  let isTurned := !(p.rotation == 0.0)
  if p.scale == 1.0 then
    if isTurned then [.rotateAbout p.rotation center] else []
  else
    [.translate center] ++ (if isTurned then [.rotate p.rotation] else []) ++
      [.scale p.scale, .translate ⟨-center.x, -center.y⟩]

/-- A point turned about the origin by the angle of a point of the unit circle. -/
def turned (angle p : Pair α) : Pair α :=
  ⟨p.x * angle.x - p.y * angle.y, p.x * angle.y + p.y * angle.x⟩

/-- Where a step takes a point. -/
def TransformStep.apply (t : Trigonometry α) (p : Pair α) :
    TransformStep α → Except NumberError (Pair α)
  | .translate offset => .ok ⟨p.x + offset.x, p.y + offset.y⟩
  | .rotate degrees => (t.turn degrees).map fun angle => turned angle p
  | .rotateAbout degrees center =>
    (t.turn degrees).map fun angle =>
      let q := turned angle ⟨p.x - center.x, p.y - center.y⟩
      ⟨q.x + center.x, q.y + center.y⟩
  | .scale factor => .ok ⟨p.x * factor, p.y * factor⟩

/-- Where the steps of a transformation take a point. -/
def applySteps (t : Trigonometry α) (steps : List (TransformStep α)) (p : Pair α) :
    Except NumberError (Pair α) :=
  steps.foldr (fun step q => q.bind fun q => step.apply t q) (.ok p)

end GridDiagram.Drawing
