import GridDiagram.Primitive

/-!
Regular polygons and stars inside an ellipse, and outlines whose corners are rounded.
-/

namespace GridDiagram.Drawing

variable {α : Type} [Scalar α]

/-- The ellipse around a polygon: its middle and half its size on both axes. -/
structure Ellipse (α : Type) where
  center : Pair α
  radii : Pair α

/-- The point of an ellipse of the given radii in the direction of an angle. -/
def pointAt (t : Trigonometry α) (center radii : Pair α) (angle : α) :
    Except NumberError (Pair α) := do
  let p ← t.circle angle
  return ⟨center.x + radii.x * p.x, center.y + radii.y * p.y⟩

/-- The radii on which the inner points of a star lie. The vertical one is given, and the other one
is stretched as the outer corners are. -/
def innerRadii (radii : Pair α) (stellate : α) : Pair α :=
  ⟨if radii.y == 0.0 then stellate else stellate * radii.x / radii.y, stellate⟩

/-- The horizontal radius is never found by a division by zero. -/
theorem innerRadii_divides (radii : Pair α) (stellate : α) :
    (innerRadii radii stellate).x = stellate ∨
      Scalar.divide (stellate * radii.x) radii.y = .ok (innerRadii radii stellate).x := by
  unfold innerRadii
  split
  · exact .inl rfl
  · rename_i hzero
    exact .inr (Scalar.divide_eq_ok (Bool.eq_false_iff.mpr hzero))

/-- The corner with number `k` of a polygon, and behind it the inner point of a star. `sides` is the
number of corners, and `offset` the angle by which the polygon is turned. -/
def cornerPoints (t : Trigonometry α) (e : Ellipse α) (sides offset stellate : α) (k : Nat) :
    Except NumberError (List (Pair α)) := do
  let angle := -t.pi / 2.0 + offset + 2.0 * t.pi * Scalar.ofInt k / sides
  let corner ← pointAt t e.center e.radii angle
  if stellate == 0.0 then return [corner]
  else
    let inner ← pointAt t e.center (innerRadii e.radii stellate) (angle + t.pi / sides)
    return [corner, inner]

/-- The points of a polygon inside an ellipse, from the top on. An even number of corners has a flat
side at the top and the bottom. With `stellate` above zero a star has an inner point between each
two corners. -/
def polygonPoints (t : Trigonometry α) (e : Ellipse α) (vertices : Int) (stellate : α) :
    Except NumberError (List (Pair α)) := do
  if vertices = 0 then throw .divisionByZero
  if vertices < 0 ∧ vertices % 2 = 1 then return []
  let sides ← Scalar.ofBoundedInt vertices
  let offset := if vertices % 2 = 0 then t.pi / sides else 0.0
  let points ← (List.range vertices.toNat).mapM (cornerPoints t e sides offset stellate)
  return points.flatten

/-- A rounded corner: where the outline leaves the edge in front of it, the corner itself, and where
the outline joins the edge behind it. -/
structure RoundedCorner (α : Type) where
  before : Pair α
  corner : Pair α
  after : Pair α

/-- The point at a distance from `start` on the way to `stop`, at most halfway. `length` gives the
length of the way from one point to another. -/
def toward (length : Pair α → Pair α → α) (start stop : Pair α) (distance : α) : Pair α :=
  let way := length start stop
  if way == 0.0 then start
  else
    let step := Scalar.smaller distance (way / 2.0) / way
    ⟨start.x + (stop.x - start.x) * step, start.y + (stop.y - start.y) * step⟩

/-- No step is divided by the length of a way that has none. -/
theorem toward_divides (length : Pair α → Pair α → α) (start stop : Pair α) (distance : α) :
    toward length start stop distance = start ∨
      ∃ step, toward length start stop distance =
          ⟨start.x + (stop.x - start.x) * step, start.y + (stop.y - start.y) * step⟩ ∧
        Scalar.divide (Scalar.smaller distance (length start stop / 2.0)) (length start stop) =
          .ok step := by
  unfold toward
  dsimp only
  split
  · exact .inl rfl
  · rename_i hzero
    exact .inr ⟨_, rfl, Scalar.divide_eq_ok (Bool.eq_false_iff.mpr hzero)⟩

/-- A corner between its neighbours, rounded. -/
def roundCorner (length : Pair α → Pair α → α) (radius : α) (previous corner next : Pair α) :
    RoundedCorner α :=
  ⟨toward length corner previous radius, corner, toward length corner next radius⟩

/-- The corners of a closed outline, rounded, in order. -/
def roundedCorners (length : Pair α → Pair α → α) (corners : List (Pair α)) (radius : α) :
    List (RoundedCorner α) :=
  ((corners.rotateRight 1).zip (corners.zip (corners.rotateLeft 1))).map
    fun (previous, corner, next) => roundCorner length radius previous corner next

/-- A closed outline with rounded corners: where it starts, behind the first corner, and the corners
in the order in which it passes them, which ends with the first one. -/
structure RoundedOutline (α : Type) where
  start : Pair α
  corners : List (RoundedCorner α)

/-- The outline through corners, of which there is one at least. -/
def RoundedOutline.through? (length : Pair α → Pair α → α) (corners : List (Pair α)) (radius : α) :
    Option (RoundedOutline α) :=
  match roundedCorners length corners radius with
  | [] => none
  | first :: rest => some ⟨first.after, rest ++ [first]⟩

/-- The outline through corners, where `length` gives the length of an edge by its extent on the
axes. -/
def RoundedOutline.of? (length : α → α → α) (corners : List (Pair α)) (radius : α) :
    Option (RoundedOutline α) :=
  through? (fun start stop => length (stop.x - start.x) (stop.y - start.y)) corners radius

end GridDiagram.Drawing
