import GridDiagram.Proofs.Layout.Leaves
import GridDiagram.Drawing.Transform
import Mathlib.Tactic.LinearCombination

/-!
What a primitive covers once it is scaled and turned: the bounds that the layout gives it are the
smallest box around its content where the transformation of the drawing takes it.
-/

namespace GridDiagram.Drawing

variable {α : Type} [ExactScalar α]

/-- The point of the unit circle by which something is turned. An angle of zero is not looked up. -/
def turnOf (t : Trigonometry α) (degrees : α) : Except NumberError (Pair α) :=
  if degrees = 0 then .ok ⟨1, 0⟩ else t.turn degrees

/-- Where a point comes to that is stretched away from a center and turned about it. -/
def drawnAt (center : Pair α) (scale : α) (angle q : Pair α) : Pair α :=
  let v := turned angle ⟨(q.x - center.x) * scale, (q.y - center.y) * scale⟩
  ⟨v.x + center.x, v.y + center.y⟩

/-- How much of an offset on each axis counts on an axis once it is turned. -/
def turnedShare (angle : Pair α) : Axis → Pair α
  | .x => ⟨angle.x, -angle.y⟩
  | .y => ⟨angle.y, angle.x⟩

theorem drawnAt_on (center : Pair α) (scale : α) (angle q : Pair α) (axis : Axis) :
    (drawnAt center scale angle q).on axis - center.on axis =
      scale * ((q.x - center.x) * (turnedShare angle axis).x +
        (q.y - center.y) * (turnedShare angle axis).y) := by
  cases axis <;> simp only [drawnAt, turned, turnedShare, Pair.on] <;> ring

/-! ### The steps of a transformation -/

/-- The transformation of a primitive stretches its points away from the middle of its box and turns
them about it, whichever steps it is written in. -/
theorem applySteps_transformSteps (t : Trigonometry α) (p : Primitive α) (q : Pair α) :
    applySteps t (transformSteps p) q =
      (turnOf t p.rotation).map fun angle => drawnAt p.box.center p.scale angle q := by
  by_cases hturned : p.rotation = 0
  · by_cases hscaled : p.scale = 1
    · simp [transformSteps, turnOf, applySteps, drawnAt, turned, hturned, hscaled, Except.map]
    · simp [transformSteps, turnOf, applySteps, drawnAt, turned, hturned, hscaled, Except.map,
        TransformStep.apply, Except.bind, sub_eq_add_neg]
  · by_cases hscaled : p.scale = 1
    · simp [transformSteps, turnOf, applySteps, drawnAt, hturned, hscaled, TransformStep.apply,
        Except.bind]
    · cases hangle : t.turn p.rotation <;>
        simp [transformSteps, turnOf, applySteps, drawnAt, hturned, hscaled, hangle,
          TransformStep.apply, Except.bind, Except.map, sub_eq_add_neg]

/-! ### Sizes -/

/-- The size that is measured for a content that is scaled and turned. -/
theorem drawnSize_on {t : Trigonometry α} {size drawn : Pair α} {scale degrees : α}
    (h : drawnSize t size scale degrees = .ok drawn) :
    ∃ angle, turnOf t degrees = .ok angle ∧ ∀ axis, drawn.on axis =
      scale * (size.x * |(turnedShare angle axis).x| + size.y * |(turnedShare angle axis).y|) := by
  simp only [drawnSize, rotatedSize] at h
  split at h
  · rename_i hzero
    obtain rfl := Except.ok.inj h
    refine ⟨⟨1, 0⟩, if_pos (by simpa using hzero), fun axis => ?_⟩
    cases axis <;> simp [turnedShare, Pair.on, mul_comm]
  · rename_i hturned
    simp only [Except.bind_eq_ok, Except.pure_eq_ok] at h
    obtain ⟨angle, hangle, rfl⟩ := h
    refine ⟨angle, ?_, fun axis => ?_⟩
    · rw [turnOf, if_neg (by simpa using hturned), hangle]
    · cases axis <;> simp only [turnedShare, Pair.on, Scalar.magnitude_eq_abs, abs_neg] <;> ring

/-! ### Boxes around a middle -/

section Turned

variable {center size drawn angle : Pair α} {scale : α}
  (hdrawn : ∀ axis, drawn.on axis =
    scale * (size.x * |(turnedShare angle axis).x| + size.y * |(turnedShare angle axis).y|))

include hdrawn

/-- What lies in the content comes to lie in the box that is measured for it. -/
theorem holds_drawnAt (hscale : 0 ≤ scale) {q : Pair α} (hq : (Box.around center size).Holds q) :
    (Box.around center drawn).Holds (drawnAt center scale angle q) := by
  rw [Box.holds_around] at hq ⊢
  intro axis
  have hx : |q.x - center.x| ≤ size.x / 2 := hq .x
  have hy : |q.y - center.y| ≤ size.y / 2 := hq .y
  rw [drawnAt_on, hdrawn, abs_mul, abs_of_nonneg hscale, mul_div_assoc]
  refine mul_le_mul_of_nonneg_left ?_ hscale
  set share := turnedShare angle axis
  calc |(q.x - center.x) * share.x + (q.y - center.y) * share.y|
      ≤ |q.x - center.x| * |share.x| + |q.y - center.y| * |share.y| := by
        rw [← abs_mul, ← abs_mul]
        exact abs_add_le _ _
    _ ≤ size.x / 2 * |share.x| + size.y / 2 * |share.y| := by gcongr
    _ = (size.x * |share.x| + size.y * |share.y|) / 2 := by ring

end Turned

/-! ### Leaves -/

section Leaf

variable {settings : LayoutSettings α} {e : Element α} {center content drawn : Pair α}
  {p : Primitive α}

/-- The transformation of a leaf takes every point of its box to one of its bounds. -/
theorem exists_applySteps (h : p.Leaf settings e center content drawn) {q : Pair α}
    (hq : p.box.Holds q) :
    ∃ q', applySteps settings.trigonometry (transformSteps p) q = .ok q' ∧ p.bounds.Holds q' := by
  obtain ⟨angle, hangle, hdrawn⟩ := drawnSize_on h.turned
  have hscale : 0 ≤ p.scale := h.scale ▸ h.styled.scaleFactor_nonneg
  rw [h.box] at hq
  refine ⟨drawnAt center p.scale angle q, ?_, ?_⟩
  · rw [applySteps_transformSteps, hangle, h.box, Box.around_center]
    rfl
  · rw [h.bounds]
    exact holds_drawnAt hdrawn hscale hq

end Leaf

end GridDiagram.Drawing
