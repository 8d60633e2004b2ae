import GridDiagram.Proofs.Layout.Leaves
import GridDiagram.Drawing.Figure

/-!
What the layout reserves for a shape, a text or a path is exactly what is drawn for it, before it is
scaled and turned: its outline with half the line around it, and its lines of text from the ascent
of the first to the descent of the last.
-/

namespace GridDiagram.Drawing

variable {α : Type} [ExactScalar α]

/-! ### Lines around shapes -/

/-- The width of the line that is drawn, zero where none is. -/
def Paint.lineWidth (paint : Paint α) : α :=
  (paint.stroke.map (·.width)).getD 0

/-- The drawing and the layout agree on when there is a line, and how wide it is. -/
theorem Paint.lineWidth_of (ps : Properties α) : (Paint.of ps).lineWidth = ps.strokeExtent := by
  unfold lineWidth Paint.of Properties.strokeExtent
  cases hstroke : ps.get? .stroke with
  | none => simp
  | some color => cases color <;> simp

/-- The box of an ellipse. -/
def Ellipse.box (e : Ellipse α) : Box α :=
  Box.around e.center ⟨e.radii.x + e.radii.x, e.radii.y + e.radii.y⟩

section Leaf

variable {settings : LayoutSettings α} {e : Element α} {center content drawn size : Pair α}
  {p : Primitive α}

/-- A content of a size with room for a line has that size without half the line around it, and the
content is that box with half the line around it. -/
theorem innerBox_eq (hbox : p.box = Box.around center content)
    (hcontent : content = ⟨size.x + p.attributes.strokeExtent, size.y + p.attributes.strokeExtent⟩)
    (hsize : ∀ axis, 0 ≤ size.on axis) :
    innerBox p = Box.around center size ∧
      (innerBox p).widened ((Paint.of p.attributes).lineWidth / 2) = p.box := by
  have hon (axis : Axis) : content.on axis = size.on axis + p.attributes.strokeExtent := by
    rw [hcontent]
    cases axis <;> rfl
  have hinner : innerBox p = Box.around center size := by
    unfold innerBox
    rw [hbox]
    ext axis
    · rw [Box.start_shrink, Box.start_around, Box.start_around, hon]
      cases axis <;> simp only [Sides.all, Sides.front, ExactScalar.two_eq] <;> ring
    · have hsame : content.on axis - p.attributes.strokeExtent / 2 -
          p.attributes.strokeExtent / 2 = size.on axis := by
        rw [hon]
        ring
      rw [Box.extent_shrink, Box.extent_around, Box.extent_around]
      cases axis <;> simp only [Sides.all, Sides.front, Sides.back, ExactScalar.two_eq, hsame] <;>
        exact max_eq_left (hsize _)
  refine ⟨hinner, ?_⟩
  rw [hinner, hbox, hcontent, Box.around_widened, Paint.lineWidth_of,
    mul_div_cancel₀ _ two_ne_zero]

end Leaf

/-! ### What fills a box -/

/-- The size that a shape is given. Without a height it is as high as it is wide. -/
def givenSize (ps : Properties α) : Pair α :=
  let width := (ps.get? .width).getD 0
  ⟨width, (ps.get? .height).getD width⟩

/-- A shape is drawn in the size that is given, and is the box of its primitive with half its line
around it. -/
structure FillsShape (p : Primitive α) (shape : Box α) (paint : Paint α) : Prop where
  size : ⟨shape.width, shape.height⟩ = givenSize p.attributes
  box : shape.widened (paint.lineWidth / 2) = p.box

section Leaf

variable {settings : LayoutSettings α} {e : Element α} {center content drawn : Pair α}
  {p : Primitive α}

theorem leaf_kinds (h : p.Leaf settings e center content drawn) (hgroup : p.kind ≠ .group) :
    (e.kind = .shape ∧ (p.kind = .rect ∨ p.kind = .circle ∨ p.kind = .polygon)) ∨
      (e.kind = .text ∧ p.kind = .text) ∨ (e.kind = .path ∧ p.kind = .path) := by
  have hkind := h.kind
  unfold Element.kind at hkind ⊢
  cases htag : e.tag <;>
    simp_all [Tag.kind, Tag.name, Primitive.kindOf?, PrimitiveKind.ofName, eq_comm]

/-- The inside of a shape has the size that is given. -/
theorem fillsShape (h : p.Leaf settings e center content drawn) (hkind : e.kind = .shape) :
    FillsShape p (innerBox p) (Paint.of p.attributes) := by
  have hcontent := h.measured
  simp only [Measured.leafContent, hkind, Except.pure_eq_ok, ← h.attributes, ExactScalar.zero_eq]
    at hcontent
  have hsize : ∀ axis, 0 ≤ (givenSize p.attributes).on axis := by
    obtain ⟨hwidth, hheight⟩ := h.styled.size_nonneg
    rw [← h.attributes, ExactScalar.zero_eq] at hwidth hheight
    intro axis
    cases axis
    · exact hwidth
    · exact hheight
  obtain ⟨hinner, hwidened⟩ := innerBox_eq h.box hcontent.symm hsize
  refine ⟨?_, hwidened⟩
  rw [hinner]
  rfl

end Leaf

end GridDiagram.Drawing
