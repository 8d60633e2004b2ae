import GridDiagram.Proofs.Layout.Hull
import GridDiagram.Proofs.Layout.Intervals
import GridDiagram.Proofs.Layout.Positioned
import Mathlib.Tactic.Positivity

/-!
The natural sizes of nodes: nothing has a size below zero, and in rationals the natural size is the
size that is drawn with the space around it.
-/

namespace GridDiagram

/-- The widest line of a text is no narrower than any other, and than what has gone before. -/
theorem Measurer.widestOf_ok {α : Type} [ExactScalar α] {m : Measurer α} {lines : List String}
    {size widest w : α} {family : Option String}
    (h : m.widestOf size family widest lines = .ok w) :
    widest ≤ w ∧ ∀ line ∈ lines, ∃ v, m.width line size family = .ok v ∧ v ≤ w := by
  induction lines generalizing widest with
  | nil =>
    obtain rfl := Except.ok.inj h
    exact ⟨le_refl widest, by simp⟩
  | cons line lines ih =>
    simp only [Measurer.widestOf, Except.bind_eq_ok, Scalar.larger_eq_max] at h
    obtain ⟨v, hv, h⟩ := h
    obtain ⟨hle, hlines⟩ := ih h
    obtain ⟨hwidest, hline⟩ := max_le_iff.mp hle
    exact ⟨hwidest, List.forall_mem_cons.mpr ⟨⟨v, hv, hline⟩, hlines⟩⟩

/-- Measures of text are not below zero. -/
structure Measurer.Nonnegative (m : Measurer Rat) : Prop where
  metrics : ∀ size family v, m.metrics size family = .ok v →
    0 ≤ v.ascent ∧ 0 ≤ v.descent ∧ 0 ≤ v.height
  width : ∀ line size family w, m.width line size family = .ok w → 0 ≤ w

theorem Measurer.Nonnegative.textSize {m : Measurer Rat} (hm : m.Nonnegative)
    {lines : List String} {size : Rat} {family : Option String} {s : Pair Rat}
    (h : m.textSize lines size family = .ok s) (axis : Axis) : 0 ≤ s.on axis := by
  cases lines with
  | nil =>
    obtain rfl := Except.ok.inj h
    cases axis <;> simp [Pair.on]
  | cons first rest =>
    simp only [Measurer.textSize, Except.bind_eq_ok, Except.pure_eq_ok] at h
    obtain ⟨v, hv, w, hw, width, hwidth, rfl⟩ := h
    obtain ⟨hascent, hdescent, hheight⟩ := hm.metrics _ _ _ hv
    cases axis
    · exact (hm.width _ _ _ _ hw).trans (Measurer.widestOf_ok hwidth).1
    · show 0 ≤ v.ascent + v.descent + (rest.length : Int) * v.height
      positivity

/-! ### The properties in force -/

/-- What the padding, the margin and the border take on both sides of an axis. -/
def Properties.surround (ps : Properties Rat) (axis : Axis) : Rat :=
  ps.padding.front axis + ps.padding.back axis +
    (ps.marginSides.front axis + ps.marginSides.back axis) + 2 * ps.border

section Exact

-- Decimals are read as in the definitions, and not as those of a field.
attribute [local instance] ExactScalar.decimals

variable {α : Type} [ExactScalar α]

namespace Element.Styled

variable {e : Element α}

/-- What holds of every value of an attribute and of its default holds of the value in force. -/
theorem getD (h : e.Styled Attribute.Ranged) {a : Attribute} {default : a.Value α}
    {Q : a.Value α → Prop} (hvalue : ∀ v : a.Value α, a.Ranged v → Q v) (hdefault : Q default) :
    Q ((e.effective.get? a).getD default) := by
  cases hv : e.effective.get? a with
  | none => exact hdefault
  | some v => exact hvalue v (h.get? hv)

theorem padding_nonneg (h : e.Styled Attribute.Ranged) : e.effective.padding.Nonnegative :=
  h.getD (fun _ hv => hv (by decide)) Sides.nonnegative_zero

theorem margin_nonneg (h : e.Styled Attribute.Ranged) : e.effective.marginSides.Nonnegative :=
  h.getD (fun _ hv => hv (by decide)) Sides.nonnegative_zero

theorem border_nonneg (h : e.Styled Attribute.Ranged) : 0 ≤ e.effective.border := by
  refine h.getD (a := .borderWidth) (Q := fun x : α => 0 ≤ x) (fun v hv => ?_) (by simp)
  exact Scalar.nonneg_of_not_lt (hv (by decide))

theorem strokeExtent_nonneg (h : e.Styled Attribute.Ranged) : 0 ≤ e.effective.strokeExtent := by
  unfold Properties.strokeExtent
  split
  · refine h.getD (a := .strokeWidth) (Q := fun x : α => 0 ≤ x) (fun v hv => ?_) (by simp)
    exact Scalar.nonneg_of_not_lt (hv (by decide))
  · simp

theorem scaleFactor_nonneg (h : e.Styled Attribute.Ranged) : 0 ≤ e.effective.scaleFactor := by
  refine h.getD (a := .scale) (Q := fun x : α => 0 ≤ x) (fun v hv => ?_) (by simp)
  have hrange : ¬v ≤ (0.0 : α) := hv (by decide)
  simpa using (not_le.mp hrange).le

/-- The size that a shape asks for is not below zero. -/
theorem size_nonneg (h : e.Styled Attribute.Ranged) :
    0 ≤ (e.effective.get? .width).getD (0.0 : α) ∧
      0 ≤ (e.effective.get? .height).getD ((e.effective.get? .width).getD (0.0 : α)) := by
  have hwidth : 0 ≤ (e.effective.get? .width).getD (0.0 : α) := by
    refine h.getD (a := .width) (Q := fun x : α => 0 ≤ x) (fun v hv => ?_) (by simp)
    exact Scalar.nonneg_of_not_lt (hv (by decide))
  refine ⟨hwidth, ?_⟩
  refine h.getD (a := .height) (Q := fun x : α => 0 ≤ x) (fun v hv => ?_) hwidth
  exact Scalar.nonneg_of_not_lt (hv (by decide))

theorem scaleFactor_of_group (h : e.Styled Attribute.Ranged) (hgroup : e.kind = .group) :
    e.effective.scaleFactor = 1 := by
  have hallows : e.tag.allows .scale = false := by
    unfold Element.kind at hgroup
    cases htag : e.tag <;> simp_all [Tag.kind, Tag.allows, Attribute.isBox, Attribute.isInherited]
  rw [Properties.scaleFactor, h.get?_eq_none hallows]
  simp

end Element.Styled

/-! ### Nodes -/

theorem drawnSize_nonneg {t : Trigonometry α} {size drawn : Pair α} {scale degrees : α}
    (hsize : ∀ axis, 0 ≤ size.on axis) (hscale : 0 ≤ scale)
    (h : drawnSize t size scale degrees = .ok drawn) (axis : Axis) : 0 ≤ drawn.on axis := by
  have hx : 0 ≤ size.x * scale := mul_nonneg (hsize .x) hscale
  have hy : 0 ≤ size.y * scale := mul_nonneg (hsize .y) hscale
  simp only [drawnSize, rotatedSize] at h
  split at h
  · obtain rfl := Except.ok.inj h
    cases axis
    · exact hx
    · exact hy
  · simp only [Except.bind_eq_ok, Except.pure_eq_ok] at h
    obtain ⟨p, -, rfl⟩ := h
    have hc := Scalar.magnitude_nonneg p.x
    have hs := Scalar.magnitude_nonneg p.y
    cases axis
    · exact add_nonneg (mul_nonneg hx hc) (mul_nonneg hy hs)
    · exact add_nonneg (mul_nonneg hx hs) (mul_nonneg hy hc)

/-- Nothing but a text has a size below zero, and a text has one only if it is measured so. -/
theorem Measured.leafContent_nonneg {settings : LayoutSettings α} {e : Element α} {path : String}
    {size : Pair α} (he : e.Styled Attribute.Ranged)
    (htext : e.kind = .text → ∀ s, settings.measurer.textSize e.lines e.effective.fontSize
      (e.effective.fontFamilyOr settings.fontFamily) = .ok s → ∀ axis, 0 ≤ s.on axis)
    (h : leafContent settings e path = .ok size) (axis : Axis) : 0 ≤ size.on axis := by
  have hstroke := he.strokeExtent_nonneg
  unfold leafContent at h
  split at h
  · obtain rfl := Except.ok.inj h
    obtain ⟨hwidth, hheight⟩ := he.size_nonneg
    cases axis
    · exact add_nonneg hwidth hstroke
    · exact add_nonneg hheight hstroke
  · rename_i hkind
    exact htext hkind size (Except.mapError_eq_ok.mp h) axis
  · simp only at h
    split at h
    · simp at h
    · rename_i bounds hbounds
      obtain rfl := Except.ok.inj h
      have hle := PointBounds.low_le_high hbounds axis
      cases axis
      · exact add_nonneg (sub_nonneg.mpr hle) hstroke
      · exact add_nonneg (sub_nonneg.mpr hle) hstroke
  · simp at h

end Exact

theorem AxisMeasure.extent_eq (m : AxisMeasure Rat) :
    m.extent = max m.grid.total m.high - m.low := by
  rw [extent, Scalar.larger_eq_max]

theorem AxisMeasure.Fits.extent_nonneg {axis : Axis} {m : AxisMeasure Rat}
    {children : List (Measured Rat)} (h : m.Fits axis children) : 0 ≤ m.extent := by
  have hhigh : 0 ≤ max m.grid.total m.high := le_max_of_le_right h.high
  rw [extent_eq]
  linarith [h.low]

namespace Measured

variable {settings : LayoutSettings Rat} {m : Measured Rat} {children : List (Measured Rat)}

theorem ofElement_natural {e : Element Rat} {path : String}
    (h : ofElement settings e path children = .ok m) :
    m.natural = naturalSize e.effective m.drawn := by
  unfold ofElement at h
  split at h
  · simp only [Except.bind_eq_ok, Except.pure_eq_ok] at h
    obtain ⟨_, -, _, -, rfl⟩ := h
    rfl
  · simp only [Except.bind_eq_ok, Except.pure_eq_ok] at h
    obtain ⟨_, -, _, -, rfl⟩ := h
    rfl

namespace Done

/-- The natural size is the drawn one with the space around it. -/
theorem natural_on (h : m.Done settings Attribute.Ranged children) (axis : Axis) :
    m.natural.on axis = m.drawn.on axis + m.style.surround axis := by
  have hnatural : m.natural = naturalSize m.style m.drawn :=
    ofElement_natural (m := { m with stage := .unresolved }) h.sizes
  have htwo : (2.0 : Rat) = 2 := by norm_num
  rw [hnatural]
  cases axis
  · simp only [naturalSize, Properties.surround, Pair.on, Sides.front, Sides.back, htwo]
    ring
  · simp only [naturalSize, Properties.surround, Pair.on, Sides.front, Sides.back, htwo]
    ring

theorem axes_fit (h : m.Done settings Attribute.Ranged children)
    (hchildren : ∀ c ∈ children, c.element.Styled Attribute.Ranged) {axes : Pair (AxisMeasure Rat)}
    (haxes : m.axes = some axes) (axis : Axis) : (axes.on axis).Fits axis children := by
  obtain ⟨_, hsome, hmeasure⟩ := h.exists_axes (h.group_of_axes haxes)
  obtain rfl := Option.some.inj (haxes.symm.trans hsome)
  exact AxisMeasure.ofChildren_fits (fun c hc => (hchildren c hc).placement axis) (hmeasure axis)

theorem drawn_of_axes (h : m.Done settings Attribute.Ranged children)
    {axes : Pair (AxisMeasure Rat)} (haxes : m.axes = some axes) (axis : Axis) :
    m.drawn.on axis = (axes.on axis).extent := by
  have hgroup := h.group_of_axes haxes
  have hscale := h.styled.scaleFactor_of_group hgroup
  have hsizes := h.sizes
  rw [ofElement, if_pos hgroup] at hsizes
  simp only [Except.bind_eq_ok, Except.pure_eq_ok, hscale, mul_one] at hsizes
  obtain ⟨x, -, y, -, hm⟩ := hsizes
  have hdrawn := congrArg drawn hm
  obtain rfl := Option.some.inj ((congrArg Measured.axes hm).trans haxes)
  simp only at hdrawn
  rw [← hdrawn]
  cases axis <;> rfl

theorem drawn_nonneg (hm : settings.measurer.Nonnegative)
    (h : m.Done settings Attribute.Ranged children)
    (hchildren : ∀ c ∈ children, c.element.Styled Attribute.Ranged) (axis : Axis) :
    0 ≤ m.drawn.on axis := by
  by_cases hgroup : m.element.kind = .group
  · obtain ⟨axes, haxes, -⟩ := h.exists_axes hgroup
    rw [h.drawn_of_axes haxes]
    exact (h.axes_fit hchildren haxes axis).extent_nonneg
  · have hsizes := h.sizes
    rw [ofElement, if_neg hgroup] at hsizes
    simp only [Except.bind_eq_ok, Except.mapError_eq_ok, Except.pure_eq_ok] at hsizes
    obtain ⟨content, hcontent, drawn, hdrawn, hm'⟩ := hsizes
    have hsame := congrArg Measured.drawn hm'
    simp only at hsame
    rw [← hsame]
    exact drawnSize_nonneg (leafContent_nonneg h.styled (fun _ _ hs => hm.textSize hs) hcontent)
      h.styled.scaleFactor_nonneg hdrawn axis

end Done

end Measured

end GridDiagram
