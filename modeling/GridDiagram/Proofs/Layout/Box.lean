import GridDiagram.Proofs.Exact
import GridDiagram.Layout.Box

/-!
Boxes axis by axis, in exact numbers, and the ends of boxes in rationals.
-/

namespace GridDiagram

/-- What the sides take away in front of a box on an axis. -/
def Sides.front {β : Type} (s : Sides β) : Axis → β
  | .x => s.left
  | .y => s.top

/-- What the sides take away behind a box on an axis. -/
def Sides.back {β : Type} (s : Sides β) : Axis → β
  | .x => s.right
  | .y => s.bottom

section Exact

variable {α : Type} [ExactScalar α]

theorem Sides.Nonnegative.axis {s : Sides α} (h : s.Nonnegative) (axis : Axis) :
    0 ≤ s.front axis ∧ 0 ≤ s.back axis := by
  obtain ⟨hleft, htop, hright, hbottom⟩ := h.le
  cases axis
  · exact ⟨hleft, hright⟩
  · exact ⟨htop, hbottom⟩

namespace Box

variable (b : Box α) (axis : Axis)

omit [ExactScalar α] in
@[ext]
theorem ext_axes [Scalar α] {b c : Box α} (hstart : ∀ axis, b.start axis = c.start axis)
    (hextent : ∀ axis, b.extent axis = c.extent axis) : b = c := by
  obtain ⟨x, y, w, h⟩ := b
  obtain ⟨x', y', w', h'⟩ := c
  obtain rfl : x = x' := hstart .x
  obtain rfl : y = y' := hstart .y
  obtain rfl : w = w' := hextent .x
  obtain rfl : h = h' := hextent .y
  rfl

omit [ExactScalar α] in
@[simp] theorem start_ofStarts [Scalar α] (start size : Pair α) :
    (ofStarts start size).start axis = start.on axis := by
  cases axis <;> rfl

omit [ExactScalar α] in
@[simp] theorem extent_ofStarts [Scalar α] (start size : Pair α) :
    (ofStarts start size).extent axis = size.on axis := by
  cases axis <;> rfl

@[simp] theorem start_around (center size : Pair α) :
    (around center size).start axis = center.on axis - size.on axis / 2 := by
  cases axis <;> simp [around, start, Pair.on]

@[simp] theorem extent_around (center size : Pair α) :
    (around center size).extent axis = size.on axis := by
  cases axis <;> rfl

@[simp] theorem center_on : b.center.on axis = b.start axis + b.extent axis / 2 := by
  cases axis <;> simp [center, start, extent, Pair.on]

theorem around_center (center size : Pair α) : (around center size).center = center := by
  have haxis (axis : Axis) : (around center size).center.on axis = center.on axis := by
    rw [center_on, start_around, extent_around, sub_add_cancel]
  exact congrArg₂ Pair.mk (haxis .x) (haxis .y)

@[simp] theorem start_moved (d : Pair α) :
    (b.moved d).start axis = b.start axis + d.on axis := by
  cases axis <;> rfl

@[simp] theorem extent_moved (d : Pair α) : (b.moved d).extent axis = b.extent axis := by
  cases axis <;> rfl

@[simp] theorem start_shrink (inset : Sides α) :
    (b.shrink inset).start axis = b.start axis + inset.front axis := by
  cases axis <;> rfl

theorem extent_shrink (inset : Sides α) :
    (b.shrink inset).extent axis =
      max (b.extent axis - inset.front axis - inset.back axis) 0 := by
  cases axis <;> simp [shrink, extent, Sides.front, Sides.back, Scalar.larger_eq_max]

/-- Where there is room for the sides, they are taken away in full. -/
theorem extent_shrink_of_le {b : Box α} {inset : Sides α}
    (h : inset.front axis + inset.back axis ≤ b.extent axis) :
    (b.shrink inset).extent axis = b.extent axis - inset.front axis - inset.back axis := by
  rw [extent_shrink]
  apply max_eq_left
  linarith

theorem moved_around (center size d : Pair α) :
    (around center size).moved d = around ⟨center.x + d.x, center.y + d.y⟩ size := by
  ext axis
  · rw [start_moved, start_around, start_around]
    cases axis <;> simp only [Pair.on] <;> ring
  · rw [extent_moved, extent_around, extent_around]

theorem moved_shrink (d : Pair α) (inset : Sides α) :
    (b.moved d).shrink inset = (b.shrink inset).moved d := by
  ext axis
  · simp only [start_shrink, start_moved]
    ring
  · simp only [extent_shrink, extent_moved]

end Box

end Exact

namespace Box

variable (b c : Box Rat) (axis : Axis)

/-- Where a box ends on an axis. -/
def stop : Rat :=
  b.start axis + b.extent axis

theorem contains_iff (tolerance : Rat) :
    b.contains c tolerance = true ↔
      ∀ axis, b.start axis - tolerance ≤ c.start axis ∧ c.stop axis ≤ b.stop axis + tolerance := by
  simp only [contains, Bool.and_eq_true, decide_eq_true_eq]
  constructor
  · rintro ⟨⟨⟨hx, hy⟩, hright⟩, hbottom⟩ axis
    cases axis
    · exact ⟨hx, hright⟩
    · exact ⟨hy, hbottom⟩
  · intro h
    exact ⟨⟨⟨(h .x).1, (h .y).1⟩, (h .x).2⟩, (h .y).2⟩

@[simp] theorem stop_ofStarts (start size : Pair Rat) :
    (ofStarts start size).stop axis = start.on axis + size.on axis := by
  rw [stop, start_ofStarts, extent_ofStarts]

@[simp] theorem stop_moved (d : Pair Rat) : (b.moved d).stop axis = b.stop axis + d.on axis := by
  simp only [stop, start_moved, extent_moved]
  ring

/-- Tolerances add up from box to box. -/
theorem contains_trans {b c d : Box Rat} {tolerance tolerance' : Rat}
    (h : b.contains c tolerance = true) (h' : c.contains d tolerance' = true) :
    b.contains d (tolerance + tolerance') = true := by
  rw [contains_iff] at h h' ⊢
  intro axis
  obtain ⟨hstart, hstop⟩ := h axis
  obtain ⟨hstart', hstop'⟩ := h' axis
  constructor <;> linarith

theorem moved_contains (d : Pair Rat) (tolerance : Rat) :
    (b.moved d).contains (c.moved d) tolerance = b.contains c tolerance := by
  rw [Bool.eq_iff_iff, contains_iff, contains_iff]
  refine forall_congr' fun axis => ?_
  simp only [start_moved, stop_moved]
  constructor <;> rintro ⟨hstart, hstop⟩ <;> constructor <;> linarith

end Box

end GridDiagram
