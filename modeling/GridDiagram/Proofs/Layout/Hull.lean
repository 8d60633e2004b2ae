import GridDiagram.Proofs.Layout.Box
import GridDiagram.Layout.Measure

/-!
Points in boxes, and the smallest box around points.
-/

namespace GridDiagram

namespace Box

variable {α : Type} [ExactScalar α]

/-- A point lies in a box, its edges included. -/
def Holds (b : Box α) (q : Pair α) : Prop :=
  ∀ axis, b.start axis ≤ q.on axis ∧ q.on axis ≤ b.start axis + b.extent axis

/-- A box holds points and is as small as it can be: on both axes it starts at one of them and ends
at one of them. -/
structure IsHull (b : Box α) (qs : List (Pair α)) : Prop where
  holds : ∀ q ∈ qs, b.Holds q
  start : ∀ axis, ∃ q ∈ qs, q.on axis = b.start axis
  stop : ∀ axis, ∃ q ∈ qs, q.on axis = b.start axis + b.extent axis

theorem IsHull.unique {b c : Box α} {qs : List (Pair α)} (hb : b.IsHull qs) (hc : c.IsHull qs) :
    b = c := by
  have hstart (axis : Axis) : b.start axis = c.start axis := by
    obtain ⟨q, hq, hqb⟩ := hb.start axis
    obtain ⟨r, hr, hrc⟩ := hc.start axis
    apply le_antisymm
    · rw [← hrc]
      exact (hb.holds r hr axis).1
    · rw [← hqb]
      exact (hc.holds q hq axis).1
  have hstop (axis : Axis) :
      b.start axis + b.extent axis = c.start axis + c.extent axis := by
    obtain ⟨q, hq, hqb⟩ := hb.stop axis
    obtain ⟨r, hr, hrc⟩ := hc.stop axis
    apply le_antisymm
    · rw [← hqb]
      exact (hc.holds q hq axis).2
    · rw [← hrc]
      exact (hb.holds r hr axis).2
  ext axis
  · exact hstart axis
  · linarith [hstart axis, hstop axis]

theorem holds_iff {b : Box α} {q : Pair α} :
    b.Holds q ↔ ∀ axis, |q.on axis - b.center.on axis| ≤ b.extent axis / 2 := by
  refine forall_congr' fun axis => ?_
  rw [center_on, abs_le]
  constructor <;> rintro ⟨hlow, hhigh⟩ <;> constructor <;> linarith

theorem holds_around {center size q : Pair α} :
    (around center size).Holds q ↔ ∀ axis, |q.on axis - center.on axis| ≤ size.on axis / 2 := by
  simp only [holds_iff, around_center, extent_around]

/-- The corners of a box, all the way around it. -/
def corners (b : Box α) : List (Pair α) :=
  [⟨b.x, b.y⟩, ⟨b.right, b.y⟩, ⟨b.right, b.bottom⟩, ⟨b.x, b.bottom⟩]

/-- A box with a strip of one width around it. -/
def widened (b : Box α) (strip : α) : Box α :=
  ⟨b.x - strip, b.y - strip, b.width + 2 * strip, b.height + 2 * strip⟩

theorem around_widened (center size : Pair α) (strip : α) :
    (around center size).widened strip =
      around center ⟨size.x + 2 * strip, size.y + 2 * strip⟩ := by
  ext axis <;> cases axis <;> simp [widened, around, start, extent] <;> ring

theorem Holds.widened {b : Box α} {q : Pair α} (h : b.Holds q) {strip : α} (hstrip : 0 ≤ strip) :
    (b.widened strip).Holds q := by
  intro axis
  obtain ⟨hlow, hhigh⟩ := h axis
  cases axis <;> simp only [Box.widened, start, extent, Pair.on] at hlow hhigh ⊢ <;>
    constructor <;> linarith

theorem IsHull.moved {b : Box α} {qs : List (Pair α)} (h : b.IsHull qs) (d : Pair α) :
    (b.moved d).IsHull (qs.map fun q => ⟨q.x + d.x, q.y + d.y⟩) := by
  have hmoved (q : Pair α) (axis : Axis) :
      (⟨q.x + d.x, q.y + d.y⟩ : Pair α).on axis = q.on axis + d.on axis := by
    cases axis <;> rfl
  refine ⟨?_, fun axis => ?_, fun axis => ?_⟩
  · simp only [List.forall_mem_map]
    intro q hq axis
    obtain ⟨hlow, hhigh⟩ := h.holds q hq axis
    rw [hmoved, start_moved, extent_moved]
    constructor <;> linarith
  · obtain ⟨q, hq, hstart⟩ := h.start axis
    refine ⟨_, List.mem_map_of_mem hq, ?_⟩
    rw [hmoved, start_moved, hstart]
  · obtain ⟨q, hq, hstop⟩ := h.stop axis
    refine ⟨_, List.mem_map_of_mem hq, ?_⟩
    rw [hmoved, start_moved, extent_moved, hstop]
    ring

end Box

/-! ### The bounds of points -/

variable {α : Type} [ExactScalar α]

theorem least_spec (first : α) (rest : List α) :
    least first rest ∈ first :: rest ∧ ∀ x ∈ first :: rest, least first rest ≤ x := by
  have hsmaller : (Scalar.smaller : α → α → α) = min := by
    funext a b
    exact Scalar.smaller_eq_min a b
  rw [least, hsmaller]
  exact List.min?_eq_some_iff.mp List.min?_cons'

theorem greatest_spec (first : α) (rest : List α) :
    greatest first rest ∈ first :: rest ∧ ∀ x ∈ first :: rest, x ≤ greatest first rest := by
  have hlarger : (Scalar.larger : α → α → α) = max := by
    funext a b
    exact Scalar.larger_eq_max a b
  rw [greatest, hlarger]
  exact List.max?_eq_some_iff.mp List.max?_cons'

namespace PointBounds

/-- The box between the bounds of points. -/
def box (bounds : PointBounds α) : Box α :=
  Box.ofStarts bounds.low ⟨bounds.high.x - bounds.low.x, bounds.high.y - bounds.low.y⟩

variable {ps : List (Pair α)} {bounds : PointBounds α}

theorem low_le_high (h : of? ps = some bounds) (axis : Axis) :
    bounds.low.on axis ≤ bounds.high.on axis := by
  cases ps with
  | nil => simp [of?] at h
  | cons p ps =>
    obtain rfl := Option.some.inj h
    have hle (first : α) (rest : List α) : least first rest ≤ greatest first rest :=
      ((least_spec first rest).2 first List.mem_cons_self).trans
        ((greatest_spec first rest).2 first List.mem_cons_self)
    cases axis
    · exact hle ..
    · exact hle ..

end PointBounds

end GridDiagram
