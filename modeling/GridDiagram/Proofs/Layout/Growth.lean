import GridDiagram.Proofs.Layout.Expansion
import GridDiagram.Proofs.Layout.Places

/-!
Growth of a grid in several steps, in rationals. However its intervals were sized, what they grow by
together is the space that is shared out, and the intervals share it in the ratio of their weights,
from the sizes that were frozen.
-/

namespace GridDiagram

namespace GridAxis

/-- An axis that calls have sized, in any order, from an empty one with a number of lines. -/
inductive Reached (lines : Int) : GridAxis Rat → Prop
  | empty : Reached lines (ofLineCount lines)
  | constraints {g g' : GridAxis Rat} {cs : List (IntervalConstraint Rat)} (hg : Reached lines g)
      (h : g.applyConstraints cs = .ok g') : Reached lines g'
  | cell {g g' : GridAxis Rat} {line : Int} {size : Rat} (hg : Reached lines g)
      (h : g.addCell line size = .ok g') : Reached lines g'
  | span {g g' : GridAxis Rat} {s : Span} {size : Rat} (hg : Reached lines g)
      (h : g.addSpan s size = .ok g') : Reached lines g'

variable {g g' : GridAxis Rat} {lines : Int}

theorem Reached.sound (h : Reached lines g) : g.Sound := by
  induction h with
  | empty => exact ofLineCount_sound lines
  | constraints _ h ih => exact (applyConstraints_grown h).sound ih
  | cell _ h ih => exact (addCell_grown h).sound ih
  | span _ h ih => exact ih.addSpan h

/-! ### Steps of growth -/

theorem Sound.freezeMinimums (hg : g.Sound) : g.freezeMinimums.Sound :=
  List.forall_mem_map.mpr hg

theorem Sound.totalWeight_nonneg (hg : g.Sound) : 0 ≤ g.totalWeight := by
  rw [totalWeight, Scalar.sum_eq_sum]
  exact List.sum_nonneg (List.forall_mem_map.mpr fun i hi => (hg i hi).2)

theorem Sound.grow (hg : g.Sound) {slack : Rat} (hslack : 0 ≤ slack) : (g.grow slack).Sound := by
  unfold Sound
  rw [grow_intervals hg, List.forall_mem_map]
  intro i hi
  obtain ⟨hsize, hweight⟩ := hg i hi
  exact ⟨add_nonneg hsize (div_nonneg (mul_nonneg hslack hweight) hg.totalWeight_nonneg), hweight⟩

theorem grow_totalWeight (hg : g.Sound) (slack : Rat) :
    (g.grow slack).totalWeight = g.totalWeight := by
  rw [totalWeight, totalWeight, grow_intervals hg, List.map_map]
  rfl

theorem grow_grow (hg : g.Sound) {slack : Rat} (hslack : 0 ≤ slack) (slack' : Rat) :
    (g.grow slack).grow slack' = g.grow (slack + slack') := by
  have hintervals :
      ((g.grow slack).grow slack').intervals = (g.grow (slack + slack')).intervals := by
    rw [grow_intervals (hg.grow hslack), grow_totalWeight hg, grow_intervals hg,
      grow_intervals hg, List.map_map]
    refine List.map_congr_left fun i _ => ?_
    simp only [Function.comp_apply, Interval.mk.injEq, and_self, and_true]
    ring
  exact congrArg GridAxis.mk hintervals

theorem grow_zero (hg : g.Sound) : g.grow 0 = g := by
  have hintervals : (g.grow 0).intervals = g.intervals := by
    simp [grow_intervals hg]
  exact congrArg GridAxis.mk hintervals

/-- The axis after several growths. -/
def growAll (g : GridAxis Rat) (slacks : List Rat) : GridAxis Rat :=
  slacks.foldl GridAxis.grow g

/-- Several growths come to one by all of the space. -/
theorem growAll_eq_grow (hg : g.Sound) {slacks : List Rat} (hslacks : ∀ slack ∈ slacks, 0 ≤ slack) :
    g.growAll slacks = g.grow slacks.sum := by
  induction slacks generalizing g with
  | nil => exact (grow_zero hg).symm
  | cons slack slacks ih =>
    obtain ⟨hslack, hslacks⟩ := List.forall_mem_cons.mp hslacks
    rw [List.sum_cons, ← grow_grow hg hslack]
    exact ih (hg.grow hslack) hslacks

theorem grow_freezeMinimums_intervals (hg : g.Sound) (slack : Rat) :
    (g.freezeMinimums.grow slack).intervals = g.intervals.map fun i =>
      { i with size := i.size + slack * i.weight / g.totalWeight, minimum := i.size } := by
  have htotal : g.freezeMinimums.totalWeight = g.totalWeight := by
    simp [totalWeight, GridAxis.freezeMinimums, Function.comp_def]
  rw [grow_intervals hg.freezeMinimums, htotal, GridAxis.freezeMinimums, List.map_map]
  rfl

/-! ### What growth conserves -/

/-- The last line lies as far from the first one as all sizes together say. -/
theorem positions_ends (g : GridAxis Rat) (origin : Rat) :
    (g.positions origin).head? = some origin ∧
      (g.positions origin).getLast? = some (origin + g.total) := by
  constructor
  · rw [List.head?_eq_getElem?, positions_getElem? g origin (Nat.zero_le _)]
    simp [reach]
  · rw [List.getLast?_eq_getElem?, length_positions, Nat.add_sub_cancel,
      positions_getElem? g origin (le_refl _), total_eq_reach]

end GridAxis

/-- An interval has grown from the size it had when sizes were frozen, if it has a weight, and has
kept that size if it has none. -/
structure Interval.GrownFrom (frozen i : Interval Rat) : Prop where
  weight : i.weight = frozen.weight
  minimum : i.minimum = frozen.size
  least : i.minimum ≤ i.size
  fixed : i.weight ≤ 0 → i.size = i.minimum

namespace GridAxis

variable {g : GridAxis Rat} {lines : Int}

/-- However an axis was sized, intervals only grow from the sizes that were frozen, and those
without a weight not at all; they grow in the ratio of their weights; and with a weight among them
the whole grows by all the space that is shared out, which is then how far the last line lies from
the first one. -/
theorem growAll_conserves (hg : g.Reached lines) {slacks : List Rat}
    (hslacks : ∀ slack ∈ slacks, 0 ≤ slack) :
    List.Forall₂ Interval.GrownFrom g.intervals (g.freezeMinimums.growAll slacks).intervals ∧
    (∀ i ∈ (g.freezeMinimums.growAll slacks).intervals,
      ∀ j ∈ (g.freezeMinimums.growAll slacks).intervals, 0 < i.weight → 0 < j.weight →
        (i.size - i.minimum) * j.weight = (j.size - j.minimum) * i.weight) ∧
    ((∃ i ∈ g.intervals, 0 < i.weight) →
      (g.freezeMinimums.growAll slacks).total = g.freezeMinimums.total + slacks.sum ∧
      ∀ origin, ∃ first last,
        ((g.freezeMinimums.growAll slacks).positions origin).head? = some first ∧
        ((g.freezeMinimums.growAll slacks).positions origin).getLast? = some last ∧
        last - first = (g.freezeMinimums.growAll slacks).total) := by
  have hsound := hg.sound
  have hsum : 0 ≤ slacks.sum := List.sum_nonneg hslacks
  rw [growAll_eq_grow hsound.freezeMinimums hslacks, grow_freezeMinimums_intervals hsound]
  refine ⟨?_, ?_, ?_⟩
  · rw [List.forall₂_map_right_iff]
    refine List.forall₂_same.mpr fun i hi => ⟨rfl, rfl, ?_, fun hweight => ?_⟩
    · have hshare := mul_nonneg hsum (hsound i hi).2
      exact le_add_of_nonneg_right (div_nonneg hshare hsound.totalWeight_nonneg)
    · have hzero : i.weight = 0 := le_antisymm hweight (hsound i hi).2
      simp [hzero]
  · simp only [List.forall_mem_map, add_sub_cancel_left]
    intro i _ j _ _ _
    ring
  · rintro ⟨i, hi, hweight⟩
    have hpos : 0 < g.freezeMinimums.totalWeight :=
      hsound.freezeMinimums.totalWeight_pos ⟨_, List.mem_map_of_mem hi, hweight⟩
    refine ⟨grow_total hsound.freezeMinimums slacks.sum hpos, fun origin => ?_⟩
    obtain ⟨hfirst, hlast⟩ := positions_ends (g.freezeMinimums.grow slacks.sum) origin
    exact ⟨_, _, hfirst, hlast, add_sub_cancel_left _ _⟩

/-- An axis with a literal interval and two with weights, sized by a cell and a span. -/
def weightedAxis : Except (GridError Rat) (GridAxis Rat) := do
  let floored ← (ofLineCount 4).applyConstraints [⟨1, 70, 0⟩, ⟨2, 0, 2⟩, ⟨3, 0, 1⟩]
  let celled ← floored.addCell 2 5
  celled.addSpan ⟨1, 4⟩ 90

theorem weightedAxis_conserves : ∃ g, weightedAxis = .ok g ∧ g.Reached 4 ∧
    (∀ slack ∈ [(10 : Rat), 20], 0 ≤ slack) ∧
    (g.freezeMinimums.growAll [10, 20]).total = 120 ∧
    List.Forall₂ Interval.GrownFrom g.intervals (g.freezeMinimums.growAll [10, 20]).intervals := by
  have hany : weightedAxis.toOption.any (fun g =>
      decide (g.freezeMinimums.total = 90 ∧ ∃ i ∈ g.intervals, 0 < i.weight)) = true := by
    decide +kernel
  obtain ⟨g, hg, htotal, hweight⟩ := Except.exists_ok_of_any hany
  have hreached : g.Reached 4 := by
    simp only [weightedAxis, Except.bind_eq_ok] at hg
    obtain ⟨floored, hfloored, celled, hcelled, hspanned⟩ := hg
    exact .span (.cell (.constraints .empty hfloored) hcelled) hspanned
  have hslacks : ∀ slack ∈ [(10 : Rat), 20], 0 ≤ slack := by
    simp
  obtain ⟨hgrown, -, htotals⟩ := growAll_conserves hreached hslacks
  refine ⟨g, hg, hreached, hslacks, ?_, hgrown⟩
  rw [(htotals hweight).1, htotal]
  norm_num

end GridAxis

end GridDiagram
