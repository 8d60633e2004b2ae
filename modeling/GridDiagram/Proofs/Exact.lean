import Mathlib.Algebra.BigOperators.Group.List.Basic
import Mathlib.Algebra.Order.Ring.Abs
import Mathlib.Data.Rat.Cast.Order
import Mathlib.Tactic.Linarith
import Mathlib.Tactic.NormNum
import Mathlib.Tactic.Ring
import GridDiagram.Number.Error
import GridDiagram.Proofs.StyleSheet

/-!
Exact numbers: a diagram whose numbers are those of an ordered field, with its operations and its
order. The rationals are an example, and so is every field with the cosines and sines of the angles
of a diagram. Fields are imported in front of everything else here, and in the modules that build on
this one, so that the operations are taken from the numbers of a diagram wherever both are at hand.
-/

namespace GridDiagram

/-- Numbers that are not rounded: the operations and the order that a diagram is computed with are
those of an ordered field. -/
class ExactScalar (α : Type) extends Scalar α, Field α, LinearOrder α, IsStrictOrderedRing α where
  beq_iff : ∀ a b : α, (a == b) = true ↔ a = b
  ofInt_eq : ∀ n : Int, (Scalar.ofInt n : α) = n
  ofScientific_eq : ∀ m s e, (Scalar.toOfScientific.ofScientific m s e : α) =
    ((OfScientific.ofScientific m s e : Rat) : α)

instance ExactScalar.ofRat : ExactScalar Rat where
  toScalar := Scalar.ofRat
  __ := (inferInstance : Field Rat)
  __ := (inferInstance : LinearOrder Rat)
  __ := (inferInstance : IsStrictOrderedRing Rat)
  beq_iff := by simp
  ofInt_eq n := rfl
  ofScientific_eq m s e := by simp

instance ExactScalar.lawfulBEq {α : Type} [ExactScalar α] : LawfulBEq α where
  eq_of_beq h := (ExactScalar.beq_iff _ _).mp h
  rfl := (ExactScalar.beq_iff _ _).mpr rfl

/-- Decimals as the definitions read them, and not as those of a field. -/
abbrev ExactScalar.decimals {α : Type} [ExactScalar α] : OfScientific α :=
  Scalar.toOfScientific

section

attribute [local instance] ExactScalar.decimals

variable {α : Type} [ExactScalar α]

namespace ExactScalar

@[simp] theorem zero_eq : (0.0 : α) = 0 := by
  rw [ofScientific_eq]
  norm_num

@[simp] theorem one_eq : (1.0 : α) = 1 := by
  rw [ofScientific_eq]
  norm_num

@[simp] theorem two_eq : (2.0 : α) = 2 := by
  rw [ofScientific_eq]
  norm_num

instance : Scalar.ApartFromZero α where
  of_pos h := beq_eq_false_iff_ne.mpr (ne_of_gt h)
  of_count {n} hn := by
    rw [beq_eq_false_iff_ne, ofInt_eq, zero_eq, Int.cast_natCast]
    exact Nat.cast_ne_zero.mpr hn

end ExactScalar

namespace Scalar

theorem nonneg_of_not_lt {x : α} (h : ¬x < 0.0) : 0 ≤ x := by
  simpa using h

theorem larger_eq_max (a b : α) : larger a b = max a b := by
  unfold larger
  split
  · rename_i h
    exact (max_eq_right h.le).symm
  · rename_i h
    exact (max_eq_left (not_lt.mp h)).symm

theorem smaller_eq_min (a b : α) : smaller a b = min a b := by
  unfold smaller
  split
  · rename_i h
    exact (min_eq_right h.le).symm
  · rename_i h
    exact (min_eq_left (not_lt.mp h)).symm

theorem magnitude_eq_abs (a : α) : magnitude a = |a| := by
  unfold magnitude
  split
  · rename_i h
    exact (abs_of_neg (by simpa using h)).symm
  · rename_i h
    exact (abs_of_nonneg (nonneg_of_not_lt h)).symm

theorem magnitude_nonneg (a : α) : 0 ≤ magnitude a := by
  rw [magnitude_eq_abs]
  exact abs_nonneg a

end Scalar

/-! ### Ranges -/

theorem Sides.Nonnegative.le {s : Sides α} (h : s.Nonnegative) :
    0 ≤ s.left ∧ 0 ≤ s.top ∧ 0 ≤ s.right ∧ 0 ≤ s.bottom := by
  obtain ⟨hleft, htop, hright, hbottom⟩ := h
  exact ⟨Scalar.nonneg_of_not_lt hleft, Scalar.nonneg_of_not_lt htop,
    Scalar.nonneg_of_not_lt hright, Scalar.nonneg_of_not_lt hbottom⟩

theorem Sides.nonnegative_zero : (Sides.all (0.0 : α)).Nonnegative := by
  constructor <;> simp [Sides.all]

theorem Attribute.Within.le {low high : Int} {p : Pair α} (h : Within low high p)
    (axis : Axis) : low ≤ p.on axis ∧ p.on axis ≤ high := by
  have inside (x : α) (h : isOutside low high x = false) : low ≤ x ∧ x ≤ high := by
    simpa [isOutside, ExactScalar.ofInt_eq] using h
  cases axis
  · exact inside p.x h.1
  · exact inside p.y h.2

theorem Tag.boxDefaults_ranged : (boxDefaults : Properties α).All Attribute.Ranged := by
  have sides : Sides.Nonnegative (Sides.all (0 : α)) := by
    constructor <;> simp [Sides.all]
  simp [Properties.All, boxDefaults, Attribute.Ranged, Attribute.Admits, sides]

theorem Tag.shapeDefaults_ranged : (shapeDefaults : Properties α).All Attribute.Ranged := by
  refine boxDefaults_ranged.append ?_
  have ten : (10.0 : α) = 10 := by
    rw [ExactScalar.ofScientific_eq]
    norm_num
  simp [Properties.All, Attribute.Ranged, Attribute.Admits, ten]

theorem Tag.defaults_ranged (tag : Tag) :
    (tag.defaults : Properties α).All Attribute.Ranged := by
  have expand : Attribute.Within 0 1 (⟨0, 0⟩ : Pair α) := by
    constructor <;> simp [Attribute.isOutside, ExactScalar.ofInt_eq]
  have constraints : ConstraintsFit ([] : List (IntervalConstraint α)) :=
    ⟨by simp, by simp, .nil⟩
  cases tag with
  | layout =>
    refine boxDefaults_ranged.append ?_
    simp [Properties.All, Attribute.Ranged, Attribute.Admits, expand, constraints]
  | group => exact boxDefaults_ranged
  | circle => exact shapeDefaults_ranged
  | rect | polygon =>
    refine shapeDefaults_ranged.append ?_
    simp [Properties.All, Attribute.Ranged, Attribute.Admits]
  | text | path =>
    refine boxDefaults_ranged.append ?_
    simp [Properties.All, Attribute.Ranged, Attribute.Admits]
  | style | rule | use => simp [Properties.All, defaults]

end

/-! ### Rationals -/

namespace Scalar

@[simp] theorem zero_eq : (0.0 : Rat) = 0 := by
  norm_num

theorem sum_eq_sum (xs : List Rat) : sum xs = xs.sum := by
  rw [List.sum_eq_foldl]
  simp only [sum]
  norm_num

end Scalar

end GridDiagram
