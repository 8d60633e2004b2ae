import GridDiagram.Drawing.Coordinate
import GridDiagram.Proofs.Number.Plain
import GridDiagram.Proofs.Number.Rounding

/-!
Coordinates as text, in rationals: every number is written as a plain numeral of a number close to
it. What is written for an integer that is close enough fits what is written elsewhere, so texts are
in the order of their numbers.
-/

namespace GridDiagram.Drawing

/-! ### The number that is written -/

/-- How far a number and the integer that is written for it may lie apart. -/
def tolerance (x : Rat) (n : Int) : Rat :=
  1e-9 * max 1 (max |x| |(n : Rat)|)

theorem isClose_iff {x : Rat} {n : Int} :
    isClose x (Scalar.ofInt n) = true ↔ |(n : Rat) - x| ≤ tolerance x n := by
  have hofInt : (Scalar.ofInt n : Rat) = n := rfl
  have hscale (a : Rat) : |1e-9 * a| = 1e-9 * |a| := by
    rw [abs_mul, abs_of_pos (by norm_num)]
  have hnonneg : (0 : Rat) ≤ 1e-9 := by norm_num
  simp only [isClose, hofInt, Scalar.magnitude_eq_abs, Bool.or_eq_true, decide_eq_true_eq,
    beq_iff_eq, tolerance, hscale, mul_max_of_nonneg _ _ hnonneg, le_max_iff, mul_one]
  constructor
  · rintro (((rfl | hn) | hx) | hone)
    · simp [hnonneg]
    · exact .inr (.inr hn)
    · exact .inr (.inl hx)
    · exact .inl hone
  · rintro (hone | hx | hn)
    · exact .inr hone
    · exact .inl (.inr hx)
    · exact .inl (.inl (.inr hn))

/-- The number that a coordinate is written as: the nearest integer if that is close enough, and
else the nearest thousandth. -/
def written (x : Rat) : Rat :=
  if |(nearest x : Rat) - x| ≤ tolerance x (nearest x) then nearest x
  else (nearest (x * 1000) : Rat) / 1000

theorem signed_natAbs (n : Int) : signed (n < 0) n.natAbs = n := by
  simp only [signed, decide_eq_true_eq, Nat.cast_natAbs]
  split_ifs with hn
  · rw [abs_of_neg hn]
    push_cast
    ring
  · rw [abs_of_nonneg (not_lt.mp hn)]

theorem signed_roundMagnitude (x : Rat) :
    signed (x < 0) ((roundMagnitude ((if x < 0 then -x else x) * 10 ^ 3) : Rat) / 10 ^ 3) =
      (nearest (x * 1000) : Rat) / 1000 := by
  have hthousand : (10 : Rat) ^ 3 = 1000 := by norm_num
  have hneg : x * 1000 < 0 ↔ x < 0 := by
    constructor <;> intro h <;> linarith
  simp only [signed, nearest, hneg, hthousand, decide_eq_true_eq]
  split_ifs with hx
  · rw [neg_mul]
    push_cast
    ring
  · rfl

/-- Every coordinate has a text, which is a plain numeral of the number that is written. -/
theorem coordinate_written (x : Rat) : ∃ cs, coordinate x = .ok (String.ofList cs) ∧
    PlainNumeral 3 cs ∧ (Scalar.parse? (String.ofList cs) : Option Rat) = some (written x) := by
  unfold written coordinate
  rw [round_eq_nearest]
  by_cases hclose : |(nearest x : Rat) - x| ≤ tolerance x (nearest x)
  · obtain ⟨hplain, hread⟩ := Decimal.parse?_digits (nearest x < 0) (nearest x).natAbs 3
    rw [signed_natAbs] at hread
    rw [if_pos hclose]
    refine ⟨_, ?_, hplain, hread⟩
    simp only [bind, Except.bind, isClose_iff, if_pos hclose]
    rfl
  · have hplaces : 0 < 3 := by decide
    obtain ⟨hplain, hread⟩ := Decimal.parse?_shorten_fixed hplaces (x < 0)
      (if x < 0 then -x else x)
    rw [signed_roundMagnitude] at hread
    rw [if_neg hclose]
    refine ⟨_, ?_, hplain, hread⟩
    simp only [bind, Except.bind, isClose_iff, if_neg hclose]
    rfl

/-! ### Accuracy -/

theorem abs_written_sub_le (x : Rat) :
    |written x - x| ≤ max 0.0005 (1e-9 * max |x| |(nearest x : Rat)|) := by
  unfold written
  split_ifs with hclose
  · refine hclose.trans ?_
    rw [tolerance, mul_max_of_nonneg _ _ (by norm_num)]
    exact max_le_max (by norm_num) (le_refl _)
  · refine le_max_of_le_left ?_
    have hnear := abs_le.mp (abs_nearest_sub_le (x * 1000))
    rw [abs_le]
    norm_num
    constructor <;> linarith

/-! ### Order -/

/-- A number between another one and an integer is as close to the integer as that one. -/
theorem le_tolerance_of_between {x y : Rat} {n : Int}
    (hbetween : |(n : Rat) - x| = |(n : Rat) - y| + |y - x|) (h : |(n : Rat) - x| ≤ tolerance x n) :
    |(n : Rat) - y| ≤ tolerance y n := by
  have hx : |x| ≤ |y| + |y - x| := by
    have habs := abs_sub_abs_le_abs_sub x y
    rw [abs_sub_comm x y] at habs
    linarith
  have hnonneg := abs_nonneg (y - x)
  have hmax : max 1 (max |x| |(n : Rat)|) ≤ max 1 (max |y| |(n : Rat)|) + |y - x| := by
    refine max_le ?_ (max_le ?_ ?_)
    · exact le_add_of_le_of_nonneg (le_max_left _ _) hnonneg
    · refine hx.trans (add_le_add_left ?_ _)
      exact (le_max_left _ _).trans (le_max_right _ _)
    · refine le_add_of_le_of_nonneg ?_ hnonneg
      exact (le_max_right _ _).trans (le_max_right _ _)
  unfold tolerance at h ⊢
  generalize max 1 (max |x| |(n : Rat)|) = scale at h hmax
  generalize max 1 (max |y| |(n : Rat)|) = scale' at hmax ⊢
  norm_num at h ⊢
  linarith

theorem le_thousandth {n : Int} {x : Rat} (h : (n : Rat) ≤ x) :
    (n : Rat) ≤ (nearest (x * 1000) : Rat) / 1000 := by
  have hgrid : ((n * 1000 : Int) : Rat) ≤ x * 1000 := by
    push_cast
    linarith
  have hround : ((n * 1000 : Int) : Rat) ≤ nearest (x * 1000) :=
    Int.cast_le.mpr (le_nearest_of_le hgrid)
  push_cast at hround
  linarith

theorem thousandth_le {n : Int} {x : Rat} (h : x ≤ n) :
    (nearest (x * 1000) : Rat) / 1000 ≤ n := by
  have hgrid : x * 1000 ≤ ((n * 1000 : Int) : Rat) := by
    push_cast
    linarith
  have hround : (nearest (x * 1000) : Rat) ≤ ((n * 1000 : Int) : Rat) :=
    Int.cast_le.mpr (nearest_le_of_le hgrid)
  push_cast at hround
  linarith

/-- What is written keeps the order. Where an integer is written for one of two numbers only, it
does not lie beyond the other one, which would then be as close to it. -/
theorem written_mono {x y : Rat} (h : x ≤ y) : written x ≤ written y := by
  have hround := nearest_mono h
  unfold written
  split_ifs with hx hy hy
  · exact Int.cast_le.mpr hround
  · rcases le_or_gt ((nearest x : Int) : Rat) y with hle | hlt
    · exact le_thousandth hle
    · have hsame : nearest y = nearest x := le_antisymm (nearest_le_of_le hlt.le) hround
      have hbetween : |(nearest x : Rat) - x| = |(nearest x : Rat) - y| + |y - x| := by
        rw [abs_of_nonneg (by linarith), abs_of_nonneg (by linarith), abs_of_nonneg (by linarith)]
        ring
      rw [hsame] at hy
      exact absurd (le_tolerance_of_between hbetween hx) hy
  · rcases le_or_gt x ((nearest y : Int) : Rat) with hle | hlt
    · exact thousandth_le hle
    · have hsame : nearest x = nearest y := le_antisymm hround (le_nearest_of_le hlt.le)
      have hbetween : |(nearest y : Rat) - y| = |(nearest y : Rat) - x| + |x - y| := by
        rw [abs_of_nonpos (by linarith), abs_of_nonpos (by linarith), abs_of_nonpos (by linarith)]
        ring
      rw [hsame] at hx
      exact absurd (le_tolerance_of_between hbetween hy) hx
  · have hgrid : nearest (x * 1000) ≤ nearest (y * 1000) := nearest_mono (by linarith)
    have hcast : (nearest (x * 1000) : Rat) ≤ nearest (y * 1000) := Int.cast_le.mpr hgrid
    linarith

/-- Every number has a text, which is a plain decimal numeral with at most three decimals. It is
read as a number that lies no further away than half a thousandth, or than a billionth of the number
or of the integer next to it; and the texts of two numbers are never read in the opposite order. -/
theorem coordinate_accurate (x : Rat) : ∃ n text value, Scalar.round x = .ok n ∧
    coordinate x = .ok text ∧ PlainNumeral 3 text.toList ∧ Scalar.parse? text = some value ∧
    |value - x| ≤ max 0.0005 (1e-9 * max |x| |(n : Rat)|) ∧
    ∀ y, x ≤ y → ∃ text' value', coordinate y = .ok text' ∧ Scalar.parse? text' = some value' ∧
      value ≤ value' := by
  obtain ⟨cs, htext, hplain, hread⟩ := coordinate_written x
  refine ⟨nearest x, String.ofList cs, written x, round_eq_nearest x, htext, ?_, hread,
    abs_written_sub_le x, fun y hy => ?_⟩
  · rwa [String.toList_ofList]
  · obtain ⟨cs', htext', -, hread'⟩ := coordinate_written y
    exact ⟨String.ofList cs', written y, htext', hread', written_mono hy⟩

-- The sign of a number stays where it is written as zero.
example : (coordinate (-0.0003 : Rat)).toOption = some "-0" := by decide +kernel

end GridDiagram.Drawing
