import GridDiagram.Number.Error
import GridDiagram.Proofs.Exact

/-!
Rounding to integers, in rationals: the integer that a number is rounded to is no further from it
than one half, from which it follows that rounding keeps integers and the order.
-/

namespace GridDiagram

/-! ### The nearest natural number -/

/-- What a quotient is rounded to is at most half a divisor away. -/
theorem roundQuotient_near (n : Nat) {d : Nat} (hd : 0 < d) :
    2 * (roundQuotient n d * d) ≤ 2 * n + d ∧ 2 * n ≤ 2 * (roundQuotient n d * d) + d := by
  have hdiv : n / d * d + n % d = n := Nat.div_add_mod' n d
  have hmod : n % d < d := Nat.mod_lt n hd
  have hnext : (n / d + 1) * d = n / d * d + d := Nat.succ_mul (n / d) d
  unfold roundQuotient
  dsimp only
  split_ifs with hup
  · omega
  · omega

theorem abs_roundMagnitude_sub_le {q : Rat} (hq : 0 ≤ q) :
    |(roundMagnitude q : Rat) - q| ≤ 1 / 2 := by
  have hden : (0 : Rat) < q.den := Nat.cast_pos.mpr q.den_pos
  have hnum : ((q.num.natAbs : Nat) : Rat) = q * q.den := by
    rw [Nat.cast_natAbs, abs_of_nonneg (Rat.num_nonneg.mpr hq), Rat.mul_den_eq_num]
  obtain ⟨hround, hround'⟩ := roundQuotient_near q.num.natAbs q.den_pos
  have hle : (2 : Rat) * (roundMagnitude q * q.den) ≤ 2 * (q * q.den) + q.den := by
    rw [← hnum]
    exact_mod_cast hround
  have hge : (2 : Rat) * (q * q.den) ≤ 2 * (roundMagnitude q * q.den) + q.den := by
    rw [← hnum]
    exact_mod_cast hround'
  rw [abs_le]
  constructor
  · refine le_of_mul_le_mul_right ?_ hden
    linarith
  · refine le_of_mul_le_mul_right ?_ hden
    linarith

/-! ### The nearest integer -/

/-- The integer that a rational is rounded to. -/
def nearest (x : Rat) : Int :=
  if x < 0 then -(roundMagnitude (-x) : Int) else roundMagnitude x

theorem round_eq_nearest (x : Rat) : Scalar.round x = .ok (nearest x) := by
  show (Exact.ofRat x).round = _
  unfold Exact.ofRat Exact.round nearest
  by_cases hx : x < 0 <;> simp [hx]

theorem abs_nearest_sub_le (x : Rat) : |(nearest x : Rat) - x| ≤ 1 / 2 := by
  unfold nearest
  split_ifs with hx
  · have hround := abs_roundMagnitude_sub_le (q := -x) (by linarith)
    rw [← abs_neg] at hround
    push_cast
    convert hround using 2
    ring
  · simpa using abs_roundMagnitude_sub_le (not_lt.mp hx)

/-- Integers near to two numbers stand in the order of these. -/
theorem le_of_near {x y : Rat} {m n : Int} (hm : |(m : Rat) - x| ≤ 1 / 2)
    (hn : |(n : Rat) - y| ≤ 1 / 2) (h : x < y) : m ≤ n := by
  have hmx := (abs_le.mp hm).2
  have hny := (abs_le.mp hn).1
  have hlt : (m : Rat) < n + 1 := by linarith
  exact Int.lt_add_one_iff.mp (by exact_mod_cast hlt)

theorem nearest_mono {x y : Rat} (h : x ≤ y) : nearest x ≤ nearest y := by
  rcases h.eq_or_lt with rfl | hlt
  · exact le_refl _
  · exact le_of_near (abs_nearest_sub_le x) (abs_nearest_sub_le y) hlt

/-- Rounding does not cross an integer. -/
theorem le_nearest_of_le {n : Int} {x : Rat} (h : (n : Rat) ≤ x) : n ≤ nearest x := by
  have hx := (abs_le.mp (abs_nearest_sub_le x)).1
  have hlt : (n : Rat) < nearest x + 1 := by linarith
  exact Int.lt_add_one_iff.mp (by exact_mod_cast hlt)

theorem nearest_le_of_le {n : Int} {x : Rat} (h : x ≤ n) : nearest x ≤ n := by
  have hx := (abs_le.mp (abs_nearest_sub_le x)).2
  have hlt : (nearest x : Rat) < n + 1 := by linarith
  exact Int.lt_add_one_iff.mp (by exact_mod_cast hlt)

end GridDiagram
