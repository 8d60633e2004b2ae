import Mathlib
import GridDiagram.Number.Error

/-!
The order of floating-point numbers, in which every two numbers compare unless one of them is no
number, the numerals that stand for no number, and the numbers that are not zero.
-/

namespace GridDiagram

open Float.Model UnpackedFloat

/-! ### Comparison -/

theorem compare_swap (a b : UnpackedFloat) : (a.compare b).map Ordering.swap = b.compare a := by
  have finite (m n : Nat) (d e : Int) :
      ((compare d e).then (compare m n)).swap = (compare e d).then (compare n m) := by
    rw [Ordering.swap_then, Int.compare_swap, Nat.compare_swap]
  have sign (s t : Sign) : (compare s t).swap = compare t s := by
    cases s <;> cases t <;> rfl
  cases a with
  | notANumber => cases b with
    | infinity s | zero s | finite s => cases s <;> rfl
    | notANumber => rfl
  | infinity s => cases b with
    | infinity t => exact congrArg some (sign s t)
    | notANumber => cases s <;> rfl
    | zero t | finite t => cases s <;> cases t <;> rfl
  | zero s => cases b with
    | notANumber => rfl
    | infinity t | zero t | finite t => cases s <;> cases t <;> rfl
  | finite s m d hm => cases b with
    | notANumber => cases s <;> rfl
    | infinity t | zero t => cases s <;> cases t <;> rfl
    | finite t n e hn =>
      cases s <;> cases t
      · exact congrArg some (congrArg Ordering.swap (finite m n d e))
      · rfl
      · rfl
      · exact congrArg some (finite m n d e)

theorem isSome_compare {a b : UnpackedFloat} (ha : a.isNaN = false) (hb : b.isNaN = false) :
    ∃ o, a.compare b = some o := by
  cases a with
  | notANumber => cases ha
  | infinity s => cases b with
    | notANumber => cases hb
    | infinity t | zero t | finite t => cases s <;> cases t <;> exact ⟨_, rfl⟩
  | zero s => cases b with
    | notANumber => cases hb
    | infinity t | zero t | finite t => cases s <;> cases t <;> exact ⟨_, rfl⟩
  | finite s => cases b with
    | notANumber => cases hb
    | infinity t | zero t | finite t => cases s <;> cases t <;> exact ⟨_, rfl⟩

theorem floatLT_iff {x y : Float} :
    x < y ↔ x.toModel.unpack.compare y.toModel.unpack = some .lt := by
  have hbeq : x < y ↔ (x.toModel.unpack.compare y.toModel.unpack == some .lt) = true :=
    decide_eq_true_iff
  rw [hbeq, beq_iff_eq]

theorem floatLE_iff {x y : Float} :
    x ≤ y ↔ (x.toModel.unpack.compare y.toModel.unpack).any Ordering.isLE = true :=
  decide_eq_true_iff

/-- A number that is not below another one is at least as large. -/
theorem floatLE_of_not_lt {x y : Float} (hx : x.isNaN = false) (hy : y.isNaN = false)
    (h : ¬x < y) : y ≤ x := by
  obtain ⟨o, ho⟩ := isSome_compare hx hy
  rw [floatLT_iff, ho] at h
  rw [floatLE_iff, ← compare_swap, ho]
  cases o with
  | lt => exact absurd rfl h
  | eq | gt => rfl

/-- A number that is not at most as large as another one is above it. -/
theorem floatLT_of_not_le {x y : Float} (hx : x.isNaN = false) (hy : y.isNaN = false)
    (h : ¬x ≤ y) : y < x := by
  obtain ⟨o, ho⟩ := isSome_compare hx hy
  rw [floatLE_iff, ho] at h
  rw [floatLT_iff, ← compare_swap, ho]
  cases o with
  | gt => rfl
  | lt | eq => exact absurd rfl h

/-! ### No number -/

theorem isNaN_unpack_iff {bits : BitVec Format.binary64.numBits} :
    (UnpackedFloat.unpack .binary64 bits).isNaN = true ↔
      unpackExponent bits = -1#11 ∧ unpackMantissa bits ≠ 0#52 := by
  delta UnpackedFloat.unpack
  dsimp only
  split
  · rename_i hexponent
    split
    · rename_i hmantissa
      simp [UnpackedFloat.isNaN, hmantissa]
    · rename_i hmantissa
      simp [UnpackedFloat.isNaN, hexponent, hmantissa]
  · rename_i hexponent
    have hnot : ¬(unpackExponent bits = -1#11 ∧ unpackMantissa bits ≠ 0#52) :=
      fun h => hexponent h.1
    rw [iff_false_right hnot]
    split
    · split <;> exact Bool.false_ne_true
    · exact Bool.false_ne_true

theorem exponentField_ne_ones {n : Nat} (h : n + 1 < 2048) : BitVec.ofNat 11 n ≠ -1#11 := by
  intro heq
  have hnat := congrArg BitVec.toNat heq
  have hones : (-1#11).toNat = 2047 := rfl
  rw [BitVec.toNat_ofNat, Nat.mod_eq_of_lt (by omega)] at hnat
  omega

theorem isNaN_pack (f : UnpackedFloat) : (Float.ofModel (.pack f)).isNaN = f.isNaN := by
  have hpack : (Float.ofModel (.pack f)).isNaN =
      (UnpackedFloat.unpack .binary64 (UnpackedFloat.pack .binary64 f)).isNaN := rfl
  rw [hpack, Bool.eq_iff_iff, isNaN_unpack_iff]
  fun_cases UnpackedFloat.pack with
  | case1 => simp [packedNaN, UnpackedFloat.isNaN]
  | case2 s => simp [packedInfinity, UnpackedFloat.isNaN]
  | case3 s => simp [packedZero, UnpackedFloat.isNaN]
  | case4 s m e hm biasedExponent h => simp [packedInfinity, UnpackedFloat.isNaN]
  | case5 s m e hm bits biasedExponent h₁ h₂ =>
    have hfield := exponentField_ne_ones (Nat.lt_of_not_le h₁)
    rw [unpackExponent_packComponents]
    exact iff_of_false (fun h => hfield h.1) Bool.false_ne_true
  | case6 s m e hm bits biasedExponent h₁ h₂ => simp [UnpackedFloat.isNaN]

theorem isNaN_neg (x : Float) : (-x).isNaN = x.isNaN := by
  have hneg : (-x).isNaN = (Float.ofModel (.pack x.toModel.unpack.neg)).isNaN := rfl
  rw [hneg, isNaN_pack]
  show x.toModel.unpack.neg.isNaN = x.toModel.unpack.isNaN
  cases x.toModel.unpack <;> rfl

theorem toNat_bits {n : Nat} (h : n ≤ infinityBits) : (UInt64.ofNat n).toBitVec.toNat = n :=
  Nat.mod_eq_of_lt (Nat.lt_of_le_of_lt h (by decide))

theorem toNat_exponentField {n : Nat} (h : n ≤ infinityBits) :
    (@unpackExponent .binary64 (UInt64.ofNat n).toBitVec).toNat = n / 2 ^ 52 % 2 ^ 11 := by
  rw [unpackExponent, BitVec.toNat_cast, BitVec.extractLsb_toNat, toNat_bits h,
    Nat.shiftRight_eq_div_pow]
  rfl

/-- The bits up to those of infinity are those of numbers. -/
theorem isNaN_ofBits {n : Nat} (h : n ≤ infinityBits) :
    (Float.ofBits (UInt64.ofNat n)).isNaN = false := by
  have hbits : (Float.ofBits (UInt64.ofNat n)).isNaN =
      (Float.ofModel (.pack (UnpackedFloat.unpack .binary64 (UInt64.ofNat n).toBitVec))).isNaN :=
    rfl
  rw [hbits, isNaN_pack, Bool.eq_false_iff, ne_eq, isNaN_unpack_iff]
  rintro ⟨hexponent, hmantissa⟩
  have hones : (-1#11).toNat = 2047 := rfl
  have hfield := toNat_exponentField h
  rw [hexponent, hones] at hfield
  refine hmantissa (BitVec.eq_of_toNat_eq ?_)
  rw [unpackMantissa, BitVec.toNat_cast, BitVec.extractLsb_toNat, toNat_bits h,
    Nat.shiftRight_eq_div_pow]
  simp only [infinityBits, BitVec.toNat_ofNat] at h hfield ⊢
  omega

theorem isNaN_floatOfQuotient (n d : Nat) : (floatOfQuotient n d).isNaN = false := by
  unfold floatOfQuotient
  split
  · rfl
  · exact isNaN_ofBits (Nat.min_le_right ..)

theorem isNaN_floatOfDecimal (negative : Bool) (digits : Nat) (exponent : Int) :
    (floatOfDecimal negative digits exponent).isNaN = false := by
  have hmagnitude : ∀ x : Float, x.isNaN = false → (if negative then -x else x).isNaN = false := by
    intro x hx
    split
    · rwa [isNaN_neg]
    · exact hx
  refine hmagnitude _ ?_
  split
  · rfl
  · split
    · rfl
    · exact isNaN_floatOfQuotient ..

/-- Only the word for it stands for no number. -/
theorem isNaN_floatOfNumeral {n : Numeral} (h : (floatOfNumeral n).isNaN = true) : n = .nan := by
  cases n with
  | finite negative digits exponent =>
    have hnumber : (floatOfDecimal negative digits exponent).isNaN = true := h
    rw [isNaN_floatOfDecimal] at hnumber
    cases hnumber
  | infinite negative => cases negative <;> cases h
  | nan => rfl

/-! ### Zero -/

theorem floatBEq_iff {x y : Float} :
    (x == y) = true ↔ x.toModel.unpack.compare y.toModel.unpack = some .eq := by
  have hbeq : (x == y) = (x.toModel.unpack.compare y.toModel.unpack == some .eq) := rfl
  rw [hbeq, beq_iff_eq]

theorem floatBEq_zero_of_pos {x : Float} (h : 0.0 < x) : (x == 0.0) = false := by
  rw [Bool.eq_false_iff, ne_eq, floatBEq_iff, ← compare_swap, floatLT_iff.mp h]
  nofun

/-- Nothing but zero is as large as zero. -/
theorem eq_zero_of_compare {f : UnpackedFloat} (h : f.compare (.zero .positive) = some .eq) :
    ∃ s, f = .zero s := by
  cases f with
  | zero s => exact ⟨s, rfl⟩
  | notANumber => cases h
  | infinity s | finite s => cases s <;> cases h

theorem unpackExponent_of_unpack_zero {bits : BitVec Format.binary64.numBits} {s : Sign}
    (h : UnpackedFloat.unpack .binary64 bits = .zero s) : unpackExponent bits = 0#11 := by
  delta UnpackedFloat.unpack at h
  dsimp only at h
  by_contra hexponent
  rw [if_neg hexponent] at h
  split at h
  · split at h <;> cases h
  · cases h

/-- The mantissa of a number with an exponent has a leading bit. -/
theorem log2_append_one (mantissa : BitVec 52) : (1#1 ++ mantissa).toNat.log2 = 52 := by
  have hmantissa : mantissa.toNat < 2 ^ 52 := mantissa.isLt
  have hvalue : (1#1 ++ mantissa).toNat = 2 ^ 52 + mantissa.toNat := by
    rw [BitVec.toNat_append, ← Nat.shiftLeft_add_eq_or_of_lt hmantissa]
    rfl
  rw [hvalue, Nat.log2_eq_iff (by omega)]
  omega

/-- Bits with an exponent keep it when they are read as a number. -/
theorem unpackExponent_pack_unpack {bits : BitVec Format.binary64.numBits}
    (h : unpackExponent bits ≠ 0#11) :
    unpackExponent (UnpackedFloat.pack .binary64 (UnpackedFloat.unpack .binary64 bits)) =
      unpackExponent bits := by
  delta UnpackedFloat.unpack
  dsimp only
  rw [if_neg h]
  split
  · rename_i hones
    rw [hones]
    split <;> exact unpackExponent_packComponents
  · rename_i hones
    have hfield : (unpackExponent bits).toNat < 2048 := (unpackExponent bits).isLt
    have hbelow : (unpackExponent bits).toNat ≠ 2047 := fun heq => hones (BitVec.eq_of_toNat_eq heq)
    have hbiased : ((unpackExponent bits).toNat - ((Format.binary64.exponentBias : Int) +
        Format.binary64.mantissaBitsWithoutImplicit) + Format.binary64.exponentBias +
        Format.binary64.mantissaBitsWithoutImplicit : Int).toNat = (unpackExponent bits).toNat := by
      omega
    have hsmall : ¬2 ^ Format.binary64.exponentBits ≤ (unpackExponent bits).toNat + 1 := by
      show ¬2 ^ 11 ≤ _
      omega
    have hlead : (1#1 ++ unpackMantissa bits).toNat.log2 + 1 = Format.binary64.mantissaBits :=
      congrArg (· + 1) (log2_append_one (unpackMantissa bits))
    delta UnpackedFloat.pack
    dsimp only
    rw [hbiased, if_neg hsmall, if_pos hlead, unpackExponent_packComponents]
    exact BitVec.eq_of_toNat_eq (Nat.mod_eq_of_lt hfield)

theorem floatOfBits_ne_zero {n : Nat} (hlow : 2 ^ 52 ≤ n) (hhigh : n ≤ infinityBits) :
    (Float.ofBits (UInt64.ofNat n) == 0.0) = false := by
  rw [Bool.eq_false_iff, ne_eq, floatBEq_iff]
  intro h
  obtain ⟨s, hs⟩ := eq_zero_of_compare h
  have hexponent : @unpackExponent .binary64 (UInt64.ofNat n).toBitVec ≠ 0#11 := by
    intro hzero
    have hfield := toNat_exponentField hhigh
    rw [hzero] at hfield
    simp only [infinityBits, BitVec.toNat_ofNat] at hhigh hfield
    omega
  exact hexponent (unpackExponent_pack_unpack hexponent ▸ unpackExponent_of_unpack_zero hs)

theorem floatOfQuotient_one_ne_zero {n : Nat} (hn : n ≠ 0) :
    (floatOfQuotient n 1 == 0.0) = false := by
  have hone : Nat.log2 1 = 0 := by decide
  have hunit : -53 ≤ lastBit n 1 := by
    simp only [lastBit, hone]
    split_ifs <;> omega
  have hinfinity : 2 ^ 52 ≤ infinityBits := by decide
  unfold floatOfQuotient
  rw [if_neg hn]
  exact floatOfBits_ne_zero (Nat.le_min.mpr ⟨by omega, hinfinity⟩) (Nat.min_le_right ..)

theorem floatOfNat_ne_zero {n : Nat} (hn : n ≠ 0) :
    ((Scalar.ofInt (n : Int) : Float) == 0.0) = false := by
  have hvalue : (Scalar.ofInt (n : Int) : Float) =
      if 310 < (digitCount n : Int) then 1.0 / 0.0 else floatOfQuotient n 1 := by
    have horder : ¬(digitCount n : Int) < -330 := by omega
    show floatOfDecimal (decide ((n : Int) < 0)) (n : Int).natAbs 0 = _
    simp [floatOfDecimal, hn, horder]
  rw [hvalue]
  split
  · rfl
  · exact floatOfQuotient_one_ne_zero hn

instance : Scalar.ApartFromZero Float where
  of_pos := floatBEq_zero_of_pos
  of_count := floatOfNat_ne_zero

end GridDiagram
