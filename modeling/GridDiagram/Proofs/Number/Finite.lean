import GridDiagram.Proofs.Surroundings

/-!
Finite numbers: those that have a nearest integer. A font and a point of the circle are found for
every one of them, in floating point too.
-/

namespace GridDiagram

open Except

/-- A number that is neither infinite nor no number at all. -/
def Scalar.Finite {α : Type} [Scalar α] (x : α) : Prop :=
  ∃ negative magnitude, Scalar.exact x = .finite negative magnitude

section Scalar

variable {α : Type} [Scalar α]

theorem Scalar.Finite.round {x : α} (h : Finite x) : (Scalar.round x).Avoids fun _ => True := by
  obtain ⟨negative, magnitude, hx⟩ := h
  unfold Scalar.round
  rw [hx]
  exact avoids_ok _

/-- Trigonometry knows the point of the circle at every finite angle. -/
def Trigonometry.Defined (t : Trigonometry α) : Prop :=
  ∀ angle, Scalar.Finite angle → (t.circle angle).Avoids fun _ => True

/-- Text has measures in every finite size. -/
structure Measurer.Defined (m : Measurer α) : Prop where
  metrics : ∀ size family, Scalar.Finite size → (m.metrics size family).Avoids fun _ => True
  width : ∀ line size family, Scalar.Finite size →
    (m.width line size family).Avoids fun _ => True

theorem Measurer.Defined.textSize {m : Measurer α} (hm : m.Defined) (lines : List String)
    {size : α} (family : Option String) (h : lines ≠ [] → Scalar.Finite size) :
    (m.textSize lines size family).Avoids fun _ => True := by
  cases lines with
  | nil => exact avoids_ok _
  | cons line lines =>
    have hsize := h (List.cons_ne_nil _ _)
    have widest (lines : List String) (w : α) :
        (m.widestOf size family w lines).Avoids fun _ => True := by
      induction lines generalizing w with
      | nil => exact avoids_ok w
      | cons line lines ih => exact (hm.width line size family hsize).bind fun _ _ => ih _
    exact (hm.metrics size family hsize).bind fun _ _ =>
      (hm.width line size family hsize).bind fun _ _ => (widest lines _).bind fun _ _ =>
        avoids_pure _

theorem Trigonometry.Defined.drawnSize {t : Trigonometry α} (ht : t.Defined) (size : Pair α)
    (scale : α) {degrees : α}
    (h : ¬(degrees == 0.0) = true → Scalar.Finite (degrees * (t.pi / 180.0))) :
    (drawnSize t size scale degrees).Avoids fun _ => True := by
  unfold GridDiagram.drawnSize rotatedSize
  split
  · exact avoids_pure _
  · rename_i hturned
    exact (ht _ (h hturned)).bind fun _ _ => avoids_pure _

end Scalar

/-! ### Floating point -/

open Float.Model UnpackedFloat

theorem exponent_of_unpack_infinity {bits : BitVec Format.binary64.numBits} {s : Sign}
    (h : UnpackedFloat.unpack .binary64 bits = .infinity s) :
    (unpackExponent bits).toNat = 0x7ff := by
  by_contra hexponent
  have hfield : ¬unpackExponent bits = -BitVec.ofNat _ 1 :=
    fun hfield => hexponent (by rw [hfield]; rfl)
  delta UnpackedFloat.unpack at h
  dsimp only at h
  rw [if_neg hfield] at h
  by_cases hzero : unpackExponent bits = BitVec.ofNat _ 0
  · rw [if_pos hzero] at h
    by_cases hmantissa : unpackMantissa bits = BitVec.ofNat _ 0
    · rw [dif_pos hmantissa] at h
      cases h
    · rw [dif_neg hmantissa] at h
      cases h
  · rw [if_neg hzero] at h
    cases h

/-- A number that is equal to an infinity is one. -/
theorem unpack_of_beq_infinity {x y : Float} {s : Sign} (hy : y.toModel.unpack = .infinity s)
    (h : (x == y) = true) : ∃ s', x.toModel.unpack = .infinity s' := by
  have hcompare : (x.toModel.unpack.compare y.toModel.unpack == some .eq) = true := h
  rw [hy] at hcompare
  cases hx : x.toModel.unpack with
  | infinity s' => exact ⟨s', rfl⟩
  | _ =>
    rw [hx] at hcompare
    cases s <;> exact absurd (show false = true from hcompare) Bool.false_ne_true

theorem Binary.ofFloat?_of_unpack_infinity {x : Float} {s : Sign}
    (h : x.toModel.unpack = .infinity s) : Binary.ofFloat? x = none := by
  have hexponent := exponent_of_unpack_infinity h
  have hfield : x.toBits.toNat / 0x10000000000000 % 0x800 = 0x7ff := by
    rw [unpackExponent, BitVec.toNat_cast, BitVec.extractLsb_toNat] at hexponent
    rw [← hexponent, Nat.shiftRight_eq_div_pow]
    rfl
  unfold Binary.ofFloat?
  rw [if_pos hfield]

theorem not_finite_of_beq_infinity {x y : Float} {s : Sign}
    (hy : y.toModel.unpack = .infinity s) (h : (x == y) = true) : ¬Scalar.Finite x := by
  obtain ⟨s', hx⟩ := unpack_of_beq_infinity hy h
  rintro ⟨negative, magnitude, hfinite⟩
  have hnone := Binary.ofFloat?_of_unpack_infinity hx
  have hexact : Exact.ofFloat x = .finite negative magnitude := hfinite
  rw [Exact.ofFloat, hnone] at hexact
  dsimp only at hexact
  split at hexact <;> contradiction

theorem Trigonometry.float_defined : Trigonometry.float.Defined := by
  intro angle hangle
  have hinfinite : ¬(angle == 1.0 / 0.0 || angle == -(1.0 / 0.0)) = true := by
    rw [Bool.or_eq_true]
    rintro (h | h)
    · exact not_finite_of_beq_infinity (s := .positive) rfl h hangle
    · exact not_finite_of_beq_infinity (s := .negative) rfl h hangle
  simp only [Trigonometry.float, if_neg hinfinite]
  exact avoids_ok _

theorem FontSet.measurer_defined (fonts : FontSet) : fonts.measurer.Defined := by
  have font (size : Float) (family : Option String) (h : Scalar.Finite size) :
      (fonts.font size family).Avoids fun _ => True := by
    refine Avoids.bind ?_ fun _ _ => avoids_pure _
    exact h.round.bind fun _ _ => avoids_pure _
  exact ⟨fun size family h => (font size family h).bind fun _ _ => avoids_pure _,
    fun _ size family h => (font size family h).bind fun _ _ => avoids_pure _⟩

end GridDiagram
