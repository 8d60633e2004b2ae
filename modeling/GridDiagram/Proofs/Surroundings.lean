import GridDiagram.Font
import GridDiagram.Layout.Measure
import GridDiagram.Proofs.Outcome

/-!
Trigonometry and measures of text that divide by nothing that may be zero, as those in floating
point do.
-/

namespace GridDiagram

open Except

variable {α : Type}

/-- Measures of text divide by nothing that may be zero. -/
structure Measurer.Safe (m : Measurer α) : Prop where
  metrics : ∀ size family, (m.metrics size family).Avoids (· = .divisionByZero)
  width : ∀ line size family, (m.width line size family).Avoids (· = .divisionByZero)

/-- The points of the circle are found without a division by zero. -/
def Trigonometry.Safe (t : Trigonometry α) : Prop :=
  ∀ angle, (t.circle angle).Avoids (· = .divisionByZero)

/-- What settings bring along divides by nothing that may be zero. -/
structure LayoutSettings.Safe (settings : LayoutSettings α) : Prop where
  measurer : settings.measurer.Safe
  trigonometry : settings.trigonometry.Safe

section Scalar

variable [Scalar α]

theorem Scalar.round_avoids (x : α) : (Scalar.round x).Avoids (· = .divisionByZero) := by
  intro e h
  rw [Scalar.round, Exact.round.eq_def] at h
  split at h
  · obtain rfl := Except.error.inj h
    nofun
  · obtain rfl := Except.error.inj h
    nofun
  · simp at h

theorem Measurer.Safe.textSize {m : Measurer α} (hm : m.Safe) (lines : List String) (size : α)
    (family : Option String) : (m.textSize lines size family).Avoids (· = .divisionByZero) := by
  have widest (lines : List String) (w : α) :
      (m.widestOf size family w lines).Avoids (· = .divisionByZero) := by
    induction lines generalizing w with
    | nil => exact avoids_ok w
    | cons line lines ih => exact (hm.width line size family).bind fun _ _ => ih _
  cases lines with
  | nil => exact avoids_ok _
  | cons line lines =>
    exact (hm.metrics size family).bind fun _ _ => (hm.width line size family).bind fun _ _ =>
      (widest lines _).bind fun _ _ => avoids_pure _

theorem Trigonometry.Safe.drawnSize {t : Trigonometry α} (ht : t.Safe) (size : Pair α)
    (scale degrees : α) : (drawnSize t size scale degrees).Avoids (· = .divisionByZero) := by
  unfold GridDiagram.drawnSize rotatedSize
  split
  · exact avoids_pure _
  · exact (ht _).bind fun _ _ => avoids_pure _

end Scalar

/-! ### Floating point -/

theorem Trigonometry.float_safe : Trigonometry.float.Safe := by
  intro angle
  simp only [Trigonometry.float]
  split
  · intro e h
    obtain rfl := Except.error.inj h
    nofun
  · exact avoids_ok _

theorem FontSet.measurer_safe (fonts : FontSet) : fonts.measurer.Safe := by
  have font (size : Float) (family : Option String) :
      (fonts.font size family).Avoids (· = .divisionByZero) := by
    refine Avoids.bind ?_ fun _ _ => avoids_pure _
    exact (Scalar.round_avoids size).bind fun _ _ => avoids_pure _
  exact ⟨fun size family => (font size family).bind fun _ _ => avoids_pure _,
    fun _ size family => (font size family).bind fun _ _ => avoids_pure _⟩

end GridDiagram
