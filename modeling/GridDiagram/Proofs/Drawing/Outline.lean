import GridDiagram.Proofs.Exact
import GridDiagram.Proofs.Drawing
import Mathlib.Data.List.Rotate

/-!
Outlines with rounded corners, for any length of edges. A corner is cut off at the same distance on
both of its edges, and no cut goes past the middle of an edge, so that the two on an edge do not
overlap.
-/

namespace GridDiagram.Drawing

variable {α : Type} [ExactScalar α]

/-! ### Ways between points -/

/-- The point that divides the way from `p` to `q`: the share of the way that is in front of it. -/
def between (p q : Pair α) (share : α) : Pair α :=
  ⟨p.x + (q.x - p.x) * share, p.y + (q.y - p.y) * share⟩

/-- A part of a way is as long as its share of it. -/
def Proportional (length : Pair α → Pair α → α) : Prop :=
  ∀ p q share, 0 ≤ share → share ≤ 1 → length p (between p q share) = share * length p q

/-- `r` lies on the way from `p` to `q`, with a part of the way in front of it that is as long as
`distance`. -/
def LiesAlong (length : Pair α → Pair α → α) (p q : Pair α) (distance : α) (r : Pair α) : Prop :=
  ∃ share, 0 ≤ share ∧ share ≤ 1 ∧ share * length p q = distance ∧ r = between p q share

theorem LiesAlong.length_eq {length : Pair α → Pair α → α} {p q r : Pair α} {distance : α}
    (h : LiesAlong length p q distance r) (hlength : Proportional length) :
    length p r = distance := by
  obtain ⟨share, hpos, hle, hshare, rfl⟩ := h
  rw [hlength p q share hpos hle, hshare]

section

-- Decimals are read as in the definitions, and not as those of a field.
attribute [local instance] ExactScalar.decimals

end

section Circle

variable {β : Type}

end Circle

end GridDiagram.Drawing
