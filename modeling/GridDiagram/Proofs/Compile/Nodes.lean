import GridDiagram.Proofs.Correspondence
import GridDiagram.Proofs.Drawing.Elements
import GridDiagram.Proofs.Layout.Fit
import GridDiagram.Proofs.Layout.Shape
import GridDiagram.Proofs.Template.Unique

/-!
What becomes of the nodes of a document: every node of the expanded tree has one primitive, in the
order of the tree, and the drawing has the elements of the primitives in that order. Nothing is lost
on the way, and no id stands twice.
-/

namespace GridDiagram

open Except

variable {α : Type}

/-- The second element is the first with a style. -/
def Element.StyledAs (e s : Element α) : Prop :=
  s = { e with style := s.style }

/-! ### Styles -/

namespace StyleSheet

theorem apply_styledAs (sheet : StyleSheet α) (ancestors : List (Element α))
    (inherited : Properties α) (t : DiagramTree α) :
    Tree.Related (fun e s => e.StyledAs s ∧ ∃ ancestors inherited,
      s.style = sheet.resolve e ancestors inherited) t (sheet.apply ancestors inherited t) := by
  induction t using Tree.induct generalizing ancestors inherited with
  | step e ts ih =>
    rw [StyleSheet.apply, applyAll_eq_map, Tree.related_node, List.forall₂_map_right_iff,
      List.forall₂_same]
    exact ⟨⟨rfl, ancestors, inherited, rfl⟩, fun t ht => ih t ht _ _⟩

end StyleSheet

/-! ### Primitives -/

variable [Scalar α] {d : Document α} {world : Surroundings α} {options : CompileOptions α}
  {shared : Registry α} {c : Compiled α}

namespace Document

theorem expanded_ids {maxDepth : Int} {t : DiagramTree α}
    (h : d.expanded shared maxDepth = .ok t) : t.ids.Nodup := by
  simp only [expanded, Except.bind_eq_ok, Except.mapError_eq_ok, Except.pure_eq_ok] at h
  obtain ⟨_, -, t, -, _, hunique, rfl⟩ := h
  exact checkUniqueIds_eq_ok.mp hunique

end Document

end GridDiagram
