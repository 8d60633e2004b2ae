import GridDiagram.Proofs.Layout.Positioned
import GridDiagram.Proofs.Number.Finite

/-!
Layouts in which every size of a font and every angle is finite: no operation on numbers fails.
-/

namespace GridDiagram

open Except

variable {α : Type}

/-- An operation on numbers had no result. -/
def LayoutError.IsNumber : LayoutError α → Prop
  | .number _ => True
  | _ => False

theorem GridError.on_not_isNumber (axis : Axis) (path : String) (e : GridError α) :
    ¬(e.on axis path).IsNumber := by
  cases e <;> exact not_false

variable [Scalar α]

/-- What is measured of an element is finite: the size of its font, where it has lines of text, and
its angle, where its content is turned. -/
structure Element.Measurable (t : Trigonometry α) (e : Element α) : Prop where
  fontSize : e.kind = .text → e.lines ≠ [] → Scalar.Finite e.effective.fontSize
  angle : e.kind ≠ .group → ¬(e.effective.rotation == 0.0) = true →
    Scalar.Finite (e.effective.rotation * (t.pi / 180.0))

/-- What settings bring along is defined for finite numbers. -/
structure LayoutSettings.Defined (settings : LayoutSettings α) : Prop where
  measurer : settings.measurer.Defined
  trigonometry : settings.trigonometry.Defined

theorem AxisMeasure.ofChildren_avoids_number (style : Properties α) (children : List (Measured α))
    (axis : Axis) : (ofChildren style children axis).Avoids LayoutError.IsNumber := by
  have hcell (grid : GridAxis α) (c : Measured α) :
      (addCell axis grid c).Avoids LayoutError.IsNumber := by
    simp only [addCell]
    split
    · exact avoids_mapError (GridError.on_not_isNumber axis _) _
    · exact avoids_ok grid
  have hspan (grid : GridAxis α) (c : Measured α) :
      (addSpan axis grid c).Avoids LayoutError.IsNumber :=
    avoids_mapError (GridError.on_not_isNumber axis _) _
  refine Avoids.bind ?_ fun _ _ => avoids_pure _
  refine (avoids_mapError (GridError.on_not_isNumber axis "") _).bind fun floored _ => ?_
  refine (Avoids.foldlM (fun c _ grid => hcell grid c) floored).bind fun celled _ => ?_
  exact (Avoids.foldlM (fun c _ grid => hspan grid c) celled).bind fun _ _ => avoids_pure _

namespace Measured

variable {settings : LayoutSettings α} {e : Element α}

theorem leafContent_avoids_number (hsettings : settings.Defined)
    (he : e.Measurable settings.trigonometry) (path : String) :
    (leafContent settings e path).Avoids LayoutError.IsNumber := by
  simp only [leafContent]
  split
  · exact avoids_pure _
  · rename_i htext
    exact (hsettings.measurer.textSize e.lines _ (he.fontSize htext)).mapError fun _ _ => trivial
  · split
    · exact avoids_error not_false
    · exact avoids_pure _
  · exact avoids_error not_false

theorem ofElement_avoids_number (hsettings : settings.Defined)
    (he : e.Measurable settings.trigonometry) (path : String) (children : List (Measured α)) :
    (ofElement settings e path children).Avoids LayoutError.IsNumber := by
  unfold ofElement
  split
  · exact (AxisMeasure.ofChildren_avoids_number _ _ _).bind fun _ _ =>
      (AxisMeasure.ofChildren_avoids_number _ _ _).bind fun _ _ => avoids_pure _
  · rename_i hleaf
    refine (leafContent_avoids_number hsettings he path).bind fun size _ => ?_
    have hdrawn := hsettings.trigonometry.drawnSize size e.effective.scaleFactor (he.angle hleaf)
    exact (hdrawn.mapError fun _ _ => trivial).bind fun _ _ => avoids_pure _

end Measured

variable {settings : LayoutSettings α}

theorem measureTree_avoids_number (hsettings : settings.Defined) {t : DiagramTree α}
    (ht : ∀ e ∈ t.preorder, e.Measurable settings.trigonometry) (path : String) :
    (measureTree settings path t).Avoids LayoutError.IsNumber := by
  induction t using Tree.induct generalizing path with
  | step e ts ih =>
    obtain ⟨he, hts⟩ := Tree.forall_preorder_node.mp ht
    rw [measureTree]
    refine (measureTrees_avoids (fun t ht => ih t ht (hts t ht)) path 1).bind fun ms _ => ?_
    refine (Measured.ofElement_avoids_number hsettings he path _).bind fun m _ => ?_
    refine Avoids.bind ?_ fun _ _ => avoids_pure _
    exact (avoids_mapError (fun _ => not_false) _).bind fun _ _ => avoids_pure _

theorem Positioned.cellFor_avoids_number (grid : GridPosition α) (c : Measured α) :
    (cellFor grid c).Avoids LayoutError.IsNumber := by
  have hline (axis : Axis) (lines : List α) (line : Int) :
      (lineAt axis lines line).Avoids LayoutError.IsNumber := by
    unfold lineAt
    split
    · exact avoids_ok _
    · exact avoids_error not_false
  unfold cellFor
  split
  · exact avoids_pure _
  · exact (hline _ _ _).bind fun _ _ => (hline _ _ _).bind fun _ _ => (hline _ _ _).bind fun _ _ =>
      (hline _ _ _).bind fun _ _ => avoids_pure _

omit [Scalar α] in
theorem Positioned.finish_avoids_number (p : Positioned α) (children : List Progress) :
    (p.finish children).Avoids LayoutError.IsNumber :=
  (avoids_mapError (fun _ => not_false) _).bind fun _ _ => avoids_pure _

theorem positionTree_avoids_number (parent : Option Progress) (cell : Box α)
    (m : Tree (Measured α)) :
    (positionTree settings parent cell m).Avoids LayoutError.IsNumber := by
  induction m using Tree.induct generalizing parent cell with
  | step m ms ih =>
    have hchildren (around : Progress) (grid : GridPosition α) :
        (positionTrees settings around grid ms).Avoids LayoutError.IsNumber := by
      induction ms with
      | nil =>
        rw [positionTrees]
        exact avoids_ok _
      | cons m ms ihs =>
        obtain ⟨hm, hms⟩ := List.forall_mem_cons.mp ih
        rw [positionTrees]
        exact (Positioned.cellFor_avoids_number grid _).bind fun _ _ => (hm _ _).bind fun _ _ =>
          (ihs hms).bind fun _ _ => avoids_pure _
    rw [positionTree]
    refine (avoids_mapError (fun _ => not_false) _).bind fun _ _ => ?_
    dsimp only
    split
    · exact (hchildren _ _).bind fun _ _ => (Positioned.finish_avoids_number _ _).bind fun _ _ =>
        avoids_pure _
    · exact (Positioned.finish_avoids_number _ _).bind fun _ _ => avoids_pure _

/-- A layout fails with numbers only if the size of a font or an angle is not finite. -/
theorem layout_avoids_number (hsettings : settings.Defined) {t : DiagramTree α}
    (ht : ∀ e ∈ t.preorder, e.Measurable settings.trigonometry) (size : Option (Pair α)) :
    (layout settings t size).Avoids LayoutError.IsNumber := by
  refine Avoids.bind ?_ fun p _ => Avoids.bind ?_ fun _ _ => avoids_pure _
  · refine (measureTree_avoids_number hsettings ht _).bind fun m _ => ?_
    exact positionTree_avoids_number none _ m
  · unfold checkFinished
    split
    · exact avoids_error not_false
    · exact avoids_ok ()

end GridDiagram
