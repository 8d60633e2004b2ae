import GridDiagram.Layout
import GridDiagram.Proofs.Correspondence

/-!
Two layouts side by side. Where measuring a node, giving it its boxes and giving cells to its
children keep up with each other one node at a time, both passes do so on whole trees, and the
layouts succeed together.
-/

namespace GridDiagram

open Except

variable {α : Type} [Scalar α]

/-! ### Intervals -/

/-- Two sizings keep up with each other if they start alike and do so at every child, where either
has as many spans to make room for, of the same lengths. -/
theorem AxisMeasure.sizeGrid_related {E : LayoutError α → LayoutError α → Prop}
    {R : GridAxis α → GridAxis α → Prop} {S : Measured α → Measured α → Prop} {axis axis' : Axis}
    {constraints constraints' : List (IntervalConstraint α)} {cs cs' : List (Measured α)}
    (h : List.Forall₂ S cs cs')
    (hlength : ∀ {c c'}, S c c' →
      (c.element.placement.on axis).length = (c'.element.placement.on axis').length)
    (hfloored : Related E R
      (((GridAxis.ofLineCount (lineCount axis constraints cs)).applyConstraints
        constraints).mapError (GridError.on axis ""))
      (((GridAxis.ofLineCount (lineCount axis' constraints' cs')).applyConstraints
        constraints').mapError (GridError.on axis' "")))
    (hcell : ∀ {g g' c c'}, R g g' → S c c' → Related E R (addCell axis g c) (addCell axis' g' c'))
    (hspan : ∀ {g g' c c'}, R g g' → S c c' → Related E R (addSpan axis g c) (addSpan axis' g' c'))
    (hfreeze : ∀ {g g'}, R g g' → R g.freezeMinimums g'.freezeMinimums) :
    Related E R (sizeGrid axis constraints cs) (sizeGrid axis' constraints' cs') := by
  have hspanning : List.Forall₂ S (spanning axis cs) (spanning axis' cs') := by
    refine (h.filter fun hc => ?_).mergeSort fun hc hd => ?_
    · rw [hlength hc]
    · rw [hlength hc, hlength hd]
  refine hfloored.bind fun g g' hg => ?_
  refine (Related.foldlM h (fun _ _ _ _ => hcell) hg).bind fun g g' hg => ?_
  refine (Related.foldlM hspanning (fun _ _ _ _ => hspan) hg).bind fun g g' hg => ?_
  exact related_pure (hfreeze hg)

/-- What the intervals of two axes take from a child of either is the same. -/
structure Measured.Alike (axis axis' : Axis) (c c' : Measured α) : Prop where
  place : c.place?.map (·.on axis) = c'.place?.map (·.on axis')
  placement : c.element.placement.on axis = c'.element.placement.on axis'
  natural : c.natural.on axis = c'.natural.on axis'
  path : c.path = c'.path

omit [Scalar α] in
theorem Measured.Alike.isNone_place {axis axis' : Axis} {c c' : Measured α}
    (h : c.Alike axis axis' c') : c.place?.isNone = c'.place?.isNone := by
  have hplace := congrArg Option.isNone h.place
  rwa [Option.isNone_map, Option.isNone_map] at hplace

namespace AxisMeasure

variable {E : LayoutError α → LayoutError α → Prop} {axis axis' : Axis} {cs cs' : List (Measured α)}

theorem addCell_alike (hE : ∀ e path, E (GridError.on axis path e) (GridError.on axis' path e))
    (grid : GridAxis α) {c c' : Measured α} (h : c.Alike axis axis' c') :
    Related E Eq (addCell axis grid c) (addCell axis' grid c') := by
  simp only [addCell, h.placement, h.natural, h.path]
  split
  · exact (related_eq_self _).mapError fun e e' he => he ▸ hE e _
  · exact related_ok.mpr rfl

theorem addSpan_alike (hE : ∀ e path, E (GridError.on axis path e) (GridError.on axis' path e))
    (grid : GridAxis α) {c c' : Measured α} (h : c.Alike axis axis' c') :
    Related E Eq (addSpan axis grid c) (addSpan axis' grid c') := by
  unfold addSpan
  rw [h.placement, h.natural, h.path]
  exact (related_eq_self _).mapError fun e e' he => he ▸ hE e _

omit [Scalar α] in
theorem lineCount_alike (constraints : List (IntervalConstraint α))
    (h : List.Forall₂ (Measured.Alike axis axis') cs cs') :
    lineCount axis constraints cs = lineCount axis' constraints cs' := by
  unfold lineCount
  have hstop (n : Int) (c c' : Measured α) (hc : c.Alike axis axis' c') :
      max n (c.element.placement.on axis).stop = max n (c'.element.placement.on axis').stop := by
    rw [hc.placement]
  exact congrArg (constraints.foldl fun n c => max n (c.line + 1)) (h.foldl_eq hstop 1)

theorem sizeGrid_alike (hE : ∀ e path, E (GridError.on axis path e) (GridError.on axis' path e))
    (constraints : List (IntervalConstraint α))
    (h : List.Forall₂ (Measured.Alike axis axis') cs cs') :
    Related E Eq (sizeGrid axis constraints cs) (sizeGrid axis' constraints cs') := by
  refine sizeGrid_related h (fun hc => by rw [hc.placement]) ?_ (fun hg hc => ?_)
    (fun hg hc => ?_) fun hg => congrArg GridAxis.freezeMinimums hg
  · rw [lineCount_alike constraints h]
    exact (related_eq_self _).mapError fun e e' he => he ▸ hE e _
  · exact hg ▸ addCell_alike hE _ hc
  · exact hg ▸ addSpan_alike hE _ hc

theorem lowOf_alike (low : α) {c c' : Measured α} (h : c.Alike axis axis' c') :
    lowOf axis low c = lowOf axis' low c' := by
  have hplace := h.place
  unfold lowOf
  rw [h.natural]
  cases hp : c.place? <;> cases hp' : c'.place? <;> simp_all

theorem highOf_alike (high : α) {c c' : Measured α} (h : c.Alike axis axis' c') :
    highOf axis high c = highOf axis' high c' := by
  have hplace := h.place
  unfold highOf
  rw [h.natural]
  cases hp : c.place? <;> cases hp' : c'.place? <;> simp_all

/-- Two axes that take the same from their constraints and children have the same measure. -/
theorem ofChildren_alike (hE : ∀ e path, E (GridError.on axis path e) (GridError.on axis' path e))
    {style style' : Properties α} (hstyle : style.constraints axis = style'.constraints axis')
    (h : List.Forall₂ (Measured.Alike axis axis') cs cs') :
    Related E Eq (ofChildren style cs axis) (ofChildren style' cs' axis') := by
  have hgridded : List.Forall₂ (Measured.Alike axis axis') (cs.filter (·.place?.isNone))
      (cs'.filter (·.place?.isNone)) := h.filter fun hc => hc.isNone_place
  have hlow := h.foldl_eq (fun low _ _ hc => lowOf_alike low hc) 0.0
  have hhigh := h.foldl_eq (fun high _ _ hc => highOf_alike high hc) 0.0
  unfold ofChildren
  rw [hstyle]
  refine (sizeGrid_alike hE _ hgridded).bind fun g g' hg => ?_
  rw [hg, hlow, hhigh]
  exact related_pure rfl

end AxisMeasure

/-! ### Trees -/

omit [Scalar α] in
/-- The check at the end of a layout looks at nothing but how far the nodes have come. -/
theorem checkFinished_congr {ps ps' : List (Positioned α)}
    (h : ps.map Positioned.progress = ps'.map Positioned.progress) :
    checkFinished ps = checkFinished ps' := by
  have hstages : (fun p : Progress => decide (p.stage ≠ .positioned)) ∘ Positioned.progress =
      fun p : Positioned α => decide (p.stage ≠ .positioned) := rfl
  have hsearch (ps : List (Positioned α)) :
      checkFinished ps = match (ps.map Positioned.progress).find? (·.stage ≠ .positioned) with
        | some p => .error (.stage (.unfinished p.path))
        | none => .ok () := by
    rw [checkFinished, List.find?_map, hstages]
    cases ps.find? fun p => decide (p.stage ≠ .positioned) <;> rfl
  rw [hsearch, hsearch, h]

/-- The layouts of two trees keep up with each other at every node. `A` relates the elements, `M`
the nodes that are measured, `C` the cells that they get and `P` the nodes that are positioned in
them, and `E` relates the errors. -/
structure LayoutSimulation (settings settings' : LayoutSettings α)
    (E : LayoutError α → LayoutError α → Prop) (A : Element α → Element α → Prop)
    (M : Measured α → Measured α → Prop) (C : Box α → Box α → Prop)
    (P : Positioned α → Positioned α → Prop) : Prop where
  error : ∀ e, E e e
  named : ∀ {e e'}, A e e' → e.id = e'.id ∧ e.label = e'.label
  measured : ∀ {e e' path cs cs'}, A e e' → List.Forall₂ M cs cs' →
    Related E M (Measured.ofElement settings e path cs) (Measured.ofElement settings' e' path cs')
  progress : ∀ {m m'}, M m m' → m.progress = m'.progress
  staged : ∀ {m m'}, M m m' → ∀ stage, M { m with stage } { m' with stage }
  positioned : ∀ {m m' cell cell'}, M m m' → C cell cell' →
    P (Positioned.ofMeasured settings m cell) (Positioned.ofMeasured settings' m' cell')
  positionedProgress : ∀ {p p'}, P p p' → p.progress = p'.progress
  positionedStaged : ∀ {p p'}, P p p' → ∀ stage, P { p with stage } { p' with stage }
  cells : ∀ {p p'}, P p p' → Option.Rel (fun grid grid' => ∀ m m', M m m' →
    Related E C (Positioned.cellFor grid m) (Positioned.cellFor grid' m')) p.grid p'.grid

namespace LayoutSimulation

variable {settings settings' : LayoutSettings α} {E : LayoutError α → LayoutError α → Prop}
  {A : Element α → Element α → Prop} {M : Measured α → Measured α → Prop}
  {C : Box α → Box α → Prop} {P : Positioned α → Positioned α → Prop}

omit [Scalar α] in
theorem childPath_eq {e e' : Element α} (hid : e.id = e'.id) (hlabel : e.label = e'.label)
    (path : String) (number : Nat) : childPath path number e = childPath path number e' := by
  unfold childPath
  rw [hid, hlabel]

omit [Scalar α] in
theorem values {β γ : Type} {R : β → γ → Prop} {ts : List (Tree β)} {us : List (Tree γ)}
    (h : List.Forall₂ (Tree.Related R) ts us) :
    List.Forall₂ R (ts.map Tree.value) (us.map Tree.value) := by
  rw [List.forall₂_map_left_iff, List.forall₂_map_right_iff]
  exact h.imp fun _ _ h => h.value

variable (h : LayoutSimulation settings settings' E A M C P)

include h

theorem map_progress {cs cs' : List (Measured α)} (hcs : List.Forall₂ M cs cs') :
    cs.map Measured.progress = cs'.map Measured.progress :=
  hcs.map_eq fun _ _ hm => h.progress hm

/-- A stage that one node reaches is reached by the other, for the same reasons. -/
theorem advance {p p' : Progress} (hp : p = p') (parent : Option Progress)
    {cs cs' : List Progress} (hcs : cs = cs') (target : Stage) :
    Related E Eq ((p.advance parent cs target).mapError LayoutError.stage)
      ((p'.advance parent cs' target).mapError LayoutError.stage) := by
  rw [hp, hcs]
  exact related_self h.error (fun _ => rfl) _

theorem finishMeasured {m m' : Measured α} (hm : M m m') {cs cs' : List (Measured α)}
    (hcs : List.Forall₂ M cs cs') : Related E M (m.finish cs) (m'.finish cs') := by
  refine (h.advance (h.progress hm) none (h.map_progress hcs) .measured).bind ?_
  rintro p _ rfl
  exact related_pure (h.staged hm p.stage)

/-! ### The first pass -/

theorem measureTrees {ts ts' : List (DiagramTree α)}
    (hts : List.Forall₂ (fun t t' => A t.value t'.value ∧ ∀ path,
      Related E (Tree.Related M) (measureTree settings path t) (measureTree settings' path t'))
      ts ts') (path : String) (number : Nat) :
    Related E (List.Forall₂ (Tree.Related M)) (GridDiagram.measureTrees settings path number ts)
      (GridDiagram.measureTrees settings' path number ts') := by
  induction hts generalizing number with
  | nil =>
    rw [measureTrees.eq_1, measureTrees.eq_1]
    exact .nil
  | cons ht _ ih =>
    obtain ⟨hname, ht⟩ := ht
    obtain ⟨hid, hlabel⟩ := h.named hname
    rw [measureTrees.eq_2, measureTrees.eq_2, childPath_eq hid hlabel]
    refine (ht _).bind fun m m' hm => (ih (number + 1)).bind fun ms ms' hms => ?_
    exact related_pure (.cons hm hms)

/-- The first passes over two trees keep up with each other. -/
theorem measureTree {t t' : DiagramTree α} (ht : Tree.Related A t t') (path : String) :
    Related E (Tree.Related M) (GridDiagram.measureTree settings path t)
      (GridDiagram.measureTree settings' path t') := by
  induction t using Tree.induct generalizing t' path with
  | step e ts ih =>
    obtain ⟨e', ts'⟩ := t'
    obtain ⟨he, hts⟩ := Tree.related_node.mp ht
    have hchildren := hts.imp_of_mem fun t hmem t' ht =>
      And.intro ht.value fun path => ih t hmem ht path
    rw [measureTree.eq_1, measureTree.eq_1]
    refine (h.measureTrees hchildren path 1).bind fun ms ms' hms => ?_
    refine (h.measured he (values hms)).bind fun m m' hm => ?_
    refine (h.finishMeasured hm (values hms)).bind fun m m' hm => ?_
    exact related_pure (Tree.related_node.mpr ⟨hm, hms⟩)

/-! ### The second pass -/

theorem finishPositioned {p p' : Positioned α} (hp : P p p') {cs cs' : List Progress}
    (hcs : cs = cs') : Related E P (p.finish cs) (p'.finish cs') := by
  refine (h.advance (h.positionedProgress hp) none hcs .positioned).bind ?_
  rintro done _ rfl
  exact related_pure (h.positionedStaged hp done.stage)

omit h in
theorem positionTrees {ms ms' : List (Tree (Measured α))} {parent parent' : Progress}
    (hparent : parent = parent') {grid grid' : GridPosition α}
    (hgrid : ∀ m m', M m m' →
      Related E C (Positioned.cellFor grid m) (Positioned.cellFor grid' m'))
    (hms : List.Forall₂ (fun m m' => M m.value m'.value ∧ ∀ parent cell cell', C cell cell' →
      Related E (Tree.Related P) (positionTree settings parent cell m)
        (positionTree settings' parent cell' m')) ms ms') :
    Related E (List.Forall₂ (Tree.Related P))
      (GridDiagram.positionTrees settings parent grid ms)
      (GridDiagram.positionTrees settings' parent' grid' ms') := by
  subst hparent
  induction hms with
  | nil =>
    rw [positionTrees.eq_1, positionTrees.eq_1]
    exact .nil
  | cons hm _ ih =>
    obtain ⟨hvalue, hm⟩ := hm
    rw [positionTrees.eq_2, positionTrees.eq_2]
    refine (hgrid _ _ hvalue).bind fun cell cell' hcell => ?_
    refine (hm _ _ _ hcell).bind fun p p' hp => ih.bind fun ps ps' hps => ?_
    exact related_pure (.cons hp hps)

/-- The second passes over two measured trees keep up with each other. One of two nodes has a grid,
as groups have, where the other one has. -/
theorem positionTree {m m' : Tree (Measured α)} (hm : Tree.Related M m m')
    (parent : Option Progress) {cell cell' : Box α} (hcell : C cell cell') :
    Related E (Tree.Related P) (GridDiagram.positionTree settings parent cell m)
      (GridDiagram.positionTree settings' parent cell' m') := by
  induction m using Tree.induct generalizing m' parent cell cell' with
  | step m ms ih =>
    obtain ⟨m', ms'⟩ := m'
    obtain ⟨hm, hms⟩ := Tree.related_node.mp hm
    have hp := h.positioned hm hcell
    have hprogress : ms.map (·.value.progress) = ms'.map (·.value.progress) :=
      hms.map_eq fun _ _ hm => h.progress hm.value
    have hchildren := hms.imp_of_mem fun m hmem m' hm =>
      And.intro hm.value fun parent cell cell' (hcell : C cell cell') =>
        ih m hmem hm parent hcell
    rw [positionTree.eq_1, positionTree.eq_1]
    refine (h.advance (h.progress hm) parent rfl .boxed).bind fun _ _ _ => ?_
    have hcells := h.cells hp
    cases hgrid : (Positioned.ofMeasured settings m cell).grid with
    | none =>
      rw [hgrid] at hcells
      cases hgrid' : (Positioned.ofMeasured settings' m' cell').grid with
      | some grid' => rw [hgrid'] at hcells; cases hcells
      | none =>
        simp only [hgrid, hgrid']
        refine (h.finishPositioned hp hprogress).bind fun p p' hp => ?_
        exact related_pure (Tree.related_node.mpr ⟨hp, .nil⟩)
    | some grid =>
      rw [hgrid] at hcells
      cases hgrid' : (Positioned.ofMeasured settings' m' cell').grid with
      | none => rw [hgrid'] at hcells; cases hcells
      | some grid' =>
        rw [hgrid'] at hcells
        obtain ⟨hcells⟩ := hcells
        simp only [hgrid, hgrid']
        refine (positionTrees (h.positionedProgress hp) hcells hchildren).bind fun ps ps' hps => ?_
        have hdone : ps.map (·.value.progress) = ps'.map (·.value.progress) :=
          hps.map_eq fun _ _ hp => h.positionedProgress hp.value
        refine (h.finishPositioned hp hdone).bind fun p p' hp => ?_
        exact related_pure (Tree.related_node.mpr ⟨hp, hps⟩)

/-! ### Layouts -/

theorem positionedTree {t t' : DiagramTree α} (ht : Tree.Related A t t')
    {size size' : Option (Pair α)}
    (hsize : ∀ m m', M m m' →
      C ⟨0.0, 0.0, (size.getD m.natural).x, (size.getD m.natural).y⟩
        ⟨0.0, 0.0, (size'.getD m'.natural).x, (size'.getD m'.natural).y⟩) :
    Related E (Tree.Related P) (GridDiagram.positioned settings t size)
      (GridDiagram.positioned settings' t' size') := by
  unfold GridDiagram.positioned
  rw [(h.named ht.value).2]
  exact (h.measureTree ht _).bind fun m m' hm => h.positionTree hm none (hsize _ _ hm.value)

theorem checkFinished {ps ps' : List (Positioned α)} (hps : List.Forall₂ P ps ps') :
    Related E Eq (GridDiagram.checkFinished ps) (GridDiagram.checkFinished ps') := by
  rw [checkFinished_congr (hps.map_eq fun _ _ hp => h.positionedProgress hp)]
  exact related_self h.error (fun _ => rfl) _

/-- The layouts of two trees succeed together, with positioned trees that correspond. -/
theorem layout {t t' : DiagramTree α} (ht : Tree.Related A t t') {size size' : Option (Pair α)}
    (hsize : ∀ m m', M m m' →
      C ⟨0.0, 0.0, (size.getD m.natural).x, (size.getD m.natural).y⟩
        ⟨0.0, 0.0, (size'.getD m'.natural).x, (size'.getD m'.natural).y⟩) :
    Related E (fun l l' => ∃ p p', Tree.Related P p p' ∧
        l = ⟨resolveTree ⟨0.0, 0.0⟩ p, p.preorder.flatMap (·.warnings)⟩ ∧
        l' = ⟨resolveTree ⟨0.0, 0.0⟩ p', p'.preorder.flatMap (·.warnings)⟩)
      (GridDiagram.layout settings t size) (GridDiagram.layout settings' t' size') := by
  refine (h.positionedTree ht hsize).bind fun p p' hp => ?_
  refine (h.checkFinished hp.preorder).bind fun _ _ _ => ?_
  exact related_pure ⟨p, p', hp, rfl, rfl⟩

end LayoutSimulation

end GridDiagram
