import GridDiagram.Proofs.Layout.Fit
import GridDiagram.Proofs.Layout.Shape
import GridDiagram.Proofs.Layout.Simulation

/-!
The layouts of two trees that differ in nothing but the shifts of their nodes, in rationals. Both
passes run alike, and in the end every node stands where the shifts of its own and of all nodes
around it have taken it.
-/

namespace GridDiagram

open Except

variable {α : Type} [Scalar α]

/-! ### Properties -/

/-- Two lists give every attribute but the shift the same value. -/
def Properties.SameUnshifted (ps qs : Properties α) : Prop :=
  ∀ a, a ≠ .translate → ps.get? a = qs.get? a

namespace Properties.SameUnshifted

variable {ps qs : Properties α} (h : ps.SameUnshifted qs)

include h

theorem strokeExtent : ps.strokeExtent = qs.strokeExtent := by
  simp only [Properties.strokeExtent, h .stroke (by decide), h .strokeWidth (by decide)]

theorem fontSize : ps.fontSize = qs.fontSize := by
  simp only [Properties.fontSize, h .fontSize (by decide)]

omit [Scalar α] in
theorem fontFamilyOr (fallback : Option String) :
    ps.fontFamilyOr fallback = qs.fontFamilyOr fallback := by
  simp only [Properties.fontFamilyOr, h .fontFamily (by decide)]

theorem scaleFactor : ps.scaleFactor = qs.scaleFactor := by
  simp only [Properties.scaleFactor, h .scale (by decide)]

theorem rotation : ps.rotation = qs.rotation := by
  simp only [Properties.rotation, h .rotate (by decide)]

theorem padding : ps.padding = qs.padding := by
  simp only [Properties.padding, h .pad (by decide)]

theorem marginSides : ps.marginSides = qs.marginSides := by
  simp only [Properties.marginSides, h .margin (by decide)]

theorem border : ps.border = qs.border := by
  simp only [Properties.border, h .borderWidth (by decide)]

omit [Scalar α] in
theorem constraints (axis : Axis) : ps.constraints axis = qs.constraints axis := by
  cases axis
  · simp only [Properties.constraints, h .minx (by decide)]
  · simp only [Properties.constraints, h .miny (by decide)]

end Properties.SameUnshifted

/-! ### Nodes -/

/-- Two elements differ in nothing that a layout reads, apart from their shifts. -/
structure Element.SameUnshifted (e e' : Element α) : Prop where
  tag : e.tag = e'.tag
  id : e.id = e'.id
  classes : e.classes = e'.classes
  placement : e.placement = e'.placement
  lines : e.lines = e'.lines
  effective : e.effective.SameUnshifted e'.effective

/-- Two measured nodes differ in nothing but the shifts of their elements. -/
structure Measured.SameUnshifted (m m' : Measured α) : Prop where
  element : m.element.SameUnshifted m'.element
  path : m.path = m'.path
  stage : m.stage = m'.stage
  content : m.content = m'.content
  drawn : m.drawn = m'.drawn
  natural : m.natural = m'.natural
  axes : m.axes = m'.axes

/-- Two positioned nodes differ in nothing but the shifts of their elements. -/
structure Positioned.SameUnshifted (p p' : Positioned α) : Prop where
  measured : p.measured.SameUnshifted p'.measured
  stage : p.stage = p'.stage
  outer : p.outer = p'.outer
  borderBox : p.borderBox = p'.borderBox
  content : p.content = p'.content
  bounds : p.bounds = p'.bounds
  grid : p.grid = p'.grid
  warnings : p.warnings = p'.warnings

namespace Element.SameUnshifted

variable {e e' : Element α} (h : e.SameUnshifted e')

include h

omit [Scalar α] in
theorem kind : e.kind = e'.kind := by
  unfold Element.kind
  rw [h.tag]

omit [Scalar α] in
theorem label : e.label = e'.label := by
  unfold Element.label
  rw [h.id, h.classes, h.tag]

end Element.SameUnshifted

namespace Measured.SameUnshifted

omit [Scalar α] in
theorem place? {m m' : Measured α} (h : m.SameUnshifted m') : m.place? = m'.place? :=
  h.element.effective .place (by decide)

variable {settings : LayoutSettings α}

theorem naturalSize {ps qs : Properties α} (h : ps.SameUnshifted qs) (drawn : Pair α) :
    Measured.naturalSize ps drawn = Measured.naturalSize qs drawn := by
  simp only [Measured.naturalSize, h.padding, h.marginSides, h.border]

theorem leafContent {e e' : Element α} (h : e.SameUnshifted e') (path : String) :
    Measured.leafContent settings e path = Measured.leafContent settings e' path := by
  simp only [Measured.leafContent, h.kind, h.tag, h.lines, h.effective.fontSize,
    h.effective.fontFamilyOr, h.effective.strokeExtent, h.effective .width (by decide),
    h.effective .height (by decide), h.effective .coords (by decide)]

omit [Scalar α] in
theorem alike {m m' : Measured α} (h : m.SameUnshifted m') (axis : Axis) :
    m.Alike axis axis m' where
  place := by rw [h.place?]
  placement := by rw [h.element.placement]
  natural := by rw [h.natural]
  path := h.path

theorem ofElement {e e' : Element α} (he : e.SameUnshifted e') (path : String)
    {cs cs' : List (Measured α)} (hcs : List.Forall₂ Measured.SameUnshifted cs cs') :
    Related Eq Measured.SameUnshifted (Measured.ofElement settings e path cs)
      (Measured.ofElement settings e' path cs') := by
  have axes (axis : Axis) :=
    AxisMeasure.ofChildren_alike (E := Eq) (fun _ _ => rfl) (he.effective.constraints axis)
      (hcs.imp fun _ _ hc => hc.alike axis)
  unfold Measured.ofElement
  rw [he.kind]
  split
  · refine (axes .x).bind fun x x' hx => (axes .y).bind fun y y' hy => ?_
    simp only [hx, hy, he.effective.scaleFactor, naturalSize he.effective]
    exact related_pure ⟨he, rfl, rfl, rfl, rfl, rfl, rfl⟩
  · simp only [leafContent he, he.effective.scaleFactor, he.effective.rotation,
      naturalSize he.effective]
    refine (related_eq_self _).bind ?_
    rintro content _ rfl
    refine (related_eq_self _).bind ?_
    rintro drawn _ rfl
    exact related_pure ⟨he, rfl, rfl, rfl, rfl, rfl, rfl⟩

end Measured.SameUnshifted

namespace Positioned.SameUnshifted

variable {settings : LayoutSettings α}

theorem ofMeasured {m m' : Measured α} (h : m.SameUnshifted m') (cell : Box α) :
    (Positioned.ofMeasured settings m cell).SameUnshifted
      (Positioned.ofMeasured settings m' cell) := by
  have hstyle : m.style.SameUnshifted m'.style := h.element.effective
  have hexpansion : expansion m = expansion m' := by
    simp only [expansion, h.element.tag, hstyle .expand (by decide)]
  have hanchor : anchor settings m = anchor settings m' := by
    simp only [anchor, hstyle .anchor (by decide)]
  have houter : outerBox settings m cell = outerBox settings m' cell := by
    simp only [outerBox, hexpansion, hanchor, h.natural]
  have hoverflow (available : α) (axis : Axis) :
      overflowWarning m available axis = overflowWarning m' available axis := by
    simp only [overflowWarning, h.natural, h.path]
  have hgrid (axes : Pair (AxisMeasure α)) (padded : Box α) :
      gridPosition settings m axes padded = gridPosition settings m' axes padded := by
    simp only [gridPosition, h.path, hexpansion, hanchor]
  simp only [Positioned.ofMeasured, h.axes, houter, hstyle.marginSides, hstyle.border,
    hstyle.padding, hoverflow, hgrid, h.content, h.drawn]
  split <;> exact ⟨h, rfl, rfl, rfl, rfl, rfl, rfl, rfl⟩

omit [Scalar α] in
theorem progress {p p' : Positioned α} (h : p.SameUnshifted p') : p.progress = p'.progress := by
  simp only [Positioned.progress, h.measured.path, h.stage]

theorem cellFor {m m' : Measured α} (h : m.SameUnshifted m') (grid : GridPosition α) :
    Positioned.cellFor grid m = Positioned.cellFor grid m' := by
  simp only [Positioned.cellFor, h.place?, h.natural, h.element.placement]

end Positioned.SameUnshifted

/-- Neither pass of a layout looks at the shifts. -/
theorem LayoutSimulation.unshifted (settings : LayoutSettings α) :
    LayoutSimulation settings settings Eq Element.SameUnshifted Measured.SameUnshifted Eq
      Positioned.SameUnshifted where
  error _ := rfl
  named he := ⟨he.id, he.label⟩
  measured he hcs := Measured.SameUnshifted.ofElement he _ hcs
  progress hm := by simp only [Measured.progress, hm.path, hm.stage]
  staged hm _ := { hm with stage := rfl }
  positioned hm hcell := hcell ▸ Positioned.SameUnshifted.ofMeasured hm _
  positionedProgress hp := hp.progress
  positionedStaged hp _ := { hp with stage := rfl }
  cells {_ p'} hp := by
    rw [hp.grid]
    cases p'.grid with
    | none => exact .none
    | some grid =>
      exact .some fun m m' hm => Positioned.SameUnshifted.cellFor hm grid ▸ related_eq_self _

/-! ### Final geometry -/

namespace Resolved

/-- How much further a line of nodes is shifted than the nodes that correspond to them. -/
def drift (rs rs' : List (Resolved Rat)) : Pair Rat :=
  Pair.ofAxes fun axis =>
    (List.zipWith (fun r r' => r'.translation.on axis - r.translation.on axis) rs rs').sum

/-- The second node has the geometry of the first, moved along both axes. -/
structure Moved (d : Pair Rat) (r r' : Resolved Rat) : Prop where
  path : r'.path = r.path
  outer : r'.outer = r.outer.moved d
  borderBox : r'.borderBox = r.borderBox.moved d
  content : r'.content = r.content.moved d
  bounds : r'.bounds = r.bounds.moved d
  rotation : r'.rotation = r.rotation
  scale : r'.scale = r.scale
  gridLines : r'.gridLines = r.gridLines.map fun lines =>
    ⟨lines.x.map (· + d.x), lines.y.map (· + d.y)⟩
  vertices : r'.vertices = r.vertices.map fun p => ⟨p.x + d.x, p.y + d.y⟩

theorem drift_cons (r r' : Resolved Rat) (rs rs' : List (Resolved Rat)) (axis : Axis) :
    (drift (r :: rs) (r' :: rs')).on axis =
      r'.translation.on axis - r.translation.on axis + (drift rs rs').on axis := by
  simp only [drift, Pair.on_ofAxes, List.zipWith_cons_cons, List.sum_cons]

theorem shiftOf_on (offset : Pair Rat) (p : Positioned Rat) (shift : Pair Rat) (axis : Axis) :
    (shiftOf offset p.measured).on axis =
      offset.on axis + (ofPositioned shift p).translation.on axis := by
  cases axis <;> rfl

theorem moved_trans {b c : Box Rat} (h : b = c) {shift shift' d : Pair Rat}
    (hd : ∀ axis, shift'.on axis = shift.on axis + d.on axis) :
    c.moved shift' = (b.moved shift).moved d := by
  subst h
  ext axis
  · rw [Box.start_moved, Box.start_moved, Box.start_moved, hd, add_assoc]
  · rw [Box.extent_moved, Box.extent_moved, Box.extent_moved]

theorem verticesAt_moved {ps qs : Properties Rat} (h : ps.SameUnshifted qs) (start d : Pair Rat) :
    verticesAt qs ⟨start.x + d.x, start.y + d.y⟩ =
      (verticesAt ps start).map fun p => ⟨p.x + d.x, p.y + d.y⟩ := by
  simp only [verticesAt, h .coords (by decide), h.strokeExtent]
  generalize qs.strokeExtent / 2.0 = half
  split
  · rfl
  · rw [List.map_map]
    refine List.map_congr_left fun p _ => ?_
    simp only [Function.comp_apply, Pair.mk.injEq]
    constructor <;> ring

theorem ofPositioned_moved {p p' : Positioned Rat} (h : p.SameUnshifted p')
    {shift shift' d : Pair Rat} (hd : ∀ axis, shift'.on axis = shift.on axis + d.on axis) :
    Moved d (ofPositioned shift p) (ofPositioned shift' p') := by
  have hstyle : p.measured.style.SameUnshifted p'.measured.style := h.measured.element.effective
  have hx : shift'.x = shift.x + d.x := hd .x
  have hy : shift'.y = shift.y + d.y := hd .y
  refine ⟨h.measured.path.symm, moved_trans h.outer hd, moved_trans h.borderBox hd,
    moved_trans h.content hd, moved_trans h.bounds hd, ?_, ?_, ?_, ?_⟩
  · simp only [ofPositioned, h.measured.element.kind, hstyle.rotation]
  · simp only [ofPositioned, h.measured.element.kind, hstyle.scaleFactor]
  · simp only [ofPositioned, h.grid, hx, hy]
    cases p'.grid with
    | none => rfl
    | some grid => simp [Function.comp_def, add_assoc]
  · simp only [ofPositioned, h.measured.element.kind]
    split
    · have hcontent := moved_trans h.content hd
      rw [hcontent]
      exact verticesAt_moved hstyle ⟨(p.content.moved shift).x, (p.content.moved shift).y⟩ d
    · rfl

end Resolved

theorem resolveTree_moved {p p' : Tree (Positioned Rat)}
    (h : Tree.Related Positioned.SameUnshifted p p') (above above' : List (Resolved Rat))
    (offset offset' : Pair Rat)
    (hd : ∀ axis, offset'.on axis = offset.on axis + (Resolved.drift above above').on axis) :
    List.Forall₂ (fun r r' => Resolved.Moved (Resolved.drift (r.1 :: r.2) (r'.1 :: r'.2)) r.1 r'.1)
      ((resolveTree offset p).lineages above) ((resolveTree offset' p').lineages above') := by
  induction p using Tree.induct generalizing p' above above' offset offset' with
  | step p ps ih =>
    obtain ⟨p', ps'⟩ := p'
    obtain ⟨hp, hps⟩ := Tree.related_node.mp h
    simp only [resolveTree, resolveTrees_eq_map, Tree.lineages_node, List.flatMap_map]
    set shift := Resolved.shiftOf offset p.measured with hshift
    set shift' := Resolved.shiftOf offset' p'.measured with hshift'
    set r := Resolved.ofPositioned shift p
    set r' := Resolved.ofPositioned shift' p'
    have hdrift (axis : Axis) :
        shift'.on axis = shift.on axis + (Resolved.drift (r :: above) (r' :: above')).on axis := by
      rw [hshift', hshift, Resolved.shiftOf_on offset' p' shift',
        Resolved.shiftOf_on offset p shift, Resolved.drift_cons, hd]
      ring
    refine .cons (Resolved.ofPositioned_moved hp hdrift) ?_
    have hbelow := hps.imp_of_mem fun q hq q' hq' => ih q hq hq' _ _ _ _ hdrift
    exact List.rel_flatMap hbelow fun _ _ h => h

/-- The layouts of two trees that differ in nothing but shifts fail with the same errors or succeed
with the same warnings. What the two passes leave is the same, and in the end every node stands
where it stood, moved by how much further it and the nodes around it are shifted. -/
theorem layout_translate (settings : LayoutSettings Rat) (t t' : DiagramTree Rat)
    (ht : Tree.Related Element.SameUnshifted t t') (size : Option (Pair Rat)) :
    (∀ e, layout settings t size = .error e ↔ layout settings t' size = .error e) ∧
    ∀ l, layout settings t size = .ok l →
      ∃ l', layout settings t' size = .ok l' ∧ l'.warnings = l.warnings ∧
        (∀ axis, l'.tree.value.outer.extent axis = l.tree.value.outer.extent axis) ∧
        (∃ p p', positioned settings t size = .ok p ∧ positioned settings t' size = .ok p' ∧
          Tree.Related Positioned.SameUnshifted p p') ∧
        l.tree.map (·.element) = t ∧ l'.tree.map (·.element) = t' ∧
        List.Forall₂ (fun r r' =>
            Resolved.Moved (Resolved.drift (r.1 :: r.2) (r'.1 :: r'.2)) r.1 r'.1)
          (l.tree.lineages []) (l'.tree.lineages []) := by
  have hsize (m m' : Measured Rat) (hm : m.SameUnshifted m') :
      (⟨0.0, 0.0, (size.getD m.natural).x, (size.getD m.natural).y⟩ : Box Rat) =
        ⟨0.0, 0.0, (size.getD m'.natural).x, (size.getD m'.natural).y⟩ := by
    rw [hm.natural]
  have hrun := (LayoutSimulation.unshifted settings).layout ht hsize
  refine ⟨hrun.error_iff fun _ _ h => h, fun l hl => ?_⟩
  obtain ⟨l', hl', -⟩ := hrun.ok_left hl
  obtain ⟨p, hp, htree, hwarnings⟩ := layout_ok hl
  obtain ⟨p', hp', htree', hwarnings'⟩ := layout_ok hl'
  have hpositioned : Tree.Related Positioned.SameUnshifted p p' := by
    have hboth := (LayoutSimulation.unshifted settings).positionedTree ht hsize
    rwa [hp, hp', related_ok] at hboth
  have hmoved := resolveTree_moved hpositioned [] [] ⟨0.0, 0.0⟩ ⟨0.0, 0.0⟩ fun axis => by
    simp [Resolved.drift]
  rw [← htree, ← htree'] at hmoved
  refine ⟨l', hl', ?_, fun axis => ?_, ⟨p, p', hp, hp', hpositioned⟩, layout_elements hl,
    layout_elements hl', hmoved⟩
  · have hsame : p.preorder.map (·.warnings) = p'.preorder.map (·.warnings) :=
      hpositioned.preorder.map_eq fun _ _ h => h.warnings
    rw [hwarnings, hwarnings', List.flatMap_def, List.flatMap_def, hsame]
  · have hroot : (l'.tree.value.outer).extent axis = p'.value.outer.extent axis := by
      rw [htree', resolveTree_value]
      exact Box.extent_moved _ _ _
    rw [hroot, htree, resolveTree_value, ← hpositioned.value.outer]
    exact (Box.extent_moved _ _ _).symm

/-- A rectangle in a padded layout, both of them shifted. -/
def shiftedRect (outer inner : Pair Rat) : DiagramTree Rat :=
  .node { tag := .layout, attributes := [⟨.pad, Sides.all 2⟩, ⟨.translate, outer⟩] }
    [.node { tag := .rect, attributes := [⟨.translate, inner⟩, ⟨.width, 30⟩] } []]

theorem shiftedRect_sameUnshifted (outer inner outer' inner' : Pair Rat) :
    Tree.Related Element.SameUnshifted (shiftedRect outer inner) (shiftedRect outer' inner') := by
  have hlayout : Properties.SameUnshifted
      ([⟨.pad, Sides.all 2⟩, ⟨.translate, outer⟩] : Properties Rat)
      [⟨.pad, Sides.all 2⟩, ⟨.translate, outer'⟩] := by
    intro a ha
    simp [Properties.get?, ha.symm]
  have hrect : Properties.SameUnshifted
      ([⟨.translate, inner⟩, ⟨.width, 30⟩] : Properties Rat)
      [⟨.translate, inner'⟩, ⟨.width, 30⟩] := by
    intro a ha
    simp [Properties.get?, ha.symm]
  refine Tree.related_node.mpr ⟨⟨rfl, rfl, rfl, rfl, rfl, hlayout⟩, .cons ?_ .nil⟩
  exact Tree.related_node.mpr ⟨⟨rfl, rfl, rfl, rfl, rfl, hrect⟩, .nil⟩

theorem shiftedRect_translate :
    Tree.Related Element.SameUnshifted (shiftedRect ⟨0, 0⟩ ⟨0, 0⟩) (shiftedRect ⟨1, 2⟩ ⟨10, 20⟩) ∧
    ∃ l l', layout (rowOptions.layoutSettings plainWorld) (shiftedRect ⟨0, 0⟩ ⟨0, 0⟩) none = .ok l ∧
      layout (rowOptions.layoutSettings plainWorld) (shiftedRect ⟨1, 2⟩ ⟨10, 20⟩) none = .ok l' ∧
      List.Forall₂ (fun r r' =>
          Resolved.Moved (Resolved.drift (r.1 :: r.2) (r'.1 :: r'.2)) r.1 r'.1)
        (l.tree.lineages []) (l'.tree.lineages []) := by
  have hrelated := shiftedRect_sameUnshifted ⟨0, 0⟩ ⟨0, 0⟩ ⟨1, 2⟩ ⟨10, 20⟩
  have hisOk : (layout (rowOptions.layoutSettings plainWorld) (shiftedRect ⟨0, 0⟩ ⟨0, 0⟩)
      none).isOk = true := by
    decide +kernel
  obtain ⟨l, hl⟩ := Except.exists_of_isOk hisOk
  obtain ⟨l', hl', -, -, -, -, -, hmoved⟩ :=
    (layout_translate (rowOptions.layoutSettings plainWorld) _ _ hrelated none).2 l hl
  exact ⟨hrelated, l, l', hl, hl', hmoved⟩

end GridDiagram
