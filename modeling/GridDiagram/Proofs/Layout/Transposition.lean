import GridDiagram.Proofs.Layout.Fit
import GridDiagram.Proofs.Layout.Simulation

/-!
Layouts with the two axes exchanged, in rationals. The layout of a tree that lies on its side is the
layout of the tree, on its side: nothing treats one axis other than the other, apart from the order
in which they have their turn and the height of shapes that have none of their own.
-/

namespace GridDiagram

open Except

/-! ### On its side -/

/-- The axis across. -/
def Axis.other : Axis → Axis
  | .x => .y
  | .y => .x

/-- A pair with its values exchanged. -/
def Pair.swap {β : Type} (p : Pair β) : Pair β :=
  ⟨p.y, p.x⟩

/-- The sides of a box that lies on its side. -/
def Sides.transpose {β : Type} (s : Sides β) : Sides β :=
  ⟨s.top, s.left, s.bottom, s.right⟩

@[simp] theorem Pair.swap_on {β : Type} (p : Pair β) (axis : Axis) :
    p.swap.on axis = p.on axis.other := by
  cases axis <;> rfl

@[simp] theorem Axis.other_other (axis : Axis) : axis.other.other = axis := by
  cases axis <;> rfl

namespace Attribute

/-- The attribute that says across what this one says. -/
def transpose : Attribute → Attribute
  | minx => miny
  | miny => minx
  | width => height
  | height => width
  | a => a

@[simp] theorem transpose_transpose (a : Attribute) : a.transpose.transpose = a := by
  cases a <;> rfl

variable {α : Type}

/-- A value of an attribute, on its side. -/
def transposeValue : (a : Attribute) → a.Value α → a.transpose.Value α
  | anchor, v | expand, v | place, v | translate, v => Pair.swap v
  | pad, v | margin, v => Sides.transpose v
  | coords, v => List.map Pair.swap v
  | minx, v | miny, v | width, v | height, v => v
  | bg, v | borderColor, v | borderWidth, v | borderRound, v | scale, v | rotate, v | fill, v
  | stroke, v | strokeWidth, v | round, v | vertices, v | stellate, v | fontFamily, v
  | fontSize, v | fontWeight, v | fontStyle, v | closed, v | ref, v | select, v | style, v => v

end Attribute

namespace Properties

variable {α : Type}

/-- Properties of what lies on its side. -/
def transpose (ps : Properties α) : Properties α :=
  ps.map fun p => ⟨p.1.transpose, p.1.transposeValue p.2⟩

theorem get?_transpose (ps : Properties α) (a : Attribute) :
    ps.transpose.get? a.transpose = (ps.get? a).map a.transposeValue := by
  induction ps with
  | nil => rfl
  | cons p ps ih =>
    obtain ⟨b, v⟩ := p
    by_cases hb : b = a
    · subst hb
      rw [get?_cons_self]
      exact get?_cons_self b.transpose (b.transposeValue v) _
    · have htranspose : b.transpose ≠ a.transpose := fun h =>
        hb (by rw [← b.transpose_transpose, h, a.transpose_transpose])
      rw [get?_cons_of_ne hb, ← ih]
      exact get?_cons_of_ne htranspose _ _

variable [Scalar α] (ps : Properties α)

theorem transpose_strokeExtent : ps.transpose.strokeExtent = ps.strokeExtent := by
  have hstroke : ps.transpose.get? .stroke = (ps.get? .stroke).map id := ps.get?_transpose .stroke
  have hwidth : ps.transpose.get? .strokeWidth = (ps.get? .strokeWidth).map id :=
    ps.get?_transpose .strokeWidth
  simp only [strokeExtent, hstroke, hwidth, Option.map_id_apply]

theorem transpose_scaleFactor : ps.transpose.scaleFactor = ps.scaleFactor := by
  have hscale : ps.transpose.get? .scale = (ps.get? .scale).map id := ps.get?_transpose .scale
  simp only [scaleFactor, hscale, Option.map_id_apply]

theorem transpose_rotation : ps.transpose.rotation = ps.rotation := by
  have hrotate : ps.transpose.get? .rotate = (ps.get? .rotate).map id := ps.get?_transpose .rotate
  simp only [rotation, hrotate, Option.map_id_apply]

theorem transpose_border : ps.transpose.border = ps.border := by
  have hborder : ps.transpose.get? .borderWidth = (ps.get? .borderWidth).map id :=
    ps.get?_transpose .borderWidth
  simp only [border, hborder, Option.map_id_apply]

theorem transpose_padding : ps.transpose.padding = ps.padding.transpose := by
  have hpad : ps.transpose.get? .pad = (ps.get? .pad).map Sides.transpose := ps.get?_transpose .pad
  simp only [padding, hpad]
  cases ps.get? .pad <;> rfl

theorem transpose_marginSides : ps.transpose.marginSides = ps.marginSides.transpose := by
  have hmargin : ps.transpose.get? .margin = (ps.get? .margin).map Sides.transpose :=
    ps.get?_transpose .margin
  simp only [marginSides, hmargin]
  cases ps.get? .margin <;> rfl

omit [Scalar α] in
theorem transpose_constraints (axis : Axis) :
    ps.transpose.constraints axis.other = ps.constraints axis := by
  cases axis
  · have hminx : ps.transpose.get? .miny = (ps.get? .minx).map id := ps.get?_transpose .minx
    simp only [Axis.other, constraints, hminx, Option.map_id_apply]
  · have hminy : ps.transpose.get? .minx = (ps.get? .miny).map id := ps.get?_transpose .miny
    simp only [Axis.other, constraints, hminy, Option.map_id_apply]

end Properties

variable {α : Type}

def Box.transpose (b : Box α) : Box α :=
  ⟨b.y, b.x, b.height, b.width⟩

/-- An element that lies on its side. -/
def Element.transpose (e : Element α) : Element α :=
  { e with
    placement := e.placement.swap
    attributes := e.attributes.transpose
    style := e.style.transpose }

def Measured.transpose (m : Measured α) : Measured α :=
  { m with
    element := m.element.transpose
    content := m.content.swap
    drawn := m.drawn.swap
    natural := m.natural.swap
    axes := m.axes.map Pair.swap }

def GridPosition.transpose (g : GridPosition α) : GridPosition α :=
  ⟨g.origin.swap, g.start.swap, g.extent.swap, g.lines.swap⟩

/-- What is worth a warning of what lies on its side. -/
def LayoutWarning.transpose : LayoutWarning α → LayoutWarning α
  | .overflow axis needed available path => .overflow axis.other needed available path
  | .unusedExpansion axis path => .unusedExpansion axis.other path

/-- The geometry of a node that lies on its side. -/
def Resolved.transpose (r : Resolved α) : Resolved α :=
  { r with
    element := r.element.transpose
    outer := r.outer.transpose
    borderBox := r.borderBox.transpose
    content := r.content.transpose
    bounds := r.bounds.transpose
    gridLines := r.gridLines.map Pair.swap
    vertices := r.vertices.map Pair.swap }

/-- What a layout on its side depends on. -/
def LayoutSettings.transpose (settings : LayoutSettings α) : LayoutSettings α :=
  { settings with anchor := settings.anchor.swap }

/-- An element has sizes of its own on both axes, or none: it is a group, a path, or a shape with a
width and a height. -/
def Element.Transposable (e : Element α) : Prop :=
  e.kind = .group ∨ e.kind = .path ∨
    e.kind = .shape ∧ (e.effective.get? .width).isSome ∧ (e.effective.get? .height).isSome

theorem Element.transpose_effective (e : Element α) :
    e.transpose.effective = e.effective.transpose := by
  unfold Element.effective Element.transpose Properties.transpose
  rw [List.isEmpty_map]
  split <;> rfl

/-! ### Measures -/

theorem Measured.transpose_place (m : Measured α) :
    m.transpose.place? = m.place?.map Pair.swap := by
  have hplace : m.element.effective.transpose.get? .place =
      (m.element.effective.get? .place).map Pair.swap :=
    m.element.effective.get?_transpose .place
  rw [place?, style, show m.transpose.element = m.element.transpose from rfl,
    m.element.transpose_effective, hplace]
  rfl

theorem Measured.transpose_alike (m : Measured α) (axis : Axis) :
    m.Alike axis axis.other m.transpose where
  place := by
    rw [m.transpose_place, Option.map_map]
    congr 1
    funext p
    simp
  placement := by simp [transpose, Element.transpose]
  natural := by simp [transpose]
  path := rfl

section Measures

variable [Scalar α]

theorem PointBounds.of?_swap (ps : List (Pair α)) :
    of? (ps.map Pair.swap) = (of? ps).map fun bounds => ⟨bounds.low.swap, bounds.high.swap⟩ := by
  cases ps with
  | nil => rfl
  | cons p ps => simp [of?, Pair.swap, Function.comp_def]

variable (settings : LayoutSettings α)

theorem Measured.leafContent_transpose {e : Element α} (he : e.Transposable)
    (hgroup : e.kind ≠ .group) (path : String) :
    Related (fun _ _ => True) (fun size size' => size' = size.swap)
      (leafContent settings e path) (leafContent settings.transpose e.transpose path) := by
  have hkind : e.transpose.kind = e.kind := rfl
  unfold leafContent
  simp only [hkind, e.transpose_effective, Properties.transpose_strokeExtent]
  obtain h | h | ⟨h, hwidth, hheight⟩ := he
  · contradiction
  · have hcoords : e.effective.transpose.get? .coords =
        (e.effective.get? .coords).map (List.map Pair.swap) := e.effective.get?_transpose .coords
    have hpoints : (e.effective.transpose.get? .coords).getD [] =
        ((e.effective.get? .coords).getD []).map Pair.swap := by
      rw [hcoords]
      cases e.effective.get? .coords <;> rfl
    simp only [h, hpoints, PointBounds.of?_swap]
    cases PointBounds.of? ((e.effective.get? .coords).getD []) with
    | none => exact related_error.mpr trivial
    | some bounds => exact related_ok.mpr rfl
  · have hacross : e.effective.transpose.get? .width = (e.effective.get? .height).map id :=
      e.effective.get?_transpose .height
    have hdown : e.effective.transpose.get? .height = (e.effective.get? .width).map id :=
      e.effective.get?_transpose .width
    obtain ⟨width, hwidth⟩ := Option.isSome_iff_exists.mp hwidth
    obtain ⟨height, hheight⟩ := Option.isSome_iff_exists.mp hheight
    simp only [h, hacross, hdown, hwidth, hheight, Option.map_some, Option.getD_some]
    exact related_ok.mpr rfl

theorem Measured.naturalSize_transpose (style : Properties α) (drawn : Pair α) :
    naturalSize style.transpose drawn.swap = (naturalSize style drawn).swap := by
  simp only [naturalSize, style.transpose_padding, style.transpose_marginSides,
    style.transpose_border]
  rfl

end Measures

theorem drawnSize_swap (t : Trigonometry Rat) (size : Pair Rat) (scale degrees : Rat) :
    Related Eq (fun size size' => size' = size.swap) (drawnSize t size scale degrees)
      (drawnSize t size.swap scale degrees) := by
  unfold drawnSize rotatedSize
  split
  · exact related_ok.mpr rfl
  · refine (related_eq_self _).bind ?_
    rintro p _ rfl
    refine related_ok.mpr (congrArg₂ Pair.mk ?_ ?_)
    · exact add_comm ..
    · exact add_comm ..

theorem Measured.ofElement_transpose (settings : LayoutSettings Rat) {e : Element Rat}
    (he : e.Transposable) (path : String) {cs cs' : List (Measured Rat)}
    (hcs : List.Forall₂ (fun c c' => c' = c.transpose) cs cs') :
    Related (fun _ _ => True) (fun m m' => m' = m.transpose) (ofElement settings e path cs)
      (ofElement settings.transpose e.transpose path cs') := by
  have axes (axis : Axis) : Related (fun _ _ => True) Eq
      (AxisMeasure.ofChildren e.effective cs axis)
      (AxisMeasure.ofChildren e.effective.transpose cs' axis.other) :=
    AxisMeasure.ofChildren_alike (fun _ _ => trivial)
      (e.effective.transpose_constraints axis).symm
      (hcs.imp fun c _ hc => hc ▸ c.transpose_alike axis)
  have hkind : e.transpose.kind = e.kind := rfl
  unfold ofElement
  simp only [hkind, e.transpose_effective, Properties.transpose_scaleFactor,
    Properties.transpose_rotation]
  split
  · refine Related.bind_comm (fun _ _ => trivial) (axes .x) (axes .y) ?_
    rintro x _ y _ rfl rfl
    refine related_ok.mpr ?_
    simp only [transpose, ← naturalSize_transpose]
    rfl
  · rename_i hgroup
    refine (leafContent_transpose settings he hgroup path).bind ?_
    rintro content _ rfl
    refine ((drawnSize_swap settings.trigonometry _ _ _).mapError fun _ _ _ => trivial).bind ?_
    rintro drawn _ rfl
    refine related_ok.mpr ?_
    simp only [transpose, ← naturalSize_transpose]
    rfl

/-! ### Boxes -/

section Boxes

variable [Scalar α]

omit [Scalar α] in
@[simp] theorem Box.start_transpose (b : Box α) (axis : Axis) :
    b.transpose.start axis = b.start axis.other := by
  cases axis <;> rfl

omit [Scalar α] in
@[simp] theorem Box.extent_transpose (b : Box α) (axis : Axis) :
    b.transpose.extent axis = b.extent axis.other := by
  cases axis <;> rfl

namespace Positioned

/-- The second node is the first on its side. The warnings of the axes change places. -/
structure Transposed (p p' : Positioned α) : Prop where
  measured : p'.measured = p.measured.transpose
  stage : p'.stage = p.stage
  outer : p'.outer = p.outer.transpose
  borderBox : p'.borderBox = p.borderBox.transpose
  content : p'.content = p.content.transpose
  bounds : p'.bounds = p.bounds.transpose
  grid : p'.grid = p.grid.map GridPosition.transpose
  warnings : p'.warnings.Perm (p.warnings.map LayoutWarning.transpose)

variable (settings : LayoutSettings α) (m : Measured α)

theorem expansion_transpose : expansion m.transpose = (expansion m).swap := by
  have hexpand : m.element.effective.transpose.get? .expand =
      (m.element.effective.get? .expand).map Pair.swap :=
    m.element.effective.get?_transpose .expand
  have hstyle : m.transpose.style = m.element.effective.transpose := m.element.transpose_effective
  have htag : m.transpose.element.tag = m.element.tag := rfl
  unfold expansion
  rw [htag, hstyle, hexpand]
  split
  · unfold Measured.style
    cases m.element.effective.get? .expand <;> rfl
  · rfl

omit [Scalar α] in
theorem anchor_transpose : anchor settings.transpose m.transpose = (anchor settings m).swap := by
  have hanchor : m.element.effective.transpose.get? .anchor =
      (m.element.effective.get? .anchor).map Pair.swap :=
    m.element.effective.get?_transpose .anchor
  have hstyle : m.transpose.style = m.element.effective.transpose := m.element.transpose_effective
  unfold anchor
  rw [hstyle, hanchor]
  unfold Measured.style
  cases m.element.effective.get? .anchor <;> rfl

theorem overflowWarning_transpose (available : α) (axis : Axis) :
    overflowWarning m.transpose available axis.other =
      (overflowWarning m available axis).map LayoutWarning.transpose := by
  have hnatural : m.transpose.natural.on axis.other = m.natural.on axis := by
    simp [Measured.transpose]
  simp only [overflowWarning, hnatural]
  split <;> rfl

theorem outerBox_transpose (cell : Box α) :
    outerBox settings.transpose m.transpose cell.transpose =
      (outerBox settings m cell).transpose := by
  have hnatural : m.transpose.natural = m.natural.swap := rfl
  simp only [outerBox, expansion_transpose, anchor_transpose, hnatural]
  rfl

theorem axisPosition_transpose (path : String) (axes : AxisMeasure α) (axis : Axis)
    (start size expand anchor : α) :
    axisPosition path axes axis.other start size expand anchor =
      { axisPosition path axes axis start size expand anchor with
        warnings := (axisPosition path axes axis start size expand anchor).warnings.map
          LayoutWarning.transpose } := by
  simp only [axisPosition]
  congr 1
  split <;> rfl

theorem gridPosition_transpose (axes : Pair (AxisMeasure α)) (padded : Box α) :
    (gridPosition settings.transpose m.transpose axes.swap padded.transpose).1 =
        (gridPosition settings m axes padded).1.transpose ∧
      (gridPosition settings.transpose m.transpose axes.swap padded.transpose).2.Perm
        ((gridPosition settings m axes padded).2.map LayoutWarning.transpose) := by
  have across (axis : Axis) :
      axisPosition m.path (axes.swap.on axis.other) axis.other (padded.transpose.start axis.other)
          (padded.transpose.extent axis.other) ((expansion m).swap.on axis.other)
          ((anchor settings m).swap.on axis.other) =
        { axisPosition m.path (axes.on axis) axis (padded.start axis) (padded.extent axis)
            ((expansion m).on axis) ((anchor settings m).on axis) with
          warnings := (axisPosition m.path (axes.on axis) axis (padded.start axis)
            (padded.extent axis) ((expansion m).on axis)
            ((anchor settings m).on axis)).warnings.map LayoutWarning.transpose } := by
    rw [axisPosition_transpose]
    simp
  have hpath : m.transpose.path = m.path := rfl
  have hx := across .y
  have hy := across .x
  simp only [Axis.other] at hx hy
  simp only [gridPosition, expansion_transpose, anchor_transpose, hpath, hx, hy, List.map_append]
  exact ⟨rfl, List.perm_append_comm⟩

theorem ofMeasured_transpose (cell : Box α) :
    (ofMeasured settings m cell).Transposed
      (ofMeasured settings.transpose m.transpose cell.transpose) := by
  have hstyle : m.transpose.style = m.style.transpose := m.element.transpose_effective
  have hoverflow : overflowWarning m.transpose (cell.transpose.extent .x) .x ++
      overflowWarning m.transpose (cell.transpose.extent .y) .y =
        (overflowWarning m (cell.extent .y) .y ++
          overflowWarning m (cell.extent .x) .x).map LayoutWarning.transpose := by
    rw [List.map_append]
    exact congrArg₂ List.append (overflowWarning_transpose m _ .y)
      (overflowWarning_transpose m _ .x)
  have haxes : m.transpose.axes = m.axes.map Pair.swap := rfl
  simp only [ofMeasured, hstyle, Properties.transpose_marginSides, Properties.transpose_border,
    Properties.transpose_padding, outerBox_transpose, hoverflow, haxes]
  cases m.axes with
  | none =>
    refine ⟨rfl, rfl, rfl, rfl, rfl, rfl, rfl, ?_⟩
    exact (List.perm_append_comm).map _
  | some axes =>
    obtain ⟨hgrid, hwarnings⟩ := gridPosition_transpose settings m axes
      (((outerBox settings m cell).shrink m.style.marginSides).shrink
        (Sides.all m.style.border) |>.shrink m.style.padding)
    have hcontent := congrArg (fun grid => Box.ofStarts grid.start grid.extent) hgrid
    refine ⟨rfl, rfl, rfl, rfl, hcontent, hcontent, congrArg some hgrid, ?_⟩
    simp only [List.map_append]
    exact List.perm_append_comm.append hwarnings

omit [Scalar α] in
theorem lineAt_related (axis axis' : Axis) (lines : List α) (line : Int) :
    Related (fun _ _ => True) Eq (lineAt axis lines line) (lineAt axis' lines line) := by
  unfold lineAt
  split
  · exact related_ok.mpr rfl
  · exact related_error.mpr trivial

/-- The cell of a child is transposed with the grid, although its lines are looked up in another
order. -/
theorem cellFor_transpose (grid : GridPosition α) (c : Measured α) :
    Related (fun _ _ => True) (fun cell cell' => cell' = cell.transpose) (cellFor grid c)
      (cellFor grid.transpose c.transpose) := by
  unfold cellFor
  rw [c.transpose_place]
  cases c.place? with
  | some p => exact related_ok.mpr rfl
  | none =>
    refine Related.bind_comm (fun _ _ => trivial) (lineAt_related .x .y ..)
      (lineAt_related .y .x ..) ?_
    rintro left _ top _ rfl rfl
    refine Related.bind_comm (fun _ _ => trivial) (lineAt_related .x .y ..)
      (lineAt_related .y .x ..) ?_
    rintro right _ bottom _ rfl rfl
    exact related_ok.mpr rfl

end Positioned

end Boxes

/-- The layout of a tree on its side does at every node what that of the tree does, on its side. -/
theorem LayoutSimulation.transposed (settings : LayoutSettings Rat) :
    LayoutSimulation settings settings.transpose (fun _ _ => True)
      (fun e e' => e.Transposable ∧ e' = e.transpose) (fun m m' => m' = m.transpose)
      (fun cell cell' => cell' = cell.transpose) Positioned.Transposed where
  error _ := trivial
  named := by
    rintro e _ ⟨-, rfl⟩
    exact ⟨rfl, rfl⟩
  measured := by
    rintro e _ path cs cs' ⟨he, rfl⟩ hcs
    exact Measured.ofElement_transpose settings he path hcs
  progress := by
    rintro m _ rfl
    rfl
  staged := by
    rintro m _ rfl stage
    rfl
  positioned := by
    rintro m _ cell _ rfl rfl
    exact Positioned.ofMeasured_transpose settings m cell
  positionedProgress hp := by
    simp only [Positioned.progress, hp.measured, hp.stage, Measured.transpose]
  positionedStaged hp _ := { hp with stage := rfl }
  cells {p _} hp := by
    rw [hp.grid]
    cases p.grid with
    | none => exact .none
    | some grid =>
      refine .some ?_
      rintro m _ rfl
      exact Positioned.cellFor_transpose grid m

/-! ### Final geometry -/

namespace Resolved

variable {β : Type} [Scalar β]

theorem shiftOf_transpose (offset : Pair β) (m : Measured β) :
    shiftOf offset.swap m.transpose = (shiftOf offset m).swap := by
  have htranslate : m.element.effective.transpose.get? .translate =
      (m.element.effective.get? .translate).map Pair.swap :=
    m.element.effective.get?_transpose .translate
  have hstyle : m.transpose.style = m.element.effective.transpose := m.element.transpose_effective
  unfold shiftOf
  rw [hstyle, htranslate]
  unfold Measured.style
  cases m.element.effective.get? .translate <;> rfl

theorem verticesAt_transpose (style : Properties β) (start : Pair β) :
    verticesAt style.transpose start.swap = (verticesAt style start).map Pair.swap := by
  have hcoords : style.transpose.get? .coords = (style.get? .coords).map (List.map Pair.swap) :=
    style.get?_transpose .coords
  have hpoints : (style.transpose.get? .coords).getD [] =
      ((style.get? .coords).getD []).map Pair.swap := by
    rw [hcoords]
    cases style.get? .coords <;> rfl
  simp only [verticesAt, hpoints, PointBounds.of?_swap, Properties.transpose_strokeExtent]
  cases PointBounds.of? ((style.get? .coords).getD []) with
  | none => rfl
  | some bounds => simp [Pair.swap]

theorem ofPositioned_transpose {p p' : Positioned β} (h : p.Transposed p') (shift : Pair β) :
    ofPositioned shift.swap p' = (ofPositioned shift p).transpose := by
  have hstyle : p.measured.transpose.style = p.measured.style.transpose :=
    p.measured.element.transpose_effective
  have hkind : p.measured.transpose.element.kind = p.measured.element.kind := rfl
  have hlines (grid : Option (GridPosition β)) :
      ((grid.map GridPosition.transpose).map fun g =>
        (⟨g.lines.x.map (· + shift.swap.x), g.lines.y.map (· + shift.swap.y)⟩ : Pair (List β))) =
      (grid.map fun g => (⟨g.lines.x.map (· + shift.x), g.lines.y.map (· + shift.y)⟩ :
        Pair (List β))).map Pair.swap := by
    cases grid <;> rfl
  have hvertices : verticesAt p.measured.style.transpose
      ⟨(p.content.transpose.moved shift.swap).x, (p.content.transpose.moved shift.swap).y⟩ =
      (verticesAt p.measured.style ⟨(p.content.moved shift).x, (p.content.moved shift).y⟩).map
        Pair.swap :=
    verticesAt_transpose p.measured.style ⟨(p.content.moved shift).x, (p.content.moved shift).y⟩
  simp only [ofPositioned, transpose, h.measured, h.outer, h.borderBox, h.content, h.bounds, h.grid,
    hkind, hstyle, Properties.transpose_rotation, Properties.transpose_scaleFactor, hlines,
    hvertices, apply_ite (List.map Pair.swap)]
  rfl

end Resolved

theorem resolveTree_transpose {p p' : Tree (Positioned Rat)}
    (h : Tree.Related Positioned.Transposed p p') (offset : Pair Rat) :
    resolveTree offset.swap p' = (resolveTree offset p).map Resolved.transpose := by
  induction p using Tree.induct generalizing p' offset with
  | step p ps ih =>
    obtain ⟨p', ps'⟩ := p'
    obtain ⟨hp, hps⟩ := Tree.related_node.mp h
    have hshift : Resolved.shiftOf offset.swap p'.measured =
        (Resolved.shiftOf offset p.measured).swap := by
      rw [hp.measured, Resolved.shiftOf_transpose]
    have hbelow : ps'.map (resolveTree (Resolved.shiftOf offset p.measured).swap) =
        ps.map fun q => (resolveTree (Resolved.shiftOf offset p.measured) q).map
          Resolved.transpose :=
      (hps.imp_of_mem fun q hq q' hq' => ih q hq hq' _).flip.map_eq fun _ _ h => h
    simp only [resolveTree, resolveTrees_eq_map, Tree.map_node, Tree.mapAll_eq_map, List.map_map,
      hshift, hbelow, Resolved.ofPositioned_transpose hp]
    rfl

theorem warnings_transpose {ps ps' : List (Positioned Rat)}
    (h : List.Forall₂ Positioned.Transposed ps ps') :
    (ps'.flatMap (·.warnings)).Perm ((ps.flatMap (·.warnings)).map LayoutWarning.transpose) := by
  rw [List.map_flatMap]
  induction h with
  | nil => exact .nil
  | cons hp _ ih =>
    rw [List.flatMap_cons, List.flatMap_cons]
    exact hp.warnings.append ih

/-- A tree of groups, paths and shapes with sizes of their own can be laid out on its side exactly
if it can be laid out. All boxes, grid lines and points are then those of its layout, on their side,
and so are the warnings, in some order. -/
theorem layout_transpose (settings : LayoutSettings Rat) (t : DiagramTree Rat)
    (ht : ∀ e ∈ t.preorder, e.Transposable) (size : Option (Pair Rat)) :
    (layout settings.transpose (t.map Element.transpose) (size.map Pair.swap)).isOk =
        (layout settings t size).isOk ∧
    ∀ l, layout settings t size = .ok l →
      ∃ l', layout settings.transpose (t.map Element.transpose) (size.map Pair.swap) = .ok l' ∧
        l'.tree = l.tree.map Resolved.transpose ∧
        l'.warnings.Perm (l.warnings.map LayoutWarning.transpose) := by
  have hsize (m m' : Measured Rat) (hm : m' = m.transpose) :
      (⟨0.0, 0.0, ((size.map Pair.swap).getD m'.natural).x,
          ((size.map Pair.swap).getD m'.natural).y⟩ : Box Rat) =
        Box.transpose ⟨0.0, 0.0, (size.getD m.natural).x, (size.getD m.natural).y⟩ := by
    subst hm
    cases size <;> rfl
  have hrun := (LayoutSimulation.transposed settings).layout
    (Tree.related_map ht fun e he => ⟨he, rfl⟩) hsize
  refine ⟨hrun.isOk_eq.symm, fun l hl => ?_⟩
  obtain ⟨l', hl', p, p', hp, rfl, rfl⟩ := hrun.ok_left hl
  exact ⟨_, hl', resolveTree_transpose hp ⟨0.0, 0.0⟩, warnings_transpose hp.preorder⟩

/-- A rectangle, scaled and turned, beside a path, in a layout with uneven padding. -/
def uprightRow : DiagramTree Rat :=
  .node { tag := .layout, attributes := [⟨.pad, ⟨1, 2, 3, 4⟩⟩, ⟨.minx, [⟨1, 40, 0⟩]⟩] }
    [.node { tag := .rect,
             attributes := [⟨.width, 30⟩, ⟨.height, 5⟩, ⟨.rotate, 90⟩, ⟨.translate, ⟨1, 2⟩⟩] } [],
      .node { tag := .path, placement := ⟨Span.cell 2, Span.cell 1⟩,
              attributes := [⟨.coords, [⟨0, 0⟩, ⟨7, 3⟩]⟩] } []]

theorem uprightRow_transpose :
    (∀ e ∈ uprightRow.preorder, e.Transposable) ∧
    ∃ l l', layout (rowOptions.layoutSettings plainWorld) uprightRow none = .ok l ∧
      layout (rowOptions.layoutSettings plainWorld).transpose
        (uprightRow.map Element.transpose) none = .ok l' ∧
      l'.tree = l.tree.map Resolved.transpose := by
  have htransposable : ∀ e ∈ uprightRow.preorder, e.Transposable := by
    simp [uprightRow, Tree.preorderAll, Element.Transposable, Element.kind, Tag.kind,
      Element.effective, Properties.get?]
  have hisOk : (layout (rowOptions.layoutSettings plainWorld) uprightRow none).isOk = true := by
    decide +kernel
  obtain ⟨l, hl⟩ := Except.exists_of_isOk hisOk
  obtain ⟨l', hl', htree, -⟩ :=
    (layout_transpose (rowOptions.layoutSettings plainWorld) _ htransposable none).2 l hl
  exact ⟨htransposable, l, l', hl, hl', htree⟩

end GridDiagram
