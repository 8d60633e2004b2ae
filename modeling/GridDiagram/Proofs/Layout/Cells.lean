import GridDiagram.Proofs.Layout.Sizes

/-!
Where nodes and grids lie, in rationals. A node lies in its cell as far as that is large enough, a
grid lies inside the padding of its group, and a child has a cell on the grid that is large enough.
-/

namespace GridDiagram

/-- No text has a measure below zero, and nodes are anchored inside their cells where nothing else
is said. -/
structure LayoutSettings.Regular (settings : LayoutSettings Rat) : Prop where
  measurer : settings.measurer.Nonnegative
  anchor : ∀ axis, -1 ≤ settings.anchor.on axis ∧ settings.anchor.on axis ≤ 1

theorem anchoredStart_eq (start available size anchor : Rat) :
    anchoredStart start available size anchor =
      start + (available - size) * ((anchor + 1) / 2) := by
  have hone : (1.0 : Rat) = 1 := by norm_num
  have htwo : (2.0 : Rat) = 2 := by norm_num
  rw [anchoredStart, hone, htwo, mul_div_assoc]

/-- Whatever is no larger than a space up to a tolerance lies inside it up to the tolerance. -/
theorem anchoredStart_inside (start : Rat) {available size anchor tolerance : Rat}
    (hanchor : -1 ≤ anchor ∧ anchor ≤ 1) (htolerance : 0 ≤ tolerance)
    (hsize : size ≤ available + tolerance) :
    start - tolerance ≤ anchoredStart start available size anchor ∧
      anchoredStart start available size anchor + size ≤ start + available + tolerance := by
  rw [anchoredStart_eq]
  have hlow : 0 ≤ (anchor + 1) / 2 := by linarith [hanchor.1]
  have hhigh : (anchor + 1) / 2 ≤ 1 := by linarith [hanchor.2]
  rcases le_total size available with hle | hle
  · have hshift := mul_nonneg (sub_nonneg.mpr hle) hlow
    have hrest := mul_le_of_le_one_right (sub_nonneg.mpr hle) hhigh
    constructor <;> linarith
  · have hshift := mul_nonpos_of_nonpos_of_nonneg (sub_nonpos.mpr hle) hlow
    have hrest := le_mul_of_le_one_right (sub_nonpos.mpr hle) hhigh
    constructor <;> linarith

namespace Positioned

variable {settings : LayoutSettings Rat} {m : Measured Rat}

/-! ### Outer boxes -/

theorem natural_le_takenSize (expand natural available : Rat) :
    natural ≤ takenSize expand natural available := by
  unfold takenSize
  split
  · rename_i h
    obtain ⟨hexpand, hnatural⟩ := h
    have hgrowth : 0 ≤ (available - natural) * expand :=
      mul_nonneg (sub_nonneg.mpr hnatural.le) (by simpa using hexpand.le)
    linarith
  · exact le_refl natural

theorem takenSize_le {expand natural available : Rat} (hexpand : expand ≤ 1) :
    takenSize expand natural available ≤ max natural available := by
  unfold takenSize
  split
  · rename_i h
    have hgrowth : (available - natural) * expand ≤ available - natural :=
      mul_le_of_le_one_right (sub_nonneg.mpr h.2.le) hexpand
    apply le_max_of_le_right
    linarith
  · exact le_max_left natural available

theorem expansion_le (hm : m.element.Styled Attribute.Ranged) (axis : Axis) :
    (expansion m).on axis ≤ 1 := by
  have hzero : (⟨0.0, 0.0⟩ : Pair Rat).on axis ≤ 1 := by
    cases axis <;> norm_num [Pair.on]
  unfold expansion
  split
  · refine hm.getD (a := .expand) (Q := fun v : Pair Rat => v.on axis ≤ 1) (fun v hv => ?_) hzero
    have hrange : Attribute.Within 0 1 v := hv (by decide)
    exact_mod_cast (hrange.le axis).2
  · exact hzero

theorem anchor_range (hsettings : settings.Regular) (hm : m.element.Styled Attribute.Ranged)
    (axis : Axis) : -1 ≤ (anchor settings m).on axis ∧ (anchor settings m).on axis ≤ 1 := by
  refine hm.getD (a := .anchor) (Q := fun v : Pair Rat => -1 ≤ v.on axis ∧ v.on axis ≤ 1)
    (fun v hv => ?_) (hsettings.anchor axis)
  have hrange : Attribute.Within (-1) 1 v := hv (by decide)
  exact_mod_cast hrange.le axis

theorem natural_le_outerBox (settings : LayoutSettings Rat) (m : Measured Rat) (cell : Box Rat)
    (axis : Axis) : m.natural.on axis ≤ (outerBox settings m cell).extent axis := by
  simp only [outerBox, Box.extent_ofStarts, Pair.on_ofAxes]
  exact natural_le_takenSize _ _ _

/-- A node lies in its cell up to what the cell is too small. -/
theorem outerBox_inside (hsettings : settings.Regular) (hm : m.element.Styled Attribute.Ranged)
    {cell : Box Rat} {tolerance : Rat} (htolerance : 0 ≤ tolerance)
    (hcell : ∀ axis, m.natural.on axis - tolerance ≤ cell.extent axis) :
    cell.contains (outerBox settings m cell) tolerance = true := by
  rw [Box.contains_iff]
  intro axis
  have htaken : takenSize ((expansion m).on axis) (m.natural.on axis) (cell.extent axis) ≤
      max (m.natural.on axis) (cell.extent axis) := takenSize_le (expansion_le hm axis)
  have hlarge : max (m.natural.on axis) (cell.extent axis) ≤ cell.extent axis + tolerance :=
    max_le (by linarith [hcell axis]) (le_add_of_nonneg_right htolerance)
  simp only [outerBox, Box.start_ofStarts, Box.stop_ofStarts, Pair.on_ofAxes]
  exact anchoredStart_inside _ (anchor_range hsettings hm axis) htolerance (htaken.trans hlarge)

/-! ### Boxes inside the outer one -/

/-- The box inside the padding of a node. -/
def padded (p : Positioned Rat) : Box Rat :=
  (p.borderBox.shrink (Sides.all p.measured.style.border)).shrink p.measured.style.padding

namespace Done

variable {p : Positioned Rat} {children : List (Positioned Rat)}

theorem outer_eq (h : p.Done settings Attribute.Ranged children) :
    p.outer = outerBox settings p.measured p.cell := by
  refine (congrArg outer h.boxes).trans ?_
  simp only [ofMeasured]
  split <;> rfl

theorem borderBox_eq (h : p.Done settings Attribute.Ranged children) :
    p.borderBox = p.outer.shrink p.measured.style.marginSides := by
  rw [h.outer_eq]
  refine (congrArg borderBox h.boxes).trans ?_
  simp only [ofMeasured]
  split <;> rfl

theorem outer_extent_of_leaf (h : p.Done settings Attribute.Ranged children)
    (hleaf : p.measured.element.kind ≠ .group) (axis : Axis) :
    p.outer.extent axis = p.measured.natural.on axis := by
  have htag : p.measured.element.tag ≠ .layout := by
    intro htag
    exact hleaf (by rw [Element.kind, htag]; rfl)
  have hexpansion : (expansion p.measured).on axis = 0 := by
    rw [expansion, if_neg htag]
    cases axis <;> norm_num [Pair.on]
  simp only [h.outer_eq, outerBox, Box.extent_ofStarts, Pair.on_ofAxes, takenSize, hexpansion]
  simp

variable (hsettings : settings.Regular) (h : p.Done settings Attribute.Ranged children)
  (hchildren : ∀ c ∈ children, c.measured.element.Styled Attribute.Ranged)

include hsettings h hchildren

theorem surround_le (axis : Axis) :
    p.measured.drawn.on axis + p.measured.style.surround axis ≤ p.outer.extent axis ∧
      0 ≤ p.measured.drawn.on axis := by
  have hnatural := natural_le_outerBox settings p.measured p.cell axis
  rw [← h.outer_eq, h.measured.natural_on] at hnatural
  refine ⟨hnatural, h.measured.drawn_nonneg hsettings.measurer (fun c hc => ?_) axis⟩
  obtain ⟨d, hd, rfl⟩ := List.mem_map.mp hc
  exact hchildren d hd

theorem borderBox_on (axis : Axis) :
    p.borderBox.start axis = p.outer.start axis + p.measured.style.marginSides.front axis ∧
    p.borderBox.extent axis = p.outer.extent axis - p.measured.style.marginSides.front axis -
      p.measured.style.marginSides.back axis := by
  obtain ⟨hsurround, hdrawn⟩ := surround_le hsettings h hchildren axis
  have hpadding : p.measured.style.padding.Nonnegative := h.measured.styled.padding_nonneg
  have hborder : 0 ≤ p.measured.style.border := h.measured.styled.border_nonneg
  obtain ⟨hfront, hback⟩ := hpadding.axis axis
  rw [h.borderBox_eq, Box.start_shrink, Box.extent_shrink_of_le]
  · exact ⟨rfl, rfl⟩
  · unfold Properties.surround at hsurround
    linarith

theorem padded_on (axis : Axis) :
    p.padded.start axis = p.borderBox.start axis + p.measured.style.border +
      p.measured.style.padding.front axis ∧
    p.padded.extent axis = p.outer.extent axis - p.measured.style.surround axis := by
  obtain ⟨hsurround, hdrawn⟩ := surround_le hsettings h hchildren axis
  obtain ⟨-, hextent⟩ := borderBox_on hsettings h hchildren axis
  have hpadding : p.measured.style.padding.Nonnegative := h.measured.styled.padding_nonneg
  obtain ⟨hfront, hback⟩ := hpadding.axis axis
  have hsides : (Sides.all p.measured.style.border).front axis = p.measured.style.border ∧
      (Sides.all p.measured.style.border).back axis = p.measured.style.border := by
    cases axis <;> exact ⟨rfl, rfl⟩
  have hborder : (p.borderBox.shrink (Sides.all p.measured.style.border)).extent axis =
      p.borderBox.extent axis - p.measured.style.border - p.measured.style.border := by
    rw [Box.extent_shrink_of_le, hsides.1, hsides.2]
    rw [hsides.1, hsides.2, hextent]
    unfold Properties.surround at hsurround
    linarith
  rw [padded, Box.start_shrink, Box.start_shrink, hsides.1, Box.extent_shrink_of_le, hborder,
    hextent]
  · refine ⟨rfl, ?_⟩
    unfold Properties.surround
    ring
  · rw [hborder, hextent]
    unfold Properties.surround at hsurround
    linarith

theorem drawn_le_padded (axis : Axis) : p.measured.drawn.on axis ≤ p.padded.extent axis := by
  obtain ⟨hsurround, -⟩ := surround_le hsettings h hchildren axis
  obtain ⟨-, hextent⟩ := padded_on hsettings h hchildren axis
  linarith

theorem outer_contains_borderBox : p.outer.contains p.borderBox 0 = true := by
  rw [Box.contains_iff]
  intro axis
  obtain ⟨hstart, hextent⟩ := borderBox_on hsettings h hchildren axis
  have hmargin : p.measured.style.marginSides.Nonnegative := h.measured.styled.margin_nonneg
  obtain ⟨hfront, hback⟩ := hmargin.axis axis
  rw [Box.stop, Box.stop, hstart, hextent]
  constructor <;> linarith

/-- What is no group covers the whole box inside its padding. -/
theorem bounds_of_leaf (hleaf : p.measured.element.kind ≠ .group) : p.bounds = p.padded := by
  have hcenter : p.bounds = Box.around p.padded.center p.measured.drawn := by
    rw [padded, h.borderBox_eq, h.outer_eq]
    refine (congrArg bounds h.boxes).trans ?_
    simp only [ofMeasured, h.measured.axes_eq_none hleaf]
  have hexact : ∀ axis, p.padded.extent axis = p.measured.drawn.on axis := by
    intro axis
    obtain ⟨-, hextent⟩ := padded_on hsettings h hchildren axis
    rw [hextent, h.outer_extent_of_leaf hleaf, h.measured.natural_on]
    ring
  rw [hcenter]
  ext axis
  · rw [Box.start_around, Box.center_on, hexact]
    ring
  · rw [Box.extent_around, hexact]

end Done

end Positioned

/-! ### Grids -/

theorem GridAxis.Sound.positions_le {g : GridAxis Rat} (hg : g.Sound) {origin x y : Rat} {a b : Nat}
    (hab : a ≤ b) (hx : (g.positions origin)[a]? = some x)
    (hy : (g.positions origin)[b]? = some y) : x ≤ y := by
  have hb : b ≤ g.count := by
    have hlength := (List.getElem?_eq_some_iff.mp hy).1
    rw [g.length_positions] at hlength
    omega
  rw [g.positions_getElem? origin (hab.trans hb)] at hx
  rw [g.positions_getElem? origin hb] at hy
  obtain rfl := Option.some.inj hx
  obtain rfl := Option.some.inj hy
  linarith [hg.reach_le hab]

/-- Content with the first grid line at `origin` lies on an axis as it was measured, with the
intervals of `g`. -/
structure AxisMeasure.LaidOut (m : AxisMeasure Rat) (g : GridAxis Rat) (origin start extent : Rat)
    (lines : List Rat) : Prop where
  origin_eq : origin = start - m.low
  extent_eq : extent = max g.total m.high - m.low
  lines_eq : lines = g.positions origin

namespace Positioned

/-- The axis is laid out with the intervals of `g`. -/
def AxisPosition.Follows (position : AxisPosition Rat) (m : AxisMeasure Rat) (g : GridAxis Rat) :
    Prop :=
  m.LaidOut g position.origin position.start position.extent position.lines

/-- Left-over space makes the intervals grow, or lies around the grid, or there is none. -/
theorem axisPosition_cases (path : String) (m : AxisMeasure Rat) (axis : Axis)
    (start size expand anchor : Rat) :
    ((axisPosition path m axis start size expand anchor).Follows m
        (m.grid.grow (size - m.extent)) ∧
      (axisPosition path m axis start size expand anchor).start = start ∧
      sizeTolerance < size - m.extent ∧ 0 < m.grid.totalWeight) ∨
    ((axisPosition path m axis start size expand anchor).Follows m m.grid ∧
      ((axisPosition path m axis start size expand anchor).start = start ∨
        (axisPosition path m axis start size expand anchor).start =
          anchoredStart start size m.extent anchor)) := by
  by_cases hgrows : sizeTolerance < size - m.extent ∧ 0.0 < expand ∧ 0.0 < m.grid.totalWeight
  · have hanchored : ¬(sizeTolerance < size - m.extent ∧
        ¬(sizeTolerance < size - m.extent ∧ 0.0 < expand ∧ 0.0 < m.grid.totalWeight)) :=
      fun h => h.2 hgrows
    simp only [axisPosition, if_pos hgrows, if_neg hanchored]
    exact .inl ⟨⟨rfl, AxisMeasure.extent_eq _, rfl⟩, trivial, hgrows.1, by simpa using hgrows.2.2⟩
  · right
    simp only [axisPosition, if_neg hgrows]
    refine ⟨⟨rfl, AxisMeasure.extent_eq _, rfl⟩, ?_⟩
    split
    · exact .inr rfl
    · exact .inl rfl

/-- A grid that there is room for lies in its space, as it was measured or larger. Its intervals
take all of the slack, but a child at a place may reach beyond them. -/
theorem axisPosition_follows {m : AxisMeasure Rat} {children : List (Measured Rat)}
    {axis : Axis} (hm : m.Fits axis children) {size anchor : Rat}
    (hanchor : -1 ≤ anchor ∧ anchor ≤ 1) (hsize : m.extent ≤ size) (path : String)
    (start expand : Rat) :
    (∃ g, m.grid.Grown g ∧ (axisPosition path m axis start size expand anchor).Follows m g) ∧
      start ≤ (axisPosition path m axis start size expand anchor).start ∧
      (axisPosition path m axis start size expand anchor).start +
        (axisPosition path m axis start size expand anchor).extent ≤ start + size := by
  have hextent := m.extent_eq
  rcases axisPosition_cases path m axis start size expand anchor with
    ⟨hfollows, hstart, hslack, hweight⟩ | ⟨hfollows, hstart⟩
  · have htolerance : (0 : Rat) < sizeTolerance := by
      rw [sizeTolerance_eq]
      norm_num
    have hmax : max (m.grid.total + (size - m.extent)) m.high ≤
        max m.grid.total m.high + (size - m.extent) := by
      apply max_le
      · linarith [le_max_left m.grid.total m.high]
      · linarith [le_max_right m.grid.total m.high]
    have hgrown := GridAxis.grow_grown hm.sound (htolerance.trans hslack).le hweight
    refine ⟨⟨_, hgrown, hfollows⟩, hstart.ge, ?_⟩
    rw [hstart, hfollows.extent_eq, GridAxis.grow_total hm.sound _ hweight]
    linarith
  · refine ⟨⟨m.grid, .refl m.grid, hfollows⟩, ?_⟩
    rw [hfollows.extent_eq, ← hextent]
    rcases hstart with hstart | hstart
    · rw [hstart]
      exact ⟨le_refl start, add_le_add_right hsize start⟩
    · rw [hstart]
      have hroom : m.extent ≤ size + 0 := by linarith
      obtain ⟨hbegin, hend⟩ := anchoredStart_inside start hanchor (le_refl 0) hroom
      exact ⟨by linarith, by linarith⟩

namespace Done

variable {p : Positioned Rat} {children : List (Positioned Rat)}

/-- The grid of a group is positioned in its padded box, and makes up its content. -/
theorem grid_eq (h : p.Done settings Attribute.Ranged children) {axes : Pair (AxisMeasure Rat)}
    (haxes : p.measured.axes = some axes) :
    p.grid = some (gridPosition settings p.measured axes p.padded).1 ∧
      p.content = Box.ofStarts (gridPosition settings p.measured axes p.padded).1.start
        (gridPosition settings p.measured axes p.padded).1.extent := by
  have hpadded : p.padded = ((((outerBox settings p.measured p.cell).shrink
      p.measured.style.marginSides).shrink (Sides.all p.measured.style.border)).shrink
        p.measured.style.padding) := by
    rw [padded, h.borderBox_eq, h.outer_eq]
  have hboxes := h.boxes
  simp only [ofMeasured, haxes, ← hpadded] at hboxes
  exact ⟨congrArg grid hboxes, congrArg content hboxes⟩

/-- The content of a group lies inside its padding, and its grid as it was measured of the children,
or larger. -/
theorem exists_grid (hsettings : settings.Regular) (h : p.Done settings Attribute.Ranged children)
    (hchildren : ∀ c ∈ children, c.measured.element.Styled Attribute.Ranged)
    (hgroup : p.measured.element.kind = .group) :
    ∃ grid, p.grid = some grid ∧ p.content = Box.ofStarts grid.start grid.extent ∧
      p.padded.contains p.content 0 = true ∧
      ∀ axis, ∃ m g, AxisMeasure.Fits axis m (children.map (·.measured)) ∧ m.grid.Grown g ∧
        m.LaidOut g (grid.origin.on axis) (grid.start.on axis) (grid.extent.on axis)
          (grid.lines.on axis) := by
  obtain ⟨axes, haxes, -⟩ := h.measured.exists_axes hgroup
  have hfits := h.measured.axes_fit (List.forall_mem_map.mpr hchildren) haxes
  obtain ⟨hgrid, hcontent⟩ := h.grid_eq haxes
  have hroom (axis : Axis) : (axes.on axis).extent ≤ p.padded.extent axis := by
    rw [← h.measured.drawn_of_axes haxes]
    exact drawn_le_padded hsettings h hchildren axis
  have hinside (axis : Axis) := axisPosition_follows (hfits axis)
    (anchor_range hsettings h.measured.styled axis) (hroom axis) p.measured.path
    (p.padded.start axis) ((expansion p.measured).on axis)
  refine ⟨_, hgrid, hcontent, ?_, fun axis => ?_⟩
  · rw [hcontent, Box.contains_iff]
    intro axis
    obtain ⟨-, hstart, hstop⟩ := hinside axis
    rw [Box.start_ofStarts, Box.stop_ofStarts, sub_zero, add_zero]
    cases axis
    · exact ⟨hstart, hstop⟩
    · exact ⟨hstart, hstop⟩
  · obtain ⟨⟨g, hgrown, hfollows⟩, -, -⟩ := hinside axis
    refine ⟨axes.on axis, g, hfits axis, hgrown, ?_⟩
    cases axis
    · exact hfollows
    · exact hfollows

end Done

/-! ### Cells -/

variable {grid : GridPosition Rat} {c : Measured Rat} {cell : Box Rat}

theorem cellFor_of_place (h : cellFor grid c = .ok cell) {p : Pair Rat} (hplace : c.place? = some p)
    (axis : Axis) : cell.extent axis = c.natural.on axis ∧
      cell.start axis = grid.origin.on axis + p.on axis - c.natural.on axis / 2 := by
  simp only [cellFor, hplace] at h
  obtain rfl := Except.pure_eq_ok.mp h
  rw [Box.extent_around, Box.start_around]
  cases axis <;> exact ⟨rfl, rfl⟩

theorem cellFor_of_gridded (h : cellFor grid c = .ok cell) (hplace : c.place? = none)
    (axis : Axis) :
    (grid.lines.on axis)[((c.element.placement.on axis).start - 1).toNat]? =
        some (cell.start axis) ∧
      (grid.lines.on axis)[((c.element.placement.on axis).stop - 1).toNat]? =
        some (cell.stop axis) := by
  simp only [cellFor, hplace, Except.bind_eq_ok, Except.pure_eq_ok, lineAt_eq_ok] at h
  obtain ⟨left, hleft, top, htop, right, hright, bottom, hbottom, rfl⟩ := h
  cases axis
  · refine ⟨hleft, hright.trans (congrArg some ?_)⟩
    show right = left + (right - left)
    ring
  · refine ⟨htop, hbottom.trans (congrArg some ?_)⟩
    show bottom = top + (bottom - top)
    ring

/-- The cell of a child is as large as the child up to the tolerance, and lies in the content. -/
theorem cell_fits {axis : Axis} {m : AxisMeasure Rat} {children : List (Measured Rat)}
    {g : GridAxis Rat} (hm : m.Fits axis children) (hgrown : m.grid.Grown g)
    (hgrid : m.LaidOut g (grid.origin.on axis) (grid.start.on axis) (grid.extent.on axis)
      (grid.lines.on axis))
    (hc : c ∈ children) (hvalid : (c.element.placement.on axis).Valid)
    (h : cellFor grid c = .ok cell) :
    c.natural.on axis - 1e-9 ≤ cell.extent axis ∧ grid.start.on axis ≤ cell.start axis ∧
      cell.stop axis ≤ grid.start.on axis + grid.extent.on axis := by
  have horigin := hgrid.origin_eq
  have hextent := hgrid.extent_eq
  cases hplace : c.place? with
  | some p =>
    obtain ⟨hsize, hstart⟩ := cellFor_of_place h hplace axis
    obtain ⟨hlow, hhigh⟩ := hm.places c hc p hplace
    have hmax := le_max_right g.total m.high
    rw [Box.stop, hsize, hstart]
    refine ⟨?_, by linarith, by linarith⟩
    norm_num
  | none =>
    obtain ⟨hstart, hstop⟩ := cellFor_of_gridded h hplace axis
    have hlast := hm.lines c hc hplace
    have hsound := hgrown.sound hm.sound
    rw [hgrown.count_eq] at hlast
    rw [hgrid.lines_eq, g.positions_getElem? _ (by have := hvalid.le; omega)] at hstart
    rw [hgrid.lines_eq, g.positions_getElem? _ (by omega)] at hstop
    have hstart := Option.some.inj hstart
    have hstop := Option.some.inj hstop
    have hroom := (hm.room c hc hplace).grown hvalid hgrown
    have hfirst : 0 ≤ g.reach ((c.element.placement.on axis).start - 1).toNat :=
      hsound.reach_le (Nat.zero_le _)
    have hend : g.reach ((c.element.placement.on axis).stop - 1).toNat ≤ g.total := by
      rw [g.total_eq_reach]
      exact hsound.reach_le (by omega)
    have hmax := le_max_left g.total m.high
    have hlow := hm.low
    unfold AxisMeasure.HasRoom GridAxis.room at hroom
    unfold Box.stop at hstop ⊢
    exact ⟨by linarith, by linarith, by linarith⟩

namespace Done

variable {p c d : Positioned Rat} {children cs ds : List (Positioned Rat)}

omit grid cell in
theorem group_of_mem (h : p.Done settings Attribute.Ranged children) (hc : c ∈ children) :
    p.measured.element.kind = .group := by
  by_contra hgroup
  have hempty := h.measured.leaf hgroup
  rw [List.map_eq_nil_iff] at hempty
  simp [hempty] at hc

/-- A child has a cell in the content of its group that is large enough up to the tolerance. -/
theorem cell_of_mem (hsettings : settings.Regular) (h : p.Done settings Attribute.Ranged children)
    (hchildren : ∀ c ∈ children, c.measured.element.Styled Attribute.Ranged) (hc : c ∈ children) :
    (∀ axis, c.measured.natural.on axis - 1e-9 ≤ c.cell.extent axis) ∧
      p.content.contains c.cell 0 = true := by
  obtain ⟨grid, hgrid, hcontent, -, hlaid⟩ :=
    h.exists_grid hsettings hchildren (h.group_of_mem hc)
  have hfits (axis : Axis) : c.measured.natural.on axis - 1e-9 ≤ c.cell.extent axis ∧
      grid.start.on axis ≤ c.cell.start axis ∧
        c.cell.stop axis ≤ grid.start.on axis + grid.extent.on axis := by
    obtain ⟨m, g, hfits, hgrown, hlaid⟩ := hlaid axis
    exact cell_fits hfits hgrown hlaid (List.mem_map_of_mem hc) ((hchildren c hc).placement axis)
      (h.cells grid hgrid c hc)
  refine ⟨fun axis => (hfits axis).1, ?_⟩
  rw [Box.contains_iff]
  intro axis
  obtain ⟨-, hstart, hstop⟩ := hfits axis
  rw [hcontent, Box.start_ofStarts, Box.stop_ofStarts, sub_zero, add_zero]
  exact ⟨hstart, hstop⟩

theorem cell_contains_outer (hsettings : settings.Regular)
    (h : p.Done settings Attribute.Ranged children) {tolerance : Rat} (htolerance : 0 ≤ tolerance)
    (hcell : ∀ axis, p.measured.natural.on axis - tolerance ≤ p.cell.extent axis) :
    p.cell.contains p.outer tolerance = true := by
  rw [h.outer_eq]
  exact outerBox_inside hsettings h.measured.styled htolerance hcell

/-- Children of a group whose spans follow one another have cells that do. -/
theorem cells_apart (hsettings : settings.Regular) (h : p.Done settings Attribute.Ranged children)
    (hchildren : ∀ c ∈ children, c.measured.element.Styled Attribute.Ranged) (hc : c ∈ children)
    (hd : d ∈ children) (hplace : c.measured.place? = none) (hplace' : d.measured.place? = none)
    {axis : Axis} (hspans : (c.measured.element.placement.on axis).stop ≤
      (d.measured.element.placement.on axis).start) : c.cell.stop axis ≤ d.cell.start axis := by
  obtain ⟨grid, hgrid, -, -, hlaid⟩ := h.exists_grid hsettings hchildren (h.group_of_mem hc)
  obtain ⟨m, g, hfits, hgrown, hlaid⟩ := hlaid axis
  obtain ⟨-, hstop⟩ := cellFor_of_gridded (h.cells grid hgrid c hc) hplace axis
  obtain ⟨hstart, -⟩ := cellFor_of_gridded (h.cells grid hgrid d hd) hplace' axis
  rw [hlaid.lines_eq] at hstart hstop
  exact (hgrown.sound hfits.sound).positions_le (by omega) hstop hstart

/-- Only a node that is larger than its cell comes with a warning about that. -/
theorem of_overflow (h : p.Done settings Attribute.Ranged children) {axis : Axis}
    {needed available : Rat} {path : String}
    (hmem : .overflow axis needed available path ∈ p.warnings) :
    path = p.measured.path ∧ p.cell.extent axis + 1e-6 < p.measured.natural.on axis := by
  have overflow (axis' : Axis) (hmem : .overflow axis needed available path ∈
      overflowWarning p.measured (p.cell.extent axis') axis') :
      path = p.measured.path ∧ p.cell.extent axis + 1e-6 < p.measured.natural.on axis := by
    simp only [overflowWarning] at hmem
    split at hmem
    · rename_i hneeded
      rw [List.mem_singleton] at hmem
      obtain ⟨rfl, -, -, rfl⟩ := hmem
      exact ⟨rfl, hneeded⟩
    · simp at hmem
  have unused (axis' : Axis) (m : AxisMeasure Rat) (start size expand anchor : Rat) :
      .overflow axis needed available path ∉
        (axisPosition p.measured.path m axis' start size expand anchor).warnings := by
    simp only [axisPosition]
    split <;> simp
  rw [congrArg warnings h.boxes] at hmem
  simp only [ofMeasured] at hmem
  split at hmem
  · simp only [gridPosition, List.mem_append] at hmem
    rcases hmem with (hmem | hmem) | hmem | hmem
    · exact overflow .x hmem
    · exact overflow .y hmem
    · exact absurd hmem (unused _ _ _ _ _ _)
    · exact absurd hmem (unused _ _ _ _ _ _)
  · rcases List.mem_append.mp hmem with hmem | hmem
    · exact overflow .x hmem
    · exact overflow .y hmem

end Done

end Positioned

end GridDiagram
