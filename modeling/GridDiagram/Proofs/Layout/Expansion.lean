import GridDiagram.Proofs.Layout.Fit

/-!
Expansion, in rationals. The intervals with a weight take all of the space that is left over, and
with them the grid. Children at a place of their own stay where they are, so content that ends with
such a child, past the last grid line, takes less of the space than there is.
-/

namespace GridDiagram

namespace GridAxis

variable {g : GridAxis Rat}

theorem Sound.total_nonneg (hg : g.Sound) : 0 ≤ g.total := by
  have hreach : g.reach 0 ≤ g.reach g.count := hg.reach_le (Nat.zero_le _)
  have hfirst : g.reach 0 = 0 := rfl
  rwa [hfirst, ← g.total_eq_reach] at hreach

theorem Sound.totalWeight_pos (hg : g.Sound) (h : ∃ i ∈ g.intervals, 0 < i.weight) :
    0 < g.totalWeight := by
  obtain ⟨i, hi, hweight⟩ := h
  have hnonneg : ∀ x ∈ g.intervals.map (·.weight), 0 ≤ x :=
    List.forall_mem_map.mpr fun j hj => (hg j hj).2
  rw [totalWeight, Scalar.sum_eq_sum]
  exact hweight.trans_le (List.single_le_sum hnonneg _ (List.mem_map_of_mem hi))

end GridAxis

namespace AxisMeasure

variable {axis : Axis} {children : List (Measured Rat)} {m : AxisMeasure Rat}

/-- The measure reaches up as far as the grid exactly if no child ends past the last line. -/
theorem ofChildren_high_le_total {style : Properties Rat} (hm : m.Fits axis children)
    (h : ofChildren style children axis = .ok m) :
    m.high ≤ m.grid.total ↔ ∀ c ∈ children, EndsBy axis m.grid.total c := by
  simp only [ofChildren, Except.bind_eq_ok, Except.pure_eq_ok] at h
  obtain ⟨grid, -, rfl⟩ := h
  rw [foldl_highOf_le_iff, Scalar.zero_eq]
  exact and_iff_right hm.sound.total_nonneg

/-- When the grid takes up space, the content grows by as much, but for what a child reaches past
the last line. -/
theorem grow_extent (hm : m.Fits axis children) (hweight : 0 < m.grid.totalWeight) {slack : Rat}
    (hslack : 0 ≤ slack) : max (m.grid.grow slack).total m.high - m.low =
      m.extent + slack - max 0 (min (m.high - m.grid.total) slack) := by
  rw [GridAxis.grow_total hm.sound slack hweight, m.extent_eq]
  rcases le_total m.high m.grid.total with hinside | hpast
  · have hless : min (m.high - m.grid.total) slack ≤ 0 :=
      min_le_of_left_le (sub_nonpos.mpr hinside)
    rw [max_eq_left hinside, max_eq_left hless, max_eq_left (by linarith)]
    ring
  · have hmore : 0 ≤ min (m.high - m.grid.total) slack := le_min (sub_nonneg.mpr hpast) hslack
    rw [max_eq_right hpast, max_eq_right hmore]
    rcases le_total (m.high - m.grid.total) slack with hshort | hlong
    · rw [min_eq_left hshort, max_eq_left (by linarith)]
      ring
    · rw [min_eq_right hlong, max_eq_right (by linarith)]
      ring

end AxisMeasure

namespace Positioned

variable {settings : LayoutSettings Rat}

/-- Under expansion the grid grows from the start of the space. -/
theorem axisPosition_grows {m : AxisMeasure Rat} {size expand : Rat}
    (hslack : m.extent + 1e-9 < size) (hexpand : 0 < expand) (hweight : 0 < m.grid.totalWeight)
    (path : String) (axis : Axis) (start anchor : Rat) :
    (axisPosition path m axis start size expand anchor).start = start ∧
      (axisPosition path m axis start size expand anchor).extent =
        max (m.grid.grow (size - m.extent)).total m.high - m.low := by
  have hgrows : sizeTolerance < size - m.extent ∧ 0.0 < expand ∧ 0.0 < m.grid.totalWeight := by
    rw [sizeTolerance_eq, Scalar.zero_eq]
    exact ⟨by linarith, hexpand, hweight⟩
  have hanchored : ¬(sizeTolerance < size - m.extent ∧
      ¬(sizeTolerance < size - m.extent ∧ 0.0 < expand ∧ 0.0 < m.grid.totalWeight)) :=
    fun h => h.2 hgrows
  simp only [axisPosition, if_pos hgrows, if_neg hanchored]
  exact ⟨trivial, AxisMeasure.extent_eq _⟩

theorem Done.content_on {p : Positioned Rat} {children : List (Positioned Rat)}
    (h : p.Done settings Attribute.Ranged children) {axes : Pair (AxisMeasure Rat)}
    (haxes : p.measured.axes = some axes) (axis : Axis) :
    p.content.start axis = (axisPosition p.measured.path (axes.on axis) axis (p.padded.start axis)
        (p.padded.extent axis) ((expansion p.measured).on axis)
        ((anchor settings p.measured).on axis)).start ∧
      p.content.extent axis = (axisPosition p.measured.path (axes.on axis) axis
        (p.padded.start axis) (p.padded.extent axis) ((expansion p.measured).on axis)
        ((anchor settings p.measured).on axis)).extent := by
  rw [(h.grid_eq haxes).2]
  cases axis
  · exact ⟨rfl, rfl⟩
  · exact ⟨rfl, rfl⟩

end Positioned

/-- A layout has space left over on an axis, and intervals that are to grow into it. -/
def Positioned.Expands (p : Positioned Rat) (axes : Pair (AxisMeasure Rat)) (axis : Axis) : Prop :=
  0 < (expansion p.measured).on axis ∧ (∃ i ∈ (axes.on axis).grid.intervals, 0 < i.weight) ∧
    (axes.on axis).extent + 1e-9 < p.padded.extent axis

instance (p : Positioned Rat) (axes : Pair (AxisMeasure Rat)) (axis : Axis) :
    Decidable (p.Expands axes axis) :=
  inferInstanceAs (Decidable (_ ∧ _))

/-- A layout that expands into left-over space on an axis starts with its padded box. It covers that
box if no child ends past the last grid line as it was measured, and else falls short of it by as
much as one does, or by all the space that was left over. -/
theorem positioned_expansion (settings : LayoutSettings Rat) (t : DiagramTree Rat)
    (ht : t.Prepared) (size : Option (Pair Rat)) (p : Tree (Positioned Rat))
    (h : positioned settings t size = .ok p) (s : Tree (Positioned Rat)) (hs : s ∈ p.subtrees)
    (axes : Pair (AxisMeasure Rat)) (haxes : s.value.measured.axes = some axes) (axis : Axis)
    (hexpands : s.value.Expands axes axis) :
    s.value.content.start axis = s.value.padded.start axis ∧
    s.value.content.extent axis = s.value.padded.extent axis -
      max 0 (min ((axes.on axis).high - (axes.on axis).grid.total)
        (s.value.padded.extent axis - (axes.on axis).extent)) ∧
    (s.value.content.extent axis = s.value.padded.extent axis ↔
      ∀ c ∈ s.children,
        AxisMeasure.EndsBy axis (axes.on axis).grid.total c.value.measured) := by
  obtain ⟨hexpand, hweight, hslack⟩ := hexpands
  have hdone := positioned_done ht.ranged h
  have hself : s.value.Done settings Attribute.Ranged (s.children.map Tree.value) := hdone s hs
  have hstyled : ∀ c ∈ (s.children.map Tree.value).map (·.measured),
      c.element.Styled Attribute.Ranged := by
    rw [List.forall_mem_map]
    exact styled_of_done hdone hs
  obtain ⟨_, hsome, hmeasure⟩ := hself.measured.exists_axes (hself.measured.group_of_axes haxes)
  obtain rfl := Option.some.inj (haxes.symm.trans hsome)
  have hfits := hself.measured.axes_fit hstyled haxes axis
  have htotal := hfits.sound.totalWeight_pos hweight
  obtain ⟨hstart, hextent⟩ := hself.content_on haxes axis
  obtain ⟨hgrown, hgrownExtent⟩ := Positioned.axisPosition_grows hslack hexpand htotal
    s.value.measured.path axis (s.value.padded.start axis)
    ((Positioned.anchor settings s.value.measured).on axis)
  have hleft : 0 < s.value.padded.extent axis - (axes.on axis).extent := by
    norm_num at hslack
    linarith
  rw [hgrownExtent, AxisMeasure.grow_extent hfits htotal hleft.le, add_sub_cancel] at hextent
  refine ⟨hstart.trans hgrown, hextent, ?_⟩
  have hends := AxisMeasure.ofChildren_high_le_total hfits (hmeasure axis)
  simp only [List.forall_mem_map] at hends
  rw [← hends, hextent, sub_eq_self]
  constructor
  · intro hzero
    have hmin := (le_max_right _ _).trans hzero.le
    rcases min_le_iff.mp hmin with hhigh | hnone
    · exact sub_nonpos.mp hhigh
    · exact absurd hleft (not_lt.mpr hnone)
  · intro hhigh
    exact max_eq_left (min_le_of_left_le (sub_nonpos.mpr hhigh))

/-- The tree of a source as it is laid out. -/
def preparedTree (m : MarkupTree) : Except (DiagramError Rat) (DiagramTree Rat) := do
  let d ← (Document.ofMarkup m).mapError .structural
  let t ← d.expanded [] rowOptions.maxTemplateDepth
  let sheet ← (StyleSheet.ofDeclarations d.styles d.rules rowOptions.defaults).mapError .style
  return sheet.styled t

theorem preparedTree_prepared {m : MarkupTree} {t : DiagramTree Rat} (h : preparedTree m = .ok t) :
    t.Prepared := by
  simp only [preparedTree, Document.expanded, Except.bind_eq_ok, Except.mapError_eq_ok,
    Except.pure_eq_ok] at h
  obtain ⟨d, hd, _, ⟨r, hr, x, hx, _, -, rfl⟩, sheet, hsheet, rfl⟩ := h
  obtain ⟨hstyles, hrules⟩ := Document.ofMarkup_declarations hd
  exact .styled hd (.scope .nil hd hr) hx hstyles hrules (fun _ _ => CompileOptions.mem_defaults)
    hsheet

/-- The source of a layout with an interval to grow and a square at a place. -/
def squareMarkup (place : String) : MarkupTree :=
  .node { tag := "diagram", attributes := [("minx", "1 10 2 +1"), ("expand", "1 0")] }
    [.node { tag := "rect", attributes :=
      [("place", place), ("width", "10"), ("height", "10"), ("stroke", "none")] } []]

/-- The boxes of `squareMarkup` in ten times the width of the square. -/
def positionedSquare (place : String) : Except (DiagramError Rat) (Tree (Positioned Rat)) := do
  let t ← preparedTree (squareMarkup place)
  (positioned (rowOptions.layoutSettings plainWorld) t (some ⟨100, 10⟩)).mapError .layout

theorem squareMarkup_inside_covered : ∃ t p axes, preparedTree (squareMarkup "5 5") = .ok t ∧
    positioned (rowOptions.layoutSettings plainWorld) t (some ⟨100, 10⟩) = .ok p ∧
    p.value.measured.axes = some axes ∧ p.value.Expands axes .x ∧
    p.value.content.start .x = p.value.padded.start .x ∧
    p.value.content.extent .x = p.value.padded.extent .x := by
  have hany : (positionedSquare "5 5").toOption.any (fun p =>
      decide (∃ axes ∈ p.value.measured.axes, p.value.Expands axes .x ∧
        (axes.on .x).high ≤ (axes.on .x).grid.total)) = true := by
    decide +kernel
  obtain ⟨p, hp, axes, haxes, hexpands, hhigh⟩ := Except.exists_ok_of_any hany
  simp only [positionedSquare, Except.bind_eq_ok, Except.mapError_eq_ok] at hp
  obtain ⟨t, ht, hp⟩ := hp
  obtain ⟨hstart, hextent, -⟩ := positioned_expansion _ t (preparedTree_prepared ht) _ p hp p
    p.self_mem_subtrees axes haxes .x hexpands
  rw [max_eq_left (min_le_of_left_le (sub_nonpos.mpr hhigh)), sub_zero] at hextent
  exact ⟨t, p, axes, ht, hp, haxes, hexpands, hstart, hextent⟩

/-- A square that ends at 55, past the line at 10, keeps the content from covering all 100. -/
theorem squareMarkup_past_not_covered : ∃ t p, preparedTree (squareMarkup "50 5") = .ok t ∧
    positioned (rowOptions.layoutSettings plainWorld) t (some ⟨100, 10⟩) = .ok p ∧
    ∃ axes, p.value.measured.axes = some axes ∧ p.value.Expands axes .x ∧
      p.value.padded.extent .x = 100 ∧ p.value.content.extent .x = 55 := by
  have hany : (positionedSquare "50 5").toOption.any (fun p =>
      decide (∃ axes ∈ p.value.measured.axes, p.value.Expands axes .x ∧
        p.value.padded.extent .x = 100 ∧ p.value.content.extent .x = 55)) = true := by
    decide +kernel
  obtain ⟨p, hp, hshort⟩ := Except.exists_ok_of_any hany
  simp only [positionedSquare, Except.bind_eq_ok, Except.mapError_eq_ok] at hp
  obtain ⟨t, ht, hp⟩ := hp
  exact ⟨t, p, ht, hp, hshort⟩

end GridDiagram
