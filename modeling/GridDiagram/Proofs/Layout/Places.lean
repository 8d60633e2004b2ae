import GridDiagram.Proofs.Layout.Expansion
import GridDiagram.Proofs.Layout.Floors

/-!
Children at a place of their own, in rationals. They change nothing of the intervals of their group,
and stretch its content as far as they reach. Wherever the group comes to lie and however much it
grows, they lie around their places, seen from its first grid line, in their natural sizes.
-/

namespace GridDiagram

/-! ### No size below zero

Whatever the spans of the children are, the intervals stay sound. -/

namespace GridAxis

variable {g g' : GridAxis Rat} {s : Span}

theorem Sound.widen (hg : g.Sound) (s : Span) {share : Rat} (hshare : 0 ≤ share) :
    (g.widen s share).Sound := by
  intro i hi
  simp only [GridAxis.widen, List.mem_append, List.mem_map] at hi
  rcases hi with (hi | ⟨j, hj, rfl⟩) | hi
  · exact hg i (List.mem_of_mem_take hi)
  · obtain ⟨hsize, hweight⟩ := hg j (List.mem_of_mem_take (List.mem_of_mem_drop hj))
    unfold widened
    split
    · exact ⟨hsize, hweight⟩
    · exact ⟨add_nonneg hsize hshare, hweight⟩
  · exact hg i (List.mem_of_mem_drop hi)

theorem Sound.addSpan (hg : g.Sound) {size : Rat} (h : g.addSpan s size = .ok g') : g'.Sound := by
  obtain ⟨-, rfl⟩ | ⟨hdeficit, -, rfl⟩ := addSpan_cases h
  · exact hg
  · refine hg.widen s (div_nonneg ?_ (Int.cast_nonneg (Int.natCast_nonneg _)))
    rw [sizeTolerance_eq] at hdeficit
    norm_num at hdeficit
    linarith

end GridAxis

namespace AxisMeasure

variable {axis : Axis} {children : List (Measured Rat)} {m : AxisMeasure Rat}

theorem sizeGrid_sound {constraints : List (IntervalConstraint Rat)} {g : GridAxis Rat}
    (h : sizeGrid axis constraints children = .ok g) : g.Sound := by
  simp only [sizeGrid, Except.bind_eq_ok, Except.mapError_eq_ok, Except.pure_eq_ok] at h
  obtain ⟨floored, hfloored, celled, hcelled, spanned, hspanned, rfl⟩ := h
  have hfloor := (GridAxis.applyConstraints_grown hfloored).sound (GridAxis.ofLineCount_sound _)
  have hcells : celled.Sound := by
    refine Except.foldlM_ok hcelled hfloor fun c _ g g' hg hstep => ?_
    simp only [addCell] at hstep
    split at hstep
    · exact (GridAxis.addCell_grown (Except.mapError_eq_ok.mp hstep)).sound hg
    · obtain rfl := Except.ok.inj hstep
      exact hg
  have hspans : spanned.Sound :=
    Except.foldlM_ok hspanned hcells fun c _ g g' hg hstep =>
      hg.addSpan (Except.mapError_eq_ok.mp hstep)
  intro i hi
  obtain ⟨j, hj, rfl⟩ := List.mem_map.mp hi
  exact hspans j hj

/-! ### The stretch that holds a group -/

theorem ofChildren_grid (style : Properties Rat) (children : List (Measured Rat)) (axis : Axis) :
    (ofChildren style children axis).map (·.grid) =
      sizeGrid axis (style.constraints axis) (withoutPlace children) := by
  unfold ofChildren withoutPlace
  cases sizeGrid axis (style.constraints axis) (children.filter (·.place?.isNone)) <;> rfl

theorem withoutPlace_withoutPlace (children : List (Measured Rat)) :
    withoutPlace (withoutPlace children) = withoutPlace children := by
  simp [withoutPlace]

/-- The intervals of a group, and why it has none, are those that it has without the children at a
place of their own. -/
theorem ofChildren_withoutPlace (style : Properties Rat) (children : List (Measured Rat))
    (axis : Axis) : (ofChildren style children axis).map (·.grid) =
      (ofChildren style (withoutPlace children) axis).map (·.grid) := by
  rw [ofChildren_grid, ofChildren_grid, withoutPlace_withoutPlace]

/-- The stretch from `a` to `b`, seen from the first grid line, holds this line, the last one, and
every child at a place of its own. -/
structure Holds (axis : Axis) (m : AxisMeasure Rat) (children : List (Measured Rat)) (a b : Rat) :
    Prop where
  first : a ≤ 0 ∧ 0 ≤ b
  last : a ≤ m.grid.total ∧ m.grid.total ≤ b
  places : ∀ c ∈ children, BeginsFrom axis a c ∧ EndsBy axis b c

theorem ofChildren_holds {style : Properties Rat} (h : ofChildren style children axis = .ok m)
    {a b : Rat} : m.Holds axis children a b ↔ a ≤ m.low ∧ max m.grid.total m.high ≤ b := by
  simp only [ofChildren, Except.bind_eq_ok, Except.pure_eq_ok] at h
  obtain ⟨grid, hgrid, rfl⟩ := h
  have htotal := (sizeGrid_sound hgrid).total_nonneg
  rw [max_le_iff, le_foldl_lowOf_iff, foldl_highOf_le_iff, Scalar.zero_eq]
  constructor
  · rintro ⟨⟨ha, hb⟩, ⟨-, hgrid⟩, hplaces⟩
    exact ⟨⟨ha, fun c hc => (hplaces c hc).1⟩, hgrid, hb, fun c hc => (hplaces c hc).2⟩
  · rintro ⟨⟨ha, hbegins⟩, hgrid, hb, hends⟩
    exact ⟨⟨ha, hb⟩, ⟨ha.trans htotal, hgrid⟩, fun c hc => ⟨hbegins c hc, hends c hc⟩⟩

end AxisMeasure

/-! ### Around the place of a child -/

theorem GridAxis.positions_head? (g : GridAxis Rat) (origin : Rat) :
    (g.positions origin).head? = some origin := by
  unfold positions
  cases g.intervals <;> rfl

namespace Positioned

variable {settings : LayoutSettings Rat} {m : Measured Rat}

/-- The first grid line of a group lies where its children at a place of their own are counted
from. -/
theorem gridPosition_head? (settings : LayoutSettings Rat) (m : Measured Rat)
    (axes : Pair (AxisMeasure Rat)) (padded : Box Rat) (axis : Axis) :
    ((gridPosition settings m axes padded).1.lines.on axis).head? =
      some ((gridPosition settings m axes padded).1.origin.on axis) := by
  cases axis
  · exact GridAxis.positions_head? _ _
  · exact GridAxis.positions_head? _ _

/-- A node fills a cell of its natural size, whatever its anchor is and however it expands. -/
theorem outerBox_of_exact (settings : LayoutSettings Rat) {cell : Box Rat} {axis : Axis}
    (h : cell.extent axis = m.natural.on axis) :
    (outerBox settings m cell).extent axis = m.natural.on axis ∧
      (outerBox settings m cell).start axis = cell.start axis := by
  have htaken : takenSize ((expansion m).on axis) (m.natural.on axis) (cell.extent axis) =
      m.natural.on axis := by
    rw [takenSize, h, if_neg]
    exact fun hless => lt_irrefl _ hless.2
  simp only [outerBox, Box.extent_ofStarts, Box.start_ofStarts, Pair.on_ofAxes, htaken]
  refine ⟨trivial, ?_⟩
  rw [h, anchoredStart_eq, sub_self, zero_mul, add_zero]

theorem Done.outer_of_place {p c : Positioned Rat} {children cs : List (Positioned Rat)}
    {grid : GridPosition Rat} {place : Pair Rat} (hp : p.Done settings Attribute.Ranged children)
    (hc : c.Done settings Attribute.Ranged cs) (hmem : c ∈ children) (hgrid : p.grid = some grid)
    (hplace : c.measured.place? = some place) (axis : Axis) :
    c.outer.extent axis = c.measured.natural.on axis ∧
      c.outer.center.on axis = grid.origin.on axis + place.on axis := by
  obtain ⟨hextent, hstart⟩ := cellFor_of_place (hp.cells grid hgrid c hmem) hplace axis
  obtain ⟨houter, hbegin⟩ := outerBox_of_exact settings hextent
  rw [Box.center_on, hc.outer_eq, houter, hbegin, hstart]
  exact ⟨rfl, by ring⟩

end Positioned

/-- In the final geometry a child lies around a point, seen from the first line of its group on
either axis, in its natural size. -/
structure Resolved.LiesAround (group child : Resolved Rat) (point natural : Pair Rat) : Prop where
  extent : ∀ axis, child.placed.extent axis = natural.on axis
  center : ∃ lines, group.gridLines = some lines ∧ ∀ axis, ∃ first,
    (lines.on axis).head? = some first ∧ child.placed.center.on axis = first + point.on axis

theorem forall₂_subtrees_resolveTree {R : Tree (Resolved Rat) → Tree (Positioned Rat) → Prop}
    {p : Tree (Positioned Rat)} {offset : Pair Rat}
    (h : ∀ q ∈ p.subtrees, ∀ shift, R
      (.node (Resolved.ofPositioned shift q.value) (q.children.map (resolveTree shift))) q) :
    List.Forall₂ R (resolveTree offset p).subtrees p.subtrees := by
  induction p using Tree.induct generalizing offset with
  | step p ps ih =>
    obtain ⟨hself, hps⟩ := Tree.forall_subtrees_node.mp h
    rw [resolveTree, resolveTrees_eq_map, Tree.subtrees_node, Tree.subtrees_node, List.flatMap_map]
    exact .cons (hself _) (.flatMap fun q hq => ih q hq (hps q hq))

theorem liesAround_of_place {settings : LayoutSettings Rat} {p q d : Tree (Positioned Rat)}
    (hp : p.Local (Positioned.Done settings Attribute.Ranged)) (hq : q ∈ p.subtrees)
    (hd : d ∈ q.children) {place : Pair Rat} (hplace : d.value.measured.place? = some place)
    (shift : Pair Rat) :
    (Resolved.ofPositioned shift q.value).LiesAround (resolveTree shift d).value place
      d.value.measured.natural := by
  have hself : q.value.Done settings Attribute.Ranged (q.children.map Tree.value) := hp q hq
  have hchild := hp d (Tree.mem_subtrees_of_mem_children hq hd)
  have hmem : d.value ∈ q.children.map Tree.value := List.mem_map_of_mem hd
  obtain ⟨axes, haxes, -⟩ := hself.measured.exists_axes (hself.group_of_mem hmem)
  obtain ⟨hgrid, -⟩ := hself.grid_eq haxes
  have hfirst := Positioned.gridPosition_head? settings q.value.measured axes q.value.padded
  generalize (Positioned.gridPosition settings q.value.measured axes q.value.padded).1 = grid
    at hgrid hfirst
  obtain ⟨lines, hlines, hshifted⟩ := Resolved.ofPositioned_gridLines shift hgrid
  have houter := hself.outer_of_place hchild hmem hgrid hplace
  rw [resolveTree_value]
  refine ⟨fun axis => ?_, lines, hlines, fun axis =>
    ⟨grid.origin.on axis + shift.on axis, ?_, ?_⟩⟩
  · rw [Resolved.ofPositioned_placed, Box.extent_moved]
    exact (houter axis).1
  · rw [hshifted, List.head?_map, hfirst, Option.map_some]
  · obtain ⟨-, hcenter⟩ := houter axis
    rw [Box.center_on] at hcenter
    rw [Resolved.ofPositioned_placed, Box.center_on, Box.start_moved, Box.extent_moved]
    linarith

/-- Children at a place of their own. The intervals of a group are what they are without them, or
there are none for the same reason. The content of a group is as long as the shortest stretch that
holds its grid and them. And whatever space a layout has and takes, each lies around its place, seen
from the first line of its group, in its natural size, apart from its own shift. -/
theorem places_outside_grid (settings : LayoutSettings Rat) :
    (∀ style children axis, (AxisMeasure.ofChildren style children axis).map (·.grid) =
      (AxisMeasure.ofChildren style (AxisMeasure.withoutPlace children) axis).map (·.grid)) ∧
    (∀ e path children m, e.kind = .group →
      Measured.ofElement settings e path children = .ok m →
      ∃ axes, m.axes = some axes ∧ ∀ axis, ∃ a b, (axes.on axis).Holds axis children a b ∧
        (∀ a' b', (axes.on axis).Holds axis children a' b' → a' ≤ a ∧ b ≤ b') ∧
        m.content.on axis = b - a) ∧
    ∀ t size l, t.Prepared → layout settings t size = .ok l →
      ∃ p, positioned settings t size = .ok p ∧
        List.Forall₂ (fun s q => List.Forall₂ (fun c d => ∀ place,
          d.value.measured.place? = some place →
            s.value.LiesAround c.value place d.value.measured.natural) s.children q.children)
          l.tree.subtrees p.subtrees := by
  refine ⟨AxisMeasure.ofChildren_withoutPlace, ?_, ?_⟩
  · intro e path children m hgroup h
    rw [Measured.ofElement, if_pos hgroup] at h
    simp only [Except.bind_eq_ok, Except.pure_eq_ok] at h
    obtain ⟨x, hx, y, hy, rfl⟩ := h
    have hmeasure (axis : Axis) : AxisMeasure.ofChildren e.effective children axis =
        .ok ((⟨x, y⟩ : Pair (AxisMeasure Rat)).on axis) := by
      cases axis
      · exact hx
      · exact hy
    refine ⟨⟨x, y⟩, rfl, fun axis => ?_⟩
    have hholds {a b : Rat} := AxisMeasure.ofChildren_holds (a := a) (b := b) (hmeasure axis)
    refine ⟨_, _, hholds.mpr ⟨le_refl _, le_refl _⟩, fun a' b' h => hholds.mp h, ?_⟩
    rw [← AxisMeasure.extent_eq]
    cases axis <;> rfl
  · intro t size l ht h
    obtain ⟨p, hp, htree, -, hdone, -⟩ := layout_subtrees ht.ranged h
    refine ⟨p, hp, ?_⟩
    rw [htree]
    refine forall₂_subtrees_resolveTree fun q hq shift => ?_
    rw [Tree.children_node, Tree.value_node, List.forall₂_map_left_iff]
    exact List.forall₂_same.mpr fun d hd place hplace =>
      liesAround_of_place hdone hq hd hplace shift

/-- The square of `squareMarkup` around 50, past the line at 10: the content reaches up to 55, and
in the final geometry the square lies around its place. -/
theorem squareMarkup_lies_around : ∃ t l p, preparedTree (squareMarkup "50 5") = .ok t ∧
    layout (rowOptions.layoutSettings plainWorld) t (some ⟨100, 10⟩) = .ok l ∧
    positioned (rowOptions.layoutSettings plainWorld) t (some ⟨100, 10⟩) = .ok p ∧
    (∃ axes, p.value.measured.axes = some axes ∧ ∃ a b,
      (axes.on .x).Holds .x (p.children.map (·.value.measured)) a b ∧
      p.value.measured.content.x = b - a) ∧
    ∃ c ∈ l.tree.children, l.tree.value.LiesAround c.value ⟨50, 5⟩ ⟨10, 10⟩ := by
  have hany : (positionedSquare "50 5").toOption.any (fun p =>
      decide (p.children.map (fun d => (d.value.measured.place?, d.value.measured.natural)) =
        [(some ⟨50, 5⟩, ⟨10, 10⟩)])) = true := by
    decide +kernel
  obtain ⟨p, hp, hplaces⟩ := Except.exists_ok_of_any hany
  simp only [positionedSquare, Except.bind_eq_ok, Except.mapError_eq_ok] at hp
  obtain ⟨t, ht, hp⟩ := hp
  have hprepared := preparedTree_prepared ht
  have hdone := positioned_done hprepared.ranged hp
  have hl : layout (rowOptions.layoutSettings plainWorld) t (some ⟨100, 10⟩) =
      .ok ⟨resolveTree ⟨0.0, 0.0⟩ p, p.preorder.flatMap (·.warnings)⟩ := by
    simp only [layout, hp, checkFinished_eq_ok hdone, bind, Except.bind, pure, Except.pure]
  obtain ⟨-, hextent, haround⟩ := places_outside_grid (rowOptions.layoutSettings plainWorld)
  obtain ⟨d, hd⟩ : ∃ d, p.children = [d] := List.length_eq_one_iff.mp (by
    simpa using congrArg List.length hplaces)
  simp only [hd, List.map_cons, List.map_nil, List.cons.injEq, Prod.mk.injEq, and_true] at hplaces
  refine ⟨t, _, p, ht, hl, hp, ?_, ?_⟩
  · have hself := hdone.self
    have hgroup := hself.group_of_mem (c := d.value) (by simp [hd])
    obtain ⟨axes, haxes, hall⟩ := hextent _ _ _ _ hgroup hself.measured.sizes
    obtain ⟨a, b, hholds, -, hcontent⟩ := hall .x
    rw [List.map_map] at hholds
    exact ⟨axes, haxes, a, b, hholds, hcontent⟩
  · obtain ⟨p', hp', hall⟩ := haround t _ _ hprepared hl
    obtain rfl := Except.ok.inj (hp.symm.trans hp')
    obtain ⟨e, es⟩ := p
    obtain rfl : es = [d] := hd
    simp only [resolveTree, resolveTrees_eq_map, Tree.subtrees_node, List.forall₂_cons,
      Tree.children_node, List.map_cons, List.map_nil] at hall ⊢
    refine ⟨_, List.mem_singleton_self _, ?_⟩
    rw [← hplaces.2]
    exact hall.1.1 _ hplaces.1

end GridDiagram
