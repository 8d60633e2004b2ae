import GridDiagram.Proofs.Compile
import GridDiagram.Proofs.Layout.Cells

/-!
Layouts of trees that were read, expanded and styled, in rationals. Every node but the root has a
cell that is large enough, and everything stays inside what is around it, up to the tolerance of the
grid.
-/

namespace GridDiagram

/-- A tree as it is laid out: that of a document that was read, expanded with the templates of such
documents and styled with declarations that were read. What the style sheet gives by default besides
are sizes of fonts. -/
inductive DiagramTree.Prepared : DiagramTree Rat → Prop where
  | styled {m : MarkupTree} {d : Document Rat} {r : Registry Rat} {t : DiagramTree Rat}
      {styles rules : List (DiagramTree Rat)} {defaults : Tag → Properties Rat}
      {sheet : StyleSheet Rat}
      (hd : Document.ofMarkup m = .ok d) (hr : r.Accepted) (ht : r.expand d.root = .ok t)
      (hstyles : ∀ s ∈ styles, ∃ m, DiagramTree.ofMarkup m = .ok s)
      (hrules : ∀ s ∈ rules, ∃ m, DiagramTree.ofMarkup m = .ok s)
      (hdefaults : ∀ tag, ∀ p ∈ defaults tag, tag = .text ∧ p.1 = .fontSize)
      (hsheet : StyleSheet.ofDeclarations styles rules defaults = .ok sheet) :
      Prepared (sheet.styled t)

theorem DiagramTree.Prepared.ranged {t : DiagramTree Rat} (h : t.Prepared) :
    t.Styled Attribute.Ranged := by
  obtain ⟨hd, hr, ht, hstyles, hrules, hdefaults, hsheet⟩ := h
  have read {ts : List (DiagramTree Rat)} (hts : ∀ s ∈ ts, ∃ m, ofMarkup m = .ok s) :
      ∀ s ∈ ts, WellFormed s := by
    intro s hs
    obtain ⟨m, hm⟩ := hts s hs
    exact (ofMarkup_wellFormed hm).1
  have hexpanded := hr.plain.expand (Document.ofMarkup_wellFormed hd).root ht
  have hsound := StyleSheet.sound_of_read (fun _ _ h => h) Tag.defaults_ranged (read hstyles)
    (read hrules) hdefaults hsheet
  exact hsound.styled (fun _ _ h => h) hexpanded

theorem Document.compile_prepared {m : MarkupTree} {d : Document Rat} {world : Surroundings Rat}
    {options : CompileOptions Rat} {shared : Registry Rat} {c : Compiled Rat}
    (hd : ofMarkup m = .ok d) (hshared : shared.Accepted)
    (h : d.compile world options shared = .ok c) :
    ∃ t l, t.Prepared ∧ layout (options.layoutSettings world) t options.size = .ok l ∧
      c.warnings = l.warnings := by
  simp only [compile, expanded, Except.bind_eq_ok, Except.mapError_eq_ok, Except.pure_eq_ok] at h
  obtain ⟨t, ⟨r, hr, x, hx, _, -, rfl⟩, sheet, hsheet, l, hl, _, -, rfl⟩ := h
  obtain ⟨hstyles, hrules⟩ := ofMarkup_declarations hd
  exact ⟨sheet.styled x, l, .styled hd (.scope hshared hd hr) hx hstyles hrules
    (fun _ _ => CompileOptions.mem_defaults) hsheet, hl, rfl⟩

/-! ### Final geometry -/

/-- How much two boxes overlap on an axis. A gap between them is a negative overlap. -/
def Box.overlap (b c : Box Rat) (axis : Axis) : Rat :=
  min (b.stop axis) (c.stop axis) - max (b.start axis) (c.start axis)

theorem Box.overlap_moved (b c : Box Rat) (d : Pair Rat) (axis : Axis) :
    (b.moved d).overlap (c.moved d) axis = b.overlap c axis := by
  simp only [overlap, start_moved, stop_moved, min_add_add_right, max_add_add_right]
  ring

/-- Two spans have no interval in common. -/
def Span.Disjoint (s t : Span) : Prop :=
  s.stop ≤ t.start ∨ t.stop ≤ s.start

namespace Resolved

/-- The shift that a node has of its own. -/
def translation (r : Resolved Rat) : Pair Rat :=
  (r.style.get? .translate).getD ⟨0.0, 0.0⟩

/-- The outer box of a node without the shift of its own. -/
def placed (r : Resolved Rat) : Box Rat :=
  r.outer.moved ⟨-r.translation.x, -r.translation.y⟩

/-- The box inside the padding of a node. -/
def padded (r : Resolved Rat) : Box Rat :=
  (r.borderBox.shrink (Sides.all r.style.border)).shrink r.style.padding

theorem ofPositioned_placed (offset : Pair Rat) (p : Positioned Rat) :
    (ofPositioned (shiftOf offset p.measured) p).placed = p.outer.moved offset := by
  have hback : (ofPositioned (shiftOf offset p.measured) p).placed =
      (p.outer.moved (shiftOf offset p.measured)).moved
        ⟨-((p.measured.style.get? .translate).getD ⟨0.0, 0.0⟩).x,
          -((p.measured.style.get? .translate).getD ⟨0.0, 0.0⟩).y⟩ := rfl
  rw [hback]
  ext axis
  · rw [Box.start_moved, Box.start_moved, Box.start_moved]
    cases axis
    · simp only [shiftOf, Pair.on]
      ring
    · simp only [shiftOf, Pair.on]
      ring
  · rw [Box.extent_moved, Box.extent_moved, Box.extent_moved]

/-- A node stands on the grid of its group. -/
def Gridded (r : Resolved Rat) : Prop :=
  r.style.get? .place = none

theorem ofPositioned_gridLines (shift : Pair Rat) {p : Positioned Rat} {grid : GridPosition Rat}
    (h : p.grid = some grid) :
    ∃ lines, (ofPositioned shift p).gridLines = some lines ∧
      ∀ axis, lines.on axis = (grid.lines.on axis).map (· + shift.on axis) := by
  refine ⟨⟨grid.lines.x.map (· + shift.x), grid.lines.y.map (· + shift.y)⟩, ?_, fun axis => ?_⟩
  · simp only [ofPositioned, h, Option.map_some]
  · cases axis <;> rfl

theorem ofPositioned_padded (shift : Pair Rat) (p : Positioned Rat) :
    (ofPositioned shift p).padded = p.padded.moved shift := by
  show (((p.borderBox.moved shift).shrink _).shrink _) = _
  rw [Box.moved_shrink, Box.moved_shrink]
  rfl

end Resolved

theorem resolveTree_value (offset : Pair Rat) (t : Tree (Positioned Rat)) :
    (resolveTree offset t).value =
      Resolved.ofPositioned (Resolved.shiftOf offset t.value.measured) t.value := by
  obtain ⟨p, ps⟩ := t
  rw [resolveTree]
  rfl

variable {settings : LayoutSettings Rat} {t : DiagramTree Rat} {size : Option (Pair Rat)}
  {l : Layout Rat}

/-- Behind the final tree is a positioned one that the second pass has done. Each node is shifted,
and its children with it. -/
theorem layout_subtrees (ht : t.Styled Attribute.Ranged) (h : layout settings t size = .ok l) :
    ∃ p, positioned settings t size = .ok p ∧ l.tree = resolveTree ⟨0.0, 0.0⟩ p ∧
      l.warnings = p.preorder.flatMap (·.warnings) ∧
      p.Local (Positioned.Done settings Attribute.Ranged) ∧
      ∀ s ∈ l.tree.subtrees, ∃ q ∈ p.subtrees, ∃ shift,
        s.value = Resolved.ofPositioned shift q.value ∧
        ∀ c ∈ s.children, ∃ d ∈ q.children, c.value =
          Resolved.ofPositioned (Resolved.shiftOf shift d.value.measured) d.value := by
  obtain ⟨p, hp, htree, hwarnings⟩ := layout_ok h
  refine ⟨p, hp, htree, hwarnings, positioned_done ht hp, fun s hs => ?_⟩
  rw [htree] at hs
  obtain ⟨q, hq, shift, rfl⟩ := mem_subtrees_resolveTree hs
  refine ⟨q, hq, shift, rfl, fun c hc => ?_⟩
  obtain ⟨d, hd, rfl⟩ := List.mem_map.mp hc
  exact ⟨d, hd, resolveTree_value shift d⟩

theorem root_cell {p : Tree (Positioned Rat)} (h : positioned settings t size = .ok p) :
    ∃ m, measureTree settings t.value.label t = .ok m ∧ p.value.measured = m.value ∧
      p.value.cell = Box.ofStarts ⟨0.0, 0.0⟩ (size.getD m.value.natural) := by
  obtain ⟨m, hm, hp⟩ := positioned_ok h
  have hvalue := positionTree_value hp
  refine ⟨m, hm, ?_, ?_⟩
  · rw [hvalue]
    exact Positioned.ofMeasured_measured ..
  · rw [hvalue]
    exact Positioned.ofMeasured_cell ..

/-! ### Children in their cells -/

section Children

variable {p q d e : Tree (Positioned Rat)}

theorem styled_of_done (hp : p.Local (Positioned.Done settings Attribute.Ranged))
    (hq : q ∈ p.subtrees) :
    ∀ c ∈ q.children.map Tree.value, c.measured.element.Styled Attribute.Ranged := by
  intro c hc
  obtain ⟨d, hd, rfl⟩ := List.mem_map.mp hc
  exact (hp d (Tree.mem_subtrees_of_mem_children hq hd)).measured.styled

variable (hsettings : settings.Regular)
  (hp : p.Local (Positioned.Done settings Attribute.Ranged)) (hq : q ∈ p.subtrees)
  (hd : d ∈ q.children)

include hsettings hp hq hd

theorem natural_le_cell (axis : Axis) :
    d.value.measured.natural.on axis - 1e-9 ≤ d.value.cell.extent axis :=
  ((hp q hq).cell_of_mem hsettings (styled_of_done hp hq) (List.mem_map_of_mem hd)).1 axis

theorem content_contains_cell : q.value.content.contains d.value.cell 0 = true :=
  ((hp q hq).cell_of_mem hsettings (styled_of_done hp hq) (List.mem_map_of_mem hd)).2

theorem cell_contains_outer : d.value.cell.contains d.value.outer 1e-9 = true := by
  have hdone := hp d (Tree.mem_subtrees_of_mem_children hq hd)
  exact hdone.cell_contains_outer hsettings (by norm_num) (natural_le_cell hsettings hp hq hd)

theorem no_overflow (axis : Axis) (needed available : Rat) (path : String) :
    .overflow axis needed available path ∉ d.value.warnings := by
  intro hmem
  have hdone := hp d (Tree.mem_subtrees_of_mem_children hq hd)
  obtain ⟨-, hoverflow⟩ := hdone.of_overflow hmem
  have hcell := natural_le_cell hsettings hp hq hd axis
  norm_num at hoverflow hcell
  linarith

theorem outer_between_lines (hplace : d.value.measured.place? = none) :
    ∃ grid, q.value.grid = some grid ∧ ∀ axis, ∃ a b,
      (grid.lines.on axis)[((d.value.measured.element.placement.on axis).start - 1).toNat]? =
        some a ∧
      (grid.lines.on axis)[((d.value.measured.element.placement.on axis).stop - 1).toNat]? =
        some b ∧
      a - 1e-9 ≤ d.value.outer.start axis ∧ d.value.outer.stop axis ≤ b + 1e-9 := by
  have hdone := hp q hq
  have hmem : d.value ∈ q.children.map Tree.value := List.mem_map_of_mem hd
  obtain ⟨grid, hgrid, -⟩ :=
    hdone.exists_grid hsettings (styled_of_done hp hq) (hdone.group_of_mem hmem)
  refine ⟨grid, hgrid, fun axis => ?_⟩
  obtain ⟨hstart, hstop⟩ :=
    Positioned.cellFor_of_gridded (hdone.cells grid hgrid d.value hmem) hplace axis
  have hinside := cell_contains_outer hsettings hp hq hd
  rw [Box.contains_iff] at hinside
  exact ⟨_, _, hstart, hstop, hinside axis⟩

/-- Children of one group on disjoint spans overlap by no more than both may be too large. -/
theorem overlap_le (he : e ∈ q.children) (hplace : d.value.measured.place? = none)
    (hplace' : e.value.measured.place? = none) {axis : Axis}
    (hspans : (d.value.measured.element.placement.on axis).Disjoint
      (e.value.measured.element.placement.on axis)) :
    d.value.outer.overlap e.value.outer axis ≤ 2e-9 := by
  have hdone := hp q hq
  have hmem : d.value ∈ q.children.map Tree.value := List.mem_map_of_mem hd
  have hmem' : e.value ∈ q.children.map Tree.value := List.mem_map_of_mem he
  obtain ⟨hstart, hstop⟩ :=
    (Box.contains_iff _ _ _).mp (cell_contains_outer hsettings hp hq hd) axis
  obtain ⟨hstart', hstop'⟩ :=
    (Box.contains_iff _ _ _).mp (cell_contains_outer hsettings hp hq he) axis
  have htwice : (2e-9 : Rat) = 1e-9 + 1e-9 := by norm_num
  unfold Box.overlap
  rcases hspans with hspans | hspans
  · have hapart := hdone.cells_apart hsettings (styled_of_done hp hq) hmem hmem' hplace hplace'
      hspans
    have hmin := min_le_left (d.value.outer.stop axis) (e.value.outer.stop axis)
    have hmax := le_max_right (d.value.outer.start axis) (e.value.outer.start axis)
    linarith
  · have hapart := hdone.cells_apart hsettings (styled_of_done hp hq) hmem' hmem hplace' hplace
      hspans
    have hmin := min_le_right (d.value.outer.stop axis) (e.value.outer.stop axis)
    have hmax := le_max_left (d.value.outer.start axis) (e.value.outer.start axis)
    linarith

end Children

/-- Only the root can be larger than its space, and not than its natural size. -/
theorem overflow_of_root {p : Tree (Positioned Rat)} (hsettings : settings.Regular)
    (hp : positioned settings t size = .ok p)
    (hdone : p.Local (Positioned.Done settings Attribute.Ranged)) {axis : Axis}
    {needed available : Rat} {path : String}
    (hmem : .overflow axis needed available path ∈ p.preorder.flatMap (·.warnings)) :
    path = p.value.measured.path ∧ size ≠ none := by
  obtain ⟨w, hw, hmem⟩ := List.mem_flatMap.mp hmem
  rcases Tree.mem_preorder_iff.mp hw with rfl | ⟨s, hs, c, hc, rfl⟩
  · obtain ⟨hpath, hoverflow⟩ := hdone.self.of_overflow hmem
    refine ⟨hpath, ?_⟩
    rintro rfl
    obtain ⟨m, -, hmeasured, hcell⟩ := root_cell hp
    rw [hcell, hmeasured, Box.extent_ofStarts] at hoverflow
    norm_num at hoverflow
  · exact absurd hmem (no_overflow hsettings hdone hs hc axis needed available path)

/-- A layout that succeeds gives every node but the root a cell that is large enough up to the
tolerance, and every child on the grid lies between its lines up to the tolerance, apart from its
own shift. So only the root can be larger than its space, and not without a size that is given; and
children on disjoint spans overlap by no more than twice the tolerance. -/
theorem layout_children_fit (settings : LayoutSettings Rat) (hsettings : settings.Regular)
    (t : DiagramTree Rat) (ht : t.Prepared) (size : Option (Pair Rat)) (l : Layout Rat)
    (h : layout settings t size = .ok l) :
    (∃ p, positioned settings t size = .ok p ∧ l.tree = resolveTree ⟨0.0, 0.0⟩ p ∧
      ∀ s ∈ p.subtrees, ∀ c ∈ s.children,
        (∀ axis, c.value.measured.natural.on axis - 1e-9 ≤ c.value.cell.extent axis) ∧
        ∀ axis needed available path,
          .overflow axis needed available path ∉ c.value.warnings) ∧
    (∀ s ∈ l.tree.subtrees, ∀ c ∈ s.children, c.value.Gridded →
      ∃ lines, s.value.gridLines = some lines ∧ ∀ axis, ∃ a b,
        (lines.on axis)[((c.value.element.placement.on axis).start - 1).toNat]? = some a ∧
        (lines.on axis)[((c.value.element.placement.on axis).stop - 1).toNat]? = some b ∧
        a - 1e-9 ≤ c.value.placed.start axis ∧ c.value.placed.stop axis ≤ b + 1e-9) ∧
    (∀ axis needed available path, .overflow axis needed available path ∈ l.warnings →
      path = l.tree.value.path ∧ size ≠ none) ∧
    ∀ s ∈ l.tree.subtrees, ∀ c ∈ s.children, ∀ d ∈ s.children, c.value.Gridded →
      d.value.Gridded → ∀ axis, (c.value.element.placement.on axis).Disjoint
        (d.value.element.placement.on axis) →
      c.value.placed.overlap d.value.placed axis ≤ 2e-9 := by
  obtain ⟨p, hp, htree, hwarnings, hdone, hsubtrees⟩ := layout_subtrees ht.ranged h
  refine ⟨⟨p, hp, htree, fun s hs c hc => ⟨?_, ?_⟩⟩, ?_, ?_, ?_⟩
  · exact natural_le_cell hsettings hdone hs hc
  · exact no_overflow hsettings hdone hs hc
  · intro s hs c hc hgridded
    obtain ⟨q, hq, shift, hvalue, hchildren⟩ := hsubtrees s hs
    obtain ⟨d, hd, hchild⟩ := hchildren c hc
    rw [hchild] at hgridded ⊢
    obtain ⟨grid, hgrid, hbetween⟩ := outer_between_lines hsettings hdone hq hd hgridded
    obtain ⟨lines, hlines, hshifted⟩ := Resolved.ofPositioned_gridLines shift hgrid
    refine ⟨lines, hvalue ▸ hlines, fun axis => ?_⟩
    obtain ⟨a, b, ha, hb, hstart, hstop⟩ := hbetween axis
    rw [hshifted, Resolved.ofPositioned_placed, Box.start_moved, Box.stop_moved]
    refine ⟨a + shift.on axis, b + shift.on axis, ?_, ?_, by linarith, by linarith⟩
    · exact (List.getElem?_map ..).trans (congrArg (Option.map (· + shift.on axis)) ha)
    · exact (List.getElem?_map ..).trans (congrArg (Option.map (· + shift.on axis)) hb)
  · intro axis needed available path hmem
    rw [hwarnings] at hmem
    obtain ⟨hpath, hsize⟩ := overflow_of_root hsettings hp hdone hmem
    exact ⟨by rw [hpath, htree, resolveTree_value]; rfl, hsize⟩
  · intro s hs c hc c' hc' hgridded hgridded' axis hspans
    obtain ⟨q, hq, shift, -, hchildren⟩ := hsubtrees s hs
    obtain ⟨d, hd, hchild⟩ := hchildren c hc
    obtain ⟨e, he, hchild'⟩ := hchildren c' hc'
    rw [hchild] at hgridded hspans ⊢
    rw [hchild'] at hgridded' hspans ⊢
    rw [Resolved.ofPositioned_placed, Resolved.ofPositioned_placed, Box.overlap_moved]
    exact overlap_le hsettings hdone hq hd he hgridded hgridded' hspans

/-- The source of a diagram with a rectangle and a text in a row. -/
def rowMarkup : MarkupTree :=
  .node { tag := "diagram", attributes := [("pad", "2")] }
    [.node { tag := "rect", attributes := [("width", "30"), ("translate", "1 2")] } [],
      .node { tag := "text", placement := { gridx := some "2" }, lines := ["row"] } []]

/-- Every line of text is as high as any other, and every character as wide. -/
def plainWorld : Surroundings Rat where
  trigonometry := ⟨3.141592653589793, fun _ => .ok ⟨1, 0⟩, max⟩
  measurer := ⟨fun _ _ => .ok ⟨8, 2, 12⟩, fun line _ _ => .ok line.length⟩

def rowOptions : CompileOptions Rat :=
  { CompileOptions.default with size := some ⟨100, 50⟩ }

theorem plainSettings_regular : (rowOptions.layoutSettings plainWorld).Regular := by
  refine ⟨⟨?_, ?_⟩, fun axis => ?_⟩
  · intro size family v h
    obtain rfl := Except.ok.inj h
    norm_num
  · intro line size family w h
    obtain rfl := Except.ok.inj h
    exact Nat.cast_nonneg _
  · cases axis <;> norm_num [rowOptions, CompileOptions.default, CompileOptions.layoutSettings,
      Pair.on]

theorem exists_rowLayout : ∃ t l, t.Prepared ∧
    layout (rowOptions.layoutSettings plainWorld) t rowOptions.size = .ok l := by
  have hcompiled : (do
      let d ← (Document.ofMarkup rowMarkup).mapError DiagramError.structural
      d.compile plainWorld rowOptions []).isOk = true := by
    decide +kernel
  obtain ⟨c, hc⟩ := Except.exists_of_isOk hcompiled
  simp only [Except.bind_eq_ok, Except.mapError_eq_ok] at hc
  obtain ⟨d, hd, hc⟩ := hc
  obtain ⟨t, l, ht, hl, -⟩ := Document.compile_prepared hd .nil hc
  exact ⟨t, l, ht, hl⟩

theorem rowLayout_children_fit : ∃ t l, t.Prepared ∧
    layout (rowOptions.layoutSettings plainWorld) t rowOptions.size = .ok l ∧
    ∀ s ∈ l.tree.subtrees, ∀ c ∈ s.children, ∀ d ∈ s.children, c.value.Gridded →
      d.value.Gridded → ∀ axis, (c.value.element.placement.on axis).Disjoint
        (d.value.element.placement.on axis) →
      c.value.placed.overlap d.value.placed axis ≤ 2e-9 := by
  obtain ⟨t, l, ht, hl⟩ := exists_rowLayout
  obtain ⟨-, -, -, hdisjoint⟩ := layout_children_fit _ plainSettings_regular t ht _ l hl
  exact ⟨t, l, ht, hl, hdisjoint⟩

/-- In a layout that succeeds every node stays in the content of its group up to the tolerance,
apart from its own shift. The box inside the margin lies in the outer one, and the content of a
group in its padding, which anything else covers exactly. A diagram that is not larger than the
given size lies inside it. -/
theorem layout_boxes_nested (settings : LayoutSettings Rat) (hsettings : settings.Regular)
    (t : DiagramTree Rat) (ht : t.Prepared) (size : Option (Pair Rat)) (l : Layout Rat)
    (h : layout settings t size = .ok l) :
    (∀ s ∈ l.tree.subtrees,
      (∀ c ∈ s.children, s.value.content.contains c.value.placed 1e-9 = true) ∧
      s.value.outer.contains s.value.borderBox 0 = true ∧
      (s.value.element.kind = .group → s.value.padded.contains s.value.content 0 = true) ∧
      (s.value.element.kind ≠ .group → s.value.bounds = s.value.padded)) ∧
    ∃ m, measureTree settings t.value.label t = .ok m ∧
      ∀ given, size = some given → (∀ axis, m.value.natural.on axis ≤ given.on axis) →
        (⟨0, 0, given.x, given.y⟩ : Box Rat).contains l.tree.value.placed 0 = true := by
  obtain ⟨p, hp, htree, -, hdone, hsubtrees⟩ := layout_subtrees ht.ranged h
  refine ⟨fun s hs => ?_, ?_⟩
  · obtain ⟨q, hq, shift, hvalue, hchildren⟩ := hsubtrees s hs
    have hself := hdone q hq
    have hstyled := styled_of_done hdone hq
    rw [hvalue]
    refine ⟨fun c hc => ?_, ?_, fun hgroup => ?_, fun hleaf => ?_⟩
    · obtain ⟨d, hd, hchild⟩ := hchildren c hc
      have hinside := Box.contains_trans (content_contains_cell hsettings hdone hq hd)
        (cell_contains_outer hsettings hdone hq hd)
      rw [zero_add] at hinside
      rw [hchild, Resolved.ofPositioned_placed]
      exact (Box.moved_contains _ _ _ _).trans hinside
    · exact (Box.moved_contains _ _ _ _).trans (hself.outer_contains_borderBox hsettings hstyled)
    · obtain ⟨grid, -, -, hinside, -⟩ := hself.exists_grid hsettings hstyled hgroup
      rw [Resolved.ofPositioned_padded]
      exact (Box.moved_contains _ _ _ _).trans hinside
    · rw [Resolved.ofPositioned_padded]
      exact congrArg (Box.moved · shift) (hself.bounds_of_leaf hsettings hstyled hleaf)
  · obtain ⟨m, hm, hmeasured, hcell⟩ := root_cell hp
    refine ⟨m, hm, fun given hgiven hlarge => ?_⟩
    subst hgiven
    have hinside := hdone.self.cell_contains_outer hsettings (le_refl 0) fun axis => by
      rw [hcell, hmeasured, Box.extent_ofStarts, sub_zero]
      exact hlarge axis
    have hgiven : Box.ofStarts ⟨0.0, 0.0⟩ ((some given).getD m.value.natural) =
        (⟨0, 0, given.x, given.y⟩ : Box Rat) := by
      simp [Box.ofStarts]
    have hstill : p.value.outer.moved ⟨0.0, 0.0⟩ = p.value.outer := by
      simp [Box.moved]
    rw [hcell, hgiven] at hinside
    rw [htree, resolveTree_value, Resolved.ofPositioned_placed, hstill]
    exact hinside

theorem rowLayout_boxes_nested : ∃ t l, t.Prepared ∧
    layout (rowOptions.layoutSettings plainWorld) t rowOptions.size = .ok l ∧
    ∀ s ∈ l.tree.subtrees, ∀ c ∈ s.children,
      s.value.content.contains c.value.placed 1e-9 = true := by
  obtain ⟨t, l, ht, hl⟩ := exists_rowLayout
  obtain ⟨hnested, -⟩ := layout_boxes_nested _ plainSettings_regular t ht _ l hl
  exact ⟨t, l, ht, hl, fun s hs => (hnested s hs).1⟩

end GridDiagram
