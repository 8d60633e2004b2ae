import GridDiagram.Layout
import GridDiagram.Proofs.Layout.Measured

/-!
Trees as the second pass of a layout leaves them. It never fails: every node comes up in its turn,
and every child finds its lines on the grid of its parent.
-/

namespace GridDiagram

variable {α : Type} [Scalar α] {P : (a : Attribute) → a.Value α → Prop}
  {settings : LayoutSettings α}

namespace Measured.Done

variable {m : Measured α} {children : List (Measured α)}

/-- A group has the measure of both axes, which comes of its children. -/
theorem exists_axes (h : m.Done settings P children) (hgroup : m.element.kind = .group) :
    ∃ axes, m.axes = some axes ∧
      ∀ axis, AxisMeasure.ofChildren m.style children axis = .ok (axes.on axis) := by
  have hsizes := h.sizes
  rw [ofElement, if_pos hgroup] at hsizes
  simp only [Except.bind_eq_ok, Except.pure_eq_ok] at hsizes
  obtain ⟨x, hx, y, hy, hm⟩ := hsizes
  have haxes : some (⟨x, y⟩ : Pair (AxisMeasure α)) = m.axes := congrArg axes hm
  refine ⟨⟨x, y⟩, haxes.symm, fun axis => ?_⟩
  cases axis
  · exact hx
  · exact hy

theorem axes_eq_none (h : m.Done settings P children) (hgroup : m.element.kind ≠ .group) :
    m.axes = none := by
  have hsizes := h.sizes
  rw [ofElement, if_neg hgroup] at hsizes
  simp only [Except.bind_eq_ok, Except.pure_eq_ok] at hsizes
  obtain ⟨_, -, _, -, hm⟩ := hsizes
  exact (congrArg axes hm).symm

theorem group_of_axes (h : m.Done settings P children) {axes : Pair (AxisMeasure α)}
    (haxes : m.axes = some axes) : m.element.kind = .group := by
  by_contra hgroup
  simp [h.axes_eq_none hgroup] at haxes

end Measured.Done

namespace Positioned

/-- A node as the second pass leaves it: measured, with its boxes in its cell, and with the cells
that its grid gives to its children. -/
structure Done (settings : LayoutSettings α) (P : (a : Attribute) → a.Value α → Prop)
    (p : Positioned α) (children : List (Positioned α)) : Prop where
  measured : p.measured.Done settings P (children.map (·.measured))
  boxes : p = { ofMeasured settings p.measured p.cell with stage := .positioned }
  cells : ∀ grid, p.grid = some grid → ∀ c ∈ children, cellFor grid c.measured = .ok c.cell

@[simp] theorem ofMeasured_measured (m : Measured α) (cell : Box α) :
    (ofMeasured settings m cell).measured = m := by
  unfold ofMeasured
  split <;> rfl

@[simp] theorem ofMeasured_cell (m : Measured α) (cell : Box α) :
    (ofMeasured settings m cell).cell = cell := by
  unfold ofMeasured
  split <;> rfl

@[simp] theorem ofMeasured_stage (settings : LayoutSettings α) (m : Measured α) (cell : Box α) :
    (ofMeasured settings m cell).stage = .boxed := by
  unfold ofMeasured
  split <;> rfl

/-- The grid of a node lies on the axes that were measured. -/
theorem ofMeasured_grid {m : Measured α} {cell : Box α} {grid : GridPosition α}
    (h : (ofMeasured settings m cell).grid = some grid) :
    ∃ axes, m.axes = some axes ∧
      ∀ axis, (grid.lines.on axis).length = (axes.on axis).grid.count + 1 := by
  unfold ofMeasured at h
  split at h
  · rename_i axes haxes
    obtain rfl := Option.some.inj h
    refine ⟨axes, haxes, fun axis => ?_⟩
    have length_lines (axis : Axis) (start size expand anchor : α) :
        (axisPosition m.path (axes.on axis) axis start size expand anchor).lines.length =
          (axes.on axis).grid.count + 1 := by
      simp only [axisPosition, GridAxis.length_positions]
      split
      · rw [GridAxis.grow_count]
      · rfl
    cases axis
    · exact length_lines .x ..
    · exact length_lines .y ..
  · simp at h

theorem ofMeasured_grid_isSome (settings : LayoutSettings α) (m : Measured α) (cell : Box α) :
    (ofMeasured settings m cell).grid.isSome = m.axes.isSome := by
  unfold ofMeasured
  split
  · rename_i axes haxes
    simp [haxes]
  · rename_i hnone
    simp [hnone]

omit [Scalar α] in
theorem lineAt_eq_ok {axis : Axis} {lines : List α} {line : Int} {a : α} :
    lineAt axis lines line = .ok a ↔ lines[(line - 1).toNat]? = some a := by
  unfold lineAt
  split <;> simp_all

omit [Scalar α] in
theorem exists_lineAt (axis : Axis) {lines : List α} {line : Int} (h : 1 ≤ line)
    (hlast : line ≤ lines.length) : ∃ a, lineAt axis lines line = .ok a := by
  have hindex : (line - 1).toNat < lines.length := by omega
  exact ⟨lines[(line - 1).toNat], lineAt_eq_ok.mpr (List.getElem?_eq_getElem hindex)⟩

/-- A grid has a box for every child whose lines lie on it. -/
theorem exists_cellFor {grid : GridPosition α} {c : Measured α}
    (hvalid : ∀ axis, (c.element.placement.on axis).Valid)
    (hstop : c.place? = none →
      ∀ axis, (c.element.placement.on axis).stop ≤ (grid.lines.on axis).length) :
    ∃ cell, cellFor grid c = .ok cell := by
  unfold cellFor
  split
  · exact ⟨_, rfl⟩
  · rename_i hplace
    have hx := hvalid .x
    have hy := hvalid .y
    have hstopx := hstop hplace .x
    have hstopy := hstop hplace .y
    simp only [Pair.on, Span.Valid] at hx hy hstopx hstopy
    obtain ⟨left, hleft⟩ := exists_lineAt .x hx.1 (Int.le_trans (Int.le_of_lt hx.2) hstopx)
    obtain ⟨top, htop⟩ := exists_lineAt .y hy.1 (Int.le_trans (Int.le_of_lt hy.2) hstopy)
    obtain ⟨right, hright⟩ := exists_lineAt .x (Int.le_trans hx.1 (Int.le_of_lt hx.2)) hstopx
    obtain ⟨bottom, hbottom⟩ := exists_lineAt .y (Int.le_trans hy.1 (Int.le_of_lt hy.2)) hstopy
    simp [hleft, htop, hright, hbottom, bind, Except.bind, pure, Except.pure]

omit [Scalar α] in
theorem finish_ok {p p' : Positioned α} {children : List Progress}
    (h : p.finish children = .ok p') : p' = { p with stage := .positioned } := by
  simp only [finish, Except.bind_eq_ok, Except.mapError_eq_ok, Except.pure_eq_ok] at h
  obtain ⟨q, hq, rfl⟩ := h
  rw [(Progress.advance_eq_ok.mp hq).2.2]

omit [Scalar α] in
theorem exists_finish {p : Positioned α} {children : List Progress} (hp : p.stage = .boxed)
    (hchildren : ∀ c ∈ children, c.stage = .positioned) : ∃ p', p.finish children = .ok p' := by
  have hblocking : Progress.blocking none children .positioned = [] := by
    simp only [Progress.blocking, List.filter_eq_nil_iff]
    intro c hc
    simp [hchildren c hc, Stage.rank]
  simp [finish, Progress.advance, hblocking, progress, hp, Stage.rank, Except.mapError, bind,
    Except.bind, pure, Except.pure]

end Positioned

/-! ### Trees -/

/-- The children of a group get their boxes from its grid, and are positioned in them. -/
theorem positionTrees_ok {parent : Progress} {grid : GridPosition α}
    {ms : List (Tree (Measured α))} {ps : List (Tree (Positioned α))}
    (h : positionTrees settings parent grid ms = .ok ps) :
    List.Forall₂ (fun m p => ∃ cell, Positioned.cellFor grid m.value = .ok cell ∧
      positionTree settings (some parent) cell m = .ok p) ms ps := by
  induction ms generalizing ps with
  | nil =>
    obtain rfl := Except.ok.inj (positionTrees.eq_1 settings parent grid ▸ h)
    exact .nil
  | cons m ms ih =>
    simp only [positionTrees, Except.bind_eq_ok, Except.pure_eq_ok] at h
    obtain ⟨cell, hcell, p, hp, rest, hrest, rfl⟩ := h
    exact .cons ⟨cell, hcell, hp⟩ (ih hrest)

theorem exists_positionTrees (parent : Progress) {grid : GridPosition α}
    {ms : List (Tree (Measured α))}
    (hcells : ∀ m ∈ ms, ∃ cell, Positioned.cellFor grid m.value = .ok cell)
    (hms : ∀ m ∈ ms, ∀ cell, ∃ p, positionTree settings (some parent) cell m = .ok p) :
    ∃ ps, positionTrees settings parent grid ms = .ok ps := by
  induction ms with
  | nil => exact ⟨[], by rw [positionTrees]⟩
  | cons m ms ih =>
    obtain ⟨hcell, hcells⟩ := List.forall_mem_cons.mp hcells
    obtain ⟨hm, hms⟩ := List.forall_mem_cons.mp hms
    obtain ⟨cell, hcell⟩ := hcell
    obtain ⟨p, hp⟩ := hm cell
    obtain ⟨ps, hps⟩ := ih hcells hms
    exact ⟨p :: ps, by simp [positionTrees, hcell, hp, hps, bind, Except.bind, pure, Except.pure]⟩

/-- A node that is positioned has its boxes in its cell; the children of a group follow in the boxes
that its grid gives them, and nothing else has any. -/
theorem positionTree_ok {parent : Option Progress} {cell : Box α} {m : Measured α}
    {ms : List (Tree (Measured α))} {p : Tree (Positioned α)}
    (h : positionTree settings parent cell (.node m ms) = .ok p) :
    ∃ ps, p = .node { Positioned.ofMeasured settings m cell with stage := .positioned } ps ∧
      (∀ grid, (Positioned.ofMeasured settings m cell).grid = some grid →
        List.Forall₂ (fun m p => ∃ parent cell, Positioned.cellFor grid m.value = .ok cell ∧
          positionTree settings parent cell m = .ok p) ms ps) ∧
      ((Positioned.ofMeasured settings m cell).grid = none → ps = []) := by
  simp only [positionTree, Except.bind_eq_ok, Except.mapError_eq_ok] at h
  obtain ⟨_, -, h⟩ := h
  split at h
  · rename_i grid hgrid
    simp only [Except.bind_eq_ok, Except.pure_eq_ok] at h
    obtain ⟨ps, hps, p, hp, rfl⟩ := h
    obtain rfl := Positioned.finish_ok hp
    refine ⟨ps, rfl, fun grid' hgrid' => ?_, fun hnone => by simp [hgrid] at hnone⟩
    obtain rfl := Option.some.inj (hgrid.symm.trans hgrid')
    refine (positionTrees_ok hps).imp fun m p hstep => ?_
    obtain ⟨cell, hcell, hp⟩ := hstep
    exact ⟨_, cell, hcell, hp⟩
  · rename_i hgrid
    simp only [Except.bind_eq_ok, Except.pure_eq_ok] at h
    obtain ⟨p, hp, rfl⟩ := h
    obtain rfl := Positioned.finish_ok hp
    exact ⟨[], rfl, fun grid hsome => by simp [hgrid] at hsome, fun _ => rfl⟩

theorem positionTree_value {parent : Option Progress} {cell : Box α} {m : Tree (Measured α)}
    {p : Tree (Positioned α)} (h : positionTree settings parent cell m = .ok p) :
    p.value = { Positioned.ofMeasured settings m.value cell with stage := .positioned } := by
  obtain ⟨m, ms⟩ := m
  obtain ⟨ps, rfl, -⟩ := positionTree_ok h
  rfl

/-- The second pass leaves every node done. -/
theorem positionTree_done {parent : Option Progress} {cell : Box α} {m : Tree (Measured α)}
    {p : Tree (Positioned α)} (hm : m.Local (Measured.Done settings P))
    (h : positionTree settings parent cell m = .ok p) :
    p.Local (Positioned.Done settings P) := by
  induction m using Tree.induct generalizing parent cell p with
  | step m ms ih =>
    obtain ⟨hm, hms⟩ := Tree.local_node.mp hm
    obtain ⟨ps, rfl, hgroup, hleaf⟩ := positionTree_ok h
    cases hgrid : (Positioned.ofMeasured settings m cell).grid with
    | some grid =>
      have hall := hgroup grid hgrid
      have hmeasured : (ps.map Tree.value).map (·.measured) = ms.map Tree.value := by
        rw [List.map_map]
        symm
        rw [← List.forall₂_eq_eq_eq, List.forall₂_map_left_iff, List.forall₂_map_right_iff]
        refine hall.imp fun m p hstep => ?_
        obtain ⟨_, _, _, hp⟩ := hstep
        simp [positionTree_value hp]
      refine Tree.local_node.mpr ⟨⟨?_, ?_, ?_⟩, fun p hp => ?_⟩
      · simpa [hmeasured] using hm
      · simp
      · intro grid' hgrid' c hc
        obtain rfl := Option.some.inj (hgrid.symm.trans hgrid')
        obtain ⟨p, hp, rfl⟩ := List.mem_map.mp hc
        obtain ⟨m, -, _, cell, hcell, hp⟩ := hall.exists_left hp
        simpa [positionTree_value hp] using hcell
      · obtain ⟨m, hm, _, _, -, hp⟩ := hall.exists_left hp
        exact ih m hm (hms m hm) hp
    | none =>
      obtain rfl := hleaf hgrid
      have haxes : m.axes = none := by
        simpa [hgrid] using (Positioned.ofMeasured_grid_isSome settings m cell).symm
      have hkind : m.element.kind ≠ .group := by
        intro hkind
        obtain ⟨axes, hsome, -⟩ := hm.exists_axes hkind
        simp [haxes] at hsome
      refine Tree.local_node.mpr ⟨⟨?_, ?_, by simp⟩, by simp⟩
      · simpa [hm.leaf hkind] using hm
      · simp

/-- The grid of a measured group has a box for every child. -/
theorem exists_cells {m : Measured α} {ms : List (Tree (Measured α))} {cell : Box α}
    {grid : GridPosition α} (hm : m.Done settings P (ms.map Tree.value))
    (hms : ∀ c ∈ ms, c.Local (Measured.Done settings P))
    (hgrid : (Positioned.ofMeasured settings m cell).grid = some grid) :
    ∀ c ∈ ms, ∃ cell, Positioned.cellFor grid c.value = .ok cell := by
  obtain ⟨axes, haxes, hlength⟩ := Positioned.ofMeasured_grid hgrid
  obtain ⟨_, hsome, hmeasure⟩ := hm.exists_axes (hm.group_of_axes haxes)
  obtain rfl := Option.some.inj (haxes.symm.trans hsome)
  intro c hc
  have hvalid := (hms c hc).self.styled.placement
  refine Positioned.exists_cellFor hvalid fun hplace axis => ?_
  have hstop := AxisMeasure.ofChildren_count (hmeasure axis) (List.mem_map_of_mem hc) hplace
    (hvalid axis)
  rw [hlength axis]
  exact_mod_cast hstop

/-- A node whose turn it is comes to an end, and so does everything inside it. -/
theorem exists_positionTree (parent : Option Progress) (cell : Box α) {m : Tree (Measured α)}
    (hm : m.Local (Measured.Done settings P)) (hparent : ∀ p ∈ parent, p.stage = .boxed) :
    ∃ p, positionTree settings parent cell m = .ok p := by
  induction m using Tree.induct generalizing parent cell with
  | step m ms ih =>
    obtain ⟨hm, hms⟩ := Tree.local_node.mp hm
    have hblocking : Progress.blocking parent [] .boxed = [] := by
      simp only [Progress.blocking, List.filter_eq_nil_iff, Option.mem_toList]
      intro p hp
      simp [hparent p hp]
    have hadvance : m.progress.advance parent [] .boxed =
        .ok { m.progress with stage := .boxed } := by
      simp [Progress.advance, hblocking, Measured.progress, hm.stage, Stage.rank]
    simp only [positionTree, hadvance, Except.mapError, bind, Except.bind]
    split
    · rename_i grid hgrid
      obtain ⟨ps, hps⟩ := exists_positionTrees (Positioned.ofMeasured settings m cell).progress
        (exists_cells hm hms hgrid)
        fun c hc cell => ih c hc _ cell (hms c hc) (by simp [Positioned.progress])
      have hpositioned : ∀ c ∈ ps.map (·.value.progress), c.stage = .positioned := by
        intro c hc
        obtain ⟨p, hp, rfl⟩ := List.mem_map.mp hc
        obtain ⟨m, -, cell, -, hp⟩ := (positionTrees_ok hps).exists_left hp
        rw [positionTree_value hp]
        rfl
      obtain ⟨p, hp⟩ :=
        Positioned.exists_finish (Positioned.ofMeasured_stage settings m cell) hpositioned
      simp [hps, hp, pure, Except.pure]
    · rename_i hgrid
      have hkind : m.element.kind ≠ .group := by
        intro hkind
        obtain ⟨axes, hsome, -⟩ := hm.exists_axes hkind
        simpa [hgrid, hsome] using Positioned.ofMeasured_grid_isSome settings m cell
      obtain rfl : ms = [] := by simpa using hm.leaf hkind
      obtain ⟨p, hp⟩ := Positioned.exists_finish (Positioned.ofMeasured_stage settings m cell)
        (List.forall_mem_nil _)
      simp [hp, pure, Except.pure]

/-! ### Layouts -/

/-- The trees behind a layout that succeeds: the measured one, and the positioned one in the given
size or the natural one. -/
theorem positioned_ok {t : DiagramTree α} {size : Option (Pair α)} {p : Tree (Positioned α)}
    (h : positioned settings t size = .ok p) :
    ∃ m, measureTree settings t.value.label t = .ok m ∧
      positionTree settings none
        ⟨0.0, 0.0, (size.getD m.value.natural).x, (size.getD m.value.natural).y⟩ m = .ok p := by
  simp only [positioned, Except.bind_eq_ok] at h
  exact h

theorem positioned_done {t : DiagramTree α} {size : Option (Pair α)} {p : Tree (Positioned α)}
    (ht : t.Styled P) (h : positioned settings t size = .ok p) :
    p.Local (Positioned.Done settings P) := by
  obtain ⟨m, hm, hp⟩ := positioned_ok h
  exact positionTree_done (measureTree_done ht hm) hp

theorem layout_ok {t : DiagramTree α} {size : Option (Pair α)} {l : Layout α}
    (h : layout settings t size = .ok l) :
    ∃ p, positioned settings t size = .ok p ∧ l.tree = resolveTree ⟨0.0, 0.0⟩ p ∧
      l.warnings = p.preorder.flatMap (·.warnings) := by
  simp only [layout, Except.bind_eq_ok, Except.pure_eq_ok] at h
  obtain ⟨p, hp, _, -, rfl⟩ := h
  exact ⟨p, hp, rfl, rfl⟩

theorem checkFinished_eq_ok {p : Tree (Positioned α)} (hp : p.Local (Positioned.Done settings P)) :
    checkFinished p.preorder = .ok () := by
  have hfind : p.preorder.find? (fun q => q.stage ≠ .positioned) = none := by
    rw [List.find?_eq_none, Tree.preorder_eq_map_subtrees, List.forall_mem_map]
    intro s hs
    have hstage : s.value.stage = .positioned := by
      rw [(hp s hs).boxes]
    simp [hstage]
  unfold checkFinished
  rw [hfind]

/-- A layout of a styled tree fails only where its measuring does. -/
theorem layout_avoids (hsettings : settings.Safe) {t : DiagramTree α}
    (ht : t.Styled Attribute.Counts) (size : Option (Pair α)) :
    (layout settings t size).Avoids LayoutError.IsInternal := by
  have hpositioned : (positioned settings t size).Avoids LayoutError.IsInternal := by
    refine (measureTree_avoids hsettings ht _).bind fun m hm => ?_
    obtain ⟨p, hp⟩ := exists_positionTree none _ (measureTree_done ht hm) (by simp)
    rw [hp]
    exact Except.avoids_ok p
  refine hpositioned.bind fun p hp => ?_
  rw [checkFinished_eq_ok (positioned_done ht hp)]
  exact Except.avoids_pure _

theorem resolveTrees_eq_map (offset : Pair α) (ps : List (Tree (Positioned α))) :
    resolveTrees offset ps = ps.map (resolveTree offset) := by
  induction ps with
  | nil => simp [resolveTrees]
  | cons p ps ih => simp [resolveTrees, ih]

/-- A tree inside the final one is a positioned one, shifted, with children that take its shift
along. -/
theorem mem_subtrees_resolveTree {t : Tree (Positioned α)} {offset : Pair α}
    {s : Tree (Resolved α)} (h : s ∈ (resolveTree offset t).subtrees) :
    ∃ q ∈ t.subtrees, ∃ shift,
      s = .node (Resolved.ofPositioned shift q.value) (q.children.map (resolveTree shift)) := by
  induction t using Tree.induct generalizing offset with
  | step p ps ih =>
    rw [resolveTree, resolveTrees_eq_map, Tree.subtrees_node, List.mem_cons, List.mem_flatMap] at h
    rcases h with rfl | ⟨t, ht, h⟩
    · exact ⟨.node p ps, Tree.self_mem_subtrees _, _, rfl⟩
    · obtain ⟨q, hq, rfl⟩ := List.mem_map.mp ht
      obtain ⟨q', hq', shift, rfl⟩ := ih q hq h
      refine ⟨q', ?_, shift, rfl⟩
      rw [Tree.subtrees_node]
      exact List.mem_cons_of_mem _ (List.mem_flatMap.mpr ⟨q, hq, hq'⟩)

theorem mem_resolveTree {p : Tree (Positioned α)} {offset : Pair α} {r : Resolved α}
    (h : r ∈ (resolveTree offset p).preorder) :
    ∃ q ∈ p.preorder, ∃ shift, r = Resolved.ofPositioned shift q := by
  rw [Tree.preorder_eq_map_subtrees] at h
  obtain ⟨s, hs, rfl⟩ := List.mem_map.mp h
  obtain ⟨q, hq, shift, rfl⟩ := mem_subtrees_resolveTree hs
  refine ⟨q.value, ?_, shift, rfl⟩
  rw [Tree.preorder_eq_map_subtrees]
  exact List.mem_map_of_mem hq

end GridDiagram
