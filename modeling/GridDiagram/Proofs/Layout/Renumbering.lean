import GridDiagram.Proofs.Layout.Fit
import GridDiagram.Proofs.Layout.Renumbered
import GridDiagram.Proofs.Layout.Shape

/-!
Layouts of trees whose groups count their grid lines from other numbers, in rationals. The lines of
a group are only looked at from inside it, so that no box depends on the number of the first.
-/

namespace GridDiagram

open Except

theorem resolveTree_renumber (outer : Pair Nat) (steps : List Nat → Pair Nat) (offset : Pair Rat)
    (p : Tree (Positioned Rat)) :
    resolveTree offset (p.renumber Positioned.renumber outer steps) =
      (resolveTree offset p).renumber Resolved.renumber outer steps := by
  induction p using Tree.induct generalizing outer steps offset with
  | step p ps ih =>
    have hshift : Resolved.shiftOf offset (p.renumber outer (steps [])).measured =
        Resolved.shiftOf offset p.measured :=
      Resolved.shiftOf_renumber outer (steps []) offset p.measured
    simp only [Tree.renumber_node, resolveTree, resolveTrees_eq_map, hshift,
      Resolved.ofPositioned_renumber, Tree.renumberBelow]
    refine congrArg (Tree.node _) (List.mapIdx_eq_iff.mpr fun i => ?_).symm
    rw [List.getElem?_map, List.getElem?_mapIdx, List.getElem?_map]
    cases hp : ps[i]? with
    | none => rfl
    | some q => exact congrArg some (ih q (List.mem_of_getElem? hp) _ _ _)

/-! ### Passes -/

/-- An error of a layout, and the one that comes of it if each group has its lines further on. -/
def LayoutError.Renumbered (steps : List Nat → Pair Nat) (x x' : LayoutError Rat) : Prop :=
  x' = x ∨ ∃ position, x' = x.shift (steps position)

/-- Something stands on the lines of a group on an axis: a child, or a constraint. -/
def DiagramTree.UsesLines (t : DiagramTree Rat) (axis : Axis) : Prop :=
  (∃ c ∈ t.children, c.value.effective.get? .place = none) ∨ t.value.effective.constraints axis ≠ []

/-- Lines are further on only where something stands on them. -/
def DiagramTree.Renumberable (t : DiagramTree Rat) (steps : List Nat → Pair Nat) : Prop :=
  ∀ position (s : DiagramTree Rat), t.at? position = some s →
    ∀ axis, (steps position).on axis ≠ 0 → s.UsesLines axis

section Passes

variable (settings : LayoutSettings Rat) {steps : List Nat → Pair Nat}

theorem LayoutError.Renumbered.of_below {x x' : LayoutError Rat} {i : Nat}
    (h : Renumbered (fun rest => steps (i :: rest)) x x') : Renumbered steps x x' :=
  h.imp_right fun ⟨position, h⟩ => ⟨i :: position, h⟩

theorem DiagramTree.Renumberable.below {e : Element Rat} {ts : List (DiagramTree Rat)}
    (h : Renumberable (.node e ts) steps) {i : Nat} {t : DiagramTree Rat} (ht : ts[i]? = some t) :
    t.Renumberable fun rest => steps (i :: rest) := by
  refine fun position s hs => h (i :: position) s ?_
  rw [Tree.at?, Tree.children_node, ht]
  exact hs

theorem measureTrees_renumber {E : LayoutError Rat → LayoutError Rat → Prop}
    {ts : List (DiagramTree Rat)} {f : Nat → DiagramTree Rat → DiagramTree Rat}
    {g : Nat → Tree (Measured Rat) → Tree (Measured Rat)}
    (hname : ∀ i t, (f i t).value.id = t.value.id ∧ (f i t).value.label = t.value.label)
    (h : ∀ i t, ts[i]? = some t → ∀ path, Related E (fun m m' => m' = g i m)
      (measureTree settings path t) (measureTree settings path (f i t)))
    (path : String) (number : Nat) :
    Related E (fun ms ms' => ms' = ms.mapIdx g) (measureTrees settings path number ts)
      (measureTrees settings path number (ts.mapIdx f)) := by
  induction ts generalizing f g number with
  | nil =>
    rw [List.mapIdx_nil, measureTrees.eq_1]
    exact related_ok.mpr rfl
  | cons t ts ih =>
    obtain ⟨hid, hlabel⟩ := hname 0 t
    rw [List.mapIdx_cons, measureTrees.eq_2, measureTrees.eq_2,
      LayoutSimulation.childPath_eq hid hlabel]
    refine (h 0 t rfl _).bind ?_
    rintro m _ rfl
    refine (ih (fun i => hname (i + 1)) (fun i => h (i + 1)) (number + 1)).bind ?_
    rintro ms _ rfl
    exact related_pure (List.mapIdx_cons ..).symm

/-- The children of a styled group, measured: they stand on lines that there are, and on an axis on
which something stands on lines, one of them does or a constraint. -/
theorem measureTrees_children {e : Element Rat} {ts : List (DiagramTree Rat)}
    {ms : List (Tree (Measured Rat))} {path : String} {number : Nat}
    (ht : DiagramTree.Styled Attribute.Counts (.node e ts))
    (hms : measureTrees settings path number ts = .ok ms) :
    (∀ c ∈ ms.map Tree.value, ∀ axis, (c.element.placement.on axis).Valid) ∧
      ∀ axis, DiagramTree.UsesLines (.node e ts) axis →
        (∃ c ∈ ms.map Tree.value, c.place? = none) ∨ e.effective.constraints axis ≠ [] := by
  obtain ⟨-, hts⟩ := DiagramTree.styled_node.mp ht
  have helement : List.Forall₂ (fun t m => t ∈ ts ∧ m.value.element = t.value) ts ms :=
    (measureTrees_ok hms).imp_of_mem fun t ht m ⟨_, hm⟩ => by
      obtain ⟨rfl, -⟩ := measureTree_elements hm
      refine ⟨ht, ?_⟩
      cases m
      rw [Tree.map_node, Tree.value_node, Tree.value_node]
  constructor
  · intro c hc axis
    obtain ⟨m, hm, rfl⟩ := List.mem_map.mp hc
    obtain ⟨t, -, ht, hvalue⟩ := helement.exists_left hm
    rw [hvalue]
    exact (hts t ht t t.self_mem_subtrees).1.placement axis
  · rintro axis (⟨t, ht, hplace⟩ | hconstraints)
    · obtain ⟨m, hm, -, hvalue⟩ := helement.exists_right ht
      refine .inl ⟨m.value, List.mem_map_of_mem hm, ?_⟩
      rw [Measured.place?, Measured.style, hvalue, hplace]
    · exact .inr hconstraints

omit settings in
theorem Measured.finish_renumber (outer inner : Pair Nat) (m : Measured Rat)
    {cs cs' : List (Measured Rat)} (h : cs.map progress = cs'.map progress) :
    Related Eq (fun m m' => m' = m.renumber outer inner) (m.finish cs)
      ((m.renumber outer inner).finish cs') := by
  unfold finish
  rw [← h]
  refine (related_eq_self _).bind ?_
  rintro p _ rfl
  exact related_pure rfl

omit settings in
theorem Positioned.finish_renumber (outer inner : Pair Nat) (p : Positioned Rat)
    (children : List Progress) :
    Related Eq (fun p p' => p' = p.renumber outer inner) (p.finish children)
      ((p.renumber outer inner).finish children) := by
  unfold finish
  refine (related_eq_self _).bind ?_
  rintro done _ rfl
  exact related_pure rfl

variable (steps) in
/-- A group of a styled tree, whose lines are further on, once its children have been measured. -/
theorem Measured.ofGroup_below {e : Element Rat} {ts : List (DiagramTree Rat)} {path : String}
    {ms : List (Tree (Measured Rat))} (hgroup : e.kind = .group)
    (ht : DiagramTree.Styled Attribute.Counts (.node e ts))
    (hused : ∀ axis, (steps []).on axis ≠ 0 → DiagramTree.UsesLines (.node e ts) axis)
    (hms : measureTrees settings path 1 ts = .ok ms) (outer : Pair Nat) :
    Related (fun x x' => x' = x.shift (steps [])) (fun m m' => m' = m.renumber outer (steps []))
      (ofElement settings e path (ms.map Tree.value))
      (ofElement settings (e.renumber outer (steps [])) path
        ((Tree.renumberBelow renumber steps ms).map Tree.value)) := by
  obtain ⟨hvalid, huses⟩ := measureTrees_children settings ht hms
  exact ofGroup_renumber outer _ settings hgroup
    (DiagramTree.styled_node.mp ht).1.1.properties.constraints path hvalid
    (fun axis hne => huses axis (hused axis hne)) (Tree.forall₂_values_renumberBelow steps ms)

/-- The first pass over a tree whose lines are further on measures every node as it was, behind more
empty intervals. -/
theorem measureTree_renumber {t : DiagramTree Rat} (ht : t.Styled Attribute.Counts)
    (hsteps : t.Renumberable steps) (outer : Pair Nat) (path : String) :
    Related (LayoutError.Renumbered steps)
      (fun m m' => m' = m.renumber Measured.renumber outer steps) (measureTree settings path t)
      (measureTree settings path (t.renumber Element.renumber outer steps)) := by
  induction t using Tree.induct generalizing outer steps path with
  | step e ts ih =>
    obtain ⟨-, hts⟩ := DiagramTree.styled_node.mp ht
    have hchildren : Related (LayoutError.Renumbered steps)
        (fun ms ms' => ms' = Tree.renumberBelow Measured.renumber steps ms)
        (measureTrees settings path 1 ts)
        (measureTrees settings path 1 (Tree.renumberBelow Element.renumber steps ts)) := by
      refine measureTrees_renumber settings (fun i t => ?_) (fun i t hi path => ?_) path 1
      · rw [Tree.value_renumber]
        exact ⟨rfl, rfl⟩
      · have hmem := List.mem_of_getElem? hi
        exact (ih t hmem (hts t hmem) (hsteps.below hi) _ path).imp_error fun _ _ => .of_below
    have hnode (ms : List (Tree (Measured Rat))) (hms : measureTrees settings path 1 ts = .ok ms) :
        Related (LayoutError.Renumbered steps) (fun m m' => m' = m.renumber outer (steps []))
          (Measured.ofElement settings e path (ms.map Tree.value))
          (Measured.ofElement settings (e.renumber outer (steps [])) path
            ((Tree.renumberBelow Measured.renumber steps ms).map Tree.value)) := by
      by_cases hgroup : e.kind = .group
      · have hsized := Measured.ofGroup_below settings steps hgroup ht (hsteps [] _ rfl) hms outer
        exact hsized.imp_error fun _ _ h => .inr ⟨[], h⟩
      · exact (Measured.ofLeaf_renumber outer _ settings hgroup path _ _).imp_error
          fun _ _ h => .inl h.symm
    have hprogress (ms : List (Tree (Measured Rat))) :
        (ms.map Tree.value).map Measured.progress =
          ((Tree.renumberBelow Measured.renumber steps ms).map Tree.value).map
            Measured.progress := by
      rw [List.map_map, List.map_map]
      exact (Tree.map_renumberBelow steps Measured.renumber_progress ms).symm
    rw [Tree.renumber_node, measureTree.eq_1, measureTree.eq_1]
    refine hchildren.bind_of_ok ?_
    rintro ms _ hms rfl
    refine (hnode ms hms).bind ?_
    rintro m _ rfl
    refine ((Measured.finish_renumber outer (steps []) m (hprogress ms)).imp_error
      fun _ _ h => .inl h.symm).bind ?_
    rintro m _ rfl
    exact related_pure (Tree.renumber_node ..).symm

theorem positionTrees_renumber {E : LayoutError Rat → LayoutError Rat → Prop}
    {ms : List (Tree (Measured Rat))} {f : Nat → Tree (Measured Rat) → Tree (Measured Rat)}
    {g : Nat → Tree (Positioned Rat) → Tree (Positioned Rat)} (parent : Progress)
    {grid grid' : GridPosition Rat}
    (hcell : ∀ i, ∀ m ∈ ms, Related E Eq (Positioned.cellFor grid m.value)
      (Positioned.cellFor grid' (f i m).value))
    (h : ∀ i, ∀ m ∈ ms, ∀ cell, Related E (fun p p' => p' = g i p)
      (positionTree settings parent cell m) (positionTree settings parent cell (f i m))) :
    Related E (fun ps ps' => ps' = ps.mapIdx g) (positionTrees settings parent grid ms)
      (positionTrees settings parent grid' (ms.mapIdx f)) := by
  induction ms generalizing f g with
  | nil =>
    rw [List.mapIdx_nil, positionTrees.eq_1, positionTrees.eq_1]
    exact related_ok.mpr rfl
  | cons m ms ih =>
    rw [List.mapIdx_cons, positionTrees.eq_2, positionTrees.eq_2]
    refine (hcell 0 m List.mem_cons_self).bind ?_
    rintro cell _ rfl
    refine (h 0 m List.mem_cons_self cell).bind ?_
    rintro p _ rfl
    refine (ih (fun i m hm => hcell _ m (List.mem_cons_of_mem _ hm))
      fun i m hm => h _ m (List.mem_cons_of_mem _ hm)).bind ?_
    rintro ps _ rfl
    exact related_pure (List.mapIdx_cons ..).symm

/-- The second pass over a tree whose lines are further on gives every node the boxes that it had,
between more lines. -/
theorem positionTree_renumber {m : Tree (Measured Rat)}
    (hm : ∀ n ∈ m.preorder, ∀ axis, (n.element.placement.on axis).Valid) (outer : Pair Nat)
    (steps : List Nat → Pair Nat) (parent : Option Progress) (cell : Box Rat) :
    Related (LayoutError.Renumbered steps)
      (fun p p' => p' = p.renumber Positioned.renumber outer steps)
      (positionTree settings parent cell m)
      (positionTree settings parent cell (m.renumber Measured.renumber outer steps)) := by
  induction m using Tree.induct generalizing outer steps parent cell with
  | step m ms ih =>
    obtain ⟨-, hms⟩ := Tree.forall_preorder_node.mp hm
    have same {x x' : LayoutError Rat} (h : x = x') : LayoutError.Renumbered steps x x' :=
      .inl h.symm
    have hgrid : ((Positioned.ofMeasured settings m cell).renumber outer (steps [])).grid =
        (Positioned.ofMeasured settings m cell).grid.map (GridPosition.pad (steps [])) := rfl
    rw [Tree.renumber_node, positionTree.eq_1, positionTree.eq_1, Measured.renumber_progress,
      Positioned.ofMeasured_renumber]
    refine (related_self (fun _ => same rfl) (fun _ => rfl) _).bind fun _ _ _ => ?_
    simp only [hgrid]
    cases (Positioned.ofMeasured settings m cell).grid with
    | none =>
      have hchildren : (Tree.renumberBelow Measured.renumber steps ms).map (·.value.progress) =
          ms.map (·.value.progress) :=
        Tree.map_renumberBelow steps Measured.renumber_progress ms
      simp only [Option.map_none, hchildren]
      refine ((Positioned.finish_renumber outer (steps []) _ _).imp_error fun _ _ => same).bind ?_
      rintro p _ rfl
      refine related_pure ?_
      rw [Tree.renumber_node]
      rfl
    | some grid =>
      have hchildren : Related (LayoutError.Renumbered steps)
          (fun ps ps' => ps' = Tree.renumberBelow Positioned.renumber steps ps)
          (positionTrees settings (Positioned.ofMeasured settings m cell).progress grid ms)
          (positionTrees settings (Positioned.ofMeasured settings m cell).progress
            (grid.pad (steps [])) (Tree.renumberBelow Measured.renumber steps ms)) := by
        refine positionTrees_renumber settings _ (fun i m hm => ?_) fun i m hm cell => ?_
        · rw [Tree.value_renumber]
          exact (Positioned.cellFor_renumber _ _ grid (hms m hm _ m.value_mem_preorder)).imp_error
            fun _ _ h => .inr ⟨[], h⟩
        · exact (ih m hm (hms m hm) _ _ _ cell).imp_error fun _ _ => .of_below
      simp only [Option.map_some, Positioned.renumber_progress]
      refine hchildren.bind ?_
      rintro ps _ rfl
      have hdone : (Tree.renumberBelow Positioned.renumber steps ps).map (·.value.progress) =
          ps.map (·.value.progress) :=
        Tree.map_renumberBelow steps Positioned.renumber_progress ps
      rw [hdone]
      refine ((Positioned.finish_renumber outer (steps []) _ _).imp_error fun _ _ => same).bind ?_
      rintro p _ rfl
      exact related_pure (Tree.renumber_node ..).symm

theorem positioned_renumber {t : DiagramTree Rat} (ht : t.Styled Attribute.Counts)
    (hsteps : t.Renumberable steps) (size : Option (Pair Rat)) :
    Related (LayoutError.Renumbered steps)
      (fun p p' => p' = p.renumber Positioned.renumber ⟨0, 0⟩ steps) (positioned settings t size)
      (positioned settings (t.renumber Element.renumber ⟨0, 0⟩ steps) size) := by
  have hlabel : (t.renumber Element.renumber ⟨0, 0⟩ steps).value.label = t.value.label := by
    rw [Tree.value_renumber]
    rfl
  unfold positioned
  rw [hlabel]
  refine (measureTree_renumber settings ht hsteps ⟨0, 0⟩ _).bind_of_ok ?_
  rintro m _ hm rfl
  have hvalid : ∀ n ∈ m.preorder, ∀ axis, (n.element.placement.on axis).Valid := by
    intro n hn
    rw [Tree.preorder_eq_map_subtrees] at hn
    obtain ⟨s, hs, rfl⟩ := List.mem_map.mp hn
    exact (measureTree_done ht hm s hs).styled.placement
  have hnatural : (m.renumber Measured.renumber ⟨0, 0⟩ steps).value.natural = m.value.natural := by
    rw [Tree.value_renumber]
    rfl
  rw [hnatural]
  exact positionTree_renumber settings hvalid ⟨0, 0⟩ steps none _

/-- The grid lines of a group are counted from any number. Where one group or several have their
lines further on, each by a number of its own on each axis where something stands on them, a group
gets the size that it had behind as many empty intervals, or none over the same lines, further on.
The tree can be laid out exactly if it could be: each node has the boxes that it had, and each group
has as many lines more at the place of its first one. -/
theorem layout_renumber {t : DiagramTree Rat} (ht : t.Styled Attribute.Counts)
    {steps : List Nat → Pair Nat} (hsteps : t.Renumberable steps) (size : Option (Pair Rat)) :
    (∀ position s, t.at? position = some s → s.value.kind = .group → ∀ path ms,
      measureTrees settings path 1 s.children = .ok ms → ∀ outer,
      Related (fun x x' => x' = x.shift (steps position))
        (fun m m' => m' = m.renumber outer (steps position))
        (Measured.ofElement settings s.value path (ms.map Tree.value))
        (Measured.ofElement settings (s.value.renumber outer (steps position)) path
          ((Tree.renumberBelow Measured.renumber (fun rest => steps (position ++ rest)) ms).map
            Tree.value))) ∧
    (∀ path, Related (LayoutError.Renumbered steps)
      (fun m m' => m' = m.renumber Measured.renumber ⟨0, 0⟩ steps) (measureTree settings path t)
      (measureTree settings path (t.renumber Element.renumber ⟨0, 0⟩ steps))) ∧
    Related (LayoutError.Renumbered steps)
      (fun l l' => l'.tree = l.tree.renumber Resolved.renumber ⟨0, 0⟩ steps ∧
        l'.warnings = l.warnings)
      (layout settings t size)
      (layout settings (t.renumber Element.renumber ⟨0, 0⟩ steps) size) := by
  refine ⟨fun position s hs hgroup path ms hms outer => ?_,
    fun path => measureTree_renumber settings ht hsteps ⟨0, 0⟩ path, ?_⟩
  · obtain ⟨e, ts⟩ := s
    have hstyled : DiagramTree.Styled Attribute.Counts (.node e ts) :=
      fun u hu => ht u (Tree.subtrees_trans (Tree.mem_subtrees_of_at? hs) hu)
    have hsame : steps (position ++ []) = steps position := by
      rw [List.append_nil]
    have hnode := Measured.ofGroup_below settings (fun rest => steps (position ++ rest)) hgroup
      hstyled (hsame ▸ hsteps position _ hs) hms outer
    rwa [hsame] at hnode
  · refine (positioned_renumber settings ht hsteps size).bind ?_
    rintro p _ rfl
    have hprogress := p.preorder_renumber ⟨0, 0⟩ steps Positioned.renumber_progress
    have hwarnings := p.preorder_renumber ⟨0, 0⟩ steps Positioned.renumber_warnings
    rw [checkFinished_congr hprogress]
    refine (related_self (fun _ => .inl rfl) (fun _ => rfl) _).bind fun _ _ _ => ?_
    refine related_pure ⟨resolveTree_renumber _ _ _ _, ?_⟩
    simp only [List.flatMap_def, hwarnings]

end Passes

/-- A rectangle in a cell of its group. -/
def cellRect (column row : Int) : DiagramTree Rat :=
  .node { tag := .rect, placement := ⟨Span.cell column, Span.cell row⟩,
          attributes := [⟨.width, 50⟩] } []

/-- Two rectangles side by side, in a group across two columns. -/
def cellRow : DiagramTree Rat :=
  .node { tag := .group, placement := ⟨⟨1, 3⟩, Span.cell 1⟩ } [cellRect 1 1, cellRect 2 1]

/-- A row with a rectangle behind and below it, in a layout with a floor. -/
def nestedGrid : DiagramTree Rat :=
  .node { tag := .layout, attributes := [⟨.minx, [⟨2, 40, 0⟩]⟩] } [cellRow, cellRect 3 2]

/-- The columns of the layout counted from the third line, and the rows inside its first child from
the fourth. -/
def nestedSteps : List Nat → Pair Nat
  | [] => ⟨2, 0⟩
  | [0] => ⟨0, 3⟩
  | _ => ⟨0, 0⟩

theorem Placement.valid_of {p : Placement} (hx : p.x.Valid) (hy : p.y.Valid) (axis : Axis) :
    (p.on axis).Valid := by
  cases axis
  · exact hx
  · exact hy

theorem Span.cell_valid {line : Int} (h : 1 ≤ line) : (Span.cell line).Valid :=
  ⟨h, Int.lt_succ line⟩

theorem cellRect_styled {column row : Int} (hcolumn : 1 ≤ column) (hrow : 1 ≤ row) :
    (cellRect column row).Styled Attribute.Counts := by
  have hplacement := Placement.valid_of (p := ⟨Span.cell column, Span.cell row⟩)
    (Span.cell_valid hcolumn) (Span.cell_valid hrow)
  refine DiagramTree.styled_node.mpr ⟨⟨⟨?_, ?_, ?_, hplacement, nofun⟩, fun _ => rfl⟩, by simp⟩
  · exact ⟨nofun, nofun, nofun⟩
  · simp [Properties.All, Element.effective, Attribute.Counts]
  · simp [Element.effective, Tag.allows, Attribute.isShape]

theorem cellRow_styled : cellRow.Styled Attribute.Counts := by
  have hplacement := Placement.valid_of (p := ⟨⟨1, 3⟩, Span.cell 1⟩) (by constructor <;> decide)
    (Span.cell_valid (le_refl 1))
  refine DiagramTree.styled_node.mpr ⟨⟨⟨?_, ?_, ?_, hplacement, nofun⟩, fun h => ?_⟩, ?_⟩
  · exact ⟨nofun, nofun, nofun⟩
  · simp [Properties.All, Element.effective]
  · simp [Element.effective]
  · exact absurd rfl h
  · simp [cellRect_styled]

theorem nestedGrid_styled : nestedGrid.Styled Attribute.Counts := by
  refine DiagramTree.styled_node.mpr
    ⟨⟨⟨?_, ?_, ?_, Placement.first_valid, nofun⟩, fun h => ?_⟩, ?_⟩
  · exact ⟨nofun, nofun, nofun⟩
  · simp [Properties.All, Element.effective, Attribute.Counts]
  · simp [Element.effective, Tag.allows]
  · exact absurd rfl h
  · simp [cellRow_styled, cellRect_styled]

theorem nestedGrid_renumberable : nestedGrid.Renumberable nestedSteps := by
  intro position s hs axis hne
  unfold nestedSteps at hne
  split at hne
  · obtain rfl := Option.some.inj hs
    exact .inl ⟨_, List.mem_cons_self, rfl⟩
  · obtain rfl := Option.some.inj hs
    exact .inl ⟨_, List.mem_cons_self, rfl⟩
  · cases axis <;> exact absurd rfl hne

theorem nestedGrid_renumber :
    nestedGrid.Styled Attribute.Counts ∧ nestedGrid.Renumberable nestedSteps ∧
    ∃ l l', layout (rowOptions.layoutSettings plainWorld) nestedGrid none = .ok l ∧
      layout (rowOptions.layoutSettings plainWorld)
        (nestedGrid.renumber Element.renumber ⟨0, 0⟩ nestedSteps) none = .ok l' ∧
      l'.tree = l.tree.renumber Resolved.renumber ⟨0, 0⟩ nestedSteps ∧
      l'.warnings = l.warnings := by
  have hisOk : (layout (rowOptions.layoutSettings plainWorld) nestedGrid none).isOk = true := by
    decide +kernel
  obtain ⟨l, hl⟩ := Except.exists_of_isOk hisOk
  obtain ⟨-, -, hboth⟩ := layout_renumber (rowOptions.layoutSettings plainWorld) nestedGrid_styled
    nestedGrid_renumberable none
  obtain ⟨l', hl', htree, hwarnings⟩ := hboth.ok_left hl
  exact ⟨nestedGrid_styled, nestedGrid_renumberable, l, l', hl, hl', htree, hwarnings⟩

end GridDiagram
