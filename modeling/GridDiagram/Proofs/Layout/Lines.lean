import GridDiagram.Layout.Measure
import GridDiagram.Proofs.StyleSheet

/-!
The lines of a grid: an axis has a line for every constraint and every child, and the operations on
it look no further, so that the only error of an axis is one of contradicting sizes.
-/

namespace GridDiagram

variable {α : Type} [Scalar α]

namespace GridAxis

variable {g g' : GridAxis α}

/-- The number of intervals of an axis. -/
def count (g : GridAxis α) : Nat :=
  g.intervals.length

omit [Scalar α] in
theorem index?_eq_some {line : Int} (h : 1 ≤ line) (hlast : line ≤ g.count) :
    g.index? line = some (line - 1).toNat := by
  simp only [index?, count] at hlast ⊢
  rw [if_pos ⟨h, hlast⟩]

omit [Scalar α] in
theorem before_eq {line : Int} (h : 1 ≤ line) (hlast : line ≤ g.count + 1) :
    g.before line = (line - 1).toNat := by
  simp only [before, count] at hlast ⊢
  rw [if_pos h, min_eq_left]
  omega

@[simp] theorem count_ofLineCount (n : Int) :
    (ofLineCount n : GridAxis α).count = (n - 1).toNat := by
  simp [ofLineCount, count]

omit [Scalar α] in
theorem modifyAt_eq_ok {line : Int} {f : Interval α → Interval α} (h : 1 ≤ line)
    (hlast : line ≤ g.count) :
    g.modifyAt line f = .ok ⟨g.intervals.modify (line - 1).toNat f⟩ := by
  simp only [modifyAt, index?_eq_some h hlast]

omit [Scalar α] in
theorem modifyAt_count {line : Int} {f : Interval α → Interval α}
    (h : g.modifyAt line f = .ok g') : g'.count = g.count := by
  unfold modifyAt at h
  split at h
  · obtain rfl := Except.ok.inj h
    simp [count]
  · simp at h

@[simp] theorem widen_count (g : GridAxis α) (s : Span) (share : α) :
    (g.widen s share).count = g.count := by
  simp only [widen, spanned, count, List.length_append, List.length_map, List.length_take,
    List.length_drop]
  omega

theorem addSpan_count {s : Span} {size : α} (h : g.addSpan s size = .ok g') :
    g'.count = g.count := by
  obtain ⟨-, rfl⟩ | ⟨-, -, rfl⟩ := addSpan_cases h
  · rfl
  · exact widen_count g s _

omit [Scalar α] in
@[simp] theorem freezeMinimums_count (g : GridAxis α) : g.freezeMinimums.count = g.count := by
  simp [freezeMinimums, count]

@[simp] theorem grow_count (g : GridAxis α) (slack : α) : (g.grow slack).count = g.count := by
  simp [grow, count]

theorem length_positions (g : GridAxis α) (origin : α) :
    (g.positions origin).length = g.count + 1 := by
  have from_length (is : List (Interval α)) (origin : α) :
      (positionsFrom origin is).length = is.length + 1 := by
    induction is generalizing origin with
    | nil => rfl
    | cons i is ih => simp [positionsFrom, ih]
  exact from_length g.intervals origin

end GridAxis

omit [Scalar α] in
theorem Properties.All.constraints {ps : Properties α} (h : ps.All Attribute.Counts) (axis : Axis) :
    ∀ c ∈ ps.constraints axis, 1 ≤ c.line := by
  have counted (cs : Option (List (IntervalConstraint α)))
      (hcs : ∀ l, cs = some l → ∀ c ∈ l, 1 ≤ c.line) : ∀ c ∈ cs.getD [], 1 ≤ c.line := by
    cases cs with
    | none => simp
    | some l => exact hcs l rfl
  cases axis
  · exact counted _ fun _ hl => h.get? hl
  · exact counted _ fun _ hl => h.get? hl

theorem foldl_max_le_iff {β : Type} {f : β → Int} {first m : Int} {xs : List β} :
    xs.foldl (fun n x => max n (f x)) first ≤ m ↔ first ≤ m ∧ ∀ x ∈ xs, f x ≤ m := by
  induction xs generalizing first with
  | nil => simp
  | cons x xs ih => rw [List.foldl_cons, ih, Int.max_le, List.forall_mem_cons, and_assoc]

namespace AxisMeasure

variable {axis : Axis} {constraints : List (IntervalConstraint α)} {gridded : List (Measured α)}

omit [Scalar α] in
theorem lineCount_le_iff {m : Int} : lineCount axis constraints gridded ≤ m ↔
    1 ≤ m ∧ (∀ c ∈ gridded, (c.element.placement.on axis).stop ≤ m) ∧
      ∀ c ∈ constraints, c.line + 1 ≤ m := by
  unfold lineCount
  rw [foldl_max_le_iff, foldl_max_le_iff, and_assoc]

omit [Scalar α] in
theorem stop_le_lineCount {c : Measured α} (hc : c ∈ gridded) :
    (c.element.placement.on axis).stop ≤ lineCount axis constraints gridded :=
  (lineCount_le_iff.mp (Int.le_refl _)).2.1 c hc

omit [Scalar α] in
theorem line_lt_lineCount {c : IntervalConstraint α} (hc : c ∈ constraints) :
    c.line + 1 ≤ lineCount axis constraints gridded :=
  (lineCount_le_iff.mp (Int.le_refl _)).2.2 c hc

variable {g g' : GridAxis α} {e : LayoutError α}

theorem addCell_count {child : Measured α} (h : addCell axis g child = .ok g') :
    g'.count = g.count := by
  simp only [addCell] at h
  split at h
  · exact GridAxis.modifyAt_count (Except.mapError_eq_ok.mp h)
  · obtain rfl := Except.ok.inj h
    rfl

theorem addSpan_count {child : Measured α} (h : addSpan axis g child = .ok g') :
    g'.count = g.count :=
  GridAxis.addSpan_count (Except.mapError_eq_ok.mp h)

theorem applyConstraints_count (h : g.applyConstraints constraints = .ok g') :
    g'.count = g.count :=
  Except.foldlM_ok (P := fun g' => g'.count = g.count) h rfl fun _ _ _ _ hg h =>
    (GridAxis.modifyAt_count h).trans hg

theorem addCells_count {children : List (Measured α)}
    (h : children.foldlM (addCell axis) g = .ok g') : g'.count = g.count :=
  Except.foldlM_ok (P := fun g' => g'.count = g.count) h rfl fun _ _ _ _ hg h =>
    (addCell_count h).trans hg

theorem addSpans_count {children : List (Measured α)}
    (h : children.foldlM (addSpan axis) g = .ok g') : g'.count = g.count :=
  Except.foldlM_ok (P := fun g' => g'.count = g.count) h rfl fun _ _ _ _ hg h =>
    (addSpan_count h).trans hg

theorem sizeGrid_count (h : sizeGrid axis constraints gridded = .ok g) :
    g.count = (lineCount axis constraints gridded - 1).toNat := by
  simp only [sizeGrid, Except.bind_eq_ok, Except.mapError_eq_ok, Except.pure_eq_ok] at h
  obtain ⟨floored, hfloored, celled, hcelled, spanned, hspanned, rfl⟩ := h
  rw [GridAxis.freezeMinimums_count, addSpans_count hspanned, addCells_count hcelled,
    applyConstraints_count hfloored, GridAxis.count_ofLineCount]

/-! ### Errors -/

/-- An error says that literal sizes leave no room for a child. -/
def IsOverconstrained (axis : Axis) (e : LayoutError α) : Prop :=
  ∃ start stop fixed needed path, e = .overconstrained axis start stop fixed needed path

theorem applyConstraints_error (hlines : ∀ c ∈ constraints, 1 ≤ c.line)
    (hcount : ∀ c ∈ constraints, c.line ≤ g.count) (error : GridError α) :
    g.applyConstraints constraints ≠ .error error := by
  intro h
  obtain ⟨c, hc, g', hg', h⟩ := Except.foldlM_error (P := fun g' => g'.count = g.count) h rfl
    fun _ _ _ _ hg h => (GridAxis.modifyAt_count h).trans hg
  simp [GridAxis.applyConstraint,
    GridAxis.modifyAt_eq_ok (hlines c hc) (hg' ▸ hcount c hc)] at h

theorem addCell_error {child : Measured α} (hvalid : (child.element.placement.on axis).Valid)
    (hcount : (child.element.placement.on axis).stop ≤ g.count + 1) :
    addCell axis g child ≠ .error e := by
  intro h
  obtain ⟨hstart, hstop⟩ := hvalid
  simp only [addCell] at h
  split at h
  · rw [GridAxis.addCell, GridAxis.modifyAt_eq_ok hstart (by omega)] at h
    simp at h
  · simp at h

theorem addSpan_error {child : Measured α} (h : addSpan axis g child = .error e) :
    IsOverconstrained axis e := by
  simp only [addSpan, Except.mapError_eq_error, GridAxis.addSpan] at h
  obtain ⟨error, h, rfl⟩ := h
  split at h
  · simp at h
  · split at h
    · obtain rfl := Except.error.inj h
      exact ⟨_, _, _, _, _, rfl⟩
    · simp at h

/-- Floors and cells are always made room for; what the sizing comes to is decided by the spans. -/
theorem exists_celled (hconstraints : ∀ c ∈ constraints, 1 ≤ c.line)
    (hgridded : ∀ c ∈ gridded, (c.element.placement.on axis).Valid) :
    ∃ floored celled : GridAxis α,
      (GridAxis.ofLineCount (lineCount axis constraints gridded)).applyConstraints constraints =
        .ok floored ∧
      gridded.foldlM (addCell axis) floored = .ok celled ∧
      sizeGrid axis constraints gridded =
        ((spanning axis gridded).foldlM (addSpan axis) celled).map GridAxis.freezeMinimums := by
  have hempty := GridAxis.count_ofLineCount (α := α) (lineCount axis constraints gridded)
  cases hfloored : (GridAxis.ofLineCount (lineCount axis constraints gridded)).applyConstraints
      constraints with
  | error error =>
    refine absurd hfloored (applyConstraints_error hconstraints (fun c hc => ?_) error)
    have hline : c.line + 1 ≤ lineCount axis constraints gridded := line_lt_lineCount hc
    omega
  | ok floored =>
    have hcount := (applyConstraints_count hfloored).trans hempty
    cases hcelled : gridded.foldlM (addCell axis) floored with
    | error error =>
      obtain ⟨c, hc, g, hg, h⟩ := Except.foldlM_error (P := fun g => g.count = floored.count)
        hcelled rfl fun _ _ _ _ hg h => (addCell_count h).trans hg
      refine absurd h (addCell_error (hgridded c hc) ?_)
      have hstop : (c.element.placement.on axis).stop ≤ lineCount axis constraints gridded :=
        stop_le_lineCount hc
      obtain ⟨hstart, hbehind⟩ := hgridded c hc
      omega
    | ok celled =>
      refine ⟨floored, celled, rfl, hcelled, ?_⟩
      simp only [sizeGrid, hfloored, hcelled, Except.mapError, bind, Except.bind]
      cases (spanning axis gridded).foldlM (addSpan axis) celled <;> rfl

/-- The sizing of a grid fails only where literal sizes leave no room for a child. -/
theorem sizeGrid_error (hconstraints : ∀ c ∈ constraints, 1 ≤ c.line)
    (hgridded : ∀ c ∈ gridded, (c.element.placement.on axis).Valid)
    (h : sizeGrid axis constraints gridded = .error e) : IsOverconstrained axis e := by
  obtain ⟨_, celled, -, -, hgrid⟩ := exists_celled hconstraints hgridded
  rw [hgrid, Except.map_eq_error] at h
  obtain ⟨c, -, g, -, h⟩ := Except.foldlM_error (P := fun _ => True) h trivial
    fun _ _ _ _ _ _ => trivial
  exact addSpan_error h

/-- The lines of every child without a place lie on the grid of its parent. -/
theorem ofChildren_count {style : Properties α} {children : List (Measured α)} {m : AxisMeasure α}
    (h : ofChildren style children axis = .ok m) {c : Measured α} (hc : c ∈ children)
    (hplace : c.place? = none) (hvalid : (c.element.placement.on axis).Valid) :
    (c.element.placement.on axis).stop ≤ m.grid.count + 1 := by
  simp only [ofChildren, Except.bind_eq_ok, Except.pure_eq_ok] at h
  obtain ⟨grid, hgrid, rfl⟩ := h
  have hmem : c ∈ children.filter (·.place?.isNone) := by
    simp [hc, hplace]
  have hstop : (c.element.placement.on axis).stop ≤ lineCount axis (style.constraints axis) _ :=
    stop_le_lineCount hmem
  obtain ⟨hstart, hbehind⟩ := hvalid
  rw [sizeGrid_count hgrid]
  omega

theorem ofChildren_error {style : Properties α} {children : List (Measured α)}
    (hstyle : style.All Attribute.Counts)
    (hchildren : ∀ c ∈ children, (c.element.placement.on axis).Valid)
    (h : ofChildren style children axis = .error e) : IsOverconstrained axis e := by
  simp only [ofChildren, Except.bind_eq_error, Except.pure_eq_error, and_false, exists_false,
    or_false] at h
  exact sizeGrid_error (hstyle.constraints axis)
    (fun c hc => hchildren c (List.mem_filter.mp hc).1) h

end AxisMeasure

end GridDiagram
