import GridDiagram.Proofs.Correspondence
import GridDiagram.Proofs.Layout.Intervals
import GridDiagram.Proofs.Layout.Simulation

/-!
The lines of an axis counted from an earlier one, in rationals. Where empty intervals are put in
front of an axis and every line number is raised by as many, each step of the sizing does what it
did, and fails over the same lines if it does.
-/

namespace GridDiagram

open Except

/-- The same number of lines, `k` further on. -/
def Span.shift (s : Span) (k : Nat) : Span :=
  ⟨s.start + k, s.stop + k⟩

@[simp] theorem Span.start_shift (s : Span) (k : Nat) : (s.shift k).start = s.start + k := rfl

@[simp] theorem Span.stop_shift (s : Span) (k : Nat) : (s.shift k).stop = s.stop + k := rfl

@[simp] theorem Span.length_shift (s : Span) (k : Nat) : (s.shift k).length = s.length := by
  simp only [Span.length, start_shift, stop_shift]
  omega

/-- The constraint on the interval `k` further on. -/
def IntervalConstraint.shift {α : Type} (c : IntervalConstraint α) (k : Nat) :
    IntervalConstraint α :=
  { c with line := c.line + k }

/-- The list with `k` more copies of its first entry in front. -/
def leading {β : Type} (k : Nat) : List β → List β
  | [] => []
  | x :: xs => List.replicate k x ++ x :: xs

theorem leading_map {β γ : Type} (f : β → γ) (k : Nat) (xs : List β) :
    leading k (xs.map f) = (leading k xs).map f := by
  cases xs <;> simp [leading]

theorem leading_getElem? {β : Type} (k : Nat) (xs : List β) (i : Nat) :
    (leading k xs)[i + k]? = xs[i]? := by
  cases xs with
  | nil => rfl
  | cons x xs =>
    rw [leading, List.getElem?_append_right (by simp), List.length_replicate, Nat.add_sub_cancel]

theorem modify_replicate_append {β : Type} (x : β) (k i : Nat) (f : β → β) (xs : List β) :
    (List.replicate k x ++ xs).modify (i + k) f = List.replicate k x ++ xs.modify i f := by
  induction k with
  | zero => rfl
  | succ k ih =>
    rw [List.replicate_succ, List.cons_append, List.cons_append, ← Nat.add_assoc,
      List.modify_succ_cons, ih]

theorem take_replicate_append {β : Type} (x : β) (k i : Nat) (xs : List β) :
    (List.replicate k x ++ xs).take (i + k) = List.replicate k x ++ xs.take i := by
  simp [List.take_append]

theorem drop_replicate_append {β : Type} (x : β) (k i : Nat) (xs : List β) :
    (List.replicate k x ++ xs).drop (i + k) = xs.drop i := by
  simp [List.drop_append]

/-- The lines of an error, `k` further on. -/
def GridError.shift {α : Type} (k : Nat) : GridError α → GridError α
  | .noInterval line => .noInterval (line + k)
  | .overconstrained start stop fixed needed =>
    .overconstrained (start + k) (stop + k) fixed needed

/-! ### Steps of the sizing -/

namespace GridAxis

/-- The axis with `k` empty intervals in front. -/
def pad (k : Nat) (g : GridAxis Rat) : GridAxis Rat :=
  ⟨List.replicate k ⟨0.0, false, 0.0, 0.0⟩ ++ g.intervals⟩

/-- A second run, on a padded axis, comes to the padded result, or fails over the shifted lines. -/
abbrev Padded (k : Nat) :
    Except (GridError Rat) (GridAxis Rat) → Except (GridError Rat) (GridAxis Rat) → Prop :=
  Related (fun e e' => e' = e.shift k) fun g g' => g' = g.pad k

variable {line : Int} {s : Span} (k : Nat) (g : GridAxis Rat)

theorem ofLineCount_pad {n : Int} (hn : 1 ≤ n) :
    (ofLineCount (n + k) : GridAxis Rat) = (ofLineCount n).pad k := by
  have hcount : (n + k - 1).toNat = k + (n - 1).toNat := by omega
  rw [ofLineCount, hcount, List.replicate_add]
  rfl

theorem index?_pad (hline : 1 ≤ line) :
    (g.pad k).index? (line + k) = (g.index? line).map (· + k) := by
  simp only [index?, pad, List.length_append, List.length_replicate]
  split
  · rw [if_pos (by omega), Option.map_some]
    congr 1
    omega
  · rw [if_neg (by omega), if_neg (by omega), if_neg (by omega), Option.map_none]

theorem before_pad (hline : 1 ≤ line) : (g.pad k).before (line + k) = g.before line + k := by
  simp only [before, pad, List.length_append, List.length_replicate]
  rw [if_pos (by omega), if_pos hline]
  omega

theorem modifyAt_pad (hline : 1 ≤ line) (f : Interval Rat → Interval Rat) :
    Padded k (g.modifyAt line f) ((g.pad k).modifyAt (line + k) f) := by
  unfold modifyAt
  rw [index?_pad k g hline]
  cases g.index? line with
  | none => exact related_error.mpr rfl
  | some i => exact related_ok.mpr (congrArg mk (modify_replicate_append _ k i f g.intervals))

theorem applyConstraints_pad {cs : List (IntervalConstraint Rat)} (hcs : ∀ c ∈ cs, 1 ≤ c.line) :
    Padded k (g.applyConstraints cs) ((g.pad k).applyConstraints (cs.map (·.shift k))) := by
  have hshift : List.Forall₂ (fun c c' => 1 ≤ c.line ∧ c' = c.shift k) cs (cs.map (·.shift k)) := by
    rw [List.forall₂_map_right_iff]
    exact List.forall₂_same.mpr fun c hc => ⟨hcs c hc, rfl⟩
  refine Related.foldlM (R := fun g g' : GridAxis Rat => g' = g.pad k) hshift ?_ rfl
  rintro g _ c _ rfl ⟨hline, rfl⟩
  exact modifyAt_pad k g hline (constrain c)

theorem addCell_pad (hline : 1 ≤ line) (size : Rat) :
    Padded k (g.addCell line size) ((g.pad k).addCell (line + k) size) :=
  modifyAt_pad k g hline _

theorem spanned_pad (hs : s.Valid) : (g.pad k).spanned (s.shift k) = g.spanned s := by
  obtain ⟨hstart, hstop⟩ := hs
  rw [spanned, Span.shift, before_pad k g hstart, before_pad k g (by omega), pad,
    take_replicate_append, drop_replicate_append, spanned]

theorem widen_pad (hs : s.Valid) (share : Rat) :
    (g.pad k).widen (s.shift k) share = (g.widen s share).pad k := by
  have hspanned := spanned_pad k g hs
  obtain ⟨hstart, hstop⟩ := hs
  have hmax : max (g.before s.start + k) (g.before s.stop + k) =
      max (g.before s.start) (g.before s.stop) + k := by omega
  rw [widen, hspanned, Span.shift, before_pad k g hstart, before_pad k g (by omega), hmax, pad,
    take_replicate_append, drop_replicate_append, List.append_assoc, List.append_assoc, widen,
    pad, List.append_assoc]

theorem addSpan_pad (hs : s.Valid) (size : Rat) :
    Padded k (g.addSpan s size) ((g.pad k).addSpan (s.shift k) size) := by
  simp only [addSpan, spanned_pad k g hs, widen_pad k g hs]
  split
  · exact related_ok.mpr rfl
  · split
    · exact related_error.mpr rfl
    · exact related_ok.mpr rfl

theorem freezeMinimums_pad : (g.pad k).freezeMinimums = (g.freezeMinimums).pad k := by
  simp [freezeMinimums, pad]

/-! ### What becomes of the intervals -/

theorem total_pad : (g.pad k).total = g.total := by
  simp [total, pad, Scalar.sum_eq_sum]

theorem totalWeight_pad : (g.pad k).totalWeight = g.totalWeight := by
  simp [totalWeight, pad, Scalar.sum_eq_sum]

theorem grow_pad (slack : Rat) : (g.pad k).grow slack = (g.grow slack).pad k := by
  rw [grow, totalWeight_pad]
  simp [grow, pad]

theorem positions_pad (origin : Rat) :
    (g.pad k).positions origin = leading k (g.positions origin) := by
  have hfront : positionsFrom origin (g.pad k).intervals =
      List.replicate k origin ++ positionsFrom origin g.intervals := by
    unfold pad
    induction k with
    | zero => rfl
    | succ k ih =>
      simp only [List.replicate_succ, List.cons_append, positionsFrom, Scalar.zero_eq, add_zero]
        at ih ⊢
      rw [ih]
  rw [positions, hfront, positions]
  cases g.intervals <;> rfl

end GridAxis

/-! ### The sizing as a whole -/

/-- The lines that an error of a layout speaks of, further on by the number for their axis. -/
def LayoutError.shift {α : Type} (steps : Pair Nat) : LayoutError α → LayoutError α
  | .overconstrained axis start stop fixed needed path =>
    .overconstrained axis (start + steps.on axis) (stop + steps.on axis) fixed needed path
  | .noInterval axis line => .noInterval axis (line + steps.on axis)
  | .noLine axis line => .noLine axis (line + steps.on axis)
  | e => e

theorem GridError.shift_on {α : Type} (steps : Pair Nat) (axis : Axis) (path : String)
    (e : GridError α) : (e.shift (steps.on axis)).on axis path = (e.on axis path).shift steps := by
  cases e <;> rfl

/-- A child with its lines further on, if it stands on any, and otherwise the same to its group. -/
structure Measured.Shifted (steps : Pair Nat) (c c' : Measured Rat) : Prop where
  place : c'.place? = c.place?
  placement : c.place? = none → ∀ axis,
    c'.element.placement.on axis = (c.element.placement.on axis).shift (steps.on axis)
  natural : c'.natural = c.natural
  path : c'.path = c.path

/-- The measure with `k` empty intervals in front of the others. -/
def AxisMeasure.pad (k : Nat) (m : AxisMeasure Rat) : AxisMeasure Rat :=
  { m with grid := m.grid.pad k }

theorem AxisMeasure.extent_pad (k : Nat) (m : AxisMeasure Rat) : (m.pad k).extent = m.extent := by
  simp only [extent, pad, GridAxis.total_pad]

namespace AxisMeasure

variable {axis : Axis} {steps : Pair Nat} {constraints : List (IntervalConstraint Rat)}
  {gridded gridded' : List (Measured Rat)}

/-- A child that stands on lines of the grid, before and after they are shifted. -/
structure Gridded (steps : Pair Nat) (axis : Axis) (c c' : Measured Rat) : Prop where
  valid : (c.element.placement.on axis).Valid
  placement : c'.element.placement.on axis = (c.element.placement.on axis).shift (steps.on axis)
  natural : c'.natural = c.natural
  path : c'.path = c.path

/-- Where something stands behind the first line, there are as many lines more as it has moved. -/
theorem lineCount_shift (hlines : ∀ c ∈ constraints, 1 ≤ c.line)
    (hused : steps.on axis ≠ 0 → gridded ≠ [] ∨ constraints ≠ [])
    (h : List.Forall₂ (Gridded steps axis) gridded gridded') :
    lineCount axis (constraints.map (·.shift (steps.on axis))) gridded' =
      lineCount axis constraints gridded + steps.on axis := by
  refine eq_of_forall_ge_iff fun m => ?_
  rw [lineCount_le_iff, ← le_sub_iff_add_le, lineCount_le_iff, List.forall_mem_map]
  have hchildren : (∀ c ∈ gridded', (c.element.placement.on axis).stop ≤ m) ↔
      ∀ c ∈ gridded, (c.element.placement.on axis).stop ≤ m - steps.on axis := by
    constructor
    · intro hall c hc
      obtain ⟨c', hc', hcc'⟩ := h.exists_right hc
      have hstop := hall c' hc'
      rw [hcc'.placement, Span.stop_shift] at hstop
      omega
    · intro hall c' hc'
      obtain ⟨c, hc, hcc'⟩ := h.exists_left hc'
      have hstop := hall c hc
      rw [hcc'.placement, Span.stop_shift]
      omega
  have hconstraints : (∀ c ∈ constraints, (c.shift (steps.on axis)).line + 1 ≤ m) ↔
      ∀ c ∈ constraints, c.line + 1 ≤ m - steps.on axis :=
    forall₂_congr fun c _ => by
      simp only [IntervalConstraint.shift]
      omega
  rw [hchildren, hconstraints]
  refine ⟨fun ⟨hm, hc, hl⟩ => ⟨?_, hc, hl⟩, fun ⟨hm, hc, hl⟩ => ⟨by omega, hc, hl⟩⟩
  by_cases hk : steps.on axis = 0
  · omega
  · rcases hused hk with hused | hused
    · obtain ⟨c, hmem⟩ := List.exists_mem_of_ne_nil _ hused
      obtain ⟨c', -, hcc'⟩ := h.exists_right hmem
      obtain ⟨hstart, hstop⟩ := hcc'.valid
      have hlast := hc c hmem
      omega
    · obtain ⟨c, hmem⟩ := List.exists_mem_of_ne_nil _ hused
      have hfirst := hlines c hmem
      have hlast := hl c hmem
      omega

/-- A second sizing, with the lines shifted, comes to the padded axis, or fails over the shifted
lines. -/
abbrev SizedAlike (steps : Pair Nat) (axis : Axis) :
    Except (LayoutError Rat) (GridAxis Rat) → Except (LayoutError Rat) (GridAxis Rat) → Prop :=
  Related (fun e e' => e' = e.shift steps) fun g g' => g' = g.pad (steps.on axis)

theorem sizedAlike_of_padded {x y : Except (GridError Rat) (GridAxis Rat)}
    (h : GridAxis.Padded (steps.on axis) x y) (path : String) :
    SizedAlike steps axis (x.mapError (GridError.on axis path))
      (y.mapError (GridError.on axis path)) :=
  h.mapError fun e _ he => he ▸ e.shift_on steps axis path

theorem addCell_shift (g : GridAxis Rat) {c c' : Measured Rat} (h : Gridded steps axis c c') :
    SizedAlike steps axis (addCell axis g c) (addCell axis (g.pad (steps.on axis)) c') := by
  simp only [addCell, h.placement, h.natural, h.path, Span.length_shift]
  split
  · exact sizedAlike_of_padded (g.addCell_pad _ h.valid.1 _) _
  · exact related_ok.mpr rfl

theorem addSpan_shift (g : GridAxis Rat) {c c' : Measured Rat} (h : Gridded steps axis c c') :
    SizedAlike steps axis (addSpan axis g c) (addSpan axis (g.pad (steps.on axis)) c') := by
  simp only [addSpan, h.placement, h.natural, h.path]
  exact sizedAlike_of_padded (g.addSpan_pad _ h.valid _) _

theorem sizeGrid_shift (hlines : ∀ c ∈ constraints, 1 ≤ c.line)
    (hused : steps.on axis ≠ 0 → gridded ≠ [] ∨ constraints ≠ [])
    (h : List.Forall₂ (Gridded steps axis) gridded gridded') :
    SizedAlike steps axis (sizeGrid axis constraints gridded)
      (sizeGrid axis (constraints.map (·.shift (steps.on axis))) gridded') := by
  have hcount : 1 ≤ lineCount axis constraints gridded := (lineCount_le_iff.mp (le_refl _)).1
  refine sizeGrid_related h (fun hc => by rw [hc.placement, Span.length_shift]) ?_ ?_ ?_ ?_
  · rw [lineCount_shift hlines hused h, GridAxis.ofLineCount_pad _ hcount]
    exact sizedAlike_of_padded (GridAxis.applyConstraints_pad _ _ hlines) ""
  · rintro g _ c c' rfl hc
    exact addCell_shift g hc
  · rintro g _ c c' rfl hc
    exact addSpan_shift g hc
  · rintro g _ rfl
    exact g.freezeMinimums_pad _

/-- Where all lines of an axis are shifted, a group has its measure behind as many empty intervals,
or has none for the shifted reason. -/
theorem ofChildren_shift {style style' : Properties Rat} {cs cs' : List (Measured Rat)}
    (hlines : ∀ c ∈ style.constraints axis, 1 ≤ c.line)
    (hvalid : ∀ c ∈ cs, (c.element.placement.on axis).Valid)
    (hused : steps.on axis ≠ 0 → (∃ c ∈ cs, c.place? = none) ∨ style.constraints axis ≠ [])
    (hstyle : style'.constraints axis =
      (style.constraints axis).map (·.shift (steps.on axis)))
    (h : List.Forall₂ (Measured.Shifted steps) cs cs') :
    Related (fun e e' => e' = e.shift steps) (fun m m' => m' = m.pad (steps.on axis))
      (ofChildren style cs axis) (ofChildren style' cs' axis) := by
  have hgridded : List.Forall₂ (Gridded steps axis) (cs.filter (·.place?.isNone))
      (cs'.filter (·.place?.isNone)) := by
    refine (h.filter fun hc => by rw [hc.place]).imp_of_mem fun c hc c' hcc' => ?_
    obtain ⟨hmem, hplace⟩ := List.mem_filter.mp hc
    exact ⟨hvalid c hmem, hcc'.placement (Option.isNone_iff_eq_none.mp hplace) axis,
      hcc'.natural, hcc'.path⟩
  have hsome : steps.on axis ≠ 0 →
      cs.filter (·.place?.isNone) ≠ [] ∨ style.constraints axis ≠ [] := by
    refine fun hk => (hused hk).imp_left fun ⟨c, hc, hplace⟩ => ?_
    exact List.ne_nil_of_mem (List.mem_filter.mpr ⟨hc, by rw [hplace]; rfl⟩)
  have hlow : cs.foldl (lowOf axis) 0.0 = cs'.foldl (lowOf axis) 0.0 :=
    h.foldl_eq (fun low c c' hc => by rw [lowOf, lowOf, hc.place, hc.natural]) 0.0
  have hhigh : cs.foldl (highOf axis) 0.0 = cs'.foldl (highOf axis) 0.0 :=
    h.foldl_eq (fun high c c' hc => by rw [highOf, highOf, hc.place, hc.natural]) 0.0
  unfold ofChildren
  rw [hstyle, ← hlow, ← hhigh]
  refine (sizeGrid_shift hlines hsome hgridded).bind ?_
  rintro g _ rfl
  exact related_pure rfl

end AxisMeasure

end GridDiagram
