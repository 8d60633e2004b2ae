import GridDiagram.Proofs.Layout.Intervals

/-!
Floors of intervals, in rationals. Floors and children in one cell raise an interval to the largest
of them, in whatever order they come. What stands across several intervals is then made room for in
turn, which leaves an interval with a literal floor as large as it is.
-/

namespace GridDiagram

/-- A span goes across the interval behind a line. -/
def Span.Covers (s : Span) (line : Int) : Prop :=
  s.start ≤ line ∧ line < s.stop

/-- The lines in front of the intervals that a span goes across, in order. -/
def Span.lines (s : Span) : List Int :=
  (List.range s.length.toNat).map fun k : Nat => s.start + k

theorem Span.mem_lines {s : Span} {line : Int} : line ∈ s.lines ↔ s.Covers line := by
  simp only [lines, Covers, length, List.mem_map, List.mem_range]
  constructor
  · rintro ⟨k, hk, rfl⟩
    omega
  · rintro ⟨hstart, hstop⟩
    exact ⟨(line - s.start).toNat, by omega, by omega⟩

theorem greatest_le_iff {first x : Rat} {rest : List Rat} :
    greatest first rest ≤ x ↔ first ≤ x ∧ ∀ y ∈ rest, y ≤ x := by
  unfold greatest
  induction rest generalizing first with
  | nil => simp
  | cons y rest ih =>
    rw [List.foldl_cons, ih, Scalar.larger_eq_max, max_le_iff, List.forall_mem_cons, and_assoc]

/-! ### Intervals by their lines -/

namespace GridAxis

variable {g g' : GridAxis Rat} {s : Span} {line : Int}

/-- The interval behind a line, counted from 1. Behind the last line there are empty ones. -/
def intervalAt (g : GridAxis Rat) (line : Int) : Interval Rat :=
  g.intervals.getD (line - 1).toNat ⟨0, false, 0, 0⟩

theorem ofLineCount_intervalAt (n line : Int) :
    (ofLineCount n : GridAxis Rat).intervalAt line = ⟨0, false, 0, 0⟩ := by
  have hzero : (0.0 : Rat) = 0 := Scalar.zero_eq
  rw [intervalAt, ofLineCount, hzero, List.getD_eq_getElem?_getD, List.getElem?_replicate]
  split <;> rfl

theorem modifyAt_line_le {l : Int} {f : Interval Rat → Interval Rat} (hl : 1 ≤ l)
    (h : g.modifyAt l f = .ok g') : l ≤ g.count := by
  by_contra hbeyond
  have hnone : g.index? l = none := by
    simp only [index?]
    rw [if_neg (fun hinside => hbeyond hinside.2), if_neg (by omega)]
  simp only [modifyAt, hnone] at h
  cases h

theorem modifyAt_intervalAt {l : Int} {f : Interval Rat → Interval Rat} (hl : 1 ≤ l)
    (hline : 1 ≤ line) (h : g.modifyAt l f = .ok g') :
    g'.intervalAt line = if line = l then f (g.intervalAt line) else g.intervalAt line := by
  have hlast : l ≤ g.intervals.length := modifyAt_line_le hl h
  rw [modifyAt_eq_ok hl hlast] at h
  obtain rfl := Except.ok.inj h
  simp only [intervalAt, List.getD_eq_getElem?_getD, List.getElem?_modify]
  by_cases hsame : line = l
  · subst hsame
    rw [List.getElem?_eq_getElem (show (line - 1).toNat < g.intervals.length by omega)]
    simp
  · have hne : (l - 1).toNat ≠ (line - 1).toNat := by omega
    simp only [if_neg hsame, if_neg hne, Option.map_eq_map, Option.map_id']

theorem freezeMinimums_intervalAt (g : GridAxis Rat) (line : Int) :
    g.freezeMinimums.intervalAt line =
      { g.intervalAt line with minimum := (g.intervalAt line).size } := by
  simp only [intervalAt, freezeMinimums, List.getD_eq_getElem?_getD, List.getElem?_map]
  cases g.intervals[(line - 1).toNat]? <;> rfl

theorem widen_intervalAt (hs : s.Valid) (hlast : s.stop ≤ g.count + 1) (hline : 1 ≤ line)
    (share : Rat) : (g.widen s share).intervalAt line =
      if s.start ≤ line ∧ line < s.stop then widened share (g.intervalAt line)
      else g.intervalAt line := by
  obtain ⟨hstart, hstop⟩ := hs
  have hcount : g.count = g.intervals.length := rfl
  have hfront : (g.intervals.take (s.start - 1).toNat).length = (s.start - 1).toNat := by
    rw [List.length_take]
    omega
  have hmiddle : (((g.intervals.take (s.stop - 1).toNat).drop (s.start - 1).toNat).map
      (widened share)).length = (s.stop - 1).toNat - (s.start - 1).toNat := by
    rw [List.length_map, List.length_drop, List.length_take]
    omega
  simp only [intervalAt, List.getD_eq_getElem?_getD, widen_intervals ⟨hstart, hstop⟩ hlast]
  rcases lt_or_ge line s.start with hbefore | hinside
  · rw [if_neg (by omega), List.getElem?_append_left (by omega),
      List.getElem?_take_of_lt (by omega)]
  · rw [List.getElem?_append_right (by omega), hfront]
    rcases lt_or_ge line s.stop with hinside' | hbehind
    · rw [if_pos ⟨hinside, hinside'⟩, List.getElem?_append_left (by omega), List.getElem?_map,
        List.getElem?_drop, List.getElem?_take_of_lt (by omega),
        show (s.start - 1).toNat + ((line - 1).toNat - (s.start - 1).toNat) =
          (line - 1).toNat by omega,
        List.getElem?_eq_getElem (show (line - 1).toNat < g.intervals.length by omega)]
      rfl
    · rw [if_neg (by omega), List.getElem?_append_right (by omega), hmiddle, List.getElem?_drop]
      congr 2
      omega

theorem mem_spanned (hs : s.Valid) (hlast : s.stop ≤ g.count + 1) {i : Interval Rat} :
    i ∈ g.spanned s ↔ ∃ line, s.Covers line ∧ g.intervalAt line = i := by
  have hvalid := hs
  obtain ⟨hstart, hstop⟩ := hs
  have hcount : g.count = g.intervals.length := rfl
  rw [spanned_eq hvalid hlast, List.mem_iff_getElem?]
  constructor
  · rintro ⟨k, hk⟩
    rw [List.getElem?_drop, List.getElem?_take] at hk
    split_ifs at hk with hinside
    refine ⟨s.start + k, ⟨by omega, by omega⟩, ?_⟩
    rw [intervalAt, List.getD_eq_getElem?_getD,
      show (s.start + k - 1).toNat = (s.start - 1).toNat + k by omega, hk]
    rfl
  · rintro ⟨line, ⟨hfirst, hbehind⟩, rfl⟩
    refine ⟨(line - s.start).toNat, ?_⟩
    rw [List.getElem?_drop, show (s.start - 1).toNat + (line - s.start).toNat = (line - 1).toNat by
      omega, List.getElem?_take_of_lt (by omega), intervalAt, List.getD_eq_getElem?_getD,
      List.getElem?_eq_getElem (show (line - 1).toNat < g.intervals.length by omega)]
    rfl

theorem reach_intervalAt (hline : 1 ≤ line) (hlast : line ≤ g.count) :
    g.reach line.toNat = g.reach (line - 1).toNat + (g.intervalAt line).size := by
  have hk : (line - 1).toNat < g.intervals.length := by
    unfold count at hlast
    omega
  rw [show line.toNat = (line - 1).toNat + 1 by omega, reach_succ hk, intervalAt,
    List.getD_eq_getElem?_getD, List.getElem?_eq_getElem hk]
  rfl

/-- The room of a span is the sum of the sizes of the intervals that it goes across. -/
theorem room_eq_sum_lines (hs : s.Valid) (hlast : s.stop ≤ g.count + 1) :
    g.room s = (s.lines.map fun line => (g.intervalAt line).size).sum := by
  obtain ⟨start, stop⟩ := s
  obtain ⟨hstart, hstop⟩ := hs
  simp only at hstart hstop hlast
  have first (n : Nat) (hlast : start + n ≤ g.count + 1) : g.room ⟨start, start + n⟩ =
      (((List.range n).map fun k : Nat => start + k).map fun line =>
        (g.intervalAt line).size).sum := by
    induction n with
    | zero => simp [room]
    | succ n ih =>
      have hn : start + n ≤ g.count := by omega
      have hroom : g.room ⟨start, start + (n + 1 : Nat)⟩ =
          g.room ⟨start, start + n⟩ + (g.intervalAt (start + n)).size := by
        have hreach := reach_intervalAt (show 1 ≤ start + (n : Int) by omega) hn
        simp only [room, show start + ((n + 1 : Nat) : Int) - 1 = start + n by omega, hreach]
        ring
      rw [hroom, ih (by omega), List.range_succ, List.map_append, List.map_append, List.sum_append]
      simp
  have hall := first (stop - start).toNat (by omega)
  rw [show start + ((stop - start).toNat : Int) = stop by omega] at hall
  exact hall

end GridAxis

/-! ### Floors and cells -/

/-- A constraint gives its interval a literal floor: a size above zero, and no weight. -/
def IntervalConstraint.IsFloor (c : IntervalConstraint Rat) : Prop :=
  c.weight ≤ 0 ∧ 0 < c.size

instance (c : IntervalConstraint Rat) : Decidable c.IsFloor :=
  inferInstanceAs (Decidable (_ ∧ _))

/-- The literal floor of the interval behind a line, or 0 if it has none. -/
def floorAt (constraints : List (IntervalConstraint Rat)) (line : Int) : Rat :=
  greatest 0 ((constraints.filter fun c => c.line = line ∧ c.IsFloor).map (·.size))

/-- The largest natural size of the children in the one cell behind a line, or 0 if there are
none. -/
def cellAt (axis : Axis) (gridded : List (Measured Rat)) (line : Int) : Rat :=
  greatest 0 ((gridded.filter fun c => c.element.placement.on axis = Span.cell line).map
    (·.natural.on axis))

section Demands

variable {axis : Axis} {constraints : List (IntervalConstraint Rat)}
  {gridded : List (Measured Rat)} {line : Int} {x : Rat}

theorem floorAt_le_iff :
    floorAt constraints line ≤ x ↔
      0 ≤ x ∧ ∀ c ∈ constraints, c.line = line → c.IsFloor → c.size ≤ x := by
  rw [floorAt, greatest_le_iff, List.forall_mem_map]
  simp

theorem cellAt_le_iff :
    cellAt axis gridded line ≤ x ↔
      0 ≤ x ∧ ∀ c ∈ gridded, c.element.placement.on axis = Span.cell line →
        c.natural.on axis ≤ x := by
  rw [cellAt, greatest_le_iff, List.forall_mem_map]
  simp

theorem floorAt_pos_iff :
    0 < floorAt constraints line ↔ ∃ c ∈ constraints, c.line = line ∧ c.IsFloor := by
  rw [← not_le, floorAt_le_iff]
  constructor
  · intro h
    by_contra hnone
    refine h ⟨le_refl 0, fun c hc hline hfloor => ?_⟩
    exact absurd ⟨c, hc, hline, hfloor⟩ hnone
  · rintro ⟨c, hc, hline, hfloor⟩ ⟨-, hle⟩
    exact absurd (hle c hc hline hfloor) (not_le.mpr hfloor.2)

end Demands

namespace GridAxis

variable {g g' : GridAxis Rat} {s : Span} {line : Int} {x : Rat}

theorem constrain_size_le_iff (c : IntervalConstraint Rat) (i : Interval Rat) :
    (constrain c i).size ≤ x ↔ i.size ≤ x ∧ (c.IsFloor → c.size ≤ x) := by
  simp only [constrain, Scalar.zero_eq, IntervalConstraint.IsFloor]
  split_ifs with hweight hsize
  · simp [hweight]
  · simp [Scalar.larger_eq_max, not_lt.mp hweight, hsize]
  · simp [hsize]

theorem constrain_isLiteral (c : IntervalConstraint Rat) (i : Interval Rat) :
    (constrain c i).isLiteral = true ↔ i.isLiteral = true ∨ c.IsFloor := by
  simp only [constrain, Scalar.zero_eq, IntervalConstraint.IsFloor]
  split_ifs with hweight hsize
  · simp [hweight]
  · simp [not_lt.mp hweight, hsize]
  · simp [hsize]

/-- Constraints raise an interval to its floors, and make it literal if there are any. -/
theorem applyConstraints_intervalAt {constraints : List (IntervalConstraint Rat)}
    (hlines : ∀ c ∈ constraints, 1 ≤ c.line) (hline : 1 ≤ line)
    (h : g.applyConstraints constraints = .ok g') :
    (∀ x, (g'.intervalAt line).size ≤ x ↔ (g.intervalAt line).size ≤ x ∧
      ∀ c ∈ constraints, c.line = line → c.IsFloor → c.size ≤ x) ∧
    ((g'.intervalAt line).isLiteral = true ↔ (g.intervalAt line).isLiteral = true ∨
      ∃ c ∈ constraints, c.line = line ∧ c.IsFloor) := by
  induction constraints generalizing g with
  | nil =>
    obtain rfl := Except.ok.inj h
    simp
  | cons c constraints ih =>
    obtain ⟨hc, hlines⟩ := List.forall_mem_cons.mp hlines
    simp only [applyConstraints, List.foldlM_cons, Except.bind_eq_ok] at h
    obtain ⟨g₁, hstep, h⟩ := h
    obtain ⟨hsize, hliteral⟩ := ih hlines h
    have hat := modifyAt_intervalAt hc hline hstep
    simp only [hsize, hliteral, hat, List.forall_mem_cons, List.exists_mem_cons_iff]
    by_cases hsame : line = c.line
    · subst hsame
      simp [constrain_size_le_iff, constrain_isLiteral, and_assoc, or_assoc]
    · simp [hsame, Ne.symm hsame]

end GridAxis

namespace AxisMeasure

variable {axis : Axis} {constraints : List (IntervalConstraint Rat)}
  {gridded : List (Measured Rat)} {g g' : GridAxis Rat} {line : Int}

/-- A child in one cell raises that to its natural size, and other children raise nothing yet. -/
theorem addCell_intervalAt {c : Measured Rat} (hvalid : (c.element.placement.on axis).Valid)
    (hline : 1 ≤ line) (h : addCell axis g c = .ok g') :
    g'.intervalAt line =
      if c.element.placement.on axis = Span.cell line then
        { g.intervalAt line with
          size := max (g.intervalAt line).size (c.natural.on axis) }
      else g.intervalAt line := by
  rcases hspan : c.element.placement.on axis with ⟨start, stop⟩
  rw [hspan] at hvalid
  obtain ⟨hstart, hstop⟩ := hvalid
  simp only [addCell, hspan, Span.length] at h
  split at h
  · rename_i hlength
    rw [Except.mapError_eq_ok] at h
    have hcell : (⟨start, stop⟩ : Span) = Span.cell line ↔ line = start := by
      simp only [Span.cell, Span.mk.injEq]
      constructor
      · rintro ⟨rfl, -⟩
        rfl
      · rintro rfl
        exact ⟨rfl, by omega⟩
    rw [GridAxis.modifyAt_intervalAt hstart hline h]
    simp only [hcell, Scalar.larger_eq_max]
  · rename_i hlength
    obtain rfl := Except.ok.inj h
    have hcell : (⟨start, stop⟩ : Span) ≠ Span.cell line := by
      rintro hcell
      obtain ⟨rfl, rfl⟩ := Span.mk.inj hcell
      omega
    rw [if_neg hcell]

theorem addCells_intervalAt {children : List (Measured Rat)}
    (hvalid : ∀ c ∈ children, (c.element.placement.on axis).Valid) (hline : 1 ≤ line)
    (h : children.foldlM (addCell axis) g = .ok g') :
    (∀ x, (g'.intervalAt line).size ≤ x ↔ (g.intervalAt line).size ≤ x ∧
      ∀ c ∈ children, c.element.placement.on axis = Span.cell line → c.natural.on axis ≤ x) ∧
    (g'.intervalAt line).isLiteral = (g.intervalAt line).isLiteral := by
  induction children generalizing g with
  | nil =>
    obtain rfl := Except.ok.inj h
    simp
  | cons c children ih =>
    obtain ⟨hc, hvalid⟩ := List.forall_mem_cons.mp hvalid
    simp only [List.foldlM_cons, Except.bind_eq_ok] at h
    obtain ⟨g₁, hstep, h⟩ := h
    obtain ⟨hsize, hliteral⟩ := ih hvalid h
    have hat := addCell_intervalAt hc hline hstep
    simp only [hsize, hliteral, hat, List.forall_mem_cons]
    split_ifs with hcell
    · simp [hcell, and_assoc]
    · simp [hcell]

/-- Floors and cells size an interval by the largest of them, in whatever order they come. -/
theorem celled_intervalAt {floored celled : GridAxis Rat}
    (hlines : ∀ c ∈ constraints, 1 ≤ c.line)
    (hvalid : ∀ c ∈ gridded, (c.element.placement.on axis).Valid) {n : Int}
    (hfloored : (GridAxis.ofLineCount n).applyConstraints constraints = .ok floored)
    (hcelled : gridded.foldlM (addCell axis) floored = .ok celled) (hline : 1 ≤ line) :
    (celled.intervalAt line).size = max (floorAt constraints line) (cellAt axis gridded line) ∧
      ((celled.intervalAt line).isLiteral = true ↔ 0 < floorAt constraints line) := by
  obtain ⟨hfloor, hliteral⟩ := GridAxis.applyConstraints_intervalAt hlines hline hfloored
  obtain ⟨hcell, hliteral'⟩ := addCells_intervalAt hvalid hline hcelled
  rw [GridAxis.ofLineCount_intervalAt] at hfloor hliteral
  constructor
  · refine eq_of_forall_ge_iff fun x => ?_
    rw [hcell, hfloor, max_le_iff, floorAt_le_iff, cellAt_le_iff]
    tauto
  · rw [hliteral', hliteral, floorAt_pos_iff]
    simp

end AxisMeasure

/-! ### Spans -/

namespace GridAxis

variable {g g' : GridAxis Rat} {s : Span} {size : Rat}

theorem Grown.intervalAt_le (h : g.Grown g') (line : Int) :
    (g.intervalAt line).size ≤ (g'.intervalAt line).size := by
  simp only [intervalAt, List.getD_eq_getElem?_getD]
  rcases lt_or_ge (line - 1).toNat g.intervals.length with hinside | hbeyond
  · have hinside' : (line - 1).toNat < g'.intervals.length := h.length_eq ▸ hinside
    rw [List.getElem?_eq_getElem hinside, List.getElem?_eq_getElem hinside']
    exact (h.get hinside hinside').1
  · rw [List.getElem?_eq_none hbeyond, List.getElem?_eq_none (h.length_eq ▸ hbeyond)]

/-- A span changes no literal interval, and none that it does not go across. -/
theorem addSpan_intervalAt (hs : s.Valid) (hlast : s.stop ≤ g.count + 1) {line : Int}
    (hline : 1 ≤ line) (h : g.addSpan s size = .ok g') :
    (g'.intervalAt line).isLiteral = (g.intervalAt line).isLiteral ∧
      ((g.intervalAt line).isLiteral = true ∨ ¬s.Covers line →
        g'.intervalAt line = g.intervalAt line) := by
  obtain ⟨-, rfl⟩ | ⟨-, -, rfl⟩ := addSpan_cases h
  · exact ⟨rfl, fun _ => rfl⟩
  · rw [widen_intervalAt hs hlast hline]
    unfold widened Span.Covers
    split_ifs with hcovers hliteral
    · exact ⟨rfl, fun _ => rfl⟩
    · refine ⟨rfl, ?_⟩
      rintro (hliteral' | hnot)
      · exact absurd hliteral' hliteral
      · exact absurd hcovers hnot
    · exact ⟨rfl, fun _ => rfl⟩

end GridAxis

namespace AxisMeasure

variable {axis : Axis} {constraints : List (IntervalConstraint Rat)}
  {gridded : List (Measured Rat)} {g g' : GridAxis Rat} {c : Measured Rat}

/-- The intervals while room is made for the children that stand across them. Those with a literal
floor, and those with no such child, are as large as floors and cells have made them. -/
structure Sized (axis : Axis) (constraints : List (IntervalConstraint Rat))
    (gridded : List (Measured Rat)) (g : GridAxis Rat) : Prop where
  count : g.count = (lineCount axis constraints gridded - 1).toNat
  literal : ∀ line, 1 ≤ line →
    ((g.intervalAt line).isLiteral = true ↔ 0 < floorAt constraints line)
  least : ∀ line, 1 ≤ line →
    max (floorAt constraints line) (cellAt axis gridded line) ≤ (g.intervalAt line).size
  spared : ∀ line, 1 ≤ line →
    (0 < floorAt constraints line ∨
      ∀ c ∈ spanning axis gridded, ¬(c.element.placement.on axis).Covers line) →
    (g.intervalAt line).size = max (floorAt constraints line) (cellAt axis gridded line)

namespace Sized

theorem stop_le (hg : Sized axis constraints gridded g)
    (hvalid : (c.element.placement.on axis).Valid) (hc : c ∈ gridded) :
    (c.element.placement.on axis).stop ≤ g.count + 1 := by
  have hstop : (c.element.placement.on axis).stop ≤ lineCount axis constraints gridded :=
    stop_le_lineCount hc
  obtain ⟨hstart, hbehind⟩ := hvalid
  rw [hg.count]
  omega

/-- Room for one more child keeps the intervals sized: shares go to what is neither literal nor
outside the span, and nothing becomes literal. -/
theorem addSpan (hg : Sized axis constraints gridded g)
    (hvalid : (c.element.placement.on axis).Valid) (hc : c ∈ spanning axis gridded)
    (h : AxisMeasure.addSpan axis g c = .ok g') : Sized axis constraints gridded g' := by
  have hlast := hg.stop_le hvalid (mem_spanning.mp hc).1
  have hadd := Except.mapError_eq_ok.mp h
  obtain ⟨hgrown, -⟩ := GridAxis.addSpan_ok hvalid hlast hadd
  have hat {line : Int} (hline : 1 ≤ line) :=
    GridAxis.addSpan_intervalAt hvalid hlast hline hadd
  refine ⟨hgrown.count_eq ▸ hg.count, fun line hline => ?_, fun line hline => ?_,
    fun line hline hspared => ?_⟩
  · rw [(hat hline).1]
    exact hg.literal line hline
  · exact (hg.least line hline).trans (hgrown.intervalAt_le line)
  · have hkept : (g.intervalAt line).isLiteral = true ∨
        ¬(c.element.placement.on axis).Covers line := by
      rcases hspared with hfloor | hnone
      · exact .inl ((hg.literal line hline).mpr hfloor)
      · exact .inr (hnone c hc)
    rw [(hat hline).2 hkept]
    exact hg.spared line hline hspared

theorem addSpans (hg : Sized axis constraints gridded g) {children : List (Measured Rat)}
    (hvalid : ∀ c ∈ gridded, (c.element.placement.on axis).Valid)
    (hchildren : ∀ c ∈ children, c ∈ spanning axis gridded)
    (h : children.foldlM (AxisMeasure.addSpan axis) g = .ok g') :
    Sized axis constraints gridded g' :=
  Except.foldlM_ok (P := Sized axis constraints gridded) h hg fun c hc _ _ hg hstep =>
    hg.addSpan (hvalid c (mem_spanning.mp (hchildren c hc)).1) (hchildren c hc) hstep

end Sized

end AxisMeasure

/-! ### The sizing as a whole -/

namespace AxisMeasure

variable {axis : Axis} {constraints : List (IntervalConstraint Rat)}
  {gridded : List (Measured Rat)} {g : GridAxis Rat}

/-- Intervals are sized once floors and cells have been made room for. -/
theorem exists_sized (hlines : ∀ c ∈ constraints, 1 ≤ c.line)
    (hvalid : ∀ c ∈ gridded, (c.element.placement.on axis).Valid) :
    ∃ celled, Sized axis constraints gridded celled ∧
      sizeGrid axis constraints gridded =
        ((spanning axis gridded).foldlM (addSpan axis) celled).map GridAxis.freezeMinimums := by
  obtain ⟨floored, celled, hfloored, hcelled, hgrid⟩ := exists_celled hlines hvalid
  have hat {line : Int} (hline : 1 ≤ line) :=
    celled_intervalAt hlines hvalid hfloored hcelled hline
  refine ⟨celled, ⟨?_, fun line hline => (hat hline).2, fun line hline => (hat hline).1.ge,
    fun line hline _ => (hat hline).1⟩, hgrid⟩
  rw [addCells_count hcelled, applyConstraints_count hfloored, GridAxis.count_ofLineCount]

theorem sizeGrid_sized (hlines : ∀ c ∈ constraints, 1 ≤ c.line)
    (hvalid : ∀ c ∈ gridded, (c.element.placement.on axis).Valid)
    (h : sizeGrid axis constraints gridded = .ok g) : Sized axis constraints gridded g := by
  obtain ⟨celled, hcelled, hgrid⟩ := exists_sized hlines hvalid
  rw [hgrid, Except.map_eq_ok] at h
  obtain ⟨spanned, hspanned, rfl⟩ := h
  obtain ⟨hcount, hliteral, hleast, hspared⟩ := hcelled.addSpans hvalid (fun _ hc => hc) hspanned
  refine ⟨by rw [GridAxis.freezeMinimums_count, hcount], fun line hline => ?_,
    fun line hline => ?_, fun line hline hkept => ?_⟩
  · rw [GridAxis.freezeMinimums_intervalAt]
    exact hliteral line hline
  · rw [GridAxis.freezeMinimums_intervalAt]
    exact hleast line hline
  · rw [GridAxis.freezeMinimums_intervalAt]
    exact hspared line hline hkept

/-! ### Groups -/

/-- The children of a group that stand on its grid. -/
def withoutPlace (children : List (Measured Rat)) : List (Measured Rat) :=
  children.filter (·.place?.isNone)

variable {style : Properties Rat} {children : List (Measured Rat)} {m : AxisMeasure Rat}

theorem valid_withoutPlace (hvalid : ∀ c ∈ children, (c.element.placement.on axis).Valid) :
    ∀ c ∈ withoutPlace children, (c.element.placement.on axis).Valid :=
  fun c hc => hvalid c (List.mem_filter.mp hc).1

/-- When a group has been measured, every interval is as large as its floor and the children in its
cell ask for, and no larger if it has a floor. An interval that nothing asks for is empty, and a
child has room between its lines up to the tolerance. -/
theorem ofChildren_sizes (hlines : ∀ c ∈ style.constraints axis, 1 ≤ c.line)
    (hvalid : ∀ c ∈ children, (c.element.placement.on axis).Valid)
    (h : ofChildren style children axis = .ok m) :
    (∀ line : Int, 1 ≤ line → line ≤ m.grid.count →
      floorAt (style.constraints axis) line ≤ (m.grid.intervalAt line).size ∧
      (∀ c ∈ withoutPlace children, c.element.placement.on axis = Span.cell line →
        c.natural.on axis ≤ (m.grid.intervalAt line).size) ∧
      (0 < floorAt (style.constraints axis) line → (m.grid.intervalAt line).size =
        max (floorAt (style.constraints axis) line) (cellAt axis (withoutPlace children) line)) ∧
      ((∀ c ∈ style.constraints axis, c.line ≠ line) →
        (∀ c ∈ withoutPlace children, ¬(c.element.placement.on axis).Covers line) →
        (m.grid.intervalAt line).size = 0)) ∧
    ∀ c ∈ withoutPlace children,
      (c.element.placement.on axis).stop ≤ m.grid.count + 1 ∧
      c.natural.on axis - 1e-9 ≤
        ((c.element.placement.on axis).lines.map fun line =>
          (m.grid.intervalAt line).size).sum := by
  have hgridded := valid_withoutPlace hvalid
  simp only [ofChildren, Except.bind_eq_ok, Except.pure_eq_ok] at h
  obtain ⟨grid, hgrid, rfl⟩ := h
  have hsized := sizeGrid_sized hlines hgridded hgrid
  refine ⟨fun line hline _ => ⟨?_, fun c hc hcell => ?_, fun hfloor => ?_, fun hfree hbare => ?_⟩,
    fun c hc => ⟨hsized.stop_le (hgridded c hc) hc, ?_⟩⟩
  · exact (le_max_left _ _).trans (hsized.least line hline)
  · have hleast := (le_max_right _ _).trans (hsized.least line hline)
    exact (cellAt_le_iff.mp hleast).2 c hc hcell
  · exact hsized.spared line hline (.inl hfloor)
  · have hspared := hsized.spared line hline
      (.inr fun c hc => hbare c (mem_spanning.mp hc).1)
    have hfloor : floorAt (style.constraints axis) line ≤ 0 :=
      floorAt_le_iff.mpr ⟨le_refl 0, fun c hc hsame => absurd hsame (hfree c hc)⟩
    have hcell : cellAt axis (withoutPlace children) line ≤ 0 := by
      refine cellAt_le_iff.mpr ⟨le_refl 0, fun c hc hsame => absurd ?_ (hbare c hc)⟩
      rw [hsame]
      exact ⟨le_refl line, lt_add_one line⟩
    have hleast := (cellAt_le_iff.mp (le_refl (cellAt axis (withoutPlace children) line))).1
    rw [hspared, le_antisymm hcell hleast, max_eq_right hfloor]
  · rw [← GridAxis.room_eq_sum_lines (hgridded c hc) (hsized.stop_le (hgridded c hc) hc)]
    exact (sizeGrid_room hgridded hgrid).2 c hc

/-- A rectangle from the first line to another one, of the same size on both axes. -/
def squareUpTo (stop : Int) (size : Rat) : Measured Rat :=
  { element := { tag := .rect, placement := ⟨⟨1, stop⟩, Span.cell 1⟩ }
    path := "layout/rect[1]"
    stage := .measured
    content := ⟨size, size⟩
    drawn := ⟨size, size⟩
    natural := ⟨size, size⟩
    axes := none }

theorem squareUpTo_valid {stop : Int} (hstop : 1 < stop) (size : Rat) :
    ∀ c ∈ [squareUpTo stop size], (c.element.placement.on .x).Valid := by
  simpa [squareUpTo, Pair.on, Span.Valid] using hstop

/-- What is missing for a child goes to the interval without a floor. -/
theorem ofChildren_sizes_floored : ∃ m,
    ofChildren [⟨.minx, [⟨1, 70, 0⟩, ⟨2, 0, 0⟩]⟩] [squareUpTo 3 90] .x = .ok m ∧
      (m.grid.intervalAt 1).size = 70 ∧
      (90 : Rat) - 1e-9 ≤ ([1, 2].map fun line => (m.grid.intervalAt line).size).sum := by
  have hmeasured :
      (ofChildren [⟨.minx, [⟨1, 70, 0⟩, ⟨2, 0, 0⟩]⟩] [squareUpTo 3 90] .x).isOk = true := by
    decide +kernel
  obtain ⟨m, hm⟩ := Except.exists_of_isOk hmeasured
  have hlines : ∀ c ∈ Properties.constraints (α := Rat)
      [⟨.minx, [⟨1, 70, 0⟩, ⟨2, 0, 0⟩]⟩] .x, 1 ≤ c.line := by
    decide +kernel
  obtain ⟨hsizes, hroom⟩ := ofChildren_sizes hlines (squareUpTo_valid (by decide) 90) hm
  obtain ⟨hlast, hsum⟩ := hroom (squareUpTo 3 90) (List.mem_cons_self ..)
  refine ⟨m, hm, ?_, hsum⟩
  have hcount : (1 : Int) ≤ m.grid.count := by
    have hstop : (3 : Int) ≤ m.grid.count + 1 := hlast
    omega
  obtain ⟨-, -, hfloor, -⟩ := hsizes 1 (le_refl 1) hcount
  rw [hfloor (by decide +kernel)]
  decide +kernel

end AxisMeasure

end GridDiagram
