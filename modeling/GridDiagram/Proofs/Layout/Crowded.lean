import GridDiagram.Proofs.Layout.Floors

/-!
Groups that cannot be measured, in rationals. Intervals with a literal floor keep the size that the
floor and the children in their cell give them, so whether there is room for a child across such
intervals does not depend on what else stands across them, nor on the order of the children.
-/

namespace GridDiagram

namespace GridAxis

variable {g : GridAxis Rat} {s : Span} {size : Rat}

/-- There is no room for a span that is larger than the literal intervals that it goes across. -/
theorem addSpan_eq_error (hs : s.Valid) (hlast : s.stop ≤ g.count + 1) {e : GridError Rat} :
    g.addSpan s size = .error e ↔
      (∀ line, s.Covers line → (g.intervalAt line).isLiteral = true) ∧
        g.room s + 1e-9 < size ∧ e = .overconstrained s.start s.stop (g.room s) size := by
  have hsum : Scalar.sum ((g.spanned s).map (·.size)) = g.room s := by
    rw [Scalar.sum_eq_sum, spanned_eq hs hlast, room_eq_sum hs]
  have hliteral : ((g.spanned s).filter (!·.isLiteral)).length = 0 ↔
      ∀ line, s.Covers line → (g.intervalAt line).isLiteral = true := by
    rw [List.length_eq_zero_iff, List.filter_eq_nil_iff]
    constructor
    · intro h line hcovers
      simpa using h _ ((mem_spanned hs hlast).mpr ⟨line, hcovers, rfl⟩)
    · rintro h i hi
      obtain ⟨line, hcovers, rfl⟩ := (mem_spanned hs hlast).mp hi
      simpa using h line hcovers
  simp only [addSpan, hsum, sizeTolerance_eq, sub_sub_cancel]
  split_ifs with hdeficit
  · simp only [false_iff]
    rintro ⟨-, hmissing, -⟩
    linarith
  · have hmissing : g.room s + 1e-9 < size := by linarith
    split
    · rename_i hzero
      constructor
      · intro h
        obtain rfl := Except.error.inj h
        exact ⟨hliteral.mp hzero, hmissing, rfl⟩
      · rintro ⟨-, -, rfl⟩
        rfl
    · rename_i hcount
      simp only [reduceCtorEq, false_iff]
      rintro ⟨hall, -, -⟩
      exact hcount (hliteral.mpr hall)

end GridAxis

namespace AxisMeasure

variable {axis : Axis} {constraints : List (IntervalConstraint Rat)}
  {gridded : List (Measured Rat)} {g : GridAxis Rat} {c : Measured Rat} {e : LayoutError Rat}

/-- How long the intervals of a span are when only floors and the children in their cells size
them. -/
def fixedLength (axis : Axis) (constraints : List (IntervalConstraint Rat))
    (gridded : List (Measured Rat)) (s : Span) : Rat :=
  (s.lines.map fun line => max (floorAt constraints line) (cellAt axis gridded line)).sum

/-- A child stands across intervals that all have a literal floor, and is larger than these and the
children in their cells make them. -/
structure Crowded (axis : Axis) (constraints : List (IntervalConstraint Rat))
    (gridded : List (Measured Rat)) (c : Measured Rat) : Prop where
  across : 2 ≤ (c.element.placement.on axis).length
  floors : ∀ line, (c.element.placement.on axis).Covers line → 0 < floorAt constraints line
  larger : fixedLength axis constraints gridded (c.element.placement.on axis) + 1e-9 <
    c.natural.on axis

/-- The error about a child that there is no room for. -/
def noRoomFor (axis : Axis) (constraints : List (IntervalConstraint Rat))
    (gridded : List (Measured Rat)) (c : Measured Rat) : LayoutError Rat :=
  .overconstrained axis (c.element.placement.on axis).start (c.element.placement.on axis).stop
    (fixedLength axis constraints gridded (c.element.placement.on axis)) (c.natural.on axis) c.path

/-- Which children there is no room for was settled before room was made for any. -/
theorem Sized.addSpan_eq_error (hg : Sized axis constraints gridded g)
    (hvalid : (c.element.placement.on axis).Valid) (hc : c ∈ spanning axis gridded) :
    AxisMeasure.addSpan axis g c = .error e ↔
      Crowded axis constraints gridded c ∧ e = noRoomFor axis constraints gridded c := by
  obtain ⟨hmem, hlength⟩ := mem_spanning.mp hc
  have hlast := hg.stop_le hvalid hmem
  have hfirst {line : Int} (hcovers : (c.element.placement.on axis).Covers line) : 1 ≤ line :=
    hvalid.1.trans hcovers.1
  have hacross : 2 ≤ (c.element.placement.on axis).length := by
    obtain ⟨-, hbehind⟩ := hvalid
    unfold Span.length at hlength ⊢
    omega
  have hfloors : (∀ line, (c.element.placement.on axis).Covers line →
      (g.intervalAt line).isLiteral = true) ↔
      ∀ line, (c.element.placement.on axis).Covers line → 0 < floorAt constraints line :=
    forall₂_congr fun line hcovers => hg.literal line (hfirst hcovers)
  have hroom (hall : ∀ line, (c.element.placement.on axis).Covers line →
      0 < floorAt constraints line) : g.room (c.element.placement.on axis) =
      fixedLength axis constraints gridded (c.element.placement.on axis) := by
    rw [GridAxis.room_eq_sum_lines hvalid hlast]
    refine congrArg List.sum (List.map_congr_left fun line hline => ?_)
    have hcovers := Span.mem_lines.mp hline
    exact hg.spared line (hfirst hcovers) (.inl (hall line hcovers))
  simp only [AxisMeasure.addSpan, Except.mapError_eq_error,
    GridAxis.addSpan_eq_error hvalid hlast, hfloors]
  constructor
  · rintro ⟨_, ⟨hall, hlarger, rfl⟩, rfl⟩
    rw [hroom hall] at hlarger ⊢
    exact ⟨⟨hacross, hall, hlarger⟩, rfl⟩
  · rintro ⟨⟨-, hall, hlarger⟩, rfl⟩
    refine ⟨_, ⟨hall, ?_, rfl⟩, ?_⟩
    · rw [hroom hall]
      exact hlarger
    · rw [hroom hall]
      rfl

/-- The sizing fails for a child that is crowded, and only for such a child. -/
theorem sizeGrid_eq_error (hlines : ∀ c ∈ constraints, 1 ≤ c.line)
    (hvalid : ∀ c ∈ gridded, (c.element.placement.on axis).Valid) :
    ((∃ e, sizeGrid axis constraints gridded = .error e) ↔
      ∃ c ∈ gridded, Crowded axis constraints gridded c) ∧
    ∀ e, sizeGrid axis constraints gridded = .error e →
      ∃ c ∈ gridded, Crowded axis constraints gridded c ∧
        e = noRoomFor axis constraints gridded c := by
  obtain ⟨celled, hcelled, hgrid⟩ := exists_sized hlines hvalid
  have hstep (g : GridAxis Rat) (c : Measured Rat) (hc : c ∈ spanning axis gridded)
      (hg : Sized axis constraints gridded g) {e : LayoutError Rat} :=
    hg.addSpan_eq_error (e := e) (hvalid c (mem_spanning.mp hc).1) hc
  have hblame : ∀ e, sizeGrid axis constraints gridded = .error e →
      ∃ c ∈ gridded, Crowded axis constraints gridded c ∧
        e = noRoomFor axis constraints gridded c := by
    intro e h
    rw [hgrid, Except.map_eq_error] at h
    obtain ⟨c, hc, g, hg, h⟩ := Except.foldlM_error (P := Sized axis constraints gridded) h hcelled
      fun c hc _ _ hg h => hg.addSpan (hvalid c (mem_spanning.mp hc).1) hc h
    obtain ⟨hcrowded, rfl⟩ := (hstep g c hc hg).mp h
    exact ⟨c, (mem_spanning.mp hc).1, hcrowded, rfl⟩
  refine ⟨⟨?_, ?_⟩, hblame⟩
  · rintro ⟨e, h⟩
    obtain ⟨c, hc, hcrowded, -⟩ := hblame e h
    exact ⟨c, hc, hcrowded⟩
  · rintro ⟨c, hc, hcrowded⟩
    have hmem : c ∈ spanning axis gridded := by
      refine mem_spanning.mpr ⟨hc, fun hone => ?_⟩
      have hacross := hcrowded.across
      omega
    cases h : sizeGrid axis constraints gridded with
    | error e => exact ⟨e, rfl⟩
    | ok g =>
      rw [hgrid, Except.map_eq_ok] at h
      obtain ⟨spanned, hspanned, -⟩ := h
      have hpast := Except.foldlM_forall (I := Sized axis constraints gridded)
        (R := fun _ _ => True) (Q := fun c _ => ¬Crowded axis constraints gridded c) hspanned
        hcelled (fun _ => trivial) (fun _ _ => trivial) (fun d hd g g' hg h => ?_)
        fun _ _ _ _ hnot _ => hnot
      · exact absurd hcrowded (hpast.2.2 c hmem)
      · refine ⟨hg.addSpan (hvalid d (mem_spanning.mp hd).1) hd h, trivial, fun hd' => ?_⟩
        have herror := (hstep g d hd hg).mpr ⟨hd', rfl⟩
        rw [h] at herror
        cases herror

variable {style : Properties Rat} {children : List (Measured Rat)}

theorem ofChildren_eq_error :
    ofChildren style children axis = .error e ↔
      sizeGrid axis (style.constraints axis) (withoutPlace children) = .error e := by
  simp only [ofChildren, withoutPlace, Except.bind_eq_error, Except.pure_eq_error, and_false,
    exists_false, or_false]

/-! ### Children without room, in any order -/

theorem cellAt_congr {others : List (Measured Rat)} {line : Int}
    (h : ∀ c, c.element.placement.on axis = Span.cell line → (c ∈ others ↔ c ∈ gridded)) :
    cellAt axis others line = cellAt axis gridded line := by
  refine eq_of_forall_ge_iff fun x => ?_
  rw [cellAt_le_iff, cellAt_le_iff]
  refine and_congr_right fun _ => forall_congr' fun c => ?_
  constructor
  · intro hle hc hcell
    exact hle ((h c hcell).mpr hc) hcell
  · intro hle hc hcell
    exact hle ((h c hcell).mp hc) hcell

/-- Of the other children only those in one cell crowd a child. -/
theorem crowded_congr {others : List (Measured Rat)} {c : Measured Rat}
    (h : ∀ d, (d.element.placement.on axis).length = 1 → (d ∈ others ↔ d ∈ gridded)) :
    Crowded axis constraints others c ↔ Crowded axis constraints gridded c := by
  have hlength (s : Span) :
      fixedLength axis constraints others s = fixedLength axis constraints gridded s := by
    refine congrArg List.sum (List.map_congr_left fun line _ => ?_)
    rw [cellAt_congr fun d hcell => h d ?_]
    rw [hcell, Span.length, Span.cell, add_sub_cancel_left]
  constructor
  · rintro ⟨hacross, hfloors, hlarger⟩
    exact ⟨hacross, hfloors, hlength _ ▸ hlarger⟩
  · rintro ⟨hacross, hfloors, hlarger⟩
    exact ⟨hacross, hfloors, (hlength _).symm ▸ hlarger⟩

theorem ofChildren_error_iff (hlines : ∀ c ∈ style.constraints axis, 1 ≤ c.line)
    (hvalid : ∀ c ∈ children, (c.element.placement.on axis).Valid) :
    (∃ e, ofChildren style children axis = .error e) ↔ ∃ c ∈ withoutPlace children,
      Crowded axis (style.constraints axis) (withoutPlace children) c := by
  simp only [ofChildren_eq_error]
  exact (sizeGrid_eq_error hlines (valid_withoutPlace hvalid)).1

/-- A child is crowded exactly when there is no room for it as the only one across cells. -/
theorem alone_error_iff (hlines : ∀ c ∈ style.constraints axis, 1 ≤ c.line)
    (hvalid : ∀ c ∈ children, (c.element.placement.on axis).Valid) {c : Measured Rat}
    (hc : c ∈ withoutPlace children) :
    (∃ e, ofChildren style (c :: (withoutPlace children).filter fun d =>
      (d.element.placement.on axis).length = 1) axis = .error e) ↔
      Crowded axis (style.constraints axis) (withoutPlace children) c := by
  obtain ⟨-, hplace⟩ := List.mem_filter.mp hc
  have hgridded := valid_withoutPlace hvalid
  have hall : withoutPlace (c :: (withoutPlace children).filter fun d =>
      (d.element.placement.on axis).length = 1) = c :: (withoutPlace children).filter fun d =>
      (d.element.placement.on axis).length = 1 := by
    refine List.filter_eq_self.mpr (List.forall_mem_cons.mpr ⟨hplace, fun d hd => ?_⟩)
    exact (List.mem_filter.mp (List.mem_filter.mp hd).1).2
  have hsame (d : Measured Rat) (hd : (d.element.placement.on axis).length = 1) :
      (d ∈ c :: (withoutPlace children).filter fun d =>
        (d.element.placement.on axis).length = 1) ↔ d ∈ withoutPlace children := by
    rw [List.mem_cons, List.mem_filter]
    constructor
    · rintro (rfl | ⟨hd, -⟩)
      · exact hc
      · exact hd
    · intro hmem
      exact .inr ⟨hmem, decide_eq_true hd⟩
  rw [ofChildren_error_iff hlines, hall]
  · constructor
    · rintro ⟨d, hd, hcrowded⟩
      rcases List.mem_cons.mp hd with rfl | hcell
      · exact (crowded_congr hsame).mp hcrowded
      · have hone := of_decide_eq_true (List.mem_filter.mp hcell).2
        have hacross := hcrowded.across
        omega
    · intro hcrowded
      exact ⟨c, List.mem_cons_self .., (crowded_congr hsame).mpr hcrowded⟩
  · exact List.forall_mem_cons.mpr
      ⟨hgridded c hc, fun d hd => hgridded d (List.mem_filter.mp hd).1⟩

/-- A group cannot be measured on an axis exactly when one of the children on its grid is crowded,
and the error is about such a child. So it does not matter in which order the children come, nor
what stands across the cells besides. -/
theorem ofChildren_overconstrained_iff (hlines : ∀ c ∈ style.constraints axis, 1 ≤ c.line)
    (hvalid : ∀ c ∈ children, (c.element.placement.on axis).Valid) :
    ((∃ e, ofChildren style children axis = .error e ∧ IsOverconstrained axis e) ↔
      ∃ c ∈ withoutPlace children,
        Crowded axis (style.constraints axis) (withoutPlace children) c) ∧
    (∀ e, ofChildren style children axis = .error e →
      ∃ c ∈ withoutPlace children,
        Crowded axis (style.constraints axis) (withoutPlace children) c ∧
        e = noRoomFor axis (style.constraints axis) (withoutPlace children) c) ∧
    (∀ reordered : List (Measured Rat), reordered.Perm children →
      ((∃ e, ofChildren style reordered axis = .error e) ↔
        ∃ e, ofChildren style children axis = .error e)) ∧
    ∀ c ∈ withoutPlace children,
      ((∃ e, ofChildren style (c :: (withoutPlace children).filter fun d =>
        (d.element.placement.on axis).length = 1) axis = .error e) ↔
        Crowded axis (style.constraints axis) (withoutPlace children) c) := by
  have hblame := (sizeGrid_eq_error hlines (valid_withoutPlace hvalid)).2
  simp only [← ofChildren_eq_error] at hblame
  refine ⟨⟨?_, ?_⟩, hblame, fun reordered hperm => ?_,
    fun c hc => alone_error_iff hlines hvalid hc⟩
  · rintro ⟨e, h, -⟩
    exact (ofChildren_error_iff hlines hvalid).mp ⟨e, h⟩
  · intro hcrowded
    obtain ⟨e, h⟩ := (ofChildren_error_iff hlines hvalid).mpr hcrowded
    obtain ⟨c, -, -, he⟩ := hblame e h
    exact ⟨e, h, _, _, _, _, _, he⟩
  · have hmem (c : Measured Rat) : c ∈ withoutPlace reordered ↔ c ∈ withoutPlace children :=
      (hperm.filter _).mem_iff
    rw [ofChildren_error_iff hlines fun c hc => hvalid c (hperm.mem_iff.mp hc),
      ofChildren_error_iff hlines hvalid]
    exact exists_congr fun c => and_congr (hmem c) (crowded_congr fun d _ => hmem d)

/-- There is no room for 90 between lines that are fixed at 50 and 30. -/
theorem ofChildren_overconstrained_fixed :
    Crowded .x (Properties.constraints [⟨.minx, [⟨1, 50, 0⟩, ⟨2, 30, 0⟩]⟩] .x)
      (withoutPlace [squareUpTo 3 90]) (squareUpTo 3 90) ∧
    ∃ e, ofChildren [⟨.minx, [⟨1, 50, 0⟩, ⟨2, 30, 0⟩]⟩] [squareUpTo 3 90] .x = .error e ∧
      IsOverconstrained .x e := by
  have hlines : ∀ c ∈ Properties.constraints (α := Rat)
      [⟨.minx, [⟨1, 50, 0⟩, ⟨2, 30, 0⟩]⟩] .x, 1 ≤ c.line := by
    decide +kernel
  have hcrowded : Crowded .x (Properties.constraints [⟨.minx, [⟨1, 50, 0⟩, ⟨2, 30, 0⟩]⟩] .x)
      (withoutPlace [squareUpTo 3 90]) (squareUpTo 3 90) := by
    refine ⟨by decide, fun line hcovers => ?_, by decide +kernel⟩
    obtain ⟨hstart, hstop⟩ : 1 ≤ line ∧ line < 3 := hcovers
    obtain rfl | rfl : line = 1 ∨ line = 2 := by omega
    · decide +kernel
    · decide +kernel
  have hvalid := squareUpTo_valid (show (1 : Int) < 3 by decide) 90
  obtain ⟨hiff, -⟩ := ofChildren_overconstrained_iff hlines hvalid
  exact ⟨hcrowded, hiff.mpr ⟨squareUpTo 3 90, List.mem_cons_self .., hcrowded⟩⟩

end AxisMeasure

end GridDiagram
