import GridDiagram.Proofs.Layout.Fit
import GridDiagram.Proofs.Layout.Floors
import GridDiagram.Proofs.Layout.Shift

/-!
The children of a group in another order, in rationals. Cells may come in any order, and spans in
turn of their length, so that only the order of the spans of one length matters. A stable sort keeps
nothing else of the order of a list.
-/

namespace GridDiagram

open Except

/-! ### Stable sorting -/

section Sorting

variable {β : Type} {key : β → Int} {xs ys : List β}

variable (key) in
theorem le_trans_key (a b c : β) : decide (key a ≤ key b) = true →
    decide (key b ≤ key c) = true → decide (key a ≤ key c) = true := by
  simp only [decide_eq_true_eq]
  exact le_trans

variable (key) in
theorem le_total_key (a b : β) : (decide (key a ≤ key b) || decide (key b ≤ key a)) = true := by
  simp [Int.le_total]

theorem pairwise_mergeSort_key (xs : List β) :
    (xs.mergeSort fun a b => key a ≤ key b).Pairwise fun a b => key a ≤ key b :=
  (List.pairwise_mergeSort (le_trans_key key) (le_total_key key) xs).imp of_decide_eq_true

/-- Sorting by a key keeps the order of the entries with the same one. -/
theorem filter_mergeSort (xs : List β) (n : Int) :
    (xs.mergeSort fun a b => key a ≤ key b).filter (key · = n) = xs.filter (key · = n) := by
  have hequal : (xs.filter (key · = n)).Pairwise fun a b => decide (key a ≤ key b) = true := by
    refine List.pairwise_of_forall_mem_list fun a ha b hb => ?_
    simp only [List.mem_filter, decide_eq_true_eq] at ha hb ⊢
    omega
  have hsub := (List.sublist_mergeSort (le_trans_key key) (le_total_key key) hequal
    List.filter_sublist).filter (key · = n)
  simp only [List.filter_filter, Bool.and_self] at hsub
  exact (hsub.eq_of_length ((List.mergeSort_perm xs _).filter _).length_eq.symm).symm

theorem mem_iff_of_filter_eq (h : ∀ n, xs.filter (key · = n) = ys.filter (key · = n)) (a : β) :
    a ∈ xs ↔ a ∈ ys := by
  have hkey (zs : List β) : a ∈ zs ↔ a ∈ zs.filter (key · = key a) := by simp
  rw [hkey xs, hkey ys, h]

/-- A sorted list is known by its entries with each key, in their order: its head is the first of
those with the least key. -/
theorem eq_of_filter_eq (hxs : xs.Pairwise fun a b => key a ≤ key b)
    (hys : ys.Pairwise fun a b => key a ≤ key b)
    (h : ∀ n, xs.filter (key · = n) = ys.filter (key · = n)) : xs = ys := by
  have hmem := mem_iff_of_filter_eq h
  induction xs generalizing ys with
  | nil =>
    refine (List.eq_nil_iff_forall_not_mem.mpr fun a ha => ?_).symm
    exact List.not_mem_nil ((hmem a).mpr ha)
  | cons x xs ih =>
    cases ys with
    | nil => exact absurd ((hmem x).mp List.mem_cons_self) List.not_mem_nil
    | cons y ys =>
      obtain ⟨hx, hxs'⟩ := List.pairwise_cons.mp hxs
      obtain ⟨hy, hys'⟩ := List.pairwise_cons.mp hys
      have hle : key x ≤ key y := by
        rcases List.mem_cons.mp ((hmem y).mpr List.mem_cons_self) with rfl | hmem
        · exact le_refl _
        · exact hx y hmem
      have hge : key y ≤ key x := by
        rcases List.mem_cons.mp ((hmem x).mp List.mem_cons_self) with rfl | hmem
        · exact le_refl _
        · exact hy x hmem
      have hheads := h (key x)
      rw [List.filter_cons_of_pos (by simp), List.filter_cons_of_pos (by simp; omega)] at hheads
      obtain ⟨rfl, -⟩ := List.cons.inj hheads
      have htails (n : Int) : xs.filter (key · = n) = ys.filter (key · = n) := by
        have hn := h n
        simp only [List.filter_cons] at hn
        split at hn
        · exact (List.cons.inj hn).2
        · exact hn
      rw [ih hxs' hys' htails (mem_iff_of_filter_eq htails)]

/-- A list in another order, in which the entries with each key are in the order that they had, is
sorted into the same list. -/
theorem mergeSort_eq_of_filter_eq (h : ∀ n, xs.filter (key · = n) = ys.filter (key · = n)) :
    (xs.mergeSort fun a b => key a ≤ key b) = ys.mergeSort fun a b => key a ≤ key b := by
  refine eq_of_filter_eq (pairwise_mergeSort_key xs) (pairwise_mergeSort_key ys) fun n => ?_
  rw [filter_mergeSort, filter_mergeSort, h]

end Sorting

namespace GridAxis

theorem eq_of_intervalAt {g g' : GridAxis Rat} (hcount : g.count = g'.count)
    (h : ∀ line, 1 ≤ line → g.intervalAt line = g'.intervalAt line) : g = g' := by
  obtain ⟨is⟩ := g
  obtain ⟨is'⟩ := g'
  refine congrArg mk (List.ext_getElem hcount fun i hi hi' => ?_)
  have hat := h (i + 1) (by omega)
  simpa [intervalAt, hi, hi'] using hat

end GridAxis

namespace AxisMeasure

variable {axis : Axis} {constraints : List (IntervalConstraint Rat)}
  {gridded gridded' : List (Measured Rat)} {g : GridAxis Rat}

/-! ### Cells in another order -/

/-- Cells change nothing of an interval but its size. -/
theorem addCells_kept {celled : GridAxis Rat} {line : Int}
    (hvalid : ∀ c ∈ gridded, (c.element.placement.on axis).Valid) (hline : 1 ≤ line)
    (h : gridded.foldlM (addCell axis) g = .ok celled) :
    { g.intervalAt line with size := (celled.intervalAt line).size } = celled.intervalAt line := by
  refine Except.foldlM_ok (P := fun g' =>
    { g.intervalAt line with size := (g'.intervalAt line).size } = g'.intervalAt line) h rfl ?_
  intro c hc g₁ g₂ hkept hstep
  rw [addCell_intervalAt (hvalid c hc) hline hstep]
  split
  · rw [← hkept]
  · exact hkept

/-- Cells size the intervals alike in whatever order they come. -/
theorem addCells_perm {celled celled' : GridAxis Rat} (hperm : gridded.Perm gridded')
    (hvalid : ∀ c ∈ gridded, (c.element.placement.on axis).Valid)
    (h : gridded.foldlM (addCell axis) g = .ok celled)
    (h' : gridded'.foldlM (addCell axis) g = .ok celled') : celled = celled' := by
  have hvalid' : ∀ c ∈ gridded', (c.element.placement.on axis).Valid :=
    fun c hc => hvalid c (hperm.mem_iff.mpr hc)
  refine GridAxis.eq_of_intervalAt ((addCells_count h).trans (addCells_count h').symm)
    fun line hline => ?_
  have hsize : (celled.intervalAt line).size = (celled'.intervalAt line).size := by
    refine eq_of_forall_ge_iff fun x => ?_
    simp only [(addCells_intervalAt hvalid hline h).1, (addCells_intervalAt hvalid' hline h').1,
      hperm.mem_iff]
  rw [← addCells_kept hvalid hline h, ← addCells_kept hvalid' hline h', hsize]

/-! ### The sizing as a whole -/

theorem lineCount_perm (hperm : gridded.Perm gridded') :
    lineCount axis constraints gridded = lineCount axis constraints gridded' :=
  eq_of_forall_ge_iff fun m => by simp only [lineCount_le_iff, hperm.mem_iff]

/-- The children whose spans on an axis are of a length, in order. -/
def spansOf (axis : Axis) (n : Int) (children : List (Measured Rat)) : List (Measured Rat) :=
  children.filter fun c => (c.element.placement.on axis).length = n

theorem filter_spanning (hvalid : ∀ c ∈ gridded, (c.element.placement.on axis).Valid) (n : Int) :
    (gridded.filter fun c => (c.element.placement.on axis).length ≠ 1).filter
        (fun c => (c.element.placement.on axis).length = n) =
      if 2 ≤ n then spansOf axis n gridded else [] := by
  rw [List.filter_filter]
  split
  · refine List.filter_congr fun c _ => ?_
    rw [← Bool.decide_and]
    exact decide_eq_decide.mpr ⟨fun h => h.1, fun h => ⟨h, by omega⟩⟩
  · refine List.filter_eq_nil_iff.mpr fun c hc => ?_
    obtain ⟨hstart, hstop⟩ := hvalid c hc
    rw [← Bool.decide_and, decide_eq_true_eq, Span.length]
    omega

/-- Spans have their turn in one order if those of each length are declared in one order. -/
theorem spanning_eq (hvalid : ∀ c ∈ gridded, (c.element.placement.on axis).Valid)
    (hvalid' : ∀ c ∈ gridded', (c.element.placement.on axis).Valid)
    (horder : ∀ n, 2 ≤ n → spansOf axis n gridded = spansOf axis n gridded') :
    spanning axis gridded = spanning axis gridded' := by
  unfold spanning
  refine mergeSort_eq_of_filter_eq fun n => ?_
  rw [filter_spanning hvalid, filter_spanning hvalid']
  split
  · exact horder n ‹_›
  · rfl

theorem sizeGrid_perm (hlines : ∀ c ∈ constraints, 1 ≤ c.line)
    (hvalid : ∀ c ∈ gridded, (c.element.placement.on axis).Valid)
    (hperm : gridded.Perm gridded')
    (horder : ∀ n, 2 ≤ n → spansOf axis n gridded = spansOf axis n gridded') :
    sizeGrid axis constraints gridded = sizeGrid axis constraints gridded' := by
  have hvalid' : ∀ c ∈ gridded', (c.element.placement.on axis).Valid :=
    fun c hc => hvalid c (hperm.mem_iff.mpr hc)
  obtain ⟨floored, celled, hfloored, hcelled, hgrid⟩ := exists_celled hlines hvalid
  obtain ⟨floored', celled', hfloored', hcelled', hgrid'⟩ := exists_celled hlines hvalid'
  rw [← lineCount_perm hperm, hfloored] at hfloored'
  obtain rfl := Except.ok.inj hfloored'
  rw [hgrid, hgrid', spanning_eq hvalid hvalid' horder, addCells_perm hperm hvalid hcelled hcelled']

/-- The measure of a group does not depend on the order of its children, apart from that of the
spans of one length, of two intervals at least. -/
theorem ofChildren_perm {style : Properties Rat} {cs cs' : List (Measured Rat)}
    (hlines : ∀ c ∈ style.constraints axis, 1 ≤ c.line)
    (hvalid : ∀ c ∈ cs, (c.element.placement.on axis).Valid) (hperm : cs.Perm cs')
    (horder : ∀ n, 2 ≤ n →
      spansOf axis n (withoutPlace cs) = spansOf axis n (withoutPlace cs')) :
    ofChildren style cs axis = ofChildren style cs' axis := by
  have hgrid := sizeGrid_perm hlines (valid_withoutPlace hvalid) (hperm.filter _) horder
  have hlow : cs.foldl (lowOf axis) 0.0 = cs'.foldl (lowOf axis) 0.0 :=
    eq_of_forall_le_iff fun x => by simp only [le_foldl_lowOf_iff, hperm.mem_iff]
  have hhigh : cs.foldl (highOf axis) 0.0 = cs'.foldl (highOf axis) 0.0 :=
    eq_of_forall_ge_iff fun x => by simp only [foldl_highOf_le_iff, hperm.mem_iff]
  unfold ofChildren
  unfold withoutPlace at hgrid
  rw [hgrid, hlow, hhigh]

end AxisMeasure

/-! ### Paths -/

/-- A child as its group sees it, wherever its source has it. -/
def Measured.withoutPath (m : Measured Rat) : Measured Rat :=
  { m with path := "" }

/-- An error, without the place of the child for which there is no room. -/
def LayoutError.withoutPath : LayoutError Rat → LayoutError Rat
  | .overconstrained axis start stop fixed needed _ =>
    .overconstrained axis start stop fixed needed ""
  | e => e

theorem GridError.on_withoutPath (axis : Axis) (path path' : String) (e : GridError Rat) :
    (e.on axis path).withoutPath = (e.on axis path').withoutPath := by
  cases e <;> rfl

/-- Two computations come to the same, or fail over the same, perhaps for another child. -/
abbrev SameRun {β : Type} : Except (LayoutError Rat) β → Except (LayoutError Rat) β → Prop :=
  Related (fun e e' => e.withoutPath = e'.withoutPath) Eq

theorem SameRun.refl {β : Type} (x : Except (LayoutError Rat) β) : SameRun x x := by
  cases x <;> rfl

theorem SameRun.of_common {β : Type} {x y z : Except (LayoutError Rat) β} (h : SameRun x z)
    (h' : SameRun y z) : SameRun x y := by
  cases x <;> cases y <;> cases z <;>
    first | exact h.elim | exact h'.elim | exact Eq.trans h h'.symm

theorem SameRun.mapError {β : Type} (axis : Axis) (path path' : String)
    (x : Except (GridError Rat) β) :
    SameRun (x.mapError (GridError.on axis path)) (x.mapError (GridError.on axis path')) := by
  refine (related_eq_self x).mapError ?_
  rintro e _ rfl
  exact e.on_withoutPath axis path path'

namespace AxisMeasure

variable {axis : Axis}

theorem addCell_withoutPath (g : GridAxis Rat) (c : Measured Rat) :
    SameRun (addCell axis g c) (addCell axis g c.withoutPath) := by
  have hplacement : c.withoutPath.element.placement = c.element.placement := rfl
  simp only [addCell, hplacement]
  split
  · exact .mapError axis _ _ _
  · exact related_ok.mpr rfl

theorem addSpan_withoutPath (g : GridAxis Rat) (c : Measured Rat) :
    SameRun (addSpan axis g c) (addSpan axis g c.withoutPath) :=
  .mapError axis _ _ _

theorem lineCount_withoutPath (constraints : List (IntervalConstraint Rat))
    (gridded : List (Measured Rat)) :
    lineCount axis constraints (gridded.map Measured.withoutPath) =
      lineCount axis constraints gridded := by
  unfold lineCount
  rw [List.foldl_map]
  rfl

theorem sizeGrid_withoutPath (constraints : List (IntervalConstraint Rat))
    (gridded : List (Measured Rat)) :
    SameRun (sizeGrid axis constraints gridded)
      (sizeGrid axis constraints (gridded.map Measured.withoutPath)) := by
  have hpaths : List.Forall₂ (fun c c' => c' = c.withoutPath) gridded
      (gridded.map Measured.withoutPath) := by
    rw [List.forall₂_map_right_iff]
    exact List.forall₂_same.mpr fun _ _ => rfl
  refine sizeGrid_related hpaths (fun hc => hc ▸ rfl) ?_ ?_ ?_ ?_
  · rw [lineCount_withoutPath]
    exact SameRun.mapError axis "" "" _
  · rintro g _ c _ rfl rfl
    exact addCell_withoutPath g c
  · rintro g _ c _ rfl rfl
    exact addSpan_withoutPath g c
  · rintro g _ rfl
    rfl

theorem ofChildren_withoutPath (style : Properties Rat) (cs : List (Measured Rat)) :
    SameRun (ofChildren style cs axis) (ofChildren style (cs.map Measured.withoutPath) axis) := by
  have hgridded : (cs.map Measured.withoutPath).filter (·.place?.isNone) =
      (cs.filter (·.place?.isNone)).map Measured.withoutPath := by
    rw [List.filter_map]
    rfl
  unfold ofChildren
  rw [hgridded, List.foldl_map, List.foldl_map]
  refine (sizeGrid_withoutPath _ _).bind ?_
  rintro g _ rfl
  exact related_pure rfl

end AxisMeasure

/-! ### Groups -/

/-- The children of a group in another order, in which those that span intervals of an axis, two of
them at least, are as they were among those that span as many. -/
structure Measured.Reordered (cs cs' : List (Measured Rat)) : Prop where
  perm : cs.Perm cs'
  order : ∀ axis n, 2 ≤ n → AxisMeasure.spansOf axis n (AxisMeasure.withoutPlace cs) =
    AxisMeasure.spansOf axis n (AxisMeasure.withoutPlace cs')

/-- The order in which a group declares its children matters only between those that span as many
intervals of an axis. Otherwise it has the same intervals and the same size, or it has none over the
same lines; which path a child has does not matter either. -/
theorem Measured.ofElement_reordered (settings : LayoutSettings Rat) {e : Element Rat}
    (hlines : ∀ axis, ∀ c ∈ e.effective.constraints axis, 1 ≤ c.line) (path : String)
    {cs cs' : List (Measured Rat)}
    (hvalid : ∀ c ∈ cs, ∀ axis, (c.element.placement.on axis).Valid)
    (horder : Reordered (cs.map withoutPath) (cs'.map withoutPath)) :
    SameRun (ofElement settings e path cs) (ofElement settings e path cs') := by
  have axes (axis : Axis) : SameRun (AxisMeasure.ofChildren e.effective cs axis)
      (AxisMeasure.ofChildren e.effective cs' axis) := by
    have hvalid' : ∀ c ∈ cs.map withoutPath, (c.element.placement.on axis).Valid :=
      List.forall_mem_map.mpr fun c hc => hvalid c hc axis
    have hsame := AxisMeasure.ofChildren_perm (hlines axis) hvalid' horder.perm (horder.order axis)
    refine .of_common (AxisMeasure.ofChildren_withoutPath e.effective cs) ?_
    rw [hsame]
    exact AxisMeasure.ofChildren_withoutPath e.effective cs'
  unfold ofElement
  split
  · refine (axes .x).bind ?_
    rintro x _ rfl
    refine (axes .y).bind ?_
    rintro y _ rfl
    exact related_pure rfl
  · exact .refl _

/-- Only the lengths of spans that there are need be looked at. -/
theorem Measured.Reordered.of_lengths {cs cs' : List (Measured Rat)} (hperm : cs.Perm cs')
    (h : ∀ axis, ∀ c ∈ cs, 2 ≤ (c.element.placement.on axis).length →
      AxisMeasure.spansOf axis (c.element.placement.on axis).length (AxisMeasure.withoutPlace cs) =
        AxisMeasure.spansOf axis (c.element.placement.on axis).length
          (AxisMeasure.withoutPlace cs')) : Reordered cs cs' := by
  refine ⟨hperm, fun axis n hn => ?_⟩
  by_cases hlength : ∃ c ∈ cs, (c.element.placement.on axis).length = n
  · obtain ⟨c, hc, rfl⟩ := hlength
    exact h axis c hc hn
  · have hnone (ds : List (Measured Rat)) (hds : ∀ d ∈ ds, d ∈ cs) :
        AxisMeasure.spansOf axis n (AxisMeasure.withoutPlace ds) = [] := by
      refine List.filter_eq_nil_iff.mpr fun d hd => ?_
      rw [decide_eq_true_eq]
      exact fun hlen => hlength ⟨d, hds d (List.mem_filter.mp hd).1, hlen⟩
    rw [hnone cs fun _ hd => hd, hnone cs' fun _ hd => hperm.mem_iff.mpr hd]

/-- A rectangle across two columns, between two that are in the first one. -/
def firstSquares : List (Measured Rat) :=
  [AxisMeasure.squareUpTo 2 30, AxisMeasure.squareUpTo 3 100, AxisMeasure.squareUpTo 2 50]

theorem firstSquares_valid : ∀ c ∈ firstSquares, ∀ axis, (c.element.placement.on axis).Valid := by
  rintro c hc axis
  simp only [firstSquares, List.mem_cons, List.not_mem_nil, or_false] at hc
  rcases hc with rfl | rfl | rfl <;> cases axis <;> exact ⟨by decide, by decide⟩

theorem firstSquares_reordered :
    Measured.Reordered (firstSquares.map Measured.withoutPath)
      (firstSquares.reverse.map Measured.withoutPath) := by
  refine .of_lengths ((List.reverse_perm firstSquares).symm.map _) fun axis c hc hlength => ?_
  simp only [firstSquares, List.map_cons, List.map_nil, List.mem_cons, List.not_mem_nil,
    or_false] at hc
  rcases hc with rfl | rfl | rfl <;> cases axis <;> first | rfl | exact absurd hlength (by decide)

/-- A layout whose second column is of a size. -/
def flooredColumns : Element Rat :=
  { tag := .layout, attributes := [⟨.minx, [⟨2, 40, 0⟩]⟩] }

theorem firstSquares_ofElement :
    (∀ axis, ∀ c ∈ flooredColumns.effective.constraints axis, 1 ≤ c.line) ∧
    (∀ c ∈ firstSquares, ∀ axis, (c.element.placement.on axis).Valid) ∧
    Measured.Reordered (firstSquares.map Measured.withoutPath)
      (firstSquares.reverse.map Measured.withoutPath) ∧
    ∃ m, Measured.ofElement (rowOptions.layoutSettings plainWorld) flooredColumns "layout"
        firstSquares = .ok m ∧
      Measured.ofElement (rowOptions.layoutSettings plainWorld) flooredColumns "layout"
        firstSquares.reverse = .ok m := by
  have hlines : ∀ axis, ∀ c ∈ flooredColumns.effective.constraints axis, 1 ≤ c.line := by
    rintro (_ | _) <;> decide
  have hisOk : (Measured.ofElement (rowOptions.layoutSettings plainWorld) flooredColumns "layout"
      firstSquares).isOk = true := by
    decide +kernel
  obtain ⟨m, hm⟩ := Except.exists_of_isOk hisOk
  obtain ⟨m', hm', rfl⟩ := (Measured.ofElement_reordered (rowOptions.layoutSettings plainWorld)
    hlines "layout" firstSquares_valid firstSquares_reordered).ok_left hm
  exact ⟨hlines, firstSquares_valid, firstSquares_reordered, m, hm, hm'⟩

end GridDiagram
