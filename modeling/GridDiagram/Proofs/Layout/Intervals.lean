import GridDiagram.Layout.Measure
import GridDiagram.Proofs.Exact
import GridDiagram.Proofs.Layout.Lines
import Mathlib.Algebra.Order.BigOperators.Group.List

/-!
The sizes of the intervals of a grid, in rationals. Every step of the sizing leaves all intervals at
least as large as they were, and makes the room that it is asked for; so each child has room in the
end.
-/

namespace GridDiagram

theorem sizeTolerance_eq : (sizeTolerance : Rat) = 1e-9 := by
  norm_num [sizeTolerance]

theorem Span.Valid.le {s : Span} (h : s.Valid) : (s.start - 1).toNat ≤ (s.stop - 1).toNat := by
  obtain ⟨hstart, hstop⟩ := h
  omega

/-- An interval is at least as large as another one, and its weight is no worse. -/
def Interval.Grown (i j : Interval Rat) : Prop :=
  i.size ≤ j.size ∧ (0 ≤ i.weight → 0 ≤ j.weight)

theorem Interval.grown_refl (i : Interval Rat) : i.Grown i :=
  ⟨le_refl i.size, id⟩

namespace GridAxis

variable {g g' : GridAxis Rat} {s : Span}

/-- How far the line behind `k` intervals lies from the first one. -/
def reach (g : GridAxis Rat) (k : Nat) : Rat :=
  ((g.intervals.take k).map (·.size)).sum

/-- The room between the lines of a span. -/
def room (g : GridAxis Rat) (s : Span) : Rat :=
  g.reach (s.stop - 1).toNat - g.reach (s.start - 1).toNat

/-- No size and no weight is below zero. -/
def Sound (g : GridAxis Rat) : Prop :=
  ∀ i ∈ g.intervals, 0 ≤ i.size ∧ 0 ≤ i.weight

/-- Every interval is at least as large as before, and no weight has fallen below zero. -/
def Grown (g g' : GridAxis Rat) : Prop :=
  List.Forall₂ Interval.Grown g.intervals g'.intervals

theorem Grown.refl (g : GridAxis Rat) : g.Grown g :=
  List.forall₂_same.mpr fun i _ => i.grown_refl

theorem Grown.trans {g₁ g₂ g₃ : GridAxis Rat} (h : g₁.Grown g₂) (h' : g₂.Grown g₃) :
    g₁.Grown g₃ :=
  List.Forall₂.trans_of (fun _ _ _ hij hjk => ⟨hij.1.trans hjk.1, fun hi => hjk.2 (hij.2 hi)⟩) h h'

theorem Grown.count_eq (h : g.Grown g') : g.count = g'.count :=
  h.length_eq

theorem Grown.sound (h : g.Grown g') (hg : g.Sound) : g'.Sound := by
  intro j hj
  obtain ⟨i, hi, hsize, hweight⟩ := h.exists_left hj
  exact ⟨(hg i hi).1.trans hsize, hweight (hg i hi).2⟩

theorem sum_sizes_drop_take (is : List (Interval Rat)) {a b : Nat} (hab : a ≤ b) :
    (((is.take b).drop a).map (·.size)).sum =
      ((is.take b).map (·.size)).sum - ((is.take a).map (·.size)).sum := by
  have hsplit := List.take_append_drop a (is.take b)
  rw [List.take_take, min_eq_left hab] at hsplit
  have hsum := congrArg (fun is => (is.map (·.size)).sum) hsplit
  simp only [List.map_append, List.sum_append] at hsum
  linarith

theorem room_eq_sum (hs : s.Valid) :
    g.room s =
      (((g.intervals.take (s.stop - 1).toNat).drop (s.start - 1).toNat).map (·.size)).sum :=
  (sum_sizes_drop_take g.intervals hs.le).symm

theorem spanned_eq (hs : s.Valid) (hlast : s.stop ≤ g.count + 1) :
    g.spanned s = (g.intervals.take (s.stop - 1).toNat).drop (s.start - 1).toNat := by
  obtain ⟨hstart, hstop⟩ := hs
  rw [spanned, before_eq hstart (by omega), before_eq (by omega) hlast]

theorem Grown.room_le (h : g.Grown g') (hs : s.Valid) : g.room s ≤ g'.room s := by
  rw [room_eq_sum hs, room_eq_sum hs]
  apply List.Forall₂.sum_le_sum
  rw [List.forall₂_map_left_iff, List.forall₂_map_right_iff]
  exact (List.forall₂_drop _ (List.forall₂_take _ h)).imp fun _ _ h => h.1

theorem Sound.reach_le (h : g.Sound) {a b : Nat} (hab : a ≤ b) : g.reach a ≤ g.reach b := by
  have hsum := sum_sizes_drop_take g.intervals hab
  have hnonneg : 0 ≤ (((g.intervals.take b).drop a).map (·.size)).sum := by
    apply List.sum_nonneg
    intro x hx
    obtain ⟨i, hi, rfl⟩ := List.mem_map.mp hx
    exact (h i (List.mem_of_mem_take (List.mem_of_mem_drop hi))).1
  unfold reach
  linarith

theorem total_eq_reach (g : GridAxis Rat) : g.total = g.reach g.count := by
  rw [total, Scalar.sum_eq_sum, reach, count, List.take_length]

theorem reach_succ {k : Nat} (hk : k < g.intervals.length) :
    g.reach (k + 1) = g.reach k + g.intervals[k].size := by
  rw [reach, reach, List.take_succ_eq_append_getElem hk, List.map_append, List.sum_append,
    List.map_singleton, List.sum_singleton]

theorem positions_getElem? (g : GridAxis Rat) (origin : Rat) {k : Nat} (hk : k ≤ g.count) :
    (g.positions origin)[k]? = some (origin + g.reach k) := by
  have from_list (is : List (Interval Rat)) (origin : Rat) (k : Nat) (hk : k ≤ is.length) :
      (positionsFrom origin is)[k]? = some (origin + ((is.take k).map (·.size)).sum) := by
    induction is generalizing origin k with
    | nil =>
      obtain rfl : k = 0 := by simpa using hk
      simp [positionsFrom]
    | cons i is ih =>
      cases k with
      | zero => simp [positionsFrom]
      | succ k =>
        rw [positionsFrom, List.getElem?_cons_succ, ih _ _ (by simpa using hk)]
        simp [add_assoc]
  exact from_list g.intervals origin k hk

/-! ### Steps of the sizing -/

theorem modifyAt_grown {line : Int} {f : Interval Rat → Interval Rat}
    (hf : ∀ i : Interval Rat, i.Grown (f i))
    (h : g.modifyAt line f = .ok g') : g.Grown g' := by
  unfold modifyAt at h
  split at h
  · obtain rfl := Except.ok.inj h
    exact .modify Interval.grown_refl hf _ _
  · simp at h

theorem constrain_grown (c : IntervalConstraint Rat) (i : Interval Rat) :
    i.Grown (constrain c i) := by
  unfold constrain
  split
  · rename_i hweight
    exact ⟨le_refl _, fun _ => by simpa using hweight.le⟩
  · split
    · refine ⟨?_, id⟩
      show i.size ≤ Scalar.larger i.size c.size
      rw [Scalar.larger_eq_max]
      exact le_max_left _ _
    · exact i.grown_refl

theorem applyConstraints_grown {cs : List (IntervalConstraint Rat)}
    (h : g.applyConstraints cs = .ok g') : g.Grown g' :=
  Except.foldlM_ok (P := fun g' => g.Grown g') h (Grown.refl g) fun c _ _ _ hg h =>
    hg.trans (modifyAt_grown (constrain_grown c) h)

theorem ofLineCount_sound (n : Int) : (ofLineCount n : GridAxis Rat).Sound := by
  intro i hi
  obtain ⟨-, rfl⟩ := List.mem_replicate.mp hi
  simp

theorem addCell_grown {line : Int} {size : Rat} (h : g.addCell line size = .ok g') :
    g.Grown g' := by
  have hf (i : Interval Rat) : i.Grown { i with size := Scalar.larger i.size size } := by
    refine ⟨?_, id⟩
    show i.size ≤ Scalar.larger i.size size
    rw [Scalar.larger_eq_max]
    exact le_max_left _ _
  exact modifyAt_grown hf h

theorem addCell_room {size : Rat} (hs : s.Valid) (hlast : s.stop ≤ g.count + 1)
    (hlength : s.length = 1) (h : g.addCell s.start size = .ok g') : size ≤ g'.room s := by
  obtain ⟨hstart, hstop⟩ := hs
  rw [Span.length] at hlength
  rw [addCell, modifyAt_eq_ok hstart (by omega)] at h
  obtain rfl := Except.ok.inj h
  have hk : (s.start - 1).toNat < g.intervals.length := by
    unfold count at hlast
    omega
  rw [room, show (s.stop - 1).toNat = (s.start - 1).toNat + 1 by omega,
    reach_succ (by simpa using hk)]
  simp [Scalar.larger_eq_max]

theorem sum_widened (share : Rat) (is : List (Interval Rat)) :
    ((is.map (widened share)).map (·.size)).sum =
      (is.map (·.size)).sum + (is.filter (!·.isLiteral)).length * share := by
  induction is with
  | nil => simp
  | cons i is ih =>
    rw [List.map_cons, List.map_cons, List.sum_cons, ih, List.map_cons, List.sum_cons]
    cases hliteral : i.isLiteral
    · simp only [widened, hliteral, List.filter_cons, Bool.not_false, if_true, List.length_cons,
        Nat.cast_add, Nat.cast_one, Bool.false_eq_true, if_false]
      ring
    · simp only [widened, hliteral, List.filter_cons, Bool.not_true, if_true,
        Bool.false_eq_true, if_false]
      ring

theorem intervals_split (hs : s.Valid) :
    g.intervals = g.intervals.take (s.start - 1).toNat ++
      ((g.intervals.take (s.stop - 1).toNat).drop (s.start - 1).toNat ++
        g.intervals.drop (s.stop - 1).toNat) := by
  have hfront := List.take_append_drop (s.start - 1).toNat (g.intervals.take (s.stop - 1).toNat)
  rw [List.take_take, min_eq_left hs.le] at hfront
  rw [← List.append_assoc, hfront, List.take_append_drop]

theorem widen_intervals (hs : s.Valid) (hlast : s.stop ≤ g.count + 1) (share : Rat) :
    (g.widen s share).intervals = g.intervals.take (s.start - 1).toNat ++
      (((g.intervals.take (s.stop - 1).toNat).drop (s.start - 1).toNat).map (widened share) ++
        g.intervals.drop (s.stop - 1).toNat) := by
  obtain ⟨hstart, hstop⟩ := hs
  have hle := Span.Valid.le ⟨hstart, hstop⟩
  rw [widen, spanned_eq ⟨hstart, hstop⟩ hlast, before_eq hstart (by omega),
    before_eq (by omega) hlast, max_eq_right hle, List.append_assoc]

theorem widen_grown {share : Rat} (hs : s.Valid) (hlast : s.stop ≤ g.count + 1)
    (hshare : 0 ≤ share) : g.Grown (g.widen s share) := by
  have hsame (is : List (Interval Rat)) : List.Forall₂ Interval.Grown is is :=
    List.forall₂_same.mpr fun i _ => i.grown_refl
  rw [Grown, widen_intervals hs hlast]
  nth_rewrite 1 [intervals_split hs]
  refine List.rel_append (hsame _) (List.rel_append ?_ (hsame _))
  rw [List.forall₂_map_right_iff]
  refine List.forall₂_same.mpr fun i _ => ?_
  unfold widened
  split
  · exact i.grown_refl
  · exact ⟨le_add_of_nonneg_right hshare, id⟩

theorem widen_room {share : Rat} (hs : s.Valid) (hlast : s.stop ≤ g.count + 1) :
    (g.widen s share).room s =
      g.room s + ((g.spanned s).filter (!·.isLiteral)).length * share := by
  have hle := hs.le
  have hcount : (s.stop - 1).toNat ≤ g.intervals.length := by
    unfold count at hlast
    omega
  have hfront : (g.intervals.take (s.start - 1).toNat).length = (s.start - 1).toNat := by
    rw [List.length_take]
    omega
  have hmiddle : (((g.intervals.take (s.stop - 1).toNat).drop (s.start - 1).toNat).map
      (widened share)).length = (s.stop - 1).toNat - (s.start - 1).toNat := by
    rw [List.length_map, List.length_drop, List.length_take]
    omega
  have hwidened : (((g.widen s share).intervals.take (s.stop - 1).toNat).drop
      (s.start - 1).toNat) =
        ((g.intervals.take (s.stop - 1).toNat).drop (s.start - 1).toNat).map (widened share) := by
    rw [widen_intervals hs hlast, ← List.append_assoc, List.take_left' (by
      rw [List.length_append, hfront, hmiddle]
      omega), List.drop_left' hfront]
  rw [room_eq_sum hs, hwidened, sum_widened, room_eq_sum hs, spanned_eq hs hlast]

theorem addSpan_ok {size : Rat} (hs : s.Valid) (hlast : s.stop ≤ g.count + 1)
    (h : g.addSpan s size = .ok g') : g.Grown g' ∧ size - 1e-9 ≤ g'.room s := by
  have hsum : Scalar.sum ((g.spanned s).map (·.size)) = g.room s := by
    rw [Scalar.sum_eq_sum, spanned_eq hs hlast, room_eq_sum hs]
  obtain ⟨hdeficit, rfl⟩ | ⟨hdeficit, hcount, rfl⟩ := addSpan_cases h
  · rw [hsum, sizeTolerance_eq] at hdeficit
    exact ⟨Grown.refl g', by linarith⟩
  · rw [hsum, sizeTolerance_eq] at hdeficit
    have hpos : (0 : Rat) < ((g.spanned s).filter (!·.isLiteral)).length :=
      Nat.cast_pos.mpr (Nat.pos_of_ne_zero hcount)
    have hmissing : 0 < size - g.room s := by
      norm_num at hdeficit
      linarith
    have hcast : (Scalar.ofInt (((g.spanned s).filter (!·.isLiteral)).length : Int) : Rat) =
        ((g.spanned s).filter (!·.isLiteral)).length := rfl
    rw [hsum, hcast]
    refine ⟨widen_grown hs hlast (div_nonneg hmissing.le hpos.le), ?_⟩
    rw [widen_room hs hlast, mul_div_cancel₀ _ hpos.ne']
    norm_num

/-! ### Growth -/

/-- Under growth every interval takes its share, which is none without a weight. -/
theorem grow_intervals (hg : g.Sound) (slack : Rat) :
    (g.grow slack).intervals =
      g.intervals.map fun i => { i with size := i.size + slack * i.weight / g.totalWeight } := by
  rw [grow]
  refine List.map_congr_left fun i hi => ?_
  split
  · rfl
  · rename_i hweight
    have hzero : i.weight = 0 := le_antisymm (by simpa using hweight) (hg i hi).2
    have hsize : i.size + slack * i.weight / g.totalWeight = i.size := by
      rw [hzero, mul_zero, zero_div, add_zero]
    rw [hsize]

theorem grow_grown (hg : g.Sound) {slack : Rat} (hslack : 0 ≤ slack) (htotal : 0 < g.totalWeight) :
    g.Grown (g.grow slack) := by
  rw [Grown, grow_intervals hg, List.forall₂_map_right_iff]
  refine List.forall₂_same.mpr fun i hi => ⟨?_, id⟩
  have hshare := div_nonneg (mul_nonneg hslack (hg i hi).2) htotal.le
  show i.size ≤ i.size + slack * i.weight / g.totalWeight
  linarith

theorem grow_total (hg : g.Sound) (slack : Rat) (htotal : 0 < g.totalWeight) :
    (g.grow slack).total = g.total + slack := by
  have hsum (is : List (Interval Rat)) (total : Rat) :
      ((is.map fun i => { i with size := i.size + slack * i.weight / total }).map (·.size)).sum =
        (is.map (·.size)).sum + slack * (is.map (·.weight)).sum / total := by
    induction is with
    | nil => simp
    | cons i is ih =>
      simp only [List.map_cons, List.sum_cons] at ih ⊢
      rw [ih]
      ring
  have hweights : (g.intervals.map (·.weight)).sum = g.totalWeight := by
    rw [totalWeight, Scalar.sum_eq_sum]
  rw [total, total, Scalar.sum_eq_sum, Scalar.sum_eq_sum, grow_intervals hg, hsum, hweights,
    mul_div_assoc, div_self htotal.ne', mul_one]

end GridAxis

/-! ### The sizing as a whole -/

namespace AxisMeasure

variable {axis : Axis} {constraints : List (IntervalConstraint Rat)}
  {gridded : List (Measured Rat)} {g : GridAxis Rat}

/-- There is room for a child between its lines, up to the tolerance. -/
def HasRoom (axis : Axis) (g : GridAxis Rat) (child : Measured Rat) : Prop :=
  child.natural.on axis - 1e-9 ≤ g.room (child.element.placement.on axis)

theorem HasRoom.grown {g g' : GridAxis Rat} {child : Measured Rat} (h : HasRoom axis g child)
    (hvalid : (child.element.placement.on axis).Valid) (hg : g.Grown g') : HasRoom axis g' child :=
  le_trans (show _ ≤ _ from h) (hg.room_le hvalid)

theorem addCell_ok {g' : GridAxis Rat} {child : Measured Rat}
    (hvalid : (child.element.placement.on axis).Valid)
    (hstop : (child.element.placement.on axis).stop ≤ g.count + 1)
    (h : addCell axis g child = .ok g') :
    g.Grown g' ∧ ((child.element.placement.on axis).length = 1 → HasRoom axis g' child) := by
  simp only [addCell] at h
  split at h
  · rename_i hlength
    rw [Except.mapError_eq_ok] at h
    refine ⟨GridAxis.addCell_grown h, fun _ => ?_⟩
    have hroom := GridAxis.addCell_room hvalid hstop hlength h
    unfold HasRoom
    linarith
  · rename_i hlength
    obtain rfl := Except.ok.inj h
    exact ⟨GridAxis.Grown.refl g, fun hone => absurd hone hlength⟩

/-- Each cell gets its room, and no later one takes it away. -/
theorem addCells_room {g' : GridAxis Rat} {children : List (Measured Rat)}
    (hvalid : ∀ c ∈ children, (c.element.placement.on axis).Valid)
    (hstop : ∀ c ∈ children, (c.element.placement.on axis).stop ≤ g.count + 1)
    (h : children.foldlM (addCell axis) g = .ok g') :
    g.Grown g' ∧ ∀ c ∈ children, (c.element.placement.on axis).length = 1 →
      HasRoom axis g' c := by
  have hrun := Except.foldlM_forall (I := fun b => b.count = g.count) (R := GridAxis.Grown)
    (Q := fun c b => (c.element.placement.on axis).length = 1 → HasRoom axis b c)
    h rfl GridAxis.Grown.refl GridAxis.Grown.trans
  refine (hrun ?_ ?_).2
  · intro c hc b b' hb hstep
    obtain ⟨hgrown, hroom⟩ := addCell_ok (hvalid c hc) (hb ▸ hstop c hc) hstep
    exact ⟨hgrown.count_eq ▸ hb, hgrown, hroom⟩
  · intro c hc b b' hroom hgrown hlength
    exact (hroom hlength).grown (hvalid c hc) hgrown

theorem addSpans_room {g' : GridAxis Rat} {children : List (Measured Rat)}
    (hvalid : ∀ c ∈ children, (c.element.placement.on axis).Valid)
    (hstop : ∀ c ∈ children, (c.element.placement.on axis).stop ≤ g.count + 1)
    (h : children.foldlM (addSpan axis) g = .ok g') :
    g.Grown g' ∧ ∀ c ∈ children, HasRoom axis g' c := by
  have hrun := Except.foldlM_forall (I := fun b => b.count = g.count) (R := GridAxis.Grown)
    (Q := fun c b => HasRoom axis b c) h rfl GridAxis.Grown.refl GridAxis.Grown.trans
  refine (hrun ?_ ?_).2
  · intro c hc b b' hb hstep
    obtain ⟨hgrown, hroom⟩ := GridAxis.addSpan_ok (hvalid c hc) (hb ▸ hstop c hc)
      (Except.mapError_eq_ok.mp hstep)
    exact ⟨hgrown.count_eq ▸ hb, hgrown, hroom⟩
  · intro c hc b b' hroom hgrown
    exact hroom.grown (hvalid c hc) hgrown

theorem mem_spanning {c : Measured Rat} :
    c ∈ spanning axis gridded ↔ c ∈ gridded ∧ (c.element.placement.on axis).length ≠ 1 := by
  simp [spanning, List.mem_mergeSort]

/-- Sized intervals have no size below zero, and room for every child: floors, cells and spans only
ever add, so what an earlier step made room for still has it. -/
theorem sizeGrid_room (hvalid : ∀ c ∈ gridded, (c.element.placement.on axis).Valid)
    (h : sizeGrid axis constraints gridded = .ok g) :
    g.Sound ∧ ∀ c ∈ gridded, HasRoom axis g c := by
  simp only [sizeGrid, Except.bind_eq_ok, Except.mapError_eq_ok, Except.pure_eq_ok] at h
  obtain ⟨floored, hfloored, celled, hcelled, spanned, hspanned, rfl⟩ := h
  have hcount : floored.count = (lineCount axis constraints gridded - 1).toNat :=
    (applyConstraints_count hfloored).trans (GridAxis.count_ofLineCount _)
  have hstop : ∀ c ∈ gridded, (c.element.placement.on axis).stop ≤ floored.count + 1 := by
    intro c hc
    have hline : (c.element.placement.on axis).stop ≤ lineCount axis constraints gridded :=
      stop_le_lineCount hc
    obtain ⟨hstart, hbehind⟩ := hvalid c hc
    omega
  obtain ⟨hcelledGrown, hcells⟩ := addCells_room hvalid hstop hcelled
  obtain ⟨hspannedGrown, hspans⟩ := addSpans_room
    (fun c hc => hvalid c (mem_spanning.mp hc).1)
    (fun c hc => hcelledGrown.count_eq ▸ hstop c (mem_spanning.mp hc).1) hspanned
  have hfrozen : spanned.Grown spanned.freezeMinimums := by
    rw [GridAxis.Grown, GridAxis.freezeMinimums, List.forall₂_map_right_iff]
    exact List.forall₂_same.mpr fun i _ => ⟨le_refl i.size, id⟩
  refine ⟨?_, fun c hc => ?_⟩
  · have hfloor := (GridAxis.applyConstraints_grown hfloored).sound (GridAxis.ofLineCount_sound _)
    exact ((hcelledGrown.trans hspannedGrown).trans hfrozen).sound hfloor
  · by_cases hlength : (c.element.placement.on axis).length = 1
    · exact (hcells c hc hlength).grown (hvalid c hc) (hspannedGrown.trans hfrozen)
    · exact (hspans c (mem_spanning.mpr ⟨hc, hlength⟩)).grown (hvalid c hc) hfrozen

/-! ### Children at a place of their own -/

/-- A child at a place of its own begins on an axis at `x` at the earliest, from the first line. -/
def BeginsFrom (axis : Axis) (x : Rat) (c : Measured Rat) : Prop :=
  ∀ place, c.place? = some place → x ≤ place.on axis - c.natural.on axis / 2

theorem le_lowOf_iff {first x : Rat} {c : Measured Rat} :
    x ≤ lowOf axis first c ↔ x ≤ first ∧ BeginsFrom axis x c := by
  have htwo : (2.0 : Rat) = 2 := by norm_num
  unfold lowOf BeginsFrom
  split
  · rename_i place hplace
    rw [Scalar.smaller_eq_min, le_min_iff, htwo, hplace]
    refine and_congr_right fun _ => ⟨?_, fun h => h place rfl⟩
    rintro h other hother
    obtain rfl := Option.some.inj hother
    exact h
  · rename_i hplace
    simp [hplace]

theorem le_foldl_lowOf_iff {children : List (Measured Rat)} {first x : Rat} :
    x ≤ children.foldl (lowOf axis) first ↔
      x ≤ first ∧ ∀ c ∈ children, BeginsFrom axis x c := by
  induction children generalizing first with
  | nil => simp
  | cons c children ih =>
    rw [List.foldl_cons, ih, le_lowOf_iff, List.forall_mem_cons, and_assoc]

/-- A child at a place of its own ends on an axis at `x` at the latest, from the first line. -/
def EndsBy (axis : Axis) (x : Rat) (c : Measured Rat) : Prop :=
  ∀ place, c.place? = some place → place.on axis + c.natural.on axis / 2 ≤ x

theorem highOf_le_iff {first x : Rat} {c : Measured Rat} :
    highOf axis first c ≤ x ↔ first ≤ x ∧ EndsBy axis x c := by
  have htwo : (2.0 : Rat) = 2 := by norm_num
  unfold highOf EndsBy
  split
  · rename_i place hplace
    rw [Scalar.larger_eq_max, max_le_iff, htwo, hplace]
    refine and_congr_right fun _ => ⟨?_, fun h => h place rfl⟩
    rintro h other hother
    obtain rfl := Option.some.inj hother
    exact h
  · rename_i hplace
    simp [hplace]

theorem foldl_highOf_le_iff {children : List (Measured Rat)} {first x : Rat} :
    children.foldl (highOf axis) first ≤ x ↔ first ≤ x ∧ ∀ c ∈ children, EndsBy axis x c := by
  induction children generalizing first with
  | nil => simp
  | cons c children ih =>
    rw [List.foldl_cons, ih, highOf_le_iff, List.forall_mem_cons, and_assoc]

/-- The measure of a group on an axis: sound intervals with room for every child on the grid, and a
stretch around the first line that holds every child at a place of its own. -/
structure Fits (axis : Axis) (m : AxisMeasure Rat) (children : List (Measured Rat)) : Prop where
  sound : m.grid.Sound
  low : m.low ≤ 0
  high : 0 ≤ m.high
  lines : ∀ c ∈ children, c.place? = none →
    (c.element.placement.on axis).stop ≤ m.grid.count + 1
  room : ∀ c ∈ children, c.place? = none → HasRoom axis m.grid c
  places : ∀ c ∈ children, ∀ p, c.place? = some p →
    m.low ≤ p.on axis - c.natural.on axis / 2 ∧ p.on axis + c.natural.on axis / 2 ≤ m.high

theorem ofChildren_fits {style : Properties Rat} {children : List (Measured Rat)}
    {m : AxisMeasure Rat} (hvalid : ∀ c ∈ children, (c.element.placement.on axis).Valid)
    (h : ofChildren style children axis = .ok m) : m.Fits axis children := by
  have hlines := fun c hc hplace => ofChildren_count h hc hplace (hvalid c hc)
  simp only [ofChildren, Except.bind_eq_ok, Except.pure_eq_ok] at h
  obtain ⟨grid, hgrid, rfl⟩ := h
  have hgridded : ∀ c ∈ children.filter (·.place?.isNone),
      (c.element.placement.on axis).Valid := fun c hc => hvalid c (List.mem_filter.mp hc).1
  obtain ⟨hsound, hroom⟩ := sizeGrid_room hgridded hgrid
  obtain ⟨hlow, hlows⟩ := le_foldl_lowOf_iff.mp (le_refl (children.foldl (lowOf axis) 0.0))
  obtain ⟨hhigh, hhighs⟩ := foldl_highOf_le_iff.mp (le_refl (children.foldl (highOf axis) 0.0))
  refine ⟨hsound, by simpa using hlow, by simpa using hhigh, hlines, fun c hc hplace => ?_, ?_⟩
  · exact hroom c (by simp [hc, hplace])
  · exact fun c hc p hp => ⟨hlows c hc p hp, hhighs c hc p hp⟩

end AxisMeasure

end GridDiagram
