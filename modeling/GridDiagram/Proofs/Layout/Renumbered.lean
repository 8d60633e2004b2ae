import GridDiagram.Proofs.Correspondence
import GridDiagram.Proofs.Layout.Shift

/-!
Trees whose groups count their grid lines from other numbers, and what becomes of their nodes, in
rationals. A group is as large as it was, behind more empty intervals, and its lines lie where they
did, behind more copies of the first.
-/

namespace GridDiagram

open Except

/-! ### Trees -/

namespace Tree

variable {β γ σ : Type}

/-- The tree at a position: the numbers, counted from 0, of the children on the way to it. -/
def at? : List Nat → Tree β → Option (Tree β)
  | [], t => some t
  | i :: rest, t => t.children[i]?.bind (at? rest)

theorem mem_subtrees_of_at? {position : List Nat} {t s : Tree β}
    (h : t.at? position = some s) : s ∈ t.subtrees := by
  induction position generalizing t with
  | nil =>
    obtain rfl := Option.some.inj h
    exact t.self_mem_subtrees
  | cons i rest ih =>
    obtain ⟨c, hc, hs⟩ := Option.bind_eq_some_iff.mp h
    exact subtrees_trans
      (mem_subtrees_of_mem_children t.self_mem_subtrees (List.mem_of_getElem? hc)) (ih hs)

mutual

/-- The tree with `f` applied to every value, where `steps` belongs to the positions. The value of a
node goes with the steps of the node around it, and with its own. -/
def renumber (f : σ → σ → β → β) (outer : σ) (steps : List Nat → σ) : Tree β → Tree β
  | node v ts => node (f outer (steps []) v) (renumberAll f (steps []) steps 0 ts)

/-- `renumber` for the children of a node, from child `i` on. -/
def renumberAll (f : σ → σ → β → β) (outer : σ) (steps : List Nat → σ) (i : Nat) :
    List (Tree β) → List (Tree β)
  | [] => []
  | t :: ts =>
    renumber f outer (fun rest => steps (i :: rest)) t :: renumberAll f outer steps (i + 1) ts

end

/-- The children of the root of such a tree. -/
def renumberBelow (f : σ → σ → β → β) (steps : List Nat → σ) (ts : List (Tree β)) :
    List (Tree β) :=
  ts.mapIdx fun i => renumber f (steps []) fun rest => steps (i :: rest)

variable (f : σ → σ → β → β) (outer : σ) (steps : List Nat → σ)

@[simp] theorem renumber_node (v : β) (ts : List (Tree β)) :
    renumber f outer steps (node v ts) =
      node (f outer (steps []) v) (renumberBelow f steps ts) := by
  have from_index (ts : List (Tree β)) (outer : σ) (i : Nat) :
      renumberAll f outer steps i ts =
        ts.mapIdx fun j => renumber f outer fun rest => steps ((i + j) :: rest) := by
    induction ts generalizing i with
    | nil => rfl
    | cons t ts ih =>
      rw [renumberAll, List.mapIdx_cons, ih]
      simp only [Nat.add_zero, Nat.add_assoc, Nat.add_comm 1]
  simp only [renumber, from_index, Nat.zero_add, renumberBelow]

theorem value_renumber (t : Tree β) :
    (t.renumber f outer steps).value = f outer (steps []) t.value := by
  cases t
  rw [renumber_node, value_node, value_node]

variable {f}

theorem forall₂_renumberBelow {R : Tree β → Tree β → Prop} {ts : List (Tree β)}
    (h : ∀ i, ∀ t ∈ ts, R t (t.renumber f (steps []) fun rest => steps (i :: rest))) :
    List.Forall₂ R ts (renumberBelow f steps ts) :=
  List.forall₂_mapIdx h

/-- The values of the children go with the steps of their parent, and with some of their own. -/
theorem forall₂_values_renumberBelow (ts : List (Tree β)) :
    List.Forall₂ (fun v w => ∃ inner, w = f (steps []) inner v) (ts.map value)
      ((renumberBelow f steps ts).map value) := by
  rw [List.forall₂_map_left_iff, List.forall₂_map_right_iff]
  exact forall₂_renumberBelow steps fun i t _ => ⟨steps [i], t.value_renumber ..⟩

/-- What the steps do not change of a value is the same at every child. -/
theorem map_renumberBelow {g : β → γ} (hg : ∀ outer inner v, g (f outer inner v) = g v)
    (ts : List (Tree β)) :
    (renumberBelow f steps ts).map (fun t => g t.value) = ts.map fun t => g t.value := by
  have hsame : List.Forall₂ (fun t u => g t.value = g u.value) ts (renumberBelow f steps ts) :=
    forall₂_renumberBelow steps fun i t _ => by rw [t.value_renumber, hg]
  exact (hsame.map_eq fun _ _ h => h).symm

/-- What the steps do not change of a value is the same at every node. -/
theorem preorder_renumber {g : β → γ} (hg : ∀ outer inner v, g (f outer inner v) = g v)
    (t : Tree β) : (t.renumber f outer steps).preorder.map g = t.preorder.map g := by
  induction t using induct generalizing outer steps with
  | step v ts ih =>
    have hbelow : List.Forall₂ (fun t u => t.preorder.map g = u.preorder.map g) ts
        (renumberBelow f steps ts) :=
      forall₂_renumberBelow steps fun i t ht => (ih t ht _ _).symm
    simp only [renumber_node, preorder_node, preorderAll_eq_flatMap, List.map_cons, hg,
      List.map_flatMap]
    rw [List.flatMap_def, List.flatMap_def, hbelow.map_eq fun _ _ h => h]

end Tree

/-! ### Nodes -/

namespace Attribute

variable {α : Type}

/-- A value of an attribute of a group whose lines are further on. -/
def shiftValue (steps : Pair Nat) : (a : Attribute) → a.Value α → a.Value α
  | minx, cs => List.map (IntervalConstraint.shift · steps.x) cs
  | miny, cs => List.map (IntervalConstraint.shift · steps.y) cs
  | _, v => v

theorem shiftValue_of_ne {a : Attribute} (hx : a ≠ minx) (hy : a ≠ miny) (steps : Pair Nat)
    (v : a.Value α) : shiftValue steps a v = v := by
  cases a <;> first | rfl | contradiction

end Attribute

namespace Properties

variable {α : Type}

/-- Properties of a group whose lines are further on. -/
def shift (steps : Pair Nat) (ps : Properties α) : Properties α :=
  ps.map fun p => ⟨p.1, p.1.shiftValue steps p.2⟩

variable (steps : Pair Nat) (ps : Properties α)

theorem get?_shift (a : Attribute) :
    (ps.shift steps).get? a = (ps.get? a).map (a.shiftValue steps) := by
  induction ps with
  | nil => rfl
  | cons p ps ih =>
    obtain ⟨b, v⟩ := p
    by_cases hb : b = a
    · subst hb
      rw [get?_cons_self]
      exact get?_cons_self b (b.shiftValue steps v) _
    · rw [get?_cons_of_ne hb, ← ih]
      exact get?_cons_of_ne hb _ _

theorem get?_shift_of_ne {a : Attribute} (hx : a ≠ .minx) (hy : a ≠ .miny) :
    (ps.shift steps).get? a = ps.get? a := by
  rw [get?_shift]
  cases ps.get? a with
  | none => rfl
  | some v => exact congrArg some (Attribute.shiftValue_of_ne hx hy steps v)

theorem shift_constraints (axis : Axis) :
    (ps.shift steps).constraints axis = (ps.constraints axis).map (·.shift (steps.on axis)) := by
  cases axis <;> simp only [constraints, get?_shift] <;> cases ps.get? _ <;> rfl

variable [Scalar α]

theorem shift_strokeExtent : (ps.shift steps).strokeExtent = ps.strokeExtent := by
  simp (disch := decide) only [strokeExtent, get?_shift_of_ne]

theorem shift_fontSize : (ps.shift steps).fontSize = ps.fontSize := by
  simp (disch := decide) only [fontSize, get?_shift_of_ne]

omit [Scalar α] in
theorem shift_fontFamilyOr (fallback : Option String) :
    (ps.shift steps).fontFamilyOr fallback = ps.fontFamilyOr fallback := by
  simp (disch := decide) only [fontFamilyOr, get?_shift_of_ne]

theorem shift_scaleFactor : (ps.shift steps).scaleFactor = ps.scaleFactor := by
  simp (disch := decide) only [scaleFactor, get?_shift_of_ne]

theorem shift_rotation : (ps.shift steps).rotation = ps.rotation := by
  simp (disch := decide) only [rotation, get?_shift_of_ne]

theorem shift_padding : (ps.shift steps).padding = ps.padding := by
  simp (disch := decide) only [padding, get?_shift_of_ne]

theorem shift_marginSides : (ps.shift steps).marginSides = ps.marginSides := by
  simp (disch := decide) only [marginSides, get?_shift_of_ne]

theorem shift_border : (ps.shift steps).border = ps.border := by
  simp (disch := decide) only [border, get?_shift_of_ne]

end Properties

variable {α : Type}

/-- An element in a diagram with its lines further on: those that it stands on by `outer`, if it has
no place of its own, and those inside it by `inner`. -/
def Element.renumber (outer inner : Pair Nat) (e : Element α) : Element α :=
  { e with
    placement :=
      if (e.effective.get? .place).isSome then e.placement
      else Pair.ofAxes fun axis => (e.placement.on axis).shift (outer.on axis)
    attributes := e.attributes.shift inner
    style := e.style.shift inner }

def Measured.renumber (outer inner : Pair Nat) (m : Measured Rat) : Measured Rat :=
  { m with
    element := m.element.renumber outer inner
    axes := m.axes.map fun axes => Pair.ofAxes fun axis => (axes.on axis).pad (inner.on axis) }

/-- The grid with more lines at the place of its first ones. -/
def GridPosition.pad (steps : Pair Nat) (g : GridPosition α) : GridPosition α :=
  { g with lines := Pair.ofAxes fun axis => leading (steps.on axis) (g.lines.on axis) }

def Positioned.renumber (outer inner : Pair Nat) (p : Positioned Rat) : Positioned Rat :=
  { p with
    measured := p.measured.renumber outer inner
    grid := p.grid.map (GridPosition.pad inner) }

/-- The geometry of a node with its lines further on: a group has more lines at the place of its
first ones, and its boxes stay where they are. -/
def Resolved.renumber (outer inner : Pair Nat) (r : Resolved α) : Resolved α :=
  { r with
    element := r.element.renumber outer inner
    gridLines := r.gridLines.map fun lines =>
      Pair.ofAxes fun axis => leading (inner.on axis) (lines.on axis) }

section Nodes

variable (outer inner : Pair Nat)

theorem Measured.renumber_progress (m : Measured Rat) :
    (m.renumber outer inner).progress = m.progress := rfl

theorem Positioned.renumber_progress (p : Positioned Rat) :
    (p.renumber outer inner).progress = p.progress := rfl

theorem Positioned.renumber_warnings (p : Positioned Rat) :
    (p.renumber outer inner).warnings = p.warnings := rfl

theorem Element.renumber_effective (e : Element α) :
    (e.renumber outer inner).effective = e.effective.shift inner := by
  unfold Element.effective Element.renumber Properties.shift
  rw [List.isEmpty_map]
  split <;> rfl

theorem Measured.renumber_place? (m : Measured Rat) :
    (m.renumber outer inner).place? = m.place? := by
  show (m.element.renumber outer inner).effective.get? .place = m.element.effective.get? .place
  rw [Element.renumber_effective, Properties.get?_shift_of_ne _ _ (by decide) (by decide)]

theorem Measured.renumber_shifted (m : Measured Rat) :
    m.Shifted outer (m.renumber outer inner) where
  place := m.renumber_place? outer inner
  placement hplace axis := by
    have hgridded : (m.element.effective.get? .place).isSome = false := by
      rw [show m.element.effective.get? .place = none from hplace]
      rfl
    simp [Measured.renumber, Element.renumber, hgridded]
  natural := rfl
  path := rfl

variable (settings : LayoutSettings Rat)

theorem Measured.naturalSize_shift (style : Properties Rat) (drawn : Pair Rat) :
    naturalSize (style.shift inner) drawn = naturalSize style drawn := by
  simp only [naturalSize, Properties.shift_padding, Properties.shift_marginSides,
    Properties.shift_border]

/-- A group whose lines are further on has its size behind as many empty intervals, or has none for
the reason for which it had none, further on. -/
theorem Measured.ofGroup_renumber {e : Element Rat} (hgroup : e.kind = .group)
    (hlines : ∀ axis, ∀ c ∈ e.effective.constraints axis, 1 ≤ c.line) (path : String)
    {cs cs' : List (Measured Rat)} (hvalid : ∀ c ∈ cs, ∀ axis, (c.element.placement.on axis).Valid)
    (hused : ∀ axis, inner.on axis ≠ 0 →
      (∃ c ∈ cs, c.place? = none) ∨ e.effective.constraints axis ≠ [])
    (h : List.Forall₂ (fun c c' => ∃ deeper, c' = c.renumber inner deeper) cs cs') :
    Related (fun x x' => x' = x.shift inner) (fun m m' => m' = m.renumber outer inner)
      (ofElement settings e path cs) (ofElement settings (e.renumber outer inner) path cs') := by
  have axes (axis : Axis) := AxisMeasure.ofChildren_shift (hlines axis)
    (fun c hc => hvalid c hc axis) (hused axis) (e.effective.shift_constraints inner axis)
    (h.imp fun c _ ⟨deeper, hc⟩ => hc ▸ c.renumber_shifted inner deeper)
  have hkind : (e.renumber outer inner).kind = .group := hgroup
  unfold ofElement
  rw [if_pos hgroup, if_pos hkind, e.renumber_effective, Properties.shift_scaleFactor]
  refine (axes .x).bind ?_
  rintro x _ rfl
  refine (axes .y).bind ?_
  rintro y _ rfl
  simp only [AxisMeasure.extent_pad, naturalSize_shift]
  exact related_pure rfl

theorem Measured.leafContent_renumber (e : Element Rat) (path : String) :
    leafContent settings (e.renumber outer inner) path = leafContent settings e path := by
  have hkind : (e.renumber outer inner).kind = e.kind := rfl
  have htag : (e.renumber outer inner).tag = e.tag := rfl
  have hlines : (e.renumber outer inner).lines = e.lines := rfl
  simp (disch := decide) only [leafContent, hkind, htag, hlines, e.renumber_effective,
    Properties.shift_strokeExtent, Properties.shift_fontSize, Properties.shift_fontFamilyOr,
    Properties.get?_shift_of_ne]

theorem Measured.ofLeaf_renumber {e : Element Rat} (hleaf : e.kind ≠ .group) (path : String)
    (cs cs' : List (Measured Rat)) :
    Related Eq (fun m m' => m' = m.renumber outer inner) (ofElement settings e path cs)
      (ofElement settings (e.renumber outer inner) path cs') := by
  have hkind : (e.renumber outer inner).kind ≠ .group := hleaf
  unfold ofElement
  rw [if_neg hleaf, if_neg hkind, leafContent_renumber, e.renumber_effective,
    Properties.shift_scaleFactor, Properties.shift_rotation]
  simp only [naturalSize_shift]
  refine (related_eq_self _).bind ?_
  rintro content _ rfl
  refine (related_eq_self _).bind ?_
  rintro drawn _ rfl
  exact related_pure rfl

/-! ### Boxes -/

namespace Positioned

variable (m : Measured Rat)

theorem expansion_renumber : expansion (m.renumber outer inner) = expansion m := by
  have hstyle : (m.renumber outer inner).style = m.style.shift inner :=
    m.element.renumber_effective outer inner
  have htag : (m.renumber outer inner).element.tag = m.element.tag := rfl
  simp (disch := decide) only [expansion, hstyle, htag, Properties.get?_shift_of_ne]

theorem anchor_renumber : anchor settings (m.renumber outer inner) = anchor settings m := by
  have hstyle : (m.renumber outer inner).style = m.style.shift inner :=
    m.element.renumber_effective outer inner
  simp (disch := decide) only [anchor, hstyle, Properties.get?_shift_of_ne]

theorem axisPosition_pad (path : String) (k : Nat) (m : AxisMeasure Rat) (axis : Axis)
    (start size expand anchor : Rat) :
    axisPosition path (m.pad k) axis start size expand anchor =
      { axisPosition path m axis start size expand anchor with
        lines := leading k (axisPosition path m axis start size expand anchor).lines } := by
  have hweight : (m.pad k).grid.totalWeight = m.grid.totalWeight := m.grid.totalWeight_pad k
  have hgrown (slack : Rat) :
      (⟨(m.pad k).grid.grow slack, (m.pad k).low, (m.pad k).high⟩ : AxisMeasure Rat) =
        AxisMeasure.pad k ⟨m.grid.grow slack, m.low, m.high⟩ :=
    congrArg (AxisMeasure.mk · m.low m.high) (m.grid.grow_pad k slack)
  have hlow (m : AxisMeasure Rat) : (m.pad k).low = m.low := rfl
  have hlines (m : AxisMeasure Rat) (origin : Rat) :
      (m.pad k).grid.positions origin = leading k (m.grid.positions origin) :=
    m.grid.positions_pad k origin
  simp only [axisPosition, m.extent_pad, hweight, hgrown]
  by_cases hgrows : sizeTolerance < size - m.extent ∧ 0.0 < expand ∧ 0.0 < m.grid.totalWeight
  · simp only [if_pos hgrows, AxisMeasure.extent_pad, hlow, hlines]
  · simp only [if_neg hgrows, AxisMeasure.extent_pad, hlow, hlines]

theorem gridPosition_renumber (axes : Pair (AxisMeasure Rat)) (padded : Box Rat) :
    gridPosition settings (m.renumber outer inner)
        (Pair.ofAxes fun axis => (axes.on axis).pad (inner.on axis)) padded =
      ((gridPosition settings m axes padded).1.pad inner,
        (gridPosition settings m axes padded).2) := by
  have hpath : (m.renumber outer inner).path = m.path := rfl
  simp only [gridPosition, expansion_renumber, anchor_renumber, hpath, Pair.on_ofAxes,
    axisPosition_pad]
  rfl

theorem ofMeasured_renumber (cell : Box Rat) :
    ofMeasured settings (m.renumber outer inner) cell =
      (ofMeasured settings m cell).renumber outer inner := by
  have hstyle : (m.renumber outer inner).style = m.style.shift inner :=
    m.element.renumber_effective outer inner
  have houter : outerBox settings (m.renumber outer inner) cell = outerBox settings m cell := by
    simp only [outerBox, expansion_renumber, anchor_renumber]
    rfl
  have hoverflow : overflowWarning (m.renumber outer inner) = overflowWarning m := rfl
  simp only [ofMeasured, hstyle, Properties.shift_marginSides, Properties.shift_border,
    Properties.shift_padding, houter, hoverflow]
  cases haxes : m.axes with
  | none =>
    have haxes' : (m.renumber outer inner).axes = none := by
      rw [Measured.renumber, haxes, Option.map_none]
    simp only [haxes']
    rfl
  | some axes =>
    have haxes' : (m.renumber outer inner).axes =
        some (Pair.ofAxes fun axis => (axes.on axis).pad (inner.on axis)) := by
      rw [Measured.renumber, haxes, Option.map_some]
    simp only [haxes', gridPosition_renumber]
    rfl

theorem lineAt_leading (steps : Pair Nat) (axis : Axis) (lines : List Rat) {line : Int}
    (hline : 1 ≤ line) :
    Related (fun e e' => e' = e.shift steps) Eq (lineAt axis lines line)
      (lineAt axis (leading (steps.on axis) lines) (line + steps.on axis)) := by
  have hindex : (line + steps.on axis - 1).toNat = (line - 1).toNat + steps.on axis := by
    omega
  unfold lineAt
  rw [hindex, leading_getElem?]
  cases lines[(line - 1).toNat]? with
  | none => exact related_error.mpr rfl
  | some p => exact related_ok.mpr rfl

/-- A child gets the same cell from a grid whose lines are further on, if its own are as well. -/
theorem cellFor_renumber (grid : GridPosition Rat) {c : Measured Rat}
    (hvalid : ∀ axis, (c.element.placement.on axis).Valid) :
    Related (fun e e' => e' = e.shift outer) Eq (cellFor grid c)
      (cellFor (grid.pad outer) (c.renumber outer inner)) := by
  unfold cellFor
  rw [c.renumber_place?]
  cases hplace : c.place? with
  | some p => exact related_ok.mpr rfl
  | none =>
    have hshifted := (c.renumber_shifted outer inner).placement hplace
    have hx : (c.renumber outer inner).element.placement.x = c.element.placement.x.shift outer.x :=
      hshifted .x
    have hy : (c.renumber outer inner).element.placement.y = c.element.placement.y.shift outer.y :=
      hshifted .y
    have line (axis : Axis) {line : Int} (hline : 1 ≤ line) :=
      lineAt_leading outer axis (grid.lines.on axis) hline
    obtain ⟨hleft, hright⟩ := hvalid .x
    obtain ⟨htop, hbottom⟩ := hvalid .y
    simp only [hx, hy]
    refine (line .x hleft).bind ?_
    rintro left _ rfl
    refine (line .y htop).bind ?_
    rintro top _ rfl
    refine (line .x (hleft.trans hright.le)).bind ?_
    rintro right _ rfl
    refine (line .y (htop.trans hbottom.le)).bind ?_
    rintro bottom _ rfl
    exact related_pure rfl

end Positioned

namespace Resolved

theorem shiftOf_renumber (offset : Pair Rat) (m : Measured Rat) :
    shiftOf offset (m.renumber outer inner) = shiftOf offset m := by
  have hstyle : (m.renumber outer inner).style = m.style.shift inner :=
    m.element.renumber_effective outer inner
  simp (disch := decide) only [shiftOf, hstyle, Properties.get?_shift_of_ne]

theorem ofPositioned_renumber (shift : Pair Rat) (p : Positioned Rat) :
    ofPositioned shift (p.renumber outer inner) = (ofPositioned shift p).renumber outer inner := by
  have hstyle : (p.measured.renumber outer inner).style = p.measured.style.shift inner :=
    p.measured.element.renumber_effective outer inner
  have hkind : (p.measured.renumber outer inner).element.kind = p.measured.element.kind := rfl
  have hvertices (start : Pair Rat) :
      verticesAt (p.measured.style.shift inner) start = verticesAt p.measured.style start := by
    simp (disch := decide) only [verticesAt, Properties.get?_shift_of_ne,
      Properties.shift_strokeExtent]
  have hlines (g : GridPosition Rat) :
      (⟨(g.pad inner).lines.x.map (· + shift.x), (g.pad inner).lines.y.map (· + shift.y)⟩ :
          Pair (List Rat)) =
        Pair.ofAxes fun axis => leading (inner.on axis)
          ((⟨g.lines.x.map (· + shift.x), g.lines.y.map (· + shift.y)⟩ :
            Pair (List Rat)).on axis) :=
    congrArg₂ Pair.mk (leading_map ..).symm (leading_map ..).symm
  simp only [ofPositioned, renumber, Positioned.renumber, hkind, hstyle,
    Properties.shift_rotation, Properties.shift_scaleFactor, hvertices, Option.map_map,
    Function.comp_def, hlines]
  rfl

end Resolved

end Nodes

end GridDiagram
