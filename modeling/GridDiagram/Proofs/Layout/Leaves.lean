import GridDiagram.Proofs.Layout.Sizes
import GridDiagram.Proofs.Layout.Expansion

/-!
The leaves of a layout as they are drawn: a shape, a text or a path has its content and what that
covers in the end around one middle, wherever its cell is and whatever shifts it.
-/

namespace GridDiagram

variable {α : Type} [ExactScalar α]

/-- A primitive that draws an element which is no group: its content, of the size that was measured,
and what that covers once it is scaled and turned have their middle at `center`. -/
structure Primitive.Leaf (settings : LayoutSettings α) (e : Element α)
    (center content drawn : Pair α) (p : Primitive α) : Prop where
  styled : e.Styled Attribute.Ranged
  kind : Primitive.kindOf? e.kind e.tag.name = some p.kind
  attributes : p.attributes = e.effective
  lines : p.lines = e.lines
  rotation : p.rotation = e.effective.rotation
  scale : p.scale = e.effective.scaleFactor
  measured : Measured.leafContent settings e p.path = .ok content
  turned : drawnSize settings.trigonometry content p.scale p.rotation = .ok drawn
  box : p.box = Box.around center content
  bounds : p.bounds = Box.around center drawn
  vertices : e.kind = .path → p.vertices = Resolved.verticesAt e.effective ⟨p.box.x, p.box.y⟩

variable {settings : LayoutSettings α}

/-- The measures of a node that is no group. -/
theorem Measured.Done.leafSizes {m : Measured α} {children : List (Measured α)}
    (h : m.Done settings Attribute.Ranged children) (hgroup : m.element.kind ≠ .group) :
    leafContent settings m.element m.path = .ok m.content ∧
      drawnSize settings.trigonometry m.content m.style.scaleFactor m.style.rotation =
        .ok m.drawn := by
  have hsizes := h.sizes
  rw [ofElement, if_neg hgroup] at hsizes
  simp only [Except.bind_eq_ok, Except.mapError_eq_ok, Except.pure_eq_ok] at hsizes
  obtain ⟨content, hcontent, drawn, hdrawn, hm⟩ := hsizes
  obtain rfl : content = m.content := congrArg Measured.content hm
  obtain rfl : drawn = m.drawn := congrArg Measured.drawn hm
  exact ⟨hcontent, hdrawn⟩

/-- The boxes of a node that is no group lie around one point. -/
theorem Positioned.Done.leafBoxes {p : Positioned α} {children : List (Positioned α)}
    (h : p.Done settings Attribute.Ranged children) (hgroup : p.measured.element.kind ≠ .group) :
    ∃ center, p.content = Box.around center p.measured.content ∧
      p.bounds = Box.around center p.measured.drawn := by
  have haxes := h.measured.axes_eq_none hgroup
  have hboxes := h.boxes
  simp only [ofMeasured, haxes] at hboxes
  exact ⟨_, congrArg Positioned.content hboxes, congrArg Positioned.bounds hboxes⟩

/-- The primitive of a node that is no group is one of its element. -/
theorem Primitive.leaf_of_positioned {q : Positioned α} {children : List (Positioned α)}
    (hq : q.Done settings Attribute.Ranged children) {shift : Pair α} {p : Primitive α}
    (h : ofResolved (Resolved.ofPositioned shift q) = .ok p) (hleaf : p.kind ≠ .group) :
    ∃ center, p.Leaf settings q.measured.element center q.measured.content q.measured.drawn := by
  simp only [ofResolved, Resolved.ofPositioned] at h
  split at h
  · simp at h
  · rename_i kind hkind
    obtain rfl := Except.ok.inj h
    have hgroup : q.measured.element.kind ≠ .group := by
      intro hgroup
      simp only [hgroup, kindOf?, Option.some.injEq] at hkind
      exact hleaf hkind.symm
    obtain ⟨hmeasured, hturned⟩ := hq.measured.leafSizes hgroup
    obtain ⟨center, hcontent, hbounds⟩ := hq.leafBoxes hgroup
    refine ⟨⟨center.x + shift.x, center.y + shift.y⟩, hq.measured.styled, hkind, rfl, rfl,
      if_neg hgroup, if_neg hgroup, hmeasured, ?_, ?_, ?_, fun hpath => if_pos hpath⟩
    · simpa only [if_neg hgroup] using hturned
    · exact (congrArg (Box.moved · shift) hcontent).trans (Box.moved_around ..)
    · exact (congrArg (Box.moved · shift) hbounds).trans (Box.moved_around ..)

/-- Every node of a layout has a primitive, and each that draws something is a leaf. -/
theorem layout_leaves {t : DiagramTree α} (ht : t.Styled Attribute.Ranged) {size : Option (Pair α)}
    {l : Layout α} (h : layout settings t size = .ok l) :
    ∃ ps, Primitive.ofTree l.tree = .ok ps ∧ ∀ p ∈ ps, p.kind ≠ .group →
      ∃ e center content drawn, p.Leaf settings e center content drawn := by
  obtain ⟨ps, hps, -⟩ := ofTree_drawable fun r hr =>
    (Document.layout_styled ht h r hr).imp fun _ _ hv => hv.counts
  refine ⟨ps, hps, fun p hp hleaf => ?_⟩
  obtain ⟨r, hr, hpr⟩ := (Except.mapM_eq_ok.mp hps).exists_left hp
  obtain ⟨q, hq, htree, -⟩ := layout_ok h
  rw [htree] at hr
  obtain ⟨n, hn, shift, rfl⟩ := mem_resolveTree hr
  rw [Tree.preorder_eq_map_subtrees] at hn
  obtain ⟨s, hs, rfl⟩ := List.mem_map.mp hn
  obtain ⟨center, hleaf⟩ := Primitive.leaf_of_positioned (positioned_done ht hq s hs) hpr hleaf
  exact ⟨_, center, _, _, hleaf⟩

/-- Points of the unit circle in eighths of a turn, with angles in degrees. Those between the axes
are as near to the diagonals as points with a denominator of 29 are. -/
def eighthTurn (degrees : Rat) : Pair Rat :=
  if degrees = 90 then ⟨0, 1⟩
  else if degrees = 180 then ⟨-1, 0⟩
  else if degrees = 270 then ⟨0, -1⟩
  else if degrees = -45 then ⟨20 / 29, -21 / 29⟩
  else if degrees = 45 then ⟨20 / 29, 21 / 29⟩
  else if degrees = 135 then ⟨-20 / 29, 21 / 29⟩
  else if degrees = 225 then ⟨-20 / 29, -21 / 29⟩
  else ⟨1, 0⟩

/-- `plainWorld` with turns by eighths. -/
def eighthWorld : Surroundings Rat :=
  { plainWorld with trigonometry := ⟨180, fun degrees => .ok (eighthTurn degrees), max⟩ }

/-- The primitives of a source as it is laid out in its natural size. -/
def drawnPrimitives (m : MarkupTree) : Except (DiagramError Rat) (List (Primitive Rat)) := do
  let t ← preparedTree m
  let l ← (layout (rowOptions.layoutSettings eighthWorld) t none).mapError .layout
  (Primitive.ofTree l.tree).mapError .drawing

theorem drawnPrimitives_ok {m : MarkupTree} {ps : List (Primitive Rat)}
    (h : drawnPrimitives m = .ok ps) :
    ∃ t l, preparedTree m = .ok t ∧ layout (rowOptions.layoutSettings eighthWorld) t none = .ok l ∧
      Primitive.ofTree l.tree = .ok ps := by
  simp only [drawnPrimitives, Except.bind_eq_ok, Except.mapError_eq_ok] at h
  obtain ⟨t, ht, l, hl, hps⟩ := h
  exact ⟨t, l, ht, hl, hps⟩

end GridDiagram
