import GridDiagram.Proofs.Template.Replace

/-!
What a use makes of a template: a well-formed tree that refers to the same templates, in which only
the root can have left its vocabulary.
-/

namespace GridDiagram

variable {α : Type}

/-- The name of the template that an element refers to. -/
def Element.reference? (e : Element α) : Option String :=
  e.attributes.get? .ref

/-- The names that the uses of a tree refer to, in order. -/
def DiagramTree.references (t : DiagramTree α) : List String :=
  t.uses.filterMap Element.reference?

theorem DiagramTree.mem_references {t : DiagramTree α} {n : String} :
    n ∈ t.references ↔ ∃ u ∈ t.uses, u.reference? = some n := by
  simp only [references, List.mem_filterMap]

namespace Element

@[simp] theorem overriddenBy_tag (e u : Element α) : (e.overriddenBy u).tag = e.tag := by
  simp only [overriddenBy]
  split
  · rfl
  · split <;> rfl

@[simp] theorem overriddenBy_kind (e u : Element α) : (e.overriddenBy u).kind = e.kind := by
  simp only [kind, overriddenBy_tag]

@[simp] theorem overriddenBy_id (e u : Element α) : (e.overriddenBy u).id = u.id := by
  simp only [overriddenBy]
  split
  · rfl
  · split <;> rfl

@[simp] theorem overriddenBy_lines (e u : Element α) : (e.overriddenBy u).lines = e.lines := by
  simp only [overriddenBy]
  split
  · rfl
  · split <;> rfl

@[simp] theorem overriddenBy_style (e u : Element α) : (e.overriddenBy u).style = e.style := by
  simp only [overriddenBy]
  split
  · rfl
  · split <;> rfl

/-- The merged attributes, from which a placement on the use takes the place. -/
theorem overriddenBy_attributes (e u : Element α) :
    (e.overriddenBy u).attributes =
      if u.placed then (e.attributes.merge (u.attributes.only (· != .ref))).erase .place
      else e.attributes.merge (u.attributes.only (· != .ref)) := by
  simp only [overriddenBy]
  split
  · rfl
  · split <;> rfl

theorem overriddenBy_get?_isSome {e u : Element α} {a : Attribute} (ha : a ≠ .place)
    (h : (e.attributes.get? a).isSome) : ((e.overriddenBy u).attributes.get? a).isSome := by
  rw [overriddenBy_attributes]
  have hmerge : ((e.attributes.merge (u.attributes.only (· != .ref))).get? a).isSome :=
    Properties.get?_merge_isSome h
  split
  · rwa [Properties.get?_erase_of_ne ha]
  · exact hmerge

@[simp] theorem overriddenBy_reference? (e u : Element α) :
    (e.overriddenBy u).reference? = e.reference? := by
  have hmerge : (e.attributes.merge (u.attributes.only (· != .ref))).get? .ref =
      e.attributes.get? .ref :=
    Properties.get?_merge_of_none (Properties.get?_only_of_not rfl)
  rw [reference?, overriddenBy_attributes]
  split
  · rw [Properties.get?_erase_of_ne (by decide), hmerge, reference?]
  · rw [hmerge, reference?]

/-- A property of the instance comes from the template or from the use. -/
theorem mem_overriddenBy_attributes {e u : Element α} {p : Property α}
    (h : p ∈ (e.overriddenBy u).attributes) :
    p ∈ e.attributes ∨ (p ∈ u.attributes ∧ p.1 ≠ .ref) := by
  have merged (h : p ∈ e.attributes.merge (u.attributes.only (· != .ref))) :
      p ∈ e.attributes ∨ (p ∈ u.attributes ∧ p.1 ≠ .ref) :=
    (Properties.mem_merge h).imp_right fun h => by simpa [Properties.mem_only] using h
  rw [overriddenBy_attributes] at h
  split at h
  · exact merged (Properties.mem_erase.mp h).1
  · exact merged h

/-- An instance has either a placement or a place, as the use says if it says anything. -/
theorem overriddenBy_place {e u : Element α}
    (h : e.placed = true → e.attributes.get? .place = none) :
    (e.overriddenBy u).placed = true → (e.overriddenBy u).attributes.get? .place = none := by
  intro hplaced
  rw [overriddenBy_attributes]
  split
  · exact Properties.get?_erase_self
  · rename_i hu
    have hplace : u.attributes.get? .place = none := by
      by_contra hsome
      simp [overriddenBy, hu, Option.isSome_iff_ne_none, hsome] at hplaced
    have he : e.placed = true := by
      simpa [overriddenBy, hu, hplace] using hplaced
    refine Properties.get?_merge_eq_none (h he) ?_
    rwa [Properties.get?_only rfl]

theorem overriddenBy_placement {e u : Element α} (axis : Axis)
    (he : (e.placement.on axis).Valid) (hu : (u.placement.on axis).Valid) :
    ((e.overriddenBy u).placement.on axis).Valid := by
  simp only [overriddenBy]
  split
  · exact hu
  · split
    · exact Placement.first_valid axis
    · exact he

theorem WellFormed.overriddenBy [Scalar α] {e u : Element α} (he : e.WellFormed)
    (hu : u.WellFormed) : (e.overriddenBy u).WellFormed where
  ranged := fun p hp =>
    (mem_overriddenBy_attributes hp).elim (he.ranged p) fun h => hu.ranged p h.1
  placement := fun axis => overriddenBy_placement axis (he.placement axis) (hu.placement axis)
  place := overriddenBy_place he.place
  lines := by simpa using he.lines
  coords := fun hkind =>
    overriddenBy_get?_isSome (by decide) (he.coords (by simpa using hkind))
  reference := fun hkind =>
    overriddenBy_get?_isSome (by decide) (he.reference (by simpa using hkind))
  style := by simpa using he.style

/-- A use whose template is itself a use makes a use, which may carry what both carry. -/
theorem InVocabulary.overriddenBy_of_use {e u : Element α} (he : e.InVocabulary)
    (hu : u.InVocabulary) (hkind : e.kind = .use) (hukind : u.kind = .use) :
    (e.overriddenBy u).InVocabulary := by
  have tag_eq {e : Element α} (h : e.kind = .use) : e.tag = .use := by
    cases htag : e.tag <;> simp_all [kind, Tag.kind]
  intro p hp
  obtain hp | ⟨hp, -⟩ := mem_overriddenBy_attributes hp
  · simpa using he p hp
  · simpa [tag_eq hkind, tag_eq hukind] using hu p hp

theorem WellFormed.qualify [Scalar α] {e : Element α} (he : e.WellFormed) (id : String) :
    (e.qualify id).WellFormed :=
  ⟨he.ranged, he.placement, he.place, he.lines, he.coords, he.reference, he.style⟩

end Element

namespace DiagramTree

/-! ### The elements below the root -/

theorem WellFormed.map_qualify [Scalar α] {t : DiagramTree α} (h : t.WellFormed) (id : String) :
    WellFormed (t.map (Element.qualify id)) := by
  induction t using Tree.induct with
  | step e ts ih =>
    obtain ⟨⟨he, hleaf⟩, hts⟩ := wellFormed_node.mp h
    rw [Tree.map_node, Tree.mapAll_eq_map]
    refine wellFormed_node.mpr ⟨⟨he.qualify id, fun hgroup hrule => ?_⟩, fun t ht => ?_⟩
    · rw [hleaf hgroup hrule, List.map_nil]
    · obtain ⟨s, hs, rfl⟩ := List.mem_map.mp ht
      exact ih s hs (hts s hs)

theorem InVocabulary.map_qualify {t : DiagramTree α} (h : t.InVocabulary) (id : String) :
    InVocabulary (t.map (Element.qualify id)) := by
  intro e he
  rw [Tree.preorder_map] at he
  obtain ⟨d, hd, rfl⟩ := List.mem_map.mp he
  exact h d hd

theorem Undeclaring.map_qualify {t : DiagramTree α} (h : t.Undeclaring) (id : String) :
    Undeclaring (t.map (Element.qualify id)) := by
  intro e he
  rw [Tree.preorder_map] at he
  obtain ⟨d, hd, rfl⟩ := List.mem_map.mp he
  exact h d hd

theorem references_map_qualify (t : DiagramTree α) (id : String) :
    references (t.map (Element.qualify id)) = t.references := by
  simp only [references, uses, Tree.preorder_map, List.filter_map, List.filterMap_map]
  rfl

/-! ### The instance -/

/-- The children of an instance are those of the template, or those qualified. -/
theorem instantiatedBy_eq (e : Element α) (ts : List (DiagramTree α)) (u : Element α) :
    instantiatedBy (.node e ts) u = .node (e.overriddenBy u)
      (match u.id with
        | some id => ts.map (Tree.map (Element.qualify id))
        | none => ts) := by
  cases hid : u.id <;> simp only [instantiatedBy, hid, Tree.mapAll_eq_map]

/-- What holds of every child of a template, whatever the ids are, holds of every child of an
instance. -/
theorem forall_children_instantiatedBy {P : DiagramTree α → Prop} {e u : Element α}
    {ts : List (DiagramTree α)} (h : ∀ s ∈ ts, P s)
    (hmap : ∀ s id, P s → P (s.map (Element.qualify id))) :
    ∀ s ∈ (instantiatedBy (.node e ts) u).children, P s := by
  rw [instantiatedBy_eq]
  intro s hs
  cases hid : u.id with
  | none => exact h s (by simpa [hid] using hs)
  | some id =>
    simp only [hid, Tree.children_node, List.mem_map] at hs
    obtain ⟨s', hs', rfl⟩ := hs
    exact hmap s' id (h s' hs')

theorem WellFormed.instantiatedBy [Scalar α] {t : DiagramTree α} {u : Element α}
    (ht : t.WellFormed) (hu : u.WellFormed) : (t.instantiatedBy u).WellFormed := by
  obtain ⟨e, ts⟩ := t
  obtain ⟨⟨he, hleaf⟩, hts⟩ := wellFormed_node.mp ht
  have hchildren := forall_children_instantiatedBy (e := e) (u := u) hts fun s id h =>
    h.map_qualify id
  rw [instantiatedBy_eq] at hchildren ⊢
  refine wellFormed_node.mpr ⟨⟨he.overriddenBy hu, fun hgroup hrule => ?_⟩, hchildren⟩
  obtain rfl := hleaf (by simpa using hgroup) (by simpa using hrule)
  split <;> rfl

theorem Undeclaring.instantiatedBy {t : DiagramTree α} (ht : t.Undeclaring) (u : Element α) :
    (t.instantiatedBy u).Undeclaring := by
  obtain ⟨e, ts⟩ := t
  obtain ⟨he, hts⟩ := undeclaring_node.mp ht
  have hchildren := forall_children_instantiatedBy (e := e) (u := u) hts fun s id h =>
    h.map_qualify id
  rw [instantiatedBy_eq] at hchildren ⊢
  refine undeclaring_node.mpr ⟨?_, hchildren⟩
  simpa using he

theorem InVocabulary.instantiatedBy_children {t : DiagramTree α} (ht : t.InVocabulary)
    (u : Element α) : ∀ s ∈ (t.instantiatedBy u).children, InVocabulary s := by
  obtain ⟨e, ts⟩ := t
  exact forall_children_instantiatedBy (inVocabulary_node.mp ht).2 fun s id h => h.map_qualify id

/-- The uses in an instance keep to their vocabulary, also the root if it is one. -/
theorem InVocabulary.of_mem_uses_instantiatedBy {t : DiagramTree α} {u v : Element α}
    (ht : t.InVocabulary) (hu : u.InVocabulary) (hkind : u.kind = .use)
    (hv : v ∈ (t.instantiatedBy u).uses) : v.InVocabulary := by
  have hchildren := ht.instantiatedBy_children u
  obtain ⟨e, ts⟩ := t
  rw [instantiatedBy_eq] at hv hchildren
  obtain ⟨rfl, he⟩ | ⟨s, hs, hv⟩ := mem_uses_node.mp hv
  · rw [Element.overriddenBy_kind] at he
    exact (inVocabulary_node.mp ht).1.overriddenBy_of_use hu he hkind
  · exact hchildren s hs v (mem_uses.mp hv).1

theorem mem_references_node {e : Element α} {ts : List (DiagramTree α)} {n : String} :
    n ∈ references (.node e ts) ↔
      (e.kind = .use ∧ e.reference? = some n) ∨ ∃ t ∈ ts, n ∈ t.references := by
  simp only [mem_references, mem_uses_node]
  grind

theorem mem_references_instantiatedBy {t : DiagramTree α} {u : Element α} {n : String} :
    n ∈ (t.instantiatedBy u).references ↔ n ∈ t.references := by
  obtain ⟨e, ts⟩ := t
  rw [instantiatedBy_eq, mem_references_node, mem_references_node]
  simp only [Element.overriddenBy_kind, Element.overriddenBy_reference?]
  refine or_congr_right ?_
  split
  · simp [references_map_qualify]
  · rfl

end DiagramTree

end GridDiagram
