import GridDiagram.Proofs.Template.Expansion

/-!
What comes of an expansion: a part of a diagram in which no use is left, and whose elements have
what those of the tree and of the templates have, if instances keep it.
-/

namespace GridDiagram

variable {α : Type} [Scalar α]

/-- A plain tree without uses, as every stage behind the expansion is given one. -/
structure DiagramTree.Expanded (t : DiagramTree α) : Prop extends t.Plain where
  useless : ∀ e ∈ t.preorder, e.kind ≠ .use

/-- The templates of all scopes of a registry are plain. -/
def Registry.Plain (r : Registry α) : Prop :=
  ∀ scope ∈ r, ∀ p ∈ scope.templates, p.2.Plain

namespace DiagramTree

theorem plain_node {e : Element α} {ts : List (DiagramTree α)} :
    Plain (.node e ts) ↔
      (e.WellFormed ∧ e.InVocabulary ∧ (e.kind ≠ .style ∧ e.kind ≠ .rule) ∧
        (e.kind ≠ .group → ts = [])) ∧ ∀ t ∈ ts, Plain t := by
  constructor
  · rintro ⟨hwell, hvocabulary, hundeclaring⟩
    obtain ⟨⟨he, hleaf⟩, hwell⟩ := wellFormed_node.mp hwell
    obtain ⟨hv, hvocabulary⟩ := inVocabulary_node.mp hvocabulary
    obtain ⟨hkind, hundeclaring⟩ := undeclaring_node.mp hundeclaring
    exact ⟨⟨he, hv, hkind, fun hgroup => hleaf hgroup hkind.2⟩, fun t ht =>
      ⟨hwell t ht, hvocabulary t ht, hundeclaring t ht⟩⟩
  · rintro ⟨⟨he, hv, hkind, hleaf⟩, hts⟩
    exact ⟨wellFormed_node.mpr ⟨⟨he, fun hgroup _ => hleaf hgroup⟩, fun t ht => (hts t ht).1⟩,
      inVocabulary_node.mpr ⟨hv, fun t ht => (hts t ht).2⟩,
      undeclaring_node.mpr ⟨hkind, fun t ht => (hts t ht).3⟩⟩

theorem expanded_node {e : Element α} {ts : List (DiagramTree α)} :
    Expanded (.node e ts) ↔
      (e.WellFormed ∧ e.InVocabulary ∧ (e.kind ≠ .style ∧ e.kind ≠ .rule ∧ e.kind ≠ .use) ∧
        (e.kind ≠ .group → ts = [])) ∧ ∀ t ∈ ts, Expanded t := by
  constructor
  · rintro ⟨hplain, huseless⟩
    obtain ⟨⟨he, hv, ⟨hstyle, hrule⟩, hleaf⟩, hplain⟩ := plain_node.mp hplain
    obtain ⟨huse, huseless⟩ := Tree.forall_preorder_node.mp huseless
    exact ⟨⟨he, hv, ⟨hstyle, hrule, huse⟩, hleaf⟩, fun t ht => ⟨hplain t ht, huseless t ht⟩⟩
  · rintro ⟨⟨he, hv, ⟨hstyle, hrule, huse⟩, hleaf⟩, hts⟩
    exact ⟨plain_node.mpr ⟨⟨he, hv, ⟨hstyle, hrule⟩, hleaf⟩, fun t ht => (hts t ht).toPlain⟩,
      Tree.forall_preorder_node.mpr ⟨huse, fun t ht => (hts t ht).useless⟩⟩

/-- A plain tree is expanded once every use in it is replaced by an expanded tree. -/
theorem Plain.replaceUses {t x : DiagramTree α}
    {f : Element α → Except TemplateError (DiagramTree α)} (ht : t.Plain)
    (h : t.replaceUses f = .ok x) (huse : ∀ u ∈ t.uses, ∀ y, f u = .ok y → y.Expanded) :
    x.Expanded := by
  refine replaceUses_forall h huse fun s hs hkind ts' hlength hts' => ?_
  have hmem : s.value ∈ t.preorder := by
    rw [Tree.preorder_eq_map_subtrees]
    exact List.mem_map_of_mem hs
  obtain ⟨hwell, hleaf⟩ := ht.wellFormed s hs
  obtain ⟨hstyle, hrule⟩ := ht.undeclaring s.value hmem
  refine expanded_node.mpr ⟨⟨hwell, ht.inVocabulary s.value hmem, ⟨hstyle, hrule, hkind⟩,
    fun hgroup => ?_⟩, hts'⟩
  rw [hleaf hgroup hrule, List.length_nil] at hlength
  exact List.length_eq_zero_iff.mp hlength

end DiagramTree

namespace Registry

variable {r : Registry α}

theorem Plain.wellFormed (hr : r.Plain) : r.WellFormed :=
  fun scope hscope p hp => ⟨(hr scope hscope p hp).1, (hr scope hscope p hp).2⟩

theorem Plain.lookup (hr : r.Plain) {n : String} {s : DiagramTree α} (h : r.lookup n = some s) :
    s.Plain := by
  obtain ⟨scope, hscope, h⟩ := mem_of_lookup_eq_some h
  exact hr scope hscope _ h

/-- Every instance is expanded: its root has passed the check of the merged attributes, and the uses
inside it have made instances themselves. -/
theorem Plain.instantiate (hr : r.Plain) {depth : Nat} {chain : List String} {u : Element α}
    {x : DiagramTree α} (hu : SoundUse u) (h : r.instantiate depth chain u = .ok x) :
    x.Expanded := by
  induction depth generalizing chain u x with
  | zero =>
    obtain ⟨_, _, _, -, -, hdepth, -⟩ := instantiate_ok h
    simp at hdepth
  | succ depth ih =>
    obtain ⟨n, d, s, hn, -, hdepth, hs, hx, hroot⟩ := instantiate_ok h
    obtain rfl := Nat.succ.inj hdepth
    obtain ⟨hwell, hvocabulary, hundeclaring⟩ := hr.lookup hs
    have hi : (s.instantiatedBy u).value.InVocabulary :=
      (inVocabulary_of_replaceUses hx (hu.root_inVocabulary hwell hvocabulary)).mp hroot
    have hplain : (s.instantiatedBy u).Plain := by
      refine ⟨hwell.instantiatedBy hu.wellFormed, ?_, hundeclaring.instantiatedBy u⟩
      have hchildren := hvocabulary.instantiatedBy_children u
      revert hi hchildren
      obtain ⟨e, ts⟩ := s.instantiatedBy u
      exact fun hi hchildren => DiagramTree.inVocabulary_node.mpr ⟨hi, hchildren⟩
    exact hplain.replaceUses hx fun v hv y hy =>
      ih (hu.of_mem_uses_instantiatedBy hwell hvocabulary hv) hy

theorem Plain.expand (hr : r.Plain) {t x : DiagramTree α} (ht : t.Plain)
    (h : r.expand t = .ok x) : x.Expanded :=
  ht.replaceUses h fun _ hu _ hy =>
    hr.instantiate (.of_mem_uses ht.wellFormed ht.inVocabulary hu) hy

end Registry

/-! ### What every element has -/

section

omit [Scalar α]

/-- The elements of an instance have `P` where those of its template and its use do. -/
structure Element.Inherited (P : Element α → Prop) : Prop where
  overriddenBy : ∀ e u, P e → P u → P (e.overriddenBy u)
  qualify : ∀ e u id, P e → P u → u.id = some id → P (e.qualify id)

/-- All elements of the templates of a registry have `P`. -/
def Registry.All (P : Element α → Prop) (r : Registry α) : Prop :=
  ∀ scope ∈ r, ∀ p ∈ scope.templates, ∀ e ∈ p.2.preorder, P e

variable {P : Element α → Prop}

theorem DiagramTree.forall_instantiatedBy (hP : Element.Inherited P) {t : DiagramTree α}
    {u : Element α} (ht : ∀ e ∈ t.preorder, P e) (hu : P u) :
    ∀ e ∈ (t.instantiatedBy u).preorder, P e := by
  obtain ⟨e, ts⟩ := t
  obtain ⟨he, hts⟩ := Tree.forall_preorder_node.mp ht
  rw [instantiatedBy_eq]
  refine Tree.forall_preorder_node.mpr ⟨hP.overriddenBy e u he hu, fun t ht => ?_⟩
  cases hid : u.id with
  | none => exact hts t (by simpa [hid] using ht)
  | some id =>
    simp only [hid, List.mem_map] at ht
    obtain ⟨s, hs, rfl⟩ := ht
    rw [Tree.preorder_map, List.forall_mem_map]
    exact fun e he => hP.qualify e u id (hts s hs e he) hu hid

theorem DiagramTree.forall_replaceUses {t x : DiagramTree α}
    {f : Element α → Except TemplateError (DiagramTree α)} (h : t.replaceUses f = .ok x)
    (ht : ∀ e ∈ t.preorder, P e)
    (huse : ∀ u ∈ t.uses, ∀ y, f u = .ok y → ∀ e ∈ y.preorder, P e) : ∀ e ∈ x.preorder, P e := by
  refine replaceUses_forall h huse fun s hs _ ts' _ hts' => ?_
  have hvalue : s.value ∈ t.preorder := by
    rw [Tree.preorder_eq_map_subtrees]
    exact List.mem_map_of_mem hs
  exact Tree.forall_preorder_node.mpr ⟨ht _ hvalue, hts'⟩

namespace Registry

variable {r : Registry α}

theorem All.instantiate (hP : Element.Inherited P) (hr : r.All P) {depth : Nat}
    {chain : List String} {u : Element α} {x : DiagramTree α} (hu : P u)
    (h : r.instantiate depth chain u = .ok x) : ∀ e ∈ x.preorder, P e := by
  induction depth generalizing chain u x with
  | zero =>
    obtain ⟨_, _, _, -, -, hdepth, -⟩ := instantiate_ok h
    simp at hdepth
  | succ depth ih =>
    obtain ⟨n, d, s, -, -, hdepth, hs, hx, -⟩ := instantiate_ok h
    obtain rfl := Nat.succ.inj hdepth
    obtain ⟨scope, hscope, hmem⟩ := mem_of_lookup_eq_some hs
    have hinstance := DiagramTree.forall_instantiatedBy hP (hr scope hscope _ hmem) hu
    exact DiagramTree.forall_replaceUses hx hinstance fun v hv y hy =>
      ih (hinstance v (DiagramTree.mem_uses.mp hv).1) hy

theorem All.expand (hP : Element.Inherited P) (hr : r.All P) {t x : DiagramTree α}
    (ht : ∀ e ∈ t.preorder, P e) (h : r.expand t = .ok x) : ∀ e ∈ x.preorder, P e :=
  DiagramTree.forall_replaceUses h ht fun u hu _ hy =>
    hr.instantiate hP (ht u (DiagramTree.mem_uses.mp hu).1) hy

end Registry

end

end GridDiagram
