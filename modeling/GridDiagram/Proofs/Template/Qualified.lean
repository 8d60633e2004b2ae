import GridDiagram.Proofs.Template.Expansion
import GridDiagram.Proofs.Template.Identifier

/-!
The ids inside an instance. Where the uses inside templates have ids, those inside an instance are
qualified by that of its use, through all instances inside it. A use without an id, however, leaves
the ids of its template as they are, also where it stands inside an instance that has one.
-/

namespace GridDiagram

variable {α : Type}

namespace Registry

variable {r : Registry α} {t x y : DiagramTree α} {u : Element α} {i j : String}

/-- Below the root of every template that a tree reaches every use has an id. -/
def NamesUses (r : Registry α) (t : DiagramTree α) : Prop :=
  ∀ n s, r.Reaches t n → r.lookup n = some s → s.NamesUses

/-- An instance is that of a root which is itself a use, or has the id of its use and below it what
comes of the rest of the template. -/
theorem instantiate_cases {depth : Nat} {chain : List String}
    (h : r.instantiate depth chain u = .ok y) :
    ∃ n d s, u.reference? = some n ∧ depth = d + 1 ∧ r.lookup n = some s ∧
      ((∃ v ∈ (s.instantiatedBy u).uses, v.id = u.id ∧
          r.instantiate d (chain ++ [n]) v = .ok y) ∨
        (y.value.id = u.id ∧
          List.Forall₂
            (fun c c' => DiagramTree.replaceUses (r.instantiate d (chain ++ [n])) c = .ok c')
            (s.instantiatedBy u).children y.children)) := by
  obtain ⟨n, d, s, hn, -, hdepth, hs, hy, -⟩ := instantiate_ok h
  refine ⟨n, d, s, hn, hdepth, hs, ?_⟩
  have hid : (s.instantiatedBy u).value.id = u.id := DiagramTree.instantiatedBy_id s u
  generalize s.instantiatedBy u = i at hy hid ⊢
  obtain ⟨e, ts⟩ := i
  rw [Tree.value_node] at hid
  by_cases he : e.kind = .use
  · rw [DiagramTree.replaceUses_of_use he] at hy
    exact .inl ⟨e, DiagramTree.mem_uses_node.mpr (.inl ⟨rfl, he⟩), hid, hy⟩
  · simp only [DiagramTree.replaceUses_of_ne he, Except.bind_eq_ok, Except.mapM_eq_ok,
      Except.pure_eq_ok] at hy
    obtain ⟨ts', hall, rfl⟩ := hy
    exact .inr ⟨hid, hall⟩

/-- All ids of an instance are within that of its use. Below the root stand the ids of the template
behind that of the use, and in the place of a use inside it an instance, which by induction has only
ids within that of this use. -/
theorem NamesUses.qualifiedBy (hr : r.NamesUses t) {depth : Nat} {chain : List String}
    (haround : r.Around t depth chain u) (hid : u.id = some i)
    (h : r.instantiate depth chain u = .ok y) : y.QualifiedBy i := by
  induction depth using Nat.strong_induction_on generalizing chain u y i with
  | _ depth ih =>
    obtain ⟨n, d, s, hn, rfl, hs, ⟨v, hv, hvid, hy⟩ | ⟨hroot, hchildren⟩⟩ := instantiate_cases h
    · exact ih d d.lt_succ_self (haround.inside hn hs hv) (hvid.trans hid) hy
    · have hnames := (hr n s (haround.nested n hn).reaches hs).instantiatedBy u
      have hcovers : Covers (s.instantiatedBy u).innerIds y.innerIds := by
        refine .flatMap (hchildren.imp_of_mem fun c hc c' hc' => ?_)
        refine DiagramTree.replaceUses_covers hc' fun v hv z hz => ?_
        obtain ⟨j, hj⟩ := Option.isSome_iff_exists.mp (hnames c hc v hv)
        have hmem := DiagramTree.mem_uses_of_mem_children hc hv
        rw [hj]
        exact (ih d d.lt_succ_self (haround.inside hn hs hmem) hj hz).covers
      refine ⟨hroot.trans hid, fun k hk => ?_⟩
      obtain ⟨j, hj, hjk⟩ := hcovers k hk
      rw [DiagramTree.innerIds_instantiatedBy hid] at hj
      obtain ⟨j, -, rfl⟩ := List.mem_map.mp hj
      exact (qualifies_append i j).within hjk

/-- In the expansion of a tree the use `u`, in the tree or inside an instance, makes way for `y`. -/
def Replaces (r : Registry α) (t : DiagramTree α) (u : Element α) (y : DiagramTree α) : Prop :=
  ∃ depth chain, r.Around t depth chain u ∧ r.instantiate depth chain u = .ok y

/-- What replaces a use stands in the expansion. -/
theorem Instantiated.replaces [Scalar α] (hr : r.WellFormed) (ht : t.WellFormed)
    (hv : t.InVocabulary) (h : r.expand t = .ok x) (hu : r.Instantiated t u) :
    ∃ y ∈ x.subtrees, r.Replaces t u y := by
  induction hu with
  | direct hu =>
    obtain ⟨y, hy⟩ := DiagramTree.replaceUses_ok ht h _ hu
    exact ⟨y, DiagramTree.replaceUses_mem_subtrees ht h hu hy, _, _, .direct hu, hy⟩
  | @nested u v n s hu hn hs hmem ih =>
    obtain ⟨z, hz, depth, chain, haround, hok⟩ := ih
    obtain ⟨n', d, s', hn', -, rfl, hs', hx, -⟩ := instantiate_ok hok
    obtain rfl := Option.some.inj (hn.symm.trans hn')
    obtain rfl := Option.some.inj (hs.symm.trans hs')
    have hinstance := (hr.lookup hs).1.instantiatedBy (hu.soundUse hr ht hv).wellFormed
    obtain ⟨y, hy⟩ := DiagramTree.replaceUses_ok hinstance hx v hmem
    refine ⟨y, Tree.subtrees_trans hz ?_, d, _, haround.inside hn hs hmem, hy⟩
    exact DiagramTree.replaceUses_mem_subtrees hinstance hx hmem hy

/-- With an id on every use below the roots of its templates, an expansion replaces every use that
has an id by an instance whose ids, at any depth, are qualified by that id, and two uses with ids
that are apart by instances that have no id in common. -/
theorem instances_qualified [Scalar α] (hr : r.WellFormed) (ht : t.WellFormed)
    (hv : t.InVocabulary) (hnames : r.NamesUses t) (h : r.expand t = .ok x) :
    (∀ u, r.Instantiated t u → ∃ y ∈ x.subtrees, r.Replaces t u y) ∧
      (∀ (u : Element α) (y : DiagramTree α) (i : String), r.Replaces t u y → u.id = some i →
        y.QualifiedBy i) ∧
      ∀ u y i u' y' i', r.Replaces t u y → u.id = some i → r.Replaces t u' y' →
        u'.id = some i' → Apart i i' → y.ids.Disjoint y'.ids := by
  have hqualified (u : Element α) (y : DiagramTree α) (i : String) (hy : r.Replaces t u y)
      (hid : u.id = some i) : y.QualifiedBy i := by
    obtain ⟨depth, chain, haround, hy⟩ := hy
    exact hnames.qualifiedBy haround hid hy
  refine ⟨fun u hu => hu.replaces hr ht hv h, hqualified, ?_⟩
  intro u y i u' y' i' hy hid hy' hid' hapart
  refine (hqualified u y i hy hid).covers.disjoint (hqualified u' y' i' hy' hid').covers ?_
  simpa using hapart

end Registry

/-- A template `badge` with a marked rectangle, and a template `panel` that uses it, with or without
an id. -/
def badgeTemplates (inner : Option String) : Registry Rat :=
  let badge := .node { tag := .group, id := some "badge" }
    [.node { tag := .rect, id := some "mark" } []]
  let panel := .node { tag := .group, id := some "panel" }
    [.node { tag := .use, id := inner, attributes := [⟨.ref, "badge"⟩] } []]
  [{ templates := [("badge", badge), ("panel", panel)] }]

def panelUse (id : String) : Element Rat :=
  { tag := .use, id := some id, attributes := [⟨.ref, "panel"⟩] }

/-- Two panels side by side. -/
def panelPair : DiagramTree Rat :=
  .node { tag := .layout } [.node (panelUse "left") [], .node (panelUse "right") []]

theorem panelUse_mem_uses {id : String} (h : id = "left" ∨ id = "right") :
    panelUse id ∈ panelPair.uses := by
  obtain rfl | rfl := h <;>
    simp [panelPair, panelUse, DiagramTree.uses, Tree.preorderAll, Element.kind, Tag.kind]

theorem badgeTemplates_qualified :
    (badgeTemplates (some "inner")).WellFormed ∧ panelPair.WellFormed ∧ panelPair.InVocabulary ∧
      (badgeTemplates (some "inner")).NamesUses panelPair ∧
      ∃ x, (badgeTemplates (some "inner")).expand panelPair = .ok x ∧
        ∃ y ∈ x.subtrees, (badgeTemplates (some "inner")).Replaces panelPair (panelUse "left") y ∧
          DiagramTree.QualifiedBy y "left" := by
  have hr : (badgeTemplates (some "inner")).Read := by
    intro scope hscope p hp
    obtain rfl := List.mem_singleton.mp hscope
    obtain rfl | rfl : p = _ ∨ p = _ := by simpa using hp
    · exact ⟨.node { tag := "group", id := some "badge" }
        [.node { tag := "rect", id := some "mark" } []], rfl⟩
    · exact ⟨.node { tag := "group", id := some "panel" }
        [.node { tag := "use", id := some "inner", attributes := [("ref", "badge")] } []], rfl⟩
  have ht : panelPair.Read :=
    .inl ⟨.node { tag := "layout" }
      [.node { tag := "use", id := some "left", attributes := [("ref", "panel")] } [],
        .node { tag := "use", id := some "right", attributes := [("ref", "panel")] } []], rfl⟩
  have hnames : (badgeTemplates (some "inner")).NamesUses panelPair := by
    intro n s _ hs
    obtain ⟨scope, hscope, hmem⟩ := Registry.mem_of_lookup_eq_some hs
    obtain rfl := List.mem_singleton.mp hscope
    obtain ⟨rfl, rfl⟩ | ⟨rfl, rfl⟩ : (n = _ ∧ s = _) ∨ (n = _ ∧ s = _) := by simpa using hmem
    · simp [DiagramTree.NamesUses, DiagramTree.uses, Tree.preorderAll, Element.kind, Tag.kind]
    · simp [DiagramTree.NamesUses, DiagramTree.uses, Tree.preorderAll, Element.kind, Tag.kind]
  obtain ⟨hwell, hvocabulary⟩ := ht.wellFormed
  obtain ⟨x, hx⟩ : ∃ x, (badgeTemplates (some "inner")).expand panelPair = .ok x := ⟨_, rfl⟩
  obtain ⟨hreplaced, hqualified, -⟩ :=
    Registry.instances_qualified hr.wellFormed hwell hvocabulary hnames hx
  obtain ⟨y, hmem, hy⟩ := hreplaced _ (.direct (panelUse_mem_uses (.inl rfl)))
  exact ⟨hr.wellFormed, hwell, hvocabulary, hnames, x, hx, y, hmem, hy, hqualified _ y _ hy rfl⟩

/-- The instance of `panel` where the use in it has no id. -/
def panelInstance (id : String) : DiagramTree Rat :=
  .node { tag := .group, id := some id }
    [.node { tag := .group } [.node { tag := .rect, id := some "mark" } []]]

/-- A use without an id leaves the ids of its template as they are, inside instances with ids that
are apart. -/
theorem badgeTemplates_unqualified :
    ∃ x, (badgeTemplates none).expand panelPair = .ok x ∧
      panelInstance "left" ∈ x.subtrees ∧ panelInstance "right" ∈ x.subtrees ∧
      (badgeTemplates none).Replaces panelPair (panelUse "left") (panelInstance "left") ∧
      (badgeTemplates none).Replaces panelPair (panelUse "right") (panelInstance "right") ∧
      Apart "left" "right" ∧ "mark" ∈ (panelInstance "left").innerIds ∧ ¬Qualifies "left" "mark" ∧
      ¬(panelInstance "left").ids.Disjoint (panelInstance "right").ids ∧
      checkUniqueIds x = .error (.duplicateId "mark" "rect#mark") := by
  have hinner (id : String) : "mark" ∈ (panelInstance id).innerIds := by
    simp [panelInstance, DiagramTree.innerIds, DiagramTree.ids_node]
  have hids (id : String) : "mark" ∈ (panelInstance id).ids := by
    rw [DiagramTree.ids_eq]
    exact List.mem_append_right _ (hinner id)
  refine ⟨.node { tag := .layout } [panelInstance "left", panelInstance "right"], rfl, ?_, ?_, ?_,
    ?_, ?_, hinner "left", ?_, ?_, rfl⟩
  · simp [panelInstance]
  · simp [panelInstance]
  · exact ⟨_, [], .direct (panelUse_mem_uses (.inl rfl)), rfl⟩
  · exact ⟨_, [], .direct (panelUse_mem_uses (.inr rfl)), rfl⟩
  · exact .of_undotted (by decide) (by decide) (by decide)
  · simp [Qualifies]
  · exact fun h => h (hids "left") (hids "right")

end GridDiagram
