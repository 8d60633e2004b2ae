import GridDiagram.Document
import GridDiagram.Proofs.Attribute.Range
import GridDiagram.Proofs.Tree

/-!
Well-formed elements and trees: what every stage behind the reading of a document relies on. All
that is read from markup is well-formed, and a style or a rule stands inside rules only.
-/

namespace GridDiagram

variable {α : Type} [Scalar α]

/-- A span starts at the first line or behind it, and ends behind its start. -/
def Span.Valid (s : Span) : Prop :=
  1 ≤ s.start ∧ s.start < s.stop

omit [Scalar α] in
/-- Every attribute of an element lies in the vocabulary of its tag. -/
def Element.InVocabulary (e : Element α) : Prop :=
  ∀ p ∈ e.attributes, e.tag.allows p.1 = true

/-- An element has what its kind needs, and its attributes and its placement make sense. -/
structure Element.WellFormed (e : Element α) : Prop where
  ranged : e.attributes.All Attribute.Ranged
  placement : ∀ axis, (e.placement.on axis).Valid
  place : e.placed = true → e.attributes.get? .place = none
  lines : e.kind ≠ .text → e.lines = []
  coords : e.kind = .path → (e.attributes.get? .coords).isSome
  reference : e.kind = .use → (e.attributes.get? .ref).isSome
  style : e.style = []

namespace DiagramTree

/-- Every element of a tree is well-formed, and only groups and rules have anything inside them. -/
def WellFormed (t : DiagramTree α) : Prop :=
  ∀ s ∈ t.subtrees, s.value.WellFormed ∧
    (s.value.kind ≠ .group → s.value.kind ≠ .rule → s.children = [])

omit [Scalar α] in
/-- Every element of a tree keeps to the vocabulary of its tag. -/
def InVocabulary (t : DiagramTree α) : Prop :=
  ∀ e ∈ t.preorder, e.InVocabulary

omit [Scalar α] in
/-- A tree holds no style and no rule. -/
def Undeclaring (t : DiagramTree α) : Prop :=
  ∀ e ∈ t.preorder, e.kind ≠ .style ∧ e.kind ≠ .rule

theorem wellFormed_node {e : Element α} {ts : List (DiagramTree α)} :
    WellFormed (.node e ts) ↔
      (e.WellFormed ∧ (e.kind ≠ .group → e.kind ≠ .rule → ts = [])) ∧ ∀ t ∈ ts, WellFormed t :=
  Tree.forall_subtrees_node

omit [Scalar α] in
theorem inVocabulary_node {e : Element α} {ts : List (DiagramTree α)} :
    InVocabulary (.node e ts) ↔ e.InVocabulary ∧ ∀ t ∈ ts, InVocabulary t :=
  Tree.forall_preorder_node

omit [Scalar α] in
theorem undeclaring_node {e : Element α} {ts : List (DiagramTree α)} :
    Undeclaring (.node e ts) ↔ (e.kind ≠ .style ∧ e.kind ≠ .rule) ∧ ∀ t ∈ ts, Undeclaring t :=
  Tree.forall_preorder_node

theorem WellFormed.of_mem_preorder {t : DiagramTree α} (h : t.WellFormed) {e : Element α}
    (he : e ∈ t.preorder) : e.WellFormed := by
  rw [Tree.preorder_eq_map_subtrees] at he
  obtain ⟨s, hs, rfl⟩ := List.mem_map.mp he
  exact (h s hs).1

end DiagramTree

/-- What holds of a tree that is part of a diagram: it is well-formed within its vocabulary, and
declares nothing. -/
structure DiagramTree.Plain (t : DiagramTree α) : Prop where
  wellFormed : t.WellFormed
  inVocabulary : t.InVocabulary
  undeclaring : t.Undeclaring

theorem DiagramTree.Plain.append {t s : DiagramTree α} (h : t.Plain)
    (hkind : t.value.kind = .group) (hs : s.Plain) :
    Plain (.node t.value (t.children ++ [s])) := by
  obtain ⟨e, ts⟩ := t
  obtain ⟨⟨he, -⟩, hwell⟩ := wellFormed_node.mp h.wellFormed
  obtain ⟨hv, hvocabulary⟩ := inVocabulary_node.mp h.inVocabulary
  obtain ⟨hk, hundeclaring⟩ := undeclaring_node.mp h.undeclaring
  have mem_append {P : DiagramTree α → Prop} (hts : ∀ t ∈ ts, P t) (hP : P s) :
      ∀ t ∈ ts ++ [s], P t := by
    simpa [or_imp, forall_and] using ⟨hts, hP⟩
  constructor
  · exact wellFormed_node.mpr
      ⟨⟨he, fun hgroup => absurd hkind hgroup⟩, mem_append hwell hs.wellFormed⟩
  · exact inVocabulary_node.mpr ⟨hv, mem_append hvocabulary hs.inVocabulary⟩
  · exact undeclaring_node.mpr ⟨hk, mem_append hundeclaring hs.undeclaring⟩

/-! ### Reading elements -/

omit [Scalar α] in
theorem refuse_eq_ok {fault : Prop} [Decidable fault] {error : StructuralError} {u : Unit} :
    refuse fault error = .ok u ↔ ¬fault := by
  unfold refuse
  split <;> simp_all

theorem Placement.first_valid (axis : Axis) : (Placement.first.on axis).Valid := by
  cases axis <;> exact ⟨by decide, by decide⟩

namespace PlacementText

theorem checkSpan_eq_ok {axis : Axis} {s : Span} {u : Unit} :
    checkSpan axis s = .ok u ↔ s.Valid := by
  simp only [checkSpan, Span.Valid]
  split
  · simp only [reduceCtorEq, false_iff]
    omega
  · split <;> simp <;> omega

theorem parse_valid {t : PlacementText} {p : Placement} (h : t.parse = .ok (some p))
    (axis : Axis) : (p.on axis).Valid := by
  simp only [parse] at h
  split at h
  · simp at h
  · simp only [Except.bind_eq_ok, Except.pure_eq_ok, checkSpan_eq_ok, Option.some.injEq] at h
    obtain ⟨_, -, _, -, _, -, _, hx, _, hy, rfl⟩ := h
    cases axis
    · exact hx
    · exact hy

end PlacementText

theorem readAttributes_range {tagName : String} {tag : Tag} {texts : List (String × String)}
    {ps : Properties α} (h : readAttributes tagName tag texts = .ok ps) :
    ps.All Attribute.Ranged ∧ ∀ p ∈ ps, tag.allows p.1 = true := by
  induction texts generalizing ps with
  | nil =>
    obtain rfl := Except.ok.inj h
    exact ⟨fun _ hp => by simp at hp, by simp⟩
  | cons t texts ih =>
    obtain ⟨name, text⟩ := t
    rw [readAttributes] at h
    split at h
    · simp at h
    · rename_i a ha
      split at h
      · simp at h
      · rename_i v hv
        simp only [Except.bind_eq_ok, Except.ok.injEq] at h
        obtain ⟨ps', hps, rfl⟩ := h
        obtain ⟨hranged, hallows⟩ := ih hps
        constructor
        · exact List.forall_mem_cons.mpr ⟨fun _ => Attribute.parse_admits hv, hranged⟩
        · exact List.forall_mem_cons.mpr ⟨(Option.filter_eq_some_iff.mp ha).2, hallows⟩

namespace Element

omit [Scalar α] in
theorem check_eq_ok {m : Markup} {children : List Markup} {placement : Option Placement}
    {e : Element α} {u : Unit} (h : check m children placement e = .ok u) :
    ¬((e.attributes.get? .place).isSome ∧ placement.isSome) ∧
      ¬(e.kind = .use ∧ ((e.attributes.get? .ref).getD "").isEmpty) ∧
      ¬(e.kind ≠ .group ∧ e.kind ≠ .rule ∧ !children.isEmpty) ∧
      ¬(e.kind = .path ∧ (e.attributes.get? .coords).isNone) ∧
      ¬(e.kind ≠ .text ∧ !m.lines.isEmpty) := by
  simp only [check, Except.bind_eq_ok, refuse_eq_ok, exists_and_left, exists_const] at h
  obtain ⟨-, -, -, h⟩ := h
  exact h

theorem ofMarkup_wellFormed {m : Markup} {children : List Markup} {e : Element α}
    (h : ofMarkup m children = .ok e) :
    e.WellFormed ∧ e.InVocabulary ∧ (e.kind ≠ .group → e.kind ≠ .rule → children = []) := by
  simp only [ofMarkup] at h
  split at h
  · rename_i tag _
    simp only [Except.bind_eq_ok, refuse_eq_ok, Except.mapError_eq_ok, Except.pure_eq_ok,
      exists_and_left, exists_const] at h
    obtain ⟨placement, hplacement, -, ps, hps, _, hcheck, rfl⟩ := h
    obtain ⟨hranged, hallows⟩ := readAttributes_range hps
    obtain ⟨hplace, huse, hchildren, hpath, hlines⟩ := check_eq_ok hcheck
    refine ⟨⟨hranged, ?_, ?_, ?_, ?_, ?_, rfl⟩, hallows, ?_⟩
    · cases placement with
      | none => exact Placement.first_valid
      | some p => exact PlacementText.parse_valid hplacement
    · intro hplaced
      exact Option.not_isSome_iff_eq_none.mp fun hsome => hplace ⟨hsome, hplaced⟩
    · intro hkind
      simpa [hkind] using hlines
    · intro hkind
      simpa [hkind, Option.isSome_iff_ne_none] using hpath
    · intro hkind
      by_contra hnone
      simp_all
    · intro hgroup hrule
      simpa [hgroup, hrule] using hchildren
  · simp at h

end Element

/-! ### Reading trees -/

theorem checkNesting_eq_ok {outer : Kind} {mention : Mention} {inner : Tag} {u : Unit} :
    checkNesting outer mention inner = .ok u ↔
      (outer ≠ .rule → inner.kind ≠ .style ∧ inner.kind ≠ .rule) := by
  unfold checkNesting
  split <;> grind

namespace DiagramTree

/-- Inside an element the trees of its markup are read in order, and each fits its place. -/
theorem ofMarkupAll_eq_ok {outer : Kind} {mention : Mention} {ts : List MarkupTree}
    {trees : List (DiagramTree α)} (h : ofMarkupAll outer mention ts = .ok trees) :
    List.Forall₂ (fun m t => ofMarkup m = .ok t ∧
      (outer ≠ .rule → t.value.kind ≠ .style ∧ t.value.kind ≠ .rule)) ts trees := by
  induction ts generalizing trees with
  | nil =>
    obtain rfl := Except.ok.inj (ofMarkupAll.eq_1 (α := α) outer mention ▸ h)
    exact .nil
  | cons t ts ih =>
    simp only [ofMarkupAll, Except.bind_eq_ok, Except.pure_eq_ok, checkNesting_eq_ok,
      exists_and_left, exists_const] at h
    obtain ⟨child, hchild, hfits, rest, hrest, rfl⟩ := h
    exact .cons ⟨hchild, hfits⟩ (ih hrest)

theorem ofMarkup_node {m : Markup} {ts : List MarkupTree} {t : DiagramTree α}
    (h : ofMarkup (.node m ts) = .ok t) :
    ∃ e trees, t = .node e trees ∧ Element.ofMarkup m (ts.map Tree.value) = .ok e ∧
      List.Forall₂ (fun m t => ofMarkup m = .ok t ∧
        (e.kind ≠ .rule → t.value.kind ≠ .style ∧ t.value.kind ≠ .rule)) ts trees := by
  simp only [ofMarkup, Except.bind_eq_ok, Except.pure_eq_ok] at h
  obtain ⟨e, he, trees, htrees, rfl⟩ := h
  exact ⟨e, trees, rfl, he, ofMarkupAll_eq_ok htrees⟩

theorem ofMarkup_wellFormed {m : MarkupTree} {t : DiagramTree α} (h : ofMarkup m = .ok t) :
    t.WellFormed ∧ t.InVocabulary := by
  induction m using Tree.induct generalizing t with
  | step m ts ih =>
    obtain ⟨e, trees, rfl, he, htrees⟩ := ofMarkup_node h
    obtain ⟨hwell, hvocabulary, hchildren⟩ := Element.ofMarkup_wellFormed he
    have hall : ∀ t ∈ trees, WellFormed t ∧ InVocabulary t := by
      intro t ht
      obtain ⟨m, hm, hmt, -⟩ := htrees.exists_left ht
      exact ih m hm hmt
    refine ⟨wellFormed_node.mpr ⟨⟨hwell, fun hgroup hrule => ?_⟩, fun t ht => (hall t ht).1⟩,
      inVocabulary_node.mpr ⟨hvocabulary, fun t ht => (hall t ht).2⟩⟩
    obtain rfl : ts = [] := by simpa using hchildren hgroup hrule
    exact List.forall₂_nil_left_iff.mp htrees

/-- A tree that is no declaration itself holds none. -/
theorem ofMarkup_undeclaring {m : MarkupTree} {t : DiagramTree α} (h : ofMarkup m = .ok t)
    (hkind : t.value.kind ≠ .style ∧ t.value.kind ≠ .rule) : t.Undeclaring := by
  induction m using Tree.induct generalizing t with
  | step m ts ih =>
    obtain ⟨e, trees, rfl, -, htrees⟩ := ofMarkup_node h
    refine undeclaring_node.mpr ⟨hkind, fun t ht => ?_⟩
    obtain ⟨m, hm, hmt, hfits⟩ := htrees.exists_left ht
    exact ih m hm hmt (hfits hkind.2)

theorem ofMarkup_plain {m : MarkupTree} {t : DiagramTree α} (h : ofMarkup m = .ok t)
    (hkind : t.value.kind ≠ .style ∧ t.value.kind ≠ .rule) : t.Plain :=
  ⟨(ofMarkup_wellFormed h).1, (ofMarkup_wellFormed h).2, ofMarkup_undeclaring h hkind⟩

end DiagramTree

/-! ### Reading documents -/

/-- The parts of a document are well-formed within their vocabulary, and declarations stand among
its declarations only. -/
structure Document.WellFormed (d : Document α) : Prop where
  root : d.root.Plain
  group : d.root.value.kind = .group
  templates : ∀ t ∈ d.templates, t.Plain
  styles : ∀ t ∈ d.styles, t.WellFormed ∧ t.InVocabulary
  rules : ∀ t ∈ d.rules, t.WellFormed ∧ t.InVocabulary

namespace Document

theorem readTemplate_plain {m : MarkupTree} {t : DiagramTree α} (h : readTemplate m = .ok t) :
    t.Plain := by
  simp only [readTemplate, Except.bind_eq_ok, Except.pure_eq_ok, refuse_eq_ok, exists_and_left,
    exists_const] at h
  obtain ⟨t, ht, hkind, -, rfl⟩ := h
  exact DiagramTree.ofMarkup_plain ht (not_or.mp hkind)

/-- A document stays well-formed when the next part of its source is read. -/
theorem WellFormed.add {d d' : Document α} {m : MarkupTree} (hd : d.WellFormed)
    (h : d.add m = .ok d') : d'.WellFormed := by
  unfold Document.add at h
  split at h
  · simp only [Except.bind_eq_ok, Except.pure_eq_ok, Except.mapM_eq_ok] at h
    obtain ⟨ts, hts, rfl⟩ := h
    refine { hd with templates := fun t ht => ?_ }
    obtain ht | ht := List.mem_append.mp ht
    · exact hd.templates t ht
    · obtain ⟨_, _, hread⟩ := hts.exists_left ht
      exact readTemplate_plain hread
  · simp only [Except.bind_eq_ok] at h
    obtain ⟨t, ht, h⟩ := h
    have hwell := DiagramTree.ofMarkup_wellFormed ht
    split at h <;> obtain rfl := Except.pure_eq_ok.mp h
    · refine { hd with styles := fun s hs => ?_ }
      exact (List.mem_append.mp hs).elim (hd.styles s) fun hs => by simp_all
    · refine { hd with rules := fun s hs => ?_ }
      exact (List.mem_append.mp hs).elim (hd.rules s) fun hs => by simp_all
    · rename_i hstyle hrule
      have hplain := DiagramTree.ofMarkup_plain ht ⟨hstyle, hrule⟩
      exact { hd with root := hd.root.append hd.group hplain }

theorem ofMarkup_wellFormed {m : MarkupTree} {d : Document α} (h : ofMarkup m = .ok d) :
    d.WellFormed := by
  simp only [ofMarkup, Except.bind_eq_ok, refuse_eq_ok, exists_and_left, exists_const] at h
  obtain ⟨-, -, -, ps, hps, h⟩ := h
  obtain ⟨hranged, hallows⟩ := readAttributes_range hps
  refine Except.foldlM_ok h ?_ fun _ _ _ _ hd hadd => hd.add hadd
  constructor
  · constructor
    · refine DiagramTree.wellFormed_node.mpr ⟨⟨?_, fun _ _ => rfl⟩, by simp⟩
      exact ⟨hranged, Placement.first_valid, by simp, fun _ => rfl,
        by simp [Element.kind, Tag.kind], by simp [Element.kind, Tag.kind], rfl⟩
    · exact DiagramTree.inVocabulary_node.mpr ⟨hallows, by simp⟩
    · exact DiagramTree.undeclaring_node.mpr ⟨by simp [Element.kind, Tag.kind], by simp⟩
  · rfl
  all_goals simp

/-- The declarations of a document stand in its source. -/
theorem ofMarkup_declarations {m : MarkupTree} {d : Document α} (h : ofMarkup m = .ok d) :
    (∀ t ∈ d.styles, ∃ m, DiagramTree.ofMarkup m = .ok t) ∧
      ∀ t ∈ d.rules, ∃ m, DiagramTree.ofMarkup m = .ok t := by
  simp only [ofMarkup, Except.bind_eq_ok, refuse_eq_ok, exists_and_left, exists_const] at h
  obtain ⟨-, -, -, ps, -, h⟩ := h
  refine Except.foldlM_ok (P := fun d : Document α =>
    (∀ t ∈ d.styles, ∃ m, DiagramTree.ofMarkup m = .ok t) ∧
      ∀ t ∈ d.rules, ∃ m, DiagramTree.ofMarkup m = .ok t) h (by simp) ?_
  intro part _ d d' hd hadd
  unfold Document.add at hadd
  split at hadd
  · simp only [Except.bind_eq_ok, Except.pure_eq_ok] at hadd
    obtain ⟨_, -, rfl⟩ := hadd
    exact hd
  · simp only [Except.bind_eq_ok] at hadd
    obtain ⟨t, ht, hadd⟩ := hadd
    have hread (ts : List (DiagramTree α)) (hts : ∀ t ∈ ts, ∃ m, DiagramTree.ofMarkup m = .ok t) :
        ∀ s ∈ ts ++ [t], ∃ m, DiagramTree.ofMarkup m = .ok s := by
      intro s hs
      rcases List.mem_append.mp hs with hs | hs
      · exact hts s hs
      · exact ⟨part, by rw [List.mem_singleton.mp hs, ht]⟩
    split at hadd <;> obtain rfl := Except.pure_eq_ok.mp hadd
    · exact ⟨hread _ hd.1, hd.2⟩
    · exact ⟨hd.1, hread _ hd.2⟩
    · exact hd

end Document

end GridDiagram
