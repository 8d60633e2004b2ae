import GridDiagram.StyleSheet
import GridDiagram.Proofs.Template.Instances

/-!
What styling a tree keeps: the properties in force at an element lie in the vocabulary of its tag,
and each has a value that the declarations, the defaults and the element's own attributes may have.
-/

namespace GridDiagram

variable {α : Type} {P : (a : Attribute) → a.Value α → Prop}

/-- What the stages behind the style sheet rely on at an element. `P` says which values the
properties in force may have. -/
structure Element.Styled (P : (a : Attribute) → a.Value α → Prop) (e : Element α) : Prop where
  kind : e.kind ≠ .style ∧ e.kind ≠ .rule ∧ e.kind ≠ .use
  properties : e.effective.All P
  vocabulary : ∀ p ∈ e.effective, e.tag.allows p.1 = true
  placement : ∀ axis, (e.placement.on axis).Valid
  coords : e.kind = .path → (e.effective.get? .coords).isSome

/-- Every element of a tree is styled, and only groups have anything inside them. -/
def DiagramTree.Styled (P : (a : Attribute) → a.Value α → Prop) (t : DiagramTree α) : Prop :=
  ∀ s ∈ t.subtrees, s.value.Styled P ∧ (s.value.kind ≠ .group → s.children = [])

theorem DiagramTree.styled_node {e : Element α} {ts : List (DiagramTree α)} :
    Styled P (.node e ts) ↔
      (e.Styled P ∧ (e.kind ≠ .group → ts = [])) ∧ ∀ t ∈ ts, Styled P t :=
  Tree.forall_subtrees_node

namespace Element.Styled

variable {e : Element α}

theorem get? (h : e.Styled P) {a : Attribute} {v : a.Value α}
    (hv : e.effective.get? a = some v) : P a v :=
  h.properties.get? hv

theorem imp {Q : (a : Attribute) → a.Value α → Prop} (h : e.Styled P)
    (hPQ : ∀ a (v : a.Value α), P a v → Q a v) : e.Styled Q :=
  ⟨h.kind, h.properties.imp hPQ, h.vocabulary, h.placement, h.coords⟩

/-- What lies outside the vocabulary of a tag has no value there. -/
theorem get?_eq_none (h : e.Styled P) {a : Attribute} (ha : e.tag.allows a = false) :
    e.effective.get? a = none := by
  rw [Properties.get?_eq_none]
  rintro p hp rfl
  simp [h.vocabulary p hp] at ha

end Element.Styled

/-! ### Defaults -/

theorem Tag.defaults_vocabulary [Scalar α] (tag : Tag) :
    ∀ p ∈ (tag.defaults : Properties α), tag.allows p.1 = true := by
  have hall : (tag.defaults : Properties α).attributes.all tag.allows = true := by
    cases tag <;> rfl
  exact fun p hp => List.all_eq_true.mp hall p.1 (List.mem_map_of_mem hp)

theorem Tag.defaults_counts [Scalar α] (tag : Tag) :
    (tag.defaults : Properties α).All Attribute.Counts := by
  cases tag <;>
    simp [Properties.All, defaults, boxDefaults, shapeDefaults, Attribute.Counts]

namespace StyleSheet

/-! ### Reading declarations -/

/-- The declarations and the defaults of a style sheet have values that `P` allows, and the defaults
keep to the vocabulary of their tag. -/
structure Sound (P : (a : Attribute) → a.Value α → Prop) (sheet : StyleSheet α) : Prop where
  declarations : ∀ r ∈ sheet.rules, r.declarations.All P
  defaults : ∀ tag, (sheet.defaults tag).All P
  vocabulary : ∀ tag, ∀ p ∈ sheet.defaults tag, tag.allows p.1 = true

theorem readStyles_all {ts : List (DiagramTree α)} {styles : List (String × Properties α)}
    (hts : ∀ t ∈ ts, t.value.attributes.All P) (h : readStyles ts = .ok styles) :
    ∀ s ∈ styles, s.2.All P := by
  unfold readStyles at h
  refine Except.foldlM_ok (P := fun styles => ∀ s ∈ styles, Properties.All P s.2) h (by simp) ?_
  intro t ht styles styles' hstyles hstep
  simp only [Except.guard_eq_ok, Except.pure_eq_ok] at hstep
  obtain ⟨-, -, rfl⟩ := hstep
  intro s hs
  obtain hs | hs := List.mem_append.mp hs
  · exact hstyles s hs
  · obtain rfl := List.mem_singleton.mp hs
    exact hts t ht

theorem readDeclarations_all {styles : List (String × Properties α)} {rule : Element α}
    {declarations : Properties α} (hstyles : ∀ s ∈ styles, s.2.All P)
    (hrule : rule.attributes.All P) (h : readDeclarations styles rule = .ok declarations) :
    declarations.All P := by
  have hown := hrule.only fun a => a != .select && a != .style
  simp only [readDeclarations] at h
  split at h
  · obtain rfl := Except.pure_eq_ok.mp h
    exact hown
  · split at h
    · simp at h
    · rename_i name _ _ declared hlookup
      obtain rfl := Except.pure_eq_ok.mp h
      obtain ⟨before, behind, rfl, -⟩ := List.lookup_eq_some_iff.mp hlookup
      exact (hstyles (name, declared) (by simp)).merge hown

theorem readRules_eq_foldlM (styles : List (String × Properties α)) (outer : Enclosure)
    (before : List (StyleRule α)) (ts : List (DiagramTree α)) :
    readRules styles outer before ts = ts.foldlM (readRule styles outer) before := by
  induction ts generalizing before with
  | nil => simp only [readRules, List.foldlM_nil, pure, Except.pure]
  | cons t ts ih => simp only [readRules, List.foldlM_cons, ih]

theorem readRule_all {styles : List (String × Properties α)}
    (hstyles : ∀ s ∈ styles, s.2.All P) {t : DiagramTree α}
    (ht : ∀ e ∈ t.preorder, e.attributes.All P) {outer : Enclosure}
    {before rules : List (StyleRule α)} (hbefore : ∀ r ∈ before, r.declarations.All P)
    (h : readRule styles outer before t = .ok rules) : ∀ r ∈ rules, r.declarations.All P := by
  induction t using Tree.induct generalizing outer before rules with
  | step e ts ih =>
    obtain ⟨he, hts⟩ := Tree.forall_preorder_node.mp ht
    simp only [readRule, Except.guard_eq_ok, Except.bind_eq_ok, Except.mapError_eq_ok,
      readRules_eq_foldlM] at h
    obtain ⟨-, criteria, -, declarations, hdeclarations, h⟩ := h
    refine Except.foldlM_ok (P := fun rules => ∀ r ∈ rules, r.declarations.All P) h ?_ ?_
    · intro r hr
      obtain hr | hr := List.mem_append.mp hr
      · exact hbefore r hr
      · obtain rfl := List.mem_singleton.mp hr
        exact readDeclarations_all hstyles he hdeclarations
    · exact fun t ht before rules hbefore hrules => ih t ht (hts t ht) hbefore hrules

/-- A style sheet of declarations that `P` allows is sound if the defaults are, those of the tags
and those that come with the sheet. -/
theorem ofDeclarations_sound [Scalar α] {styles rules : List (DiagramTree α)}
    {defaults : Tag → Properties α} {sheet : StyleSheet α}
    (hstyles : ∀ t ∈ styles, ∀ e ∈ t.preorder, e.attributes.All P)
    (hrules : ∀ t ∈ rules, ∀ e ∈ t.preorder, e.attributes.All P)
    (htags : ∀ tag, (Tag.defaults tag : Properties α).All P)
    (hdefaults : ∀ tag, (defaults tag).All P)
    (hvocabulary : ∀ tag, ∀ p ∈ defaults tag, tag.allows p.1 = true)
    (h : ofDeclarations styles rules defaults = .ok sheet) : sheet.Sound P := by
  simp only [ofDeclarations, Except.bind_eq_ok, Except.pure_eq_ok] at h
  obtain ⟨read, hread, read', hread', rfl⟩ := h
  have hall : ∀ s ∈ read, s.2.All P :=
    readStyles_all (fun t ht => hstyles t ht _ (Tree.value_mem_preorder t)) hread
  rw [readRules_eq_foldlM] at hread'
  have hdeclared : ∀ r ∈ read', r.declarations.All P :=
    Except.foldlM_ok (P := fun rules => ∀ r ∈ rules, r.declarations.All P) hread' (by simp)
      fun t ht _ _ hbefore hstep => readRule_all hall (hrules t ht) hbefore hstep
  constructor
  · intro r hr
    obtain hr | hr := List.mem_append.mp hr
    all_goals exact hdeclared r (List.mem_filter.mp hr).1
  · exact fun tag => (htags tag).merge (hdefaults tag)
  · intro tag p hp
    obtain hp | hp := Properties.mem_merge hp
    · exact Tag.defaults_vocabulary tag p hp
    · exact hvocabulary tag p hp

/-! ### Styling -/

variable {sheet : StyleSheet α}

theorem passedOn_all {style : Properties α} (h : style.All P) : (passedOn style).All P := by
  intro p hp
  simp only [passedOn, List.mem_filterMap, Option.map_eq_some_iff] at hp
  obtain ⟨a, -, v, hv, rfl⟩ := hp
  exact h.get? hv

theorem Sound.resolve_all (hsheet : sheet.Sound P) {e : Element α} (he : e.attributes.All P)
    (ancestors : List (Element α)) {inherited : Properties α} (hinherited : inherited.All P) :
    (sheet.resolve e ancestors inherited).All P := by
  have hdeclared : Properties.All P
      ((sheet.rules.filter (·.chooses e ancestors)).flatMap (·.declarations)) := by
    intro p hp
    obtain ⟨r, hr, hp⟩ := List.mem_flatMap.mp hp
    exact hsheet.declarations r (List.mem_filter.mp hr).1 p hp
  exact ((hsheet.defaults e.tag).merge ((hinherited.append hdeclared).only _)).merge he

theorem Sound.resolve_vocabulary (hsheet : sheet.Sound P) {e : Element α} (he : e.InVocabulary)
    (ancestors : List (Element α)) (inherited : Properties α) :
    ∀ p ∈ sheet.resolve e ancestors inherited, e.tag.allows p.1 = true := by
  intro p hp
  obtain hp | hp := Properties.mem_merge hp
  · obtain hp | hp := Properties.mem_merge hp
    · exact hsheet.vocabulary e.tag p hp
    · exact (Properties.mem_only.mp hp).2
  · exact he p hp

theorem applyAll_eq_map (ancestors : List (Element α)) (inherited : Properties α)
    (ts : List (DiagramTree α)) :
    sheet.applyAll ancestors inherited ts = ts.map (sheet.apply ancestors inherited) := by
  induction ts with
  | nil => simp [applyAll]
  | cons t ts ih => simp [applyAll, ih]

theorem Sound.element [Scalar α] (hsheet : sheet.Sound P) {e : Element α} (he : e.WellFormed)
    (hv : e.InVocabulary) (hkind : e.kind ≠ .style ∧ e.kind ≠ .rule ∧ e.kind ≠ .use)
    (hP : e.attributes.All P) (ancestors : List (Element α)) {inherited : Properties α}
    (hinherited : inherited.All P) :
    Element.Styled P { e with style := sheet.resolve e ancestors inherited } := by
  have heffective (Q : Properties α → Prop) (hresolved : Q (sheet.resolve e ancestors inherited))
      (hattributes : Q e.attributes) :
      Q (Element.effective { e with style := sheet.resolve e ancestors inherited }) := by
    unfold Element.effective
    split
    · exact hattributes
    · exact hresolved
  constructor
  · exact hkind
  · exact heffective (·.All P) (hsheet.resolve_all hP ancestors hinherited) hP
  · exact heffective (fun ps => ∀ p ∈ ps, e.tag.allows p.1 = true)
      (hsheet.resolve_vocabulary hv ancestors inherited) hv
  · exact he.placement
  · intro hpath
    have hcoords := he.coords hpath
    exact heffective (fun ps => (ps.get? .coords).isSome)
      (Properties.get?_merge_isSome_of_later hcoords) hcoords

theorem Sound.apply [Scalar α] (hsheet : sheet.Sound P)
    (hP : ∀ a (v : a.Value α), a.Ranged v → P a v) {t : DiagramTree α} (ht : t.Expanded)
    (ancestors : List (Element α)) {inherited : Properties α} (hinherited : inherited.All P) :
    (sheet.apply ancestors inherited t).Styled P := by
  induction t using Tree.induct generalizing ancestors inherited with
  | step e ts ih =>
    obtain ⟨⟨he, hv, hkind, hleaf⟩, hts⟩ := DiagramTree.expanded_node.mp ht
    have hattributes := he.ranged.imp hP
    rw [StyleSheet.apply, applyAll_eq_map]
    refine DiagramTree.styled_node.mpr ⟨⟨?_, fun hgroup => ?_⟩, fun s hs => ?_⟩
    · exact hsheet.element he hv hkind hattributes ancestors hinherited
    · rw [hleaf hgroup, List.map_nil]
    · obtain ⟨t, ht, rfl⟩ := List.mem_map.mp hs
      exact ih t ht (hts t ht) _
        (passedOn_all (hsheet.resolve_all hattributes ancestors hinherited))

theorem Sound.styled [Scalar α] (hsheet : sheet.Sound P)
    (hP : ∀ a (v : a.Value α), a.Ranged v → P a v) {t : DiagramTree α} (ht : t.Expanded) :
    (sheet.styled t).Styled P :=
  hsheet.apply hP ht [] (by simp [Properties.All])

end StyleSheet

end GridDiagram
