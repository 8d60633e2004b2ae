import GridDiagram.Compile
import GridDiagram.Proofs.StyleSheet.Cascade

/-!
Inheritance: groups pass on what they have, level by level, and so every element of a styled tree
has each inherited property from the nearest element around it that specifies one.
-/

namespace GridDiagram

variable {α : Type}

theorem Attribute.isInherited_iff {a : Attribute} :
    a.isInherited = true ↔ a ∈ Attribute.inherited := by
  cases a <;> decide

namespace StyleSheet

/-- The value that is specified for an attribute of an element, by itself or by the rules of a style
sheet. -/
def specified (sheet : StyleSheet α) (e : Element α) (ancestors : List (Element α))
    (a : Attribute) : Option (a.Value α) :=
  (e.attributes.get? a).or (ruled sheet.rules e ancestors a)

/-- The value that is specified on the first element of a path that has one. The path leads from an
element up to the root. -/
def nearest (sheet : StyleSheet α) (a : Attribute) : List (Element α) → Option (a.Value α)
  | [] => none
  | e :: ancestors => (sheet.specified e ancestors a).or (nearest sheet a ancestors)

/-! ### What is passed on -/

theorem get?_filterMap_style (style : Properties α) (as : List Attribute) (a : Attribute) :
    Properties.get? (as.filterMap fun b => (style.get? b).map fun v => ⟨b, v⟩) a =
      if a ∈ as then style.get? a else none := by
  induction as with
  | nil => rfl
  | cons b as ih =>
    by_cases hb : b = a
    · subst hb
      cases hv : style.get? b with
      | none => simp [hv, ih]
      | some v => simp [hv, Properties.get?_cons_self]
    · have hmem : a ∈ b :: as ↔ a ∈ as := by simp [Ne.symm hb]
      rw [← if_congr hmem.symm rfl rfl, ← ih]
      cases hv : style.get? b with
      | none => simp [hv]
      | some v => simp [hv, Properties.get?_cons_of_ne hb]

theorem get?_passedOn (style : Properties α) {a : Attribute} (ha : a.isInherited) :
    (passedOn style).get? a = style.get? a := by
  rw [passedOn, get?_filterMap_style, if_pos (Attribute.isInherited_iff.mp ha)]

theorem nodupKeys_passedOn (style : Properties α) : (passedOn style).NodupKeys := by
  have hkeys : (passedOn style).keys =
      Attribute.inherited.filter fun a => (style.get? a).isSome := by
    rw [passedOn, List.keys, List.map_filterMap, ← List.filterMap_eq_filter]
    congr 1
    funext a
    cases hv : style.get? a <;> simp [Option.guard, hv]
  rw [List.NodupKeys, hkeys]
  exact List.Nodup.filter _ (by decide)

/-! ### Groups -/

/-- A group may carry whatever it passes on. -/
theorem allows_of_group {tag : Tag} (htag : tag.kind = .group) {a : Attribute}
    (ha : a.isInherited) : tag.allows a = true := by
  cases tag <;> simp_all [Tag.kind, Tag.allows]

/-- A group has no default for what it passes on, nor do options give it one. -/
theorem default_of_group [Scalar α] (options : CompileOptions α) {tag : Tag}
    (htag : tag.kind = .group) {a : Attribute} (ha : a.isInherited) :
    ((options.defaults tag).get? a).or (tag.defaults.get? a) = none := by
  have hall : (tag.defaults : Properties α).attributes.all (!·.isInherited) = true := by
    cases tag <;> first | rfl | simp [Tag.kind] at htag
  have hoptions : options.defaults tag = [] := by
    cases tag <;> first | rfl | simp [Tag.kind] at htag
  have hnone : (tag.defaults : Properties α).get? a = none := by
    rw [Properties.get?_eq_none]
    rintro p hp rfl
    have := List.all_eq_true.mp hall p.1 (List.mem_map_of_mem hp)
    simp [ha] at this
  rw [hoptions, hnone]
  rfl

theorem nodupKeys_defaults (options : CompileOptions α) (tag : Tag) :
    (options.defaults tag).NodupKeys := by
  unfold CompileOptions.defaults
  split
  · exact List.nodupKeys_singleton _
  · exact List.nodupKeys_nil

/-! ### Down a tree -/

/-- What reaches an element from above: for each inherited property the value on the nearest of its
ancestors that has one specified. -/
structure Inherits (sheet : StyleSheet α) (ancestors : List (Element α))
    (inherited : Properties α) : Prop where
  nodupKeys : inherited.NodupKeys
  get? : ∀ a, a.isInherited → inherited.get? a = sheet.nearest a ancestors

/-- What a style sheet makes of an element, with those around it: the same element, with a style
that gives each inherited property of its vocabulary the value on the nearest element of its path
that has one specified, or else its default. -/
structure TakesNearest [Scalar α] (sheet : StyleSheet α) (options : CompileOptions α)
    (element : Element α × List (Element α)) (styled : Element α) : Prop where
  eq : styled = { element.1 with style := styled.style }
  get? : ∀ a, a.isInherited → element.1.tag.allows a →
    styled.style.get? a = (sheet.nearest a (element.1 :: element.2)).or
      (((options.defaults element.1.tag).get? a).or (element.1.tag.defaults.get? a))

variable [Scalar α] {styles rules : List (DiagramTree α)} {options : CompileOptions α}
  {sheet : StyleSheet α} {e : Element α} {ancestors : List (Element α)}
  {inherited : Properties α} {a : Attribute}

/-- What an element has is specified on the nearest element of its path, if not its default. -/
theorem Inherits.resolve (hstyles : ∀ t ∈ styles, t.Distinct) (hrules : ∀ t ∈ rules, t.Distinct)
    (hsheet : ofDeclarations styles rules options.defaults = .ok sheet)
    (h : Inherits sheet ancestors inherited) (he : e.attributes.NodupKeys) (ha : a.isInherited)
    (hallows : e.tag.allows a) :
    (sheet.resolve e ancestors inherited).get? a =
      (sheet.nearest a (e :: ancestors)).or
        (((options.defaults e.tag).get? a).or (e.tag.defaults.get? a)) := by
  obtain ⟨declared, -, hlayered, hresolve⟩ :=
    resolve_declared hstyles hrules (nodupKeys_defaults options) hsheet
  rw [hresolve e ancestors inherited he h.nodupKeys, if_pos hallows, h.get? a ha, nearest,
    specified, hlayered, ruled_layered]
  simp only [Option.or_assoc]

/-- A group passes on what is specified on the nearest element of its path. -/
theorem Inherits.passedOn (hstyles : ∀ t ∈ styles, t.Distinct) (hrules : ∀ t ∈ rules, t.Distinct)
    (hsheet : ofDeclarations styles rules options.defaults = .ok sheet)
    (h : Inherits sheet ancestors inherited) (he : e.attributes.NodupKeys)
    (hgroup : e.kind = .group) :
    Inherits sheet (e :: ancestors) (passedOn (sheet.resolve e ancestors inherited)) := by
  refine ⟨nodupKeys_passedOn _, fun a ha => ?_⟩
  rw [get?_passedOn _ ha, h.resolve hstyles hrules hsheet he ha (allows_of_group hgroup ha),
    default_of_group options hgroup ha, Option.or_none]

/-- The styled elements of a tree stand in the order of its elements, and each takes what is nearest
to it: what holds further in stands inside a group, which passes that on. -/
theorem Inherits.apply (hstyles : ∀ t ∈ styles, t.Distinct) (hrules : ∀ t ∈ rules, t.Distinct)
    (hsheet : ofDeclarations styles rules options.defaults = .ok sheet) {t : DiagramTree α}
    (ht : t.Distinct) (hgroups : ∀ s ∈ t.subtrees, s.children ≠ [] → s.value.kind = .group)
    (h : Inherits sheet ancestors inherited) :
    List.Forall₂ (TakesNearest sheet options) (t.lineages ancestors)
      (sheet.apply ancestors inherited t).preorder := by
  induction t using Tree.induct generalizing ancestors inherited with
  | step e ts ih =>
    obtain ⟨he, hts⟩ := Tree.forall_preorder_node.mp ht
    obtain ⟨hgroup, hgroups⟩ := Tree.forall_subtrees_node.mp hgroups
    rw [StyleSheet.apply, applyAll_eq_map, Tree.lineages_node, Tree.preorder_node,
      Tree.preorderAll_eq_flatMap, List.flatMap_map]
    refine .cons ⟨rfl, fun a ha hallows => ?_⟩ (.flatMap fun t hmem => ?_)
    · exact h.resolve hstyles hrules hsheet he ha hallows
    · have hgroup := hgroup (List.ne_nil_of_mem hmem)
      exact ih t hmem (hts t hmem) (hgroups t hmem)
        (h.passedOn hstyles hrules hsheet he hgroup)

/-- In a styled tree whose groups alone have children, as in an expanded one, every element has each
inherited property of its vocabulary as it is specified on the nearest element of the path from it
to the root, and its default only where no element of the path has it specified. -/
theorem styled_inherits (hstyles : ∀ t ∈ styles, t.Distinct) (hrules : ∀ t ∈ rules, t.Distinct)
    (hsheet : ofDeclarations styles rules options.defaults = .ok sheet) {t : DiagramTree α}
    (ht : t.Distinct) (hgroups : ∀ s ∈ t.subtrees, s.children ≠ [] → s.value.kind = .group) :
    List.Forall₂ (TakesNearest sheet options) (t.lineages []) (sheet.styled t).preorder :=
  Inherits.apply hstyles hrules hsheet ht hgroups ⟨List.nodupKeys_nil, fun _ _ => rfl⟩

/-- A rule that gives a group a stroke. -/
def panelRules : List (DiagramTree Rat) :=
  [.node { tag := .rule, classes := ["panel"], attributes := [⟨.stroke, some ⟨255, 0, 0⟩⟩] } []]

def panelRect : Element Rat :=
  { tag := .rect, attributes := [⟨.width, 5⟩] }

def panelGroup : Element Rat :=
  { tag := .group, classes := ["panel"], attributes := [⟨.fill, none⟩] }

def panelLayout : Element Rat :=
  { tag := .layout, attributes := [⟨.fill, some ⟨0, 0, 255⟩⟩, ⟨.stroke, none⟩] }

/-- A rectangle in a group without a fill in a layout with one. -/
def panelTree : DiagramTree Rat :=
  .node panelLayout [.node panelGroup [.node panelRect []]]

theorem panelTree_styled_inherits :
    panelTree.Distinct ∧ (∀ t ∈ panelRules, t.Distinct) ∧
      (∀ s ∈ panelTree.subtrees, s.children ≠ [] → s.value.kind = .group) ∧
      ∃ sheet, ofDeclarations [] panelRules CompileOptions.default.defaults = .ok sheet ∧
        List.Forall₂ (TakesNearest sheet CompileOptions.default) (panelTree.lineages [])
          (sheet.styled panelTree).preorder ∧
        sheet.nearest .fill [panelRect, panelGroup, panelLayout] = some none ∧
        sheet.nearest .stroke [panelRect, panelGroup, panelLayout] = some (some ⟨255, 0, 0⟩) := by
  have ht : panelTree.Distinct := by
    simp [panelTree, panelLayout, panelGroup, panelRect, DiagramTree.Distinct, Tree.preorderAll]
  have hrules : ∀ t ∈ panelRules, t.Distinct := by
    simp [panelRules, DiagramTree.Distinct, Tree.preorderAll]
  have hgroups : ∀ s ∈ panelTree.subtrees, s.children ≠ [] → s.value.kind = .group := by
    simp [panelTree, panelLayout, panelGroup, panelRect, Element.kind, Tag.kind]
  obtain ⟨sheet, hsheet, hfill, hstroke⟩ :
      ∃ sheet, ofDeclarations [] panelRules CompileOptions.default.defaults = .ok sheet ∧
        sheet.nearest .fill [panelRect, panelGroup, panelLayout] = some none ∧
        sheet.nearest .stroke [panelRect, panelGroup, panelLayout] = some (some ⟨255, 0, 0⟩) :=
    ⟨_, rfl, rfl, rfl⟩
  exact ⟨ht, hrules, hgroups, sheet, hsheet,
    styled_inherits (by simp) hrules hsheet ht hgroups, hfill, hstroke⟩

end StyleSheet

end GridDiagram
