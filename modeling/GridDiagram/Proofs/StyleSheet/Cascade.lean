import GridDiagram.Proofs.StyleSheet

/-!
The cascade in closed form: which of all that is given for an attribute of an element becomes its
value. The rules are taken as they are declared, an enclosing rule before those inside it, and how
rules with an id stand among the others changes nothing.
-/

namespace GridDiagram

variable {α : Type}

/-- Every element of a tree gives each of its attributes once. -/
def DiagramTree.Distinct (t : DiagramTree α) : Prop :=
  ∀ e ∈ t.preorder, e.attributes.NodupKeys

/-- A rule asks for an id, its own or that of its selector. -/
def Element.asksForId (rule : Element α) : Bool :=
  match Criteria.ofRule rule with
  | .ok criteria => criteria.id.isSome
  | .error _ => false

/-- A rule apart from where it stands. -/
def StyleRule.unplaced (r : StyleRule α) : StyleRule α :=
  { r with position := 0, parent := none }

namespace StyleSheet

/-! ### Rules as they are declared -/

/-- The style that a rule refers to. -/
def referenced? (styles : List (DiagramTree α)) (rule : Element α) : Option (DiagramTree α) :=
  (rule.attributes.get? .style).bind fun name => styles.find? (·.value.id.getD "" == name)

/-- What an element, with the elements around it, says as a rule: its criteria and theirs, and the
properties of the style that it refers to, overlaid with its own. -/
structure Declares (styles : List (DiagramTree α)) (rule : Element α × List (Element α))
    (r : StyleRule α) : Prop where
  criteria : Criteria.ofRule rule.1 = .ok r.criteria
  enclosing : rule.2.mapM Criteria.ofRule = .ok r.enclosing
  declarations : ∀ a, r.declarations.get? a =
    (if a = .select ∨ a = .style then none else rule.1.attributes.get? a).or
      ((referenced? styles rule.1).bind (·.value.attributes.get? a))

/-- A rule is read of an element and the elements around it. -/
structure Reads (styles : List (String × Properties α)) (rule : Element α × List (Element α))
    (r : StyleRule α) : Prop where
  kind : rule.1.kind = .rule
  criteria : Criteria.ofRule rule.1 = .ok r.criteria
  enclosing : rule.2.mapM Criteria.ofRule = .ok r.enclosing
  declarations : readDeclarations styles rule.1 = .ok r.declarations

variable {styles : List (String × Properties α)} {rule : Element α × List (Element α)}
  {r r' : StyleRule α}

theorem Reads.unplaced_eq (h : Reads styles rule r) (h' : Reads styles rule r') :
    r.unplaced = r'.unplaced := by
  have hcriteria := Except.ok.inj (h.criteria.symm.trans h'.criteria)
  have henclosing := Except.ok.inj (h.enclosing.symm.trans h'.enclosing)
  have hdeclarations := Except.ok.inj (h.declarations.symm.trans h'.declarations)
  simp only [StyleRule.unplaced, hcriteria, henclosing, hdeclarations]

theorem Reads.asksForId (h : Reads styles rule r) :
    rule.1.asksForId = r.criteria.id.isSome := by
  simp only [Element.asksForId, h.criteria]

theorem map_unplaced_eq {ls : List (Element α × List (Element α))} {rs rs' : List (StyleRule α)}
    (h : List.Forall₂ (Reads styles) ls rs) (h' : List.Forall₂ (Reads styles) ls rs') :
    rs.map StyleRule.unplaced = rs'.map StyleRule.unplaced := by
  induction h generalizing rs' with
  | nil =>
    cases h'
    rfl
  | cons hr _ ih =>
    cases h' with
    | cons hr' hrest => rw [List.map_cons, List.map_cons, hr.unplaced_eq hr', ih hrest]

/-- What a rule adds is itself, and behind it the rules inside it, in preorder. -/
theorem readRule_reads {t : DiagramTree α} {above : List (Element α)} {outer : Enclosure}
    {before rs : List (StyleRule α)} (habove : above.mapM Criteria.ofRule = .ok outer.criteria)
    (h : readRule styles outer before t = .ok rs) :
    ∃ added, rs = before ++ added ∧ List.Forall₂ (Reads styles) (t.lineages above) added := by
  induction t using Tree.induct generalizing above outer before rs with
  | step e ts ih =>
    simp only [readRule, Except.guard_eq_ok, Except.bind_eq_ok, Except.mapError_eq_ok,
      readRules_eq_foldlM] at h
    obtain ⟨hkind, criteria, hcriteria, declarations, hdeclarations, h⟩ := h
    have hinside : (e :: above).mapM Criteria.ofRule = .ok (criteria :: outer.criteria) := by
      simp only [List.mapM_cons, hcriteria, habove]
      rfl
    obtain ⟨added, rfl, hadded⟩ := Except.foldlM_append h fun t ht before after hafter =>
      ih t ht hinside hafter
    refine ⟨_ :: added, List.append_assoc .., ?_⟩
    rw [Tree.lineages_node]
    exact .cons ⟨not_not.mp hkind, hcriteria, habove, hdeclarations⟩ hadded

theorem readRules_reads {ts : List (DiagramTree α)} {rs : List (StyleRule α)}
    (h : readRules styles ⟨none, []⟩ [] ts = .ok rs) :
    List.Forall₂ (Reads styles) (Tree.lineagesAll [] ts) rs := by
  rw [readRules_eq_foldlM] at h
  have habove : ([] : List (Element α)).mapM Criteria.ofRule = .ok [] := rfl
  obtain ⟨added, rfl, hadded⟩ := Except.foldlM_append h fun t _ before after hafter =>
    readRule_reads habove hafter
  rwa [Tree.lineagesAll_eq_flatMap]

/-- Where a rule can be read of each element of a tree, the tree is read. -/
theorem exists_readRule {t : DiagramTree α} {above : List (Element α)}
    (h : ∀ l ∈ t.lineages above, ∃ r, Reads styles l r) (outer : Enclosure)
    (before : List (StyleRule α)) : ∃ rs, readRule styles outer before t = .ok rs := by
  induction t using Tree.induct generalizing above outer before with
  | step e ts ih =>
    rw [Tree.lineages_node] at h
    obtain ⟨⟨r, hr⟩, hts⟩ := List.forall_mem_cons.mp h
    simp only [readRule, Except.guard_eq_ok, Except.bind_eq_ok, Except.mapError_eq_ok,
      readRules_eq_foldlM, hr.kind, not_not, true_and, hr.criteria, hr.declarations]
    obtain ⟨rs, hrs⟩ := Except.exists_foldlM (f := readRule styles _)
      (fun t ht before => ih t ht (fun l hl => hts l (List.mem_flatMap.mpr ⟨t, ht, hl⟩)) _ before) _
    exact ⟨rs, r.criteria, rfl, r.declarations, rfl, hrs⟩

theorem exists_readRules {ts : List (DiagramTree α)}
    (h : ∀ l ∈ Tree.lineagesAll [] ts, ∃ r, Reads styles l r) :
    ∃ rs, readRules styles ⟨none, []⟩ [] ts = .ok rs := by
  rw [Tree.lineagesAll_eq_flatMap] at h
  rw [readRules_eq_foldlM]
  exact Except.exists_foldlM (fun t ht before =>
    exists_readRule (fun l hl => h l (List.mem_flatMap.mpr ⟨t, ht, hl⟩)) _ before) _

theorem readStyles_eq {ts : List (DiagramTree α)} (h : readStyles ts = .ok styles) :
    styles = ts.map fun t => (t.value.id.getD "", t.value.attributes) := by
  obtain ⟨added, rfl, hadded⟩ := Except.foldlM_append (g := fun t => [t])
    (R := fun t style => (t.value.id.getD "", t.value.attributes) = style) h
    fun t _ before after hafter => by
      simp only [Except.guard_eq_ok, Except.pure_eq_ok] at hafter
      obtain ⟨-, -, rfl⟩ := hafter
      exact ⟨_, rfl, .cons rfl .nil⟩
  rw [List.flatMap_singleton', ← List.forall₂_map_left_iff (R := Eq), List.forall₂_eq_eq_eq]
    at hadded
  exact hadded.symm

theorem lookup_readStyles {ts : List (DiagramTree α)} (h : readStyles ts = .ok styles)
    (name : String) : styles.lookup name =
      (ts.find? (·.value.id.getD "" == name)).map (·.value.attributes) := by
  have hstyles := readStyles_eq h
  subst hstyles
  clear h
  induction ts with
  | nil => rfl
  | cons t ts ih =>
    rw [List.map_cons, List.lookup_cons, List.find?_cons, ih, BEq.comm]
    split <;> simp_all

theorem get?_own (ps : Properties α) (a : Attribute) :
    (ps.only fun a => a != .select && a != .style).get? a =
      if a = .select ∨ a = .style then none else ps.get? a := by
  split
  · rename_i ha
    exact Properties.get?_only_of_not (by rcases ha with rfl | rfl <;> rfl)
  · rename_i ha
    exact Properties.get?_only (by simpa [not_or] using ha)

/-- A rule declares what the style that it refers to has, overlaid with its own. -/
theorem readDeclarations_get? {ts : List (DiagramTree α)} (hstyles : readStyles ts = .ok styles)
    {rule : Element α} (hrule : rule.attributes.NodupKeys) {declarations : Properties α}
    (h : readDeclarations styles rule = .ok declarations) (a : Attribute) :
    declarations.get? a =
      (if a = .select ∨ a = .style then none else rule.attributes.get? a).or
        ((referenced? ts rule).bind (·.value.attributes.get? a)) := by
  simp only [readDeclarations, lookup_readStyles hstyles] at h
  rw [← get?_own, referenced?]
  split at h
  · rename_i hnone
    rw [hnone, ← Except.pure_eq_ok.mp h]
    simp
  · rename_i name hname
    split at h
    · simp at h
    · rename_i properties hfound
      obtain ⟨style, hstyle, rfl⟩ := Option.map_eq_some_iff.mp hfound
      rw [hname, ← Except.pure_eq_ok.mp h,
        Properties.get?_merge (Properties.nodupKeys_only hrule _)]
      simp [hstyle]

theorem Reads.declares {ts : List (DiagramTree α)} (hstyles : readStyles ts = .ok styles)
    (hrule : rule.1.attributes.NodupKeys) (h : Reads styles rule r) : Declares ts rule r :=
  ⟨h.criteria, h.enclosing, readDeclarations_get? hstyles hrule h.declarations⟩

theorem readDeclarations_nodupKeys {ts : List (DiagramTree α)} (hts : ∀ t ∈ ts, t.Distinct)
    (hstyles : readStyles ts = .ok styles) {rule : Element α} (hrule : rule.attributes.NodupKeys)
    {declarations : Properties α} (h : readDeclarations styles rule = .ok declarations) :
    declarations.NodupKeys := by
  simp only [readDeclarations, lookup_readStyles hstyles] at h
  split at h
  · rw [← Except.pure_eq_ok.mp h]
    exact Properties.nodupKeys_only hrule _
  · split at h
    · simp at h
    · rename_i properties hfound
      obtain ⟨style, hstyle, rfl⟩ := Option.map_eq_some_iff.mp hfound
      rw [← Except.pure_eq_ok.mp h]
      refine Properties.nodupKeys_merge (hts style (List.mem_of_find?_eq_some hstyle) _ ?_)
      exact Tree.value_mem_preorder style

/-! ### Rules at work -/

/-- The value that the last of some rules to declare an attribute gives it. -/
def lastDeclared (rules : List (StyleRule α)) (a : Attribute) : Option (a.Value α) :=
  rules.reverse.findSome? (·.declarations.get? a)

/-- The value that rules give an attribute of an element: that of the last rule with an id that
chooses the element and declares the attribute, and where there is none that of the last such rule
without an id. -/
def ruled (rules : List (StyleRule α)) (e : Element α) (ancestors : List (Element α))
    (a : Attribute) : Option (a.Value α) :=
  let chosen (rs : List (StyleRule α)) := rs.filter (·.chooses e ancestors)
  (lastDeclared (chosen (rules.filter (·.criteria.id.isSome))) a).or
    (lastDeclared (chosen (rules.filter (·.criteria.id.isNone))) a)

variable {rules : List (StyleRule α)} {e : Element α} {ancestors : List (Element α)}
  {a : Attribute}

theorem lastDeclared_append (rules later : List (StyleRule α)) :
    lastDeclared (rules ++ later) a = (lastDeclared later a).or (lastDeclared rules a) := by
  simp only [lastDeclared, List.reverse_append, List.findSome?_append]

/-- Declarations that are merged in one rule after the other leave the last one. -/
theorem get?_merge_declarations (h : ∀ r ∈ rules, r.declarations.NodupKeys)
    (ps : Properties α) : (ps.merge (rules.flatMap (·.declarations))).get? a =
      (lastDeclared rules a).or (ps.get? a) := by
  induction rules generalizing ps with
  | nil => rfl
  | cons r rules ih =>
    obtain ⟨hr, hrules⟩ := List.forall_mem_cons.mp h
    rw [List.flatMap_cons, Properties.merge_append, ih hrules, Properties.get?_merge hr,
      ← List.singleton_append, lastDeclared_append, Option.or_assoc]
    simp [lastDeclared]

/-- The order of a style sheet: the rules with an id stand behind the others. -/
def layered (rules : List (StyleRule α)) : List (StyleRule α) :=
  rules.filter (·.criteria.id.isNone) ++ rules.filter (·.criteria.id.isSome)

theorem mem_layered : r ∈ layered rules ↔ r ∈ rules := by
  simp only [layered, List.mem_append, List.mem_filter, ← and_or_left]
  cases r.criteria.id <;> simp

/-- In the order of a style sheet the last rule wins. -/
theorem lastDeclared_layered (rules : List (StyleRule α)) :
    lastDeclared ((layered rules).filter (·.chooses e ancestors)) a =
      ruled rules e ancestors a := by
  rw [ruled, layered, List.filter_append, lastDeclared_append]

theorem ruled_layered (rules : List (StyleRule α)) :
    ruled (layered rules) e ancestors a = ruled rules e ancestors a := by
  have hboth (id : Option String) : (id.isSome && id.isNone) = false := by cases id <;> rfl
  simp [ruled, layered, List.filter_filter, hboth, Bool.and_comm (Option.isNone _)]

/-- A style holds an element's own attributes over what rules declare, that over what is inherited,
both within the vocabulary, and all that over the defaults. -/
theorem resolve_get? {sheet : StyleSheet α} (hsheet : sheet.rules = layered rules)
    (hrules : ∀ r ∈ rules, r.declarations.NodupKeys) {inherited : Properties α}
    (he : e.attributes.NodupKeys) (hinherited : inherited.NodupKeys) (a : Attribute) :
    (sheet.resolve e ancestors inherited).get? a =
      (e.attributes.get? a).or
        ((if e.tag.allows a then (ruled rules e ancestors a).or (inherited.get? a) else none).or
          ((sheet.defaults e.tag).get? a)) := by
  have hchosen : ∀ r ∈ (layered rules).filter (·.chooses e ancestors),
      r.declarations.NodupKeys :=
    fun r hr => hrules r (mem_layered.mp (List.mem_filter.mp hr).1)
  rw [resolve, hsheet, Properties.get?_merge he, Properties.get?_merge_only]
  congr 1
  split
  · rw [Properties.merge_append, get?_merge_declarations hchosen, Properties.get?_merge hinherited,
      lastDeclared_layered, Option.or_assoc]
  · rfl

section Declarations

variable [Scalar α] {declaredStyles declaredRules : List (DiagramTree α)}
  {defaults : Tag → Properties α} {sheet : StyleSheet α}

/-- What a style sheet is made of: the styles and the rules that are read, the rules in its order,
and the defaults of the tags with those that override them. -/
theorem ofDeclarations_reads
    (h : ofDeclarations declaredStyles declaredRules defaults = .ok sheet) :
    ∃ styles rules, readStyles declaredStyles = .ok styles ∧
      List.Forall₂ (Reads styles) (Tree.lineagesAll [] declaredRules) rules ∧
      sheet = ⟨styles, layered rules, fun tag => tag.defaults.merge (defaults tag)⟩ := by
  simp only [ofDeclarations, Except.bind_eq_ok, Except.pure_eq_ok] at h
  obtain ⟨styles, hstyles, rules, hrules, rfl⟩ := h
  exact ⟨styles, rules, hstyles, readRules_reads hrules, rfl⟩

/-- Rules that can be read one by one make a style sheet. -/
theorem exists_ofDeclarations {styles : List (String × Properties α)}
    (hstyles : readStyles declaredStyles = .ok styles)
    (hrules : ∀ l ∈ Tree.lineagesAll [] declaredRules, ∃ r, Reads styles l r) :
    ∃ sheet, ofDeclarations declaredStyles declaredRules defaults = .ok sheet := by
  obtain ⟨rules, h⟩ := exists_readRules hrules
  simp only [ofDeclarations, Except.bind_eq_ok, Except.pure_eq_ok]
  exact ⟨_, styles, hstyles, rules, h, rfl⟩

/-- The cascade over the rules as they are declared. -/
theorem resolve_declared (hstyles : ∀ t ∈ declaredStyles, t.Distinct)
    (hrules : ∀ t ∈ declaredRules, t.Distinct) (hdefaults : ∀ tag, (defaults tag).NodupKeys)
    (h : ofDeclarations declaredStyles declaredRules defaults = .ok sheet) :
    ∃ rules, List.Forall₂ (Declares declaredStyles) (Tree.lineagesAll [] declaredRules) rules ∧
      sheet.rules = layered rules ∧
      ∀ e ancestors inherited, e.attributes.NodupKeys → inherited.NodupKeys → ∀ a,
        (sheet.resolve e ancestors inherited).get? a =
          (e.attributes.get? a).or
            ((if e.tag.allows a then (ruled rules e ancestors a).or (inherited.get? a)
              else none).or
              (((defaults e.tag).get? a).or (e.tag.defaults.get? a))) := by
  obtain ⟨styles, rules, hread, hreads, rfl⟩ := ofDeclarations_reads h
  have helements : ∀ rule ∈ Tree.lineagesAll [] declaredRules, rule.1.attributes.NodupKeys := by
    intro rule hrule
    rw [Tree.lineagesAll_eq_flatMap] at hrule
    obtain ⟨t, ht, hrule⟩ := List.mem_flatMap.mp hrule
    refine hrules t ht rule.1 ?_
    rw [← Tree.map_fst_lineages []]
    exact List.mem_map_of_mem hrule
  have hdistinct : ∀ r ∈ rules, r.declarations.NodupKeys := by
    intro r hr
    obtain ⟨rule, hrule, hr⟩ := hreads.exists_left hr
    exact readDeclarations_nodupKeys hstyles hread (helements rule hrule) hr.declarations
  refine ⟨rules, ?_, rfl, fun e ancestors inherited he hinherited a => ?_⟩
  · exact hreads.imp_of_mem fun rule hrule r hr => hr.declares hread (helements rule hrule)
  · rw [resolve_get? rfl hdistinct he hinherited, Properties.get?_merge (hdefaults e.tag)]

end Declarations

/-! ### Moving rules -/

/-- Two lists of rules differ in nothing but how the rules with an id stand among the others: of
either sort both have the same rules, inside the same rules and in the same order. -/
structure SameLayers (rules rules' : List (DiagramTree α)) : Prop where
  withId : (Tree.lineagesAll [] rules).filter (·.1.asksForId) =
    (Tree.lineagesAll [] rules').filter (·.1.asksForId)
  withoutId : (Tree.lineagesAll [] rules).filter (!·.1.asksForId) =
    (Tree.lineagesAll [] rules').filter (!·.1.asksForId)

theorem SameLayers.mem {ts ts' : List (DiagramTree α)} (h : SameLayers ts ts')
    (hrule : rule ∈ Tree.lineagesAll [] ts') : rule ∈ Tree.lineagesAll [] ts := by
  by_cases hid : rule.1.asksForId
  · have hmem : rule ∈ (Tree.lineagesAll [] ts').filter (·.1.asksForId) :=
      List.mem_filter.mpr ⟨hrule, hid⟩
    rw [← h.withId] at hmem
    exact (List.mem_filter.mp hmem).1
  · have hmem : rule ∈ (Tree.lineagesAll [] ts').filter (!·.1.asksForId) :=
      List.mem_filter.mpr ⟨hrule, by simpa using hid⟩
    rw [← h.withoutId] at hmem
    exact (List.mem_filter.mp hmem).1

theorem Reads.filter {ls : List (Element α × List (Element α))} {rs : List (StyleRule α)}
    (h : List.Forall₂ (Reads styles) ls rs) :
    List.Forall₂ (Reads styles) (ls.filter (·.1.asksForId)) (rs.filter (·.criteria.id.isSome)) ∧
      List.Forall₂ (Reads styles) (ls.filter (!·.1.asksForId))
        (rs.filter (·.criteria.id.isNone)) := by
  constructor
  · refine List.rel_filter (fun rule r hr => ?_) h
    simp only [hr.asksForId]
  · refine List.rel_filter (fun rule r hr => ?_) h
    simp only [hr.asksForId, Option.not_isSome]

/-- A style does not depend on where the rules stand that give it. -/
theorem resolve_congr {sheet sheet' : StyleSheet α}
    (hrules : sheet.rules.map StyleRule.unplaced = sheet'.rules.map StyleRule.unplaced)
    (hdefaults : sheet.defaults = sheet'.defaults) (e : Element α) (ancestors : List (Element α))
    (inherited : Properties α) :
    sheet.resolve e ancestors inherited = sheet'.resolve e ancestors inherited := by
  have hdeclared (rules : List (StyleRule α)) :
      (rules.filter (·.chooses e ancestors)).flatMap (·.declarations) =
        ((rules.map StyleRule.unplaced).filter (·.chooses e ancestors)).flatMap
          (·.declarations) := by
    rw [List.filter_map, List.flatMap_map]
    rfl
  rw [resolve, resolve, hdeclared, hdeclared sheet'.rules, hrules, hdefaults]

/-- Rules whose order is changed in this way make a style sheet that gives the same styles: either
sort is read of the same elements, so that its rules differ in their places only. -/
theorem SameLayers.resolve [Scalar α] {styles rules rules' : List (DiagramTree α)}
    {defaults : Tag → Properties α} {sheet : StyleSheet α} (hsame : SameLayers rules rules')
    (h : ofDeclarations styles rules defaults = .ok sheet) :
    ∃ sheet', ofDeclarations styles rules' defaults = .ok sheet' ∧
      ∀ e ancestors inherited,
        sheet'.resolve e ancestors inherited = sheet.resolve e ancestors inherited := by
  obtain ⟨read, declared, hread, hreads, rfl⟩ := ofDeclarations_reads h
  obtain ⟨sheet', h'⟩ := exists_ofDeclarations hread fun rule hrule =>
    (hreads.exists_right (hsame.mem hrule)).imp fun _ => And.right
  obtain ⟨read', declared', hread', hreads', rfl⟩ := ofDeclarations_reads h'
  obtain rfl := Except.ok.inj (hread.symm.trans hread')
  refine ⟨_, h', resolve_congr ?_ rfl⟩
  have hfilter := Reads.filter hreads
  have hfilter' := Reads.filter hreads'
  rw [← hsame.withId, ← hsame.withoutId] at hfilter'
  simp only [layered, List.map_append]
  rw [map_unplaced_eq hfilter'.1 hfilter.1, map_unplaced_eq hfilter'.2 hfilter.2]

/-- The rules of a style sheet, in the order of their declaration, say what their elements declare,
and the cascade over them gives an attribute its value: that of the element itself, or else, within
the vocabulary of its tag, that of the last rule with an id, of the last rule without one, or what
is inherited, or else the default. Rules with an id may be moved past the others. -/
theorem resolve_cascade [Scalar α] {styles rules : List (DiagramTree α)}
    {defaults : Tag → Properties α} {sheet : StyleSheet α} (hstyles : ∀ t ∈ styles, t.Distinct)
    (hrules : ∀ t ∈ rules, t.Distinct) (hdefaults : ∀ tag, (defaults tag).NodupKeys)
    (h : ofDeclarations styles rules defaults = .ok sheet) :
    (∃ declared, List.Forall₂ (Declares styles) (Tree.lineagesAll [] rules) declared ∧
      ∀ e ancestors inherited, e.attributes.NodupKeys → inherited.NodupKeys → ∀ a,
        (sheet.resolve e ancestors inherited).get? a =
          (e.attributes.get? a).or
            ((if e.tag.allows a then (ruled declared e ancestors a).or (inherited.get? a)
              else none).or
              (((defaults e.tag).get? a).or (e.tag.defaults.get? a)))) ∧
      ∀ rules', SameLayers rules rules' →
        ∃ sheet', ofDeclarations styles rules' defaults = .ok sheet' ∧
          ∀ e ancestors inherited,
            sheet'.resolve e ancestors inherited = sheet.resolve e ancestors inherited := by
  obtain ⟨declared, hdeclares, -, hresolve⟩ := resolve_declared hstyles hrules hdefaults h
  exact ⟨⟨declared, hdeclares, hresolve⟩, fun rules' hsame => hsame.resolve h⟩

/-- A style and, in front of a rule with a class that refers to it, a rule with an id. -/
def cardStyles : List (DiagramTree Rat) :=
  let attributes : Properties Rat := [⟨.fill, some ⟨255, 0, 0⟩⟩, ⟨.stroke, none⟩]
  [.node { tag := .style, id := some "base", attributes } []]

def cardRules : List (DiagramTree Rat) :=
  [.node { tag := .rule, id := some "x", attributes := [⟨.fill, some ⟨0, 0, 255⟩⟩] } [],
    .node { tag := .rule, classes := ["card"], attributes := [⟨.style, "base"⟩] }
      [.node { tag := .rule, classes := ["title"], attributes := [⟨.fontSize, 18⟩] } []]]

def cardShape : Element Rat :=
  { tag := .rect, id := some "x", classes := ["card"], attributes := [⟨.width, 5⟩] }

theorem cardRules_resolve_cascade :
    (∀ t ∈ cardStyles, t.Distinct) ∧ (∀ t ∈ cardRules, t.Distinct) ∧
      ∃ sheet, ofDeclarations cardStyles cardRules (fun _ => []) = .ok sheet ∧
        (∃ declared,
          List.Forall₂ (Declares cardStyles) (Tree.lineagesAll [] cardRules) declared ∧
            (sheet.resolve cardShape [] []).get? .fill =
              ((ruled declared cardShape [] .fill).or none).or
                (cardShape.tag.defaults.get? .fill)) ∧
        SameLayers cardRules cardRules.reverse ∧
        ∃ sheet', ofDeclarations cardStyles cardRules.reverse (fun _ => []) = .ok sheet' ∧
          ∀ e ancestors inherited,
            sheet'.resolve e ancestors inherited = sheet.resolve e ancestors inherited := by
  have hstyles : ∀ t ∈ cardStyles, t.Distinct := by
    simp [cardStyles, DiagramTree.Distinct, Tree.preorderAll]
  have hrules : ∀ t ∈ cardRules, t.Distinct := by
    simp [cardRules, DiagramTree.Distinct, Tree.preorderAll]
  have hsame : SameLayers cardRules cardRules.reverse := ⟨rfl, rfl⟩
  obtain ⟨sheet, h⟩ : ∃ sheet, ofDeclarations cardStyles cardRules (fun _ => []) = .ok sheet :=
    ⟨_, rfl⟩
  obtain ⟨⟨declared, hdeclares, hresolve⟩, hmoved⟩ :=
    resolve_cascade hstyles hrules (fun _ => List.nodupKeys_nil) h
  have hfill := hresolve cardShape [] [] (List.nodupKeys_singleton _) List.nodupKeys_nil .fill
  exact ⟨hstyles, hrules, sheet, h, ⟨declared, hdeclares, hfill⟩, hsame, hmoved _ hsame⟩

end StyleSheet

end GridDiagram
