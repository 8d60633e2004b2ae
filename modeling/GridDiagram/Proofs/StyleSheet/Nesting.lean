import GridDiagram.Proofs.StyleSheet.Cascade
import Mathlib.Data.List.NodupEquivFin

/-!
Rules inside rules: which elements they choose. A rule asks for one ancestor for each rule around
it, the one for an outer rule above the one for an inner rule, and the search from the nearest
ancestor upwards finds such a chain of ancestors wherever there is one.
-/

namespace GridDiagram

variable {α : Type}

/-! ### Criteria -/

/-- An element carries what criteria ask for: the id, if they ask for one, and all of the classes.
-/
structure Criteria.Fulfilled (c : Criteria) (e : Element α) : Prop where
  id : ∀ id, c.id = some id → e.id = some id
  classes : ∀ name ∈ c.classes, name ∈ e.classes

theorem Criteria.admits_iff {c : Criteria} {e : Element α} :
    c.admits e = true ↔ c.Fulfilled e := by
  have hfulfilled : c.Fulfilled e ↔
      (∀ id, c.id = some id → e.id = some id) ∧ ∀ name ∈ c.classes, name ∈ e.classes :=
    ⟨fun h => ⟨h.id, h.classes⟩, fun h => ⟨h.1, h.2⟩⟩
  rw [hfulfilled, admits, Bool.and_eq_true, List.all_eq_true]
  simp only [List.contains_iff_mem]
  refine and_congr_left fun _ => ?_
  cases c.id <;> simp

/-! ### Chains of ancestors -/

/-- An element of a path for each of some criteria, in the order of the path. -/
structure CriteriaChain (cs : List Criteria) (path : List (Element α)) where
  position : Fin cs.length → Fin path.length
  strictMono : StrictMono position
  fulfilled : ∀ j, (cs.get j).Fulfilled (path.get (position j))

theorem nonempty_criteriaChain_iff {cs : List Criteria} {path : List (Element α)} :
    Nonempty (CriteriaChain cs path) ↔ List.SublistForall₂ Criteria.Fulfilled cs path := by
  rw [List.sublistForall₂_iff]
  constructor
  · rintro ⟨position, strictMono, fulfilled⟩
    refine ⟨List.ofFn fun j => path.get (position j), ?_, ?_⟩
    · refine List.forall₂_iff_get.mpr ⟨List.length_ofFn.symm, fun j hj _ => ?_⟩
      simpa using fulfilled ⟨j, hj⟩
    · rw [List.sublist_iff_exists_fin_orderEmbedding_get_eq]
      have hlength : (List.ofFn fun j => path.get (position j)).length = cs.length :=
        List.length_ofFn
      have hmono : StrictMono fun j : Fin _ => position (j.cast hlength) :=
        fun i j hij => strictMono hij
      exact ⟨.ofStrictMono _ hmono, fun j => List.get_ofFn ..⟩
  · rintro ⟨chosen, hall, hsub⟩
    obtain ⟨f, hf⟩ := List.sublist_iff_exists_fin_orderEmbedding_get_eq.mp hsub
    obtain ⟨hlength, hget⟩ := List.forall₂_iff_get.mp hall
    refine ⟨⟨fun j => f (j.cast hlength), fun i j hij => f.strictMono hij, fun j => ?_⟩⟩
    rw [← hf]
    exact hget j j.isLt (hlength ▸ j.isLt)

theorem sublistForall₂_reverse_iff {cs : List Criteria} {path : List (Element α)} :
    List.SublistForall₂ Criteria.Fulfilled cs.reverse path.reverse ↔
      List.SublistForall₂ Criteria.Fulfilled cs path := by
  have reverse {cs : List Criteria} {path : List (Element α)}
      (h : List.SublistForall₂ Criteria.Fulfilled cs path) :
      List.SublistForall₂ Criteria.Fulfilled cs.reverse path.reverse := by
    obtain ⟨chosen, hall, hsub⟩ := List.sublistForall₂_iff.mp h
    exact List.sublistForall₂_iff.mpr
      ⟨chosen.reverse, List.forall₂_reverse_iff.mpr hall, List.reverse_sublist.mpr hsub⟩
  refine ⟨fun h => ?_, reverse⟩
  simpa using reverse h

/-- What is inside a chain is a chain. -/
theorem sublistForall₂_of_cons {c : Criteria} {cs : List Criteria} {path : List (Element α)}
    (h : List.SublistForall₂ Criteria.Fulfilled (c :: cs) path) :
    List.SublistForall₂ Criteria.Fulfilled cs path := by
  obtain ⟨chosen, hall, hsub⟩ := List.sublistForall₂_iff.mp h
  obtain ⟨e, rest, -, hrest, rfl⟩ := List.forall₂_cons_left_iff.mp hall
  exact List.sublistForall₂_iff.mpr ⟨rest, hrest, (List.sublist_cons_self e rest).trans hsub⟩

/-- The search for ancestors takes the first that fulfils the criteria, and misses no chain by
that: what is left of a chain behind a later one is behind the first one, too. -/
theorem enclosedBy_iff {cs : List Criteria} {ancestors : List (Element α)} :
    enclosedBy cs ancestors = true ↔ List.SublistForall₂ Criteria.Fulfilled cs ancestors := by
  fun_induction enclosedBy cs ancestors with
  | case1 => exact iff_of_true rfl .nil
  | case2 => exact iff_of_false Bool.false_ne_true nofun
  | case3 c cs a ancestors hadmits ih =>
    rw [ih]
    refine ⟨.cons (Criteria.admits_iff.mp hadmits), fun h => ?_⟩
    cases h with
    | cons _ h => exact h
    | cons_right h => exact sublistForall₂_of_cons h
  | case4 c cs a ancestors hadmits ih =>
    rw [ih]
    refine ⟨.cons_right, fun h => ?_⟩
    cases h with
    | cons ha _ => exact absurd (Criteria.admits_iff.mpr ha) hadmits
    | cons_right h => exact h

namespace StyleRule

variable {r outer : StyleRule α}

/-- A rule chooses an element that fulfils its own criteria, below a chain of ancestors for the
rules around it. -/
theorem chooses_iff (r : StyleRule α) (e : Element α) (above : List (Element α)) :
    r.chooses e above.reverse = true ↔
      r.criteria.Fulfilled e ∧ Nonempty (CriteriaChain r.enclosing.reverse above) := by
  rw [chooses, Bool.and_eq_true, Criteria.admits_iff, enclosedBy_iff, nonempty_criteriaChain_iff,
    ← sublistForall₂_reverse_iff, List.reverse_reverse]

/-- A rule inside another one chooses an element below one that the outer rule chooses. -/
theorem chooses_of_inside (h : r.enclosing = outer.criteria :: outer.enclosing) (e : Element α)
    (ancestors : List (Element α)) :
    r.chooses e ancestors = true ↔ r.criteria.admits e = true ∧
      ∃ i, ∃ hi : i < ancestors.length,
        outer.chooses ancestors[i] (ancestors.drop (i + 1)) = true := by
  rw [chooses, Bool.and_eq_true, h]
  refine and_congr_right fun _ => ?_
  simp only [chooses, Bool.and_eq_true, enclosedBy_iff, Criteria.admits_iff]
  induction ancestors with
  | nil =>
    refine iff_of_false nofun ?_
    rintro ⟨i, hi, -⟩
    exact absurd hi (Nat.not_lt_zero i)
  | cons a ancestors ih =>
    constructor
    · intro hchain
      cases hchain with
      | cons ha hrest => exact ⟨0, Nat.zero_lt_succ _, ha, hrest⟩
      | cons_right hrest =>
        obtain ⟨i, hi, hchosen⟩ := ih.mp hrest
        exact ⟨i + 1, Nat.succ_lt_succ hi, hchosen⟩
    · rintro ⟨i, hi, ha, hrest⟩
      cases i with
      | zero => exact .cons ha hrest
      | succ i => exact .cons_right (ih.mpr ⟨i, Nat.lt_of_succ_lt_succ hi, ha, hrest⟩)

end StyleRule

namespace StyleSheet

/-! ### Rules as they are read -/

/-- Rules in the order in which they are read: each stands at its position, and around it are the
rule at the position of its parent, which stands before it, and those around that one. -/
structure Nested (rules : List (StyleRule α)) : Prop where
  position : ∀ i (r : StyleRule α), rules[i]? = some r → r.position = i
  outermost : ∀ r ∈ rules, r.parent = none → r.enclosing = []
  inside : ∀ r ∈ rules, ∀ p, r.parent = some p → p < r.position ∧
    ∃ outer, rules[p]? = some outer ∧ r.enclosing = outer.criteria :: outer.enclosing

theorem getElem?_append_of_some {rules later : List (StyleRule α)} {p : Nat} {r : StyleRule α}
    (h : rules[p]? = some r) : (rules ++ later)[p]? = some r :=
  (List.getElem?_append_left (List.getElem?_eq_some_iff.mp h).1).trans h

/-- What rules have around them on the way down: nothing, or the rule at a position and the rules
around that one. -/
structure Enclosure.Names (outer : Enclosure) (rules : List (StyleRule α)) : Prop where
  outermost : outer.parent = none → outer.criteria = []
  inside : ∀ p, outer.parent = some p →
    ∃ r, rules[p]? = some r ∧ outer.criteria = r.criteria :: r.enclosing

theorem Enclosure.Names.append {outer : Enclosure} {rules : List (StyleRule α)}
    (h : outer.Names rules) (later : List (StyleRule α)) : outer.Names (rules ++ later) := by
  refine ⟨h.outermost, fun p hp => ?_⟩
  obtain ⟨r, hr, hcriteria⟩ := h.inside p hp
  exact ⟨r, getElem?_append_of_some hr, hcriteria⟩

/-- A rule that is read behind others has around it what is named. -/
theorem Nested.append_rule {outer : Enclosure} {rules : List (StyleRule α)} (h : Nested rules)
    (houter : outer.Names rules) {r : StyleRule α} (hposition : r.position = rules.length)
    (hparent : r.parent = outer.parent) (henclosing : r.enclosing = outer.criteria) :
    Nested (rules ++ [r]) := by
  constructor
  · intro i r' hr'
    rw [List.getElem?_append] at hr'
    split at hr'
    · exact h.position i r' hr'
    · obtain ⟨hi, hr'⟩ := List.getElem?_eq_some_iff.mp hr'
      obtain rfl := hr'.symm.trans (List.getElem_singleton ..)
      rw [List.length_singleton] at hi
      omega
  · intro r' hr' hnone
    obtain hr' | hr' := List.mem_append.mp hr'
    · exact h.outermost r' hr' hnone
    · obtain rfl := List.mem_singleton.mp hr'
      exact henclosing.trans (houter.outermost (hparent.symm.trans hnone))
  · intro r' hr' p hp
    obtain hr' | hr' := List.mem_append.mp hr'
    · obtain ⟨hlt, r'', hr'', hcriteria⟩ := h.inside r' hr' p hp
      exact ⟨hlt, r'', getElem?_append_of_some hr'', hcriteria⟩
    · obtain rfl := List.mem_singleton.mp hr'
      obtain ⟨r'', hr'', hcriteria⟩ := houter.inside p (hparent.symm.trans hp)
      refine ⟨?_, r'', getElem?_append_of_some hr'', henclosing.trans hcriteria⟩
      rw [hposition]
      exact (List.getElem?_eq_some_iff.mp hr'').1

/-- Reading a rule, and those inside it, goes on behind the rules that were read. -/
theorem readRule_nested {styles : List (String × Properties α)} {t : DiagramTree α}
    {outer : Enclosure} {before rules : List (StyleRule α)} (hbefore : Nested before)
    (houter : outer.Names before) (h : readRule styles outer before t = .ok rules) :
    Nested rules ∧ before <+: rules := by
  induction t using Tree.induct generalizing outer before rules with
  | step e ts ih =>
    simp only [readRule, Except.guard_eq_ok, Except.bind_eq_ok, Except.mapError_eq_ok,
      readRules_eq_foldlM] at h
    obtain ⟨-, criteria, -, declarations, -, h⟩ := h
    set r : StyleRule α := ⟨criteria, outer.criteria, declarations, before.length, outer.parent⟩
    have hrules := hbefore.append_rule houter (r := r) rfl rfl rfl
    have hnames : Enclosure.Names ⟨some before.length, criteria :: outer.criteria⟩
        (before ++ [r]) := by
      refine ⟨fun hnone => absurd hnone (Option.some_ne_none _), fun p hp => ?_⟩
      obtain rfl := Option.some.inj hp
      exact ⟨r, List.getElem?_concat_length, rfl⟩
    have hrun := Except.foldlM_ok
      (P := fun rules => Nested rules ∧ before ++ [r] <+: rules) h ⟨hrules, List.prefix_rfl⟩
      fun t ht b b' hb hb' => ?_
    · exact ⟨hrun.1, (List.prefix_append before [r]).trans hrun.2⟩
    · obtain ⟨later, rfl⟩ := hb.2
      obtain ⟨hnested, hprefix⟩ := ih t ht hb.1 (hnames.append later) hb'
      exact ⟨hnested, hb.2.trans hprefix⟩

theorem readRules_nested {styles : List (String × Properties α)} {ts : List (DiagramTree α)}
    {rules : List (StyleRule α)} (h : readRules styles ⟨none, []⟩ [] ts = .ok rules) :
    Nested rules := by
  rw [readRules_eq_foldlM] at h
  have hnames (before : List (StyleRule α)) : Enclosure.Names ⟨none, []⟩ before :=
    ⟨fun _ => rfl, nofun⟩
  exact Except.foldlM_ok (P := Nested) h ⟨by simp, by simp, by simp⟩
    fun t _ before _ hbefore hrun =>
    (readRule_nested hbefore (hnames before) hrun).1

/-- A rule inside another one chooses an element below one that the rule at the position of its
parent chooses. -/
theorem Nested.chooses_iff {rules : List (StyleRule α)} (h : Nested rules) {r : StyleRule α}
    (hr : r ∈ rules) {p : Nat} (hp : r.parent = some p) :
    ∃ outer, rules[p]? = some outer ∧ ∀ e ancestors,
      r.chooses e ancestors = true ↔ r.criteria.admits e = true ∧
        ∃ i, ∃ hi : i < ancestors.length,
          outer.chooses ancestors[i] (ancestors.drop (i + 1)) = true := by
  obtain ⟨-, outer, houter, henclosing⟩ := h.inside r hr p hp
  exact ⟨outer, houter, r.chooses_of_inside henclosing⟩

/-- The style of every element of a tree comes of the rules that choose it below the elements around
it, of which it is none itself. -/
theorem apply_lineages (sheet : StyleSheet α) (ancestors : List (Element α))
    (inherited : Properties α) (t : DiagramTree α) :
    List.Forall₂ (fun element styled => ∃ inherited,
        styled = { element.1 with style := sheet.resolve element.1 element.2 inherited })
      (t.lineages ancestors) (sheet.apply ancestors inherited t).preorder := by
  induction t using Tree.induct generalizing ancestors inherited with
  | step e ts ih =>
    rw [apply, applyAll_eq_map, Tree.lineages_node, Tree.preorder_node,
      Tree.preorderAll_eq_flatMap, List.flatMap_map]
    exact .cons ⟨inherited, rfl⟩ (.flatMap fun t ht => ih t ht _ _)

/-- The rules of a style sheet are those that were declared, each with its own criteria and those of
the rules around it. Any rule chooses exactly the elements that fulfil its own criteria and have, on
the way down from the root to them, an ancestor for each of the rules around it, from the outermost
rule inwards further and further down. The ancestors of an element of a tree are the elements around
it. -/
theorem rules_choose_by_chain [Scalar α] {styles rules : List (DiagramTree α)}
    {defaults : Tag → Properties α} {sheet : StyleSheet α}
    (h : ofDeclarations styles rules defaults = .ok sheet) :
    (∃ declared, sheet.rules = layered declared ∧ Nested declared ∧
      List.Forall₂ (fun rule r => Criteria.ofRule rule.1 = .ok r.criteria ∧
          rule.2.mapM Criteria.ofRule = .ok r.enclosing)
        (Tree.lineagesAll [] rules) declared) ∧
      (∀ (r : StyleRule α) (e : Element α) (above : List (Element α)),
        r.chooses e above.reverse = true ↔
          r.criteria.Fulfilled e ∧ Nonempty (CriteriaChain r.enclosing.reverse above)) ∧
      ∀ t : DiagramTree α, List.Forall₂ (fun element styled => ∃ inherited,
          styled = { element.1 with style := sheet.resolve element.1 element.2 inherited })
        (t.lineages []) (sheet.styled t).preorder := by
  simp only [ofDeclarations, Except.bind_eq_ok, Except.pure_eq_ok] at h
  obtain ⟨styles, -, declared, hdeclared, rfl⟩ := h
  refine ⟨⟨declared, rfl, readRules_nested hdeclared, ?_⟩, StyleRule.chooses_iff,
    apply_lineages _ [] []⟩
  exact (readRules_reads hdeclared).imp fun _ _ hr => ⟨hr.criteria, hr.enclosing⟩

def cardRoot : Element Rat :=
  { tag := .layout }

def cardGroup : Element Rat :=
  { tag := .group, classes := ["card"] }

/-- A title that is a card itself. -/
def cardTitle : Element Rat :=
  { tag := .text, classes := ["card", "title"] }

theorem cardRules_choose_by_chain :
    ∃ sheet, ofDeclarations cardStyles cardRules (fun _ => []) = .ok sheet ∧
      ∃ r ∈ sheet.rules, r.enclosing.reverse = [⟨none, ["card"]⟩] ∧
        (∃ declared, sheet.rules = layered declared ∧ Nested declared) ∧
        r.criteria.Fulfilled cardTitle ∧
        Nonempty (CriteriaChain r.enclosing.reverse [cardRoot, cardGroup]) ∧
        ¬Nonempty (CriteriaChain r.enclosing.reverse [cardRoot]) := by
  obtain ⟨sheet, h, r, hr, henclosing, hchosen, hown⟩ :
      ∃ sheet, ofDeclarations cardStyles cardRules (fun _ => []) = .ok sheet ∧
        ∃ r ∈ sheet.rules, r.enclosing = [⟨none, ["card"]⟩] ∧
          r.chooses cardTitle [cardGroup, cardRoot] = true ∧
          r.chooses cardTitle [cardRoot] = false :=
    ⟨_, rfl, _, .tail _ (.head _), rfl, rfl, rfl⟩
  obtain ⟨⟨declared, hsheet, hnested, -⟩, hchooses, -⟩ := rules_choose_by_chain h
  obtain ⟨hfulfilled, hchain⟩ := (hchooses r cardTitle [cardRoot, cardGroup]).mp hchosen
  refine ⟨sheet, h, r, hr, ?_, ⟨declared, hsheet, hnested⟩, hfulfilled, hchain, fun hchain' => ?_⟩
  · rw [henclosing]
    rfl
  · have hself := (hchooses r cardTitle [cardRoot]).mpr ⟨hfulfilled, hchain'⟩
    exact Bool.false_ne_true (hown.symm.trans hself)

end StyleSheet

end GridDiagram
