import GridDiagram.Proofs.StyleSheet.Cascade
import GridDiagram.Proofs.Template.Qualified

/-!
Chains of uses. The root of a template may itself be a use, whose template may begin with a use in
turn. What comes of such a chain is the root at its end, overridden by all the uses at once: for
every attribute and for the place on the grid the first of them that says something is heard, from
the outermost use inwards.
-/

namespace GridDiagram

variable {α : Type}

/-! ### Names, each once -/

/-- The names seen so far, with one more. -/
def seeName (seen : List String) (name : String) : List String :=
  if name.isEmpty || seen.contains name then seen else seen ++ [name]

theorem distinctNames_eq_foldl (names : List String) :
    distinctNames names = names.foldl seeName [] :=
  rfl

theorem mem_seeName_of_mem {seen : List String} {n : String} (h : n ∈ seen) (name : String) :
    n ∈ seeName seen name := by
  unfold seeName
  split
  · exact h
  · exact List.mem_append_left _ h

theorem mem_foldl_seeName {seen names : List String} {n : String}
    (h : n ∈ seen ∨ (n ∈ names ∧ n.isEmpty = false)) : n ∈ names.foldl seeName seen := by
  induction names generalizing seen with
  | nil => simpa using h
  | cons name names ih =>
    refine ih ?_
    obtain h | ⟨h, hempty⟩ := h
    · exact .inl (mem_seeName_of_mem h name)
    · obtain rfl | h := List.mem_cons.mp h
      · left
        unfold seeName
        split
        · simp_all
        · simp
      · exact .inr ⟨h, hempty⟩

/-- Names may be seen one after the other or all at once: one that changes nothing among `names` is
empty, or is among what they leave. -/
theorem foldl_seeName_seeName (seen names : List String) (name : String) :
    (seeName names name).foldl seeName seen = seeName (names.foldl seeName seen) name := by
  by_cases h : (name.isEmpty || names.contains name) = true
  · have hseen : (name.isEmpty || (names.foldl seeName seen).contains name) = true := by
      by_cases hempty : name.isEmpty = true
      · simp [hempty]
      · have hmem : name ∈ names := by simpa [hempty] using h
        simpa [hempty] using mem_foldl_seeName (.inr ⟨hmem, by simpa using hempty⟩)
    rw [seeName, if_pos h, seeName, if_pos hseen]
  · rw [seeName, if_neg h, List.foldl_append, List.foldl_cons, List.foldl_nil]

theorem distinctNames_append_distinctNames (xs ys : List String) :
    distinctNames (xs ++ distinctNames ys) = distinctNames (xs ++ ys) := by
  have hfold (seen : List String) :
      (ys.foldl seeName seen).foldl seeName (distinctNames xs) =
        ys.foldl seeName (seen.foldl seeName (distinctNames xs)) := by
    induction ys generalizing seen with
    | nil => rfl
    | cons y ys ih => rw [List.foldl_cons, List.foldl_cons, ih, foldl_seeName_seeName]
  rw [distinctNames_eq_foldl, distinctNames_eq_foldl (xs ++ ys), List.foldl_append,
    List.foldl_append]
  exact hfold []

/-! ### Where an element says that it stands -/

/-- Between lines of a grid, or around a point. -/
inductive Standing (α : Type) where
  | grid (placement : Placement)
  | point (place : Pair α)

namespace Element

/-- Where an element says that it stands, if it says so. -/
def standing? (e : Element α) : Option (Standing α) :=
  if e.placed then some (.grid e.placement) else (e.attributes.get? .place).map .point

/-- An element stands where it is said to and nowhere else: in the first cell unless it has a
placement of its own. -/
def StandsAs (e : Element α) : Option (Standing α) → Prop
  | some (.grid p) => e.placed = true ∧ e.placement = p ∧ e.attributes.get? .place = none
  | some (.point q) =>
    e.placed = false ∧ e.placement = Placement.first ∧ e.attributes.get? .place = some q
  | none => e.placed = false ∧ e.placement = Placement.first ∧ e.attributes.get? .place = none

theorem standsAs_standing? {e : Element α}
    (hplace : e.placed = true → e.attributes.get? .place = none)
    (hfirst : e.placed = false → e.placement = Placement.first) : e.StandsAs e.standing? := by
  cases hplaced : e.placed with
  | true => simp [standing?, StandsAs, hplaced, hplace hplaced]
  | false =>
    cases hpoint : e.attributes.get? .place with
    | none => simp [standing?, StandsAs, hplaced, hpoint, hfirst hplaced]
    | some q => simp [standing?, StandsAs, hplaced, hpoint, hfirst hplaced]

theorem ofMarkup_placement [Scalar α] {m : Markup} {children : List Markup} {e : Element α}
    (h : ofMarkup m children = .ok e) : e.placed = false → e.placement = Placement.first := by
  simp only [ofMarkup] at h
  split at h
  · simp only [Except.bind_eq_ok, refuse_eq_ok, Except.mapError_eq_ok, Except.pure_eq_ok,
      exists_and_left, exists_const] at h
    obtain ⟨placement, -, -, _, -, _, -, rfl⟩ := h
    cases placement with
    | none => exact fun _ => rfl
    | some p =>
      intro hplaced
      cases hplaced
  · simp at h

/-! ### One override -/

theorem overriddenBy_classes (e u : Element α) :
    (e.overriddenBy u).classes = distinctNames (e.classes ++ u.classes) := by
  simp only [overriddenBy]
  split
  · rfl
  · split <;> rfl

theorem overriddenBy_nodupKeys {e : Element α} (he : e.attributes.NodupKeys) (u : Element α) :
    (e.overriddenBy u).attributes.NodupKeys := by
  have hmerge : List.NodupKeys (e.attributes.merge (u.attributes.only (· != .ref))) :=
    Properties.nodupKeys_merge he
  rw [overriddenBy_attributes]
  split
  · exact Properties.nodupKeys_only hmerge (· != .place)
  · exact hmerge

theorem get?_merge_override {e u : Element α} (hu : u.attributes.NodupKeys) {a : Attribute}
    (href : a ≠ .ref) :
    (e.attributes.merge (u.attributes.only (· != .ref))).get? a =
      (u.attributes.get? a).or (e.attributes.get? a) := by
  rw [Properties.get?_merge (Properties.nodupKeys_only hu _), Properties.get?_only (by simpa)]

theorem overriddenBy_get? {e u : Element α} (hu : u.attributes.NodupKeys) {a : Attribute}
    (href : a ≠ .ref) (hplace : a ≠ .place) :
    (e.overriddenBy u).attributes.get? a = (u.attributes.get? a).or (e.attributes.get? a) := by
  rw [overriddenBy_attributes]
  split
  · rw [Properties.get?_erase_of_ne hplace, get?_merge_override hu href]
  · exact get?_merge_override hu href

/-- Of a use and what it overrides, the one that says where it stands decides, the use first. -/
theorem overriddenBy_standing? {e u : Element α} (hu : u.attributes.NodupKeys) :
    (e.overriddenBy u).standing? = u.standing?.or e.standing? := by
  have hmerge := get?_merge_override (e := e) hu (a := .place) (by decide)
  cases hplaced : u.placed with
  | true => simp [standing?, overriddenBy, hplaced]
  | false =>
    cases hpoint : u.attributes.get? .place with
    | none => simp [standing?, overriddenBy, hplaced, hpoint, hmerge]
    | some q => simp [standing?, overriddenBy, hplaced, hpoint, hmerge]

theorem overriddenBy_first {e : Element α} (u : Element α)
    (he : e.placed = false → e.placement = Placement.first) :
    (e.overriddenBy u).placed = false → (e.overriddenBy u).placement = Placement.first := by
  simp only [overriddenBy]
  split
  · intro hplaced
    cases hplaced
  · split
    · exact fun _ => rfl
    · exact he

end Element

theorem DiagramTree.Distinct.instantiatedBy {t : DiagramTree α} (ht : t.Distinct) (u : Element α) :
    (t.instantiatedBy u).Distinct := by
  obtain ⟨e, ts⟩ := t
  obtain ⟨he, hts⟩ := Tree.forall_preorder_node.mp ht
  have hchildren := forall_children_instantiatedBy (P := Distinct) (e := e) (u := u) hts ?_
  · rw [instantiatedBy_eq] at hchildren ⊢
    exact Tree.forall_preorder_node.mpr ⟨Element.overriddenBy_nodupKeys he u, hchildren⟩
  · intro s id hs e he
    rw [Tree.preorder_map] at he
    obtain ⟨d, hd, rfl⟩ := List.mem_map.mp he
    exact hs d hd

/-! ### A chain of uses -/

theorem findSome?_cons_of_or {β γ : Type} {f : β → Option γ} {u v w : β}
    (h : f w = (f u).or (f v)) (l : List β) : (w :: l).findSome? f = (u :: v :: l).findSome? f := by
  rw [List.findSome?_cons, List.findSome?_cons, List.findSome?_cons, h]
  cases f u <;> rfl

/-- What a chain of uses makes of the root `e` at its end: `u` is the outermost use, and `us` are
the roots between, from the outside inwards. -/
structure Merges (u : Element α) (us : List (Element α)) (e x : Element α) : Prop where
  id : x.id = u.id
  kind : x.kind = e.kind
  tag : x.tag = e.tag
  lines : x.lines = e.lines
  attributes : ∀ a, a ≠ .ref → a ≠ .place →
    x.attributes.get? a = (u :: us ++ [e]).findSome? (·.attributes.get? a)
  standing : x.StandsAs ((u :: us ++ [e]).findSome? Element.standing?)
  classes : x.classes = distinctNames ((u :: us ++ [e]).reverse.flatMap (·.classes))

theorem Merges.root {u e : Element α} (hu : u.attributes.NodupKeys)
    (hplace : e.placed = true → e.attributes.get? .place = none)
    (hfirst : e.placed = false → e.placement = Placement.first) :
    Merges u [] e (e.overriddenBy u) where
  id := Element.overriddenBy_id e u
  kind := Element.overriddenBy_kind e u
  tag := Element.overriddenBy_tag e u
  lines := Element.overriddenBy_lines e u
  attributes a href hat := by
    have h := Element.overriddenBy_get? (e := e) hu href hat
    rw [List.cons_append, List.nil_append,
      ← findSome?_cons_of_or (f := fun e : Element α => e.attributes.get? a) h,
      List.findSome?_singleton]
  standing := by
    have h := Element.overriddenBy_standing? (e := e) hu
    rw [List.cons_append, List.nil_append, ← findSome?_cons_of_or h, List.findSome?_singleton]
    exact Element.standsAs_standing? (Element.overriddenBy_place hplace)
      (Element.overriddenBy_first u hfirst)
  classes := by simp [Element.overriddenBy_classes]

/-- One more use around a chain: it overrides the root that it stands for before that overrides the
rest. -/
theorem Merges.link {u v e x : Element α} {us : List (Element α)} (hu : u.attributes.NodupKeys)
    (h : Merges (v.overriddenBy u) us e x) : Merges u (v :: us) e x where
  id := h.id.trans (Element.overriddenBy_id v u)
  kind := h.kind
  tag := h.tag
  lines := h.lines
  attributes a href hat := by
    rw [h.attributes a href hat]
    exact findSome?_cons_of_or (f := (·.attributes.get? a))
      (Element.overriddenBy_get? hu href hat) (us ++ [e])
  standing := by
    have hstanding := h.standing
    rwa [List.cons_append, findSome?_cons_of_or (Element.overriddenBy_standing? hu)] at hstanding
  classes := by
    have happend := distinctNames_append_distinctNames
      ((us ++ [e]).reverse.flatMap (·.classes)) (v.classes ++ u.classes)
    simpa [h.classes, Element.overriddenBy_classes] using happend

namespace Registry

variable {r : Registry α} {t x y : DiagramTree α} {u e : Element α} {us : List (Element α)}

/-- The template of the use `u` has the root `e`, or one that is a use and leads there in turn by
way of the roots `us`. -/
inductive LeadsTo (r : Registry α) : Element α → List (Element α) → Element α → Prop where
  | root {u e : Element α} {n : String} {ts : List (DiagramTree α)} (hn : u.reference? = some n)
      (hs : r.lookup n = some (.node e ts)) (he : e.kind ≠ .use) : LeadsTo r u [] e
  | link {u v e : Element α} {n : String} {ts : List (DiagramTree α)} {us : List (Element α)}
      (hn : u.reference? = some n) (hs : r.lookup n = some (.node v ts)) (hv : v.kind = .use)
      (h : LeadsTo r v us e) : LeadsTo r u (v :: us) e

/-- Where a use leads depends on its reference only. -/
theorem LeadsTo.of_reference? {w : Element α} (h : r.LeadsTo u us e)
    (hw : w.reference? = u.reference?) : r.LeadsTo w us e := by
  cases h with
  | root hn hs he => exact .root (hw.trans hn) hs he
  | link hn hs hv h => exact .link (hw.trans hn) hs hv h

theorem exists_leadsTo {depth : Nat} {chain : List String}
    (h : r.instantiate depth chain u = .ok y) : ∃ us e, r.LeadsTo u us e := by
  induction depth generalizing chain u with
  | zero =>
    obtain ⟨_, _, _, -, -, hdepth, -⟩ := instantiate_ok h
    omega
  | succ depth ih =>
    obtain ⟨n, d, ⟨v, ts⟩, hn, -, hdepth, hs, hy, -⟩ := instantiate_ok h
    obtain rfl : depth = d := by omega
    by_cases hv : v.kind = .use
    · rw [DiagramTree.instantiatedBy_eq, DiagramTree.replaceUses_of_use (by simpa using hv)] at hy
      obtain ⟨us, e, hchain⟩ := ih hy
      exact ⟨v :: us, e, .link hn hs hv (hchain.of_reference? (by simp))⟩
    · exact ⟨[], v, .root hn hs hv⟩

/-- Every element of every template gives each of its attributes once. -/
def Distinct (r : Registry α) : Prop :=
  ∀ scope ∈ r, ∀ p ∈ scope.templates, p.2.Distinct

theorem Distinct.lookup (hr : r.Distinct) {n : String} {s : DiagramTree α}
    (h : r.lookup n = some s) : s.Distinct := by
  obtain ⟨scope, hscope, hmem⟩ := mem_of_lookup_eq_some h
  exact hr scope hscope _ hmem

theorem Instantiated.nodupKeys (hr : r.Distinct) (ht : t.Distinct) (h : r.Instantiated t u) :
    u.attributes.NodupKeys := by
  induction h with
  | direct hu => exact ht _ (DiagramTree.mem_uses.mp hu).1
  | nested _ _ hs hv _ => exact (hr.lookup hs).instantiatedBy _ _ (DiagramTree.mem_uses.mp hv).1

/-! ### The instance of a chain -/

/-- An instance is made of a use `w` that refers to what `u` refers to: in a chain, the root `u`
overridden by the uses around it. -/
theorem LeadsTo.merges [Scalar α] (hr : r.Read) (h : r.LeadsTo u us e) {w : Element α}
    {depth : Nat} {chain : List String} (href : w.reference? = u.reference?)
    (hdistinct : r.Distinct) (hw : w.attributes.NodupKeys)
    (hy : r.instantiate depth chain w = .ok y) : Merges w us e y.value := by
  induction h generalizing w depth chain with
  | @root u e n ts hn hs he =>
    obtain ⟨n', d, s, hn', -, -, hs', hy, -⟩ := instantiate_ok hy
    obtain rfl := Option.some.inj (hn'.symm.trans (href.trans hn))
    obtain rfl := Option.some.inj (hs.symm.trans hs')
    rw [DiagramTree.replaceUses_value hy] <;> rw [DiagramTree.instantiatedBy_eq, Tree.value_node]
    · obtain ⟨scope, hscope, hmem⟩ := mem_of_lookup_eq_some hs
      obtain ⟨⟨m, ms⟩, hm⟩ := hr scope hscope _ hmem
      obtain ⟨_, _, heq, hread, -⟩ := DiagramTree.ofMarkup_node hm
      obtain ⟨rfl, -⟩ := Tree.node.inj heq
      exact .root hw (Element.ofMarkup_wellFormed hread).1.place
        (Element.ofMarkup_placement hread)
    · simpa using he
  | @link u v e n ts us hn hs hv _ ih =>
    obtain ⟨n', d, s, hn', -, -, hs', hy, -⟩ := instantiate_ok hy
    obtain rfl := Option.some.inj (hn'.symm.trans (href.trans hn))
    obtain rfl := Option.some.inj (hs.symm.trans hs')
    rw [DiagramTree.instantiatedBy_eq, DiagramTree.replaceUses_of_use (by simpa using hv)] at hy
    have hv : v.attributes.NodupKeys := hdistinct.lookup hs v (Tree.value_mem_preorder (.node v ts))
    exact .link hw (ih (by simp) (Element.overriddenBy_nodupKeys hv w) hy)

/-- In an expansion that succeeds every use, in the tree or inside an instance, makes way for an
instance and leads by way of roots that are uses to one that is none. The root of the instance is
what all of them merge to at once: the id of the use; the kind, the tag and the lines of the last
root; for every attribute the value of the first that has it; the standing of the first that says
where it stands, or the first cell; and the classes of all, from the last to the first, each once.
-/
theorem instance_merges_chain [Scalar α] (hr : r.Read) (ht : t.Read) (hdistinct : r.Distinct)
    (htd : t.Distinct) (h : r.expand t = .ok x) :
    (∀ u, r.Instantiated t u →
      (∃ us e, r.LeadsTo u us e) ∧ ∃ y ∈ x.subtrees, r.Replaces t u y) ∧
    ∀ u us e y, r.LeadsTo u us e → r.Replaces t u y → Merges u us e y.value := by
  refine ⟨fun u hu => ?_, fun u us e y hchain hy => ?_⟩
  · obtain ⟨hwell, hvocabulary⟩ := ht.wellFormed
    obtain ⟨y, hmem, hy⟩ := hu.replaces hr.wellFormed hwell hvocabulary h
    obtain ⟨_, _, _, hok⟩ := id hy
    exact ⟨exists_leadsTo hok, y, hmem, hy⟩
  · obtain ⟨_, _, haround, hok⟩ := hy
    exact hchain.merges hr rfl hdistinct (haround.instantiated.nodupKeys hdistinct htd) hok

end Registry

def stampUse : Element Rat :=
  { tag := .use, id := some "here", classes := ["loud"], attributes := [⟨.ref, "stamp"⟩] }

def stampTree : DiagramTree Rat :=
  .node stampUse []

/-- A marked tile in the second column. -/
def tileRoot : Element Rat where
  tag := .rect
  id := some "tile"
  classes := ["solid"]
  placement := ⟨Span.cell 2, Span.cell 1⟩
  placed := true

/-- A use of the tile around a point. -/
def badgeRoot : Element Rat where
  tag := .use
  id := some "badge"
  classes := ["bright", "solid"]
  attributes := [⟨.ref, "tile"⟩, ⟨.place, (⟨3, 4⟩ : Pair Rat)⟩]

/-- A use of the badge that does not say where it stands. -/
def stampRoot : Element Rat :=
  { tag := .use, id := some "stamp", attributes := [⟨.ref, "badge"⟩] }

def stampTemplates : Registry Rat :=
  [{ templates :=
      [("tile", .node tileRoot []), ("badge", .node badgeRoot []), ("stamp", .node stampRoot [])] }]

theorem mem_stampTemplates {scope : Scope Rat} (hscope : scope ∈ stampTemplates)
    {p : String × DiagramTree Rat} (hp : p ∈ scope.templates) :
    p = ("tile", .node tileRoot []) ∨ p = ("badge", .node badgeRoot []) ∨
      p = ("stamp", .node stampRoot []) := by
  obtain rfl := List.mem_singleton.mp hscope
  simpa using hp

def badgeMarkup : Markup where
  tag := "use"
  id := some "badge"
  classes := ["bright", "solid"]
  attributes := [("ref", "tile"), ("place", "3 4")]

theorem badgeMarkup_read : Element.ofMarkup badgeMarkup [] = .ok badgeRoot := by
  have htag : Tag.ofName? "use" = some .use := rfl
  have hname : (Attribute.ofName? "place").filter Tag.use.allows = some .place := rfl
  have hplace : (Attribute.place.parse "3 4" : Except ValueError (Pair Rat)) = .ok ⟨3, 4⟩ := by
    decide +kernel
  have hattributes : readAttributes "use" .use badgeMarkup.attributes =
      .ok badgeRoot.attributes := by
    rw [badgeMarkup, readAttributes]
    simp only [readAttributes, hname, hplace]
    rfl
  simp only [Element.ofMarkup, badgeMarkup, htag] at hattributes ⊢
  rw [hattributes]
  rfl

theorem stampTemplates_read : stampTemplates.Read := by
  intro scope hscope p hp
  obtain rfl | rfl | rfl := mem_stampTemplates hscope hp
  · exact ⟨.node { tag := "rect", id := some "tile", classes := ["solid"],
                   placement := { grid := some "2 1" } } [], rfl⟩
  · refine ⟨.node badgeMarkup [], ?_⟩
    simp only [DiagramTree.ofMarkup, List.map_nil, badgeMarkup_read]
    rfl
  · exact ⟨.node { tag := "use", id := some "stamp", attributes := [("ref", "badge")] } [], rfl⟩

theorem stampTemplates_merges :
    stampTemplates.Read ∧ stampTree.Read ∧ stampTemplates.Distinct ∧ stampTree.Distinct ∧
      ∃ x, stampTemplates.expand stampTree = .ok x ∧
        stampTemplates.LeadsTo stampUse [stampRoot, badgeRoot] tileRoot ∧
        ∃ y ∈ x.subtrees, stampTemplates.Replaces stampTree stampUse y ∧
          y.value.id = some "here" ∧ y.value.tag = .rect ∧
          y.value.StandsAs (some (.point ⟨3, 4⟩)) ∧
          y.value.classes = ["solid", "bright", "loud"] := by
  have ht : stampTree.Read :=
    .inl ⟨.node { tag := "use", id := some "here", classes := ["loud"],
                  attributes := [("ref", "stamp")] } [], rfl⟩
  have hdistinct : stampTemplates.Distinct := by
    intro scope hscope p hp
    obtain rfl | rfl | rfl := mem_stampTemplates hscope hp <;>
      simp [DiagramTree.Distinct, Tree.preorderAll, tileRoot, badgeRoot, stampRoot]
  have htd : stampTree.Distinct := by
    simp [DiagramTree.Distinct, stampTree, Tree.preorderAll, stampUse]
  obtain ⟨x, hx⟩ : ∃ x, stampTemplates.expand stampTree = .ok x := ⟨_, rfl⟩
  have hchain : stampTemplates.LeadsTo stampUse [stampRoot, badgeRoot] tileRoot :=
    .link rfl rfl rfl (.link rfl rfl rfl (.root rfl rfl (by decide)))
  have hu : stampTemplates.Instantiated stampTree stampUse :=
    .direct (DiagramTree.mem_uses_node.mpr (.inl ⟨rfl, rfl⟩))
  obtain ⟨hreplaced, hmerges⟩ :=
    Registry.instance_merges_chain stampTemplates_read ht hdistinct htd hx
  obtain ⟨-, y, hmem, hy⟩ := hreplaced _ hu
  have h := hmerges _ _ _ y hchain hy
  exact ⟨stampTemplates_read, ht, hdistinct, htd, x, hx, hchain, y, hmem, hy, h.id, h.tag,
    h.standing, h.classes⟩

end GridDiagram
