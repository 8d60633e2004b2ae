import GridDiagram.Proofs.Template.Qualified

/-!
An expansion gives no two elements one id, if within its tree and within each template ids have no
dots and differ, and every use has one. Ids without dots are apart; they stay apart behind the id of
a use; and what replaces a use has ids within that of the use.
-/

namespace GridDiagram

variable {α : Type}

/-! ### The check -/

theorem findRepeatedId_eq_none [Scalar α] {seen : List String} {es : List (Element α)} :
    findRepeatedId seen es = none ↔
      (es.filterMap (·.id)).Nodup ∧ ∀ i ∈ es.filterMap (·.id), i ∉ seen := by
  induction es generalizing seen with
  | nil => simp [findRepeatedId]
  | cons e es ih =>
    cases hid : e.id with
    | none => simp [findRepeatedId, hid, ih]
    | some i =>
      by_cases hseen : i ∈ seen
      · simp [findRepeatedId, hid, hseen]
      · simp [findRepeatedId, hid, hseen, ih]
        grind

theorem checkUniqueIds_eq_ok [Scalar α] {t : DiagramTree α} :
    checkUniqueIds t = .ok () ↔ t.ids.Nodup := by
  have hnone : findRepeatedId [] t.preorder = none ↔ t.ids.Nodup :=
    findRepeatedId_eq_none.trans (and_iff_left fun _ _ => List.not_mem_nil)
  rw [← hnone, checkUniqueIds]
  split <;> simp_all

/-! ### Ids that come of ids -/

/-- Every id of the second list is within one of the first, and none stands twice there if those of
the first are apart. -/
structure Refines (is ks : List String) : Prop where
  covers : Covers is ks
  nodup : is.Pairwise Apart → ks.Nodup

theorem Refines.refl (is : List String) : Refines is is :=
  ⟨fun i hi => ⟨i, hi, .inl rfl⟩, fun h => h.imp Apart.ne⟩

theorem Refines.append {is js ks ls : List String} (h : Refines is ks) (h' : Refines js ls) :
    Refines (is ++ js) (ks ++ ls) where
  covers := by
    intro k hk
    obtain hk | hk := List.mem_append.mp hk
    · exact h.covers.mono (List.subset_append_left _ _) k hk
    · exact h'.covers.mono (List.subset_append_right _ _) k hk
  nodup := by
    intro hapart
    obtain ⟨his, hjs, hcross⟩ := List.pairwise_append.mp hapart
    exact (h.nodup his).append (h'.nodup hjs) (h.covers.disjoint h'.covers hcross)

theorem Refines.flatMap {β γ : Type} {f : β → List String} {g : γ → List String} {xs : List β}
    {ys : List γ} (h : List.Forall₂ (fun x y => Refines (f x) (g y)) xs ys) :
    Refines (xs.flatMap f) (ys.flatMap g) := by
  induction h with
  | nil => exact .refl []
  | cons hxy _ ih =>
    rw [List.flatMap_cons, List.flatMap_cons]
    exact hxy.append ih

namespace DiagramTree

theorem replaceUses_refines {f : Element α → Except TemplateError (DiagramTree α)}
    {t x : DiagramTree α} (h : t.replaceUses f = .ok x)
    (huses : ∀ u ∈ t.uses, ∀ y, f u = .ok y → Refines u.id.toList y.ids) :
    Refines t.ids x.ids := by
  induction t using Tree.induct generalizing x with
  | step e ts ih =>
    rw [ids_node]
    by_cases he : e.kind = .use
    · rw [replaceUses_of_use he] at h
      obtain ⟨hcovers, hnodup⟩ := huses e (mem_uses_node.mpr (.inl ⟨rfl, he⟩)) x h
      exact ⟨hcovers.mono (List.subset_append_left _ _),
        fun hapart => hnodup (List.pairwise_append.mp hapart).1⟩
    · simp only [replaceUses_of_ne he, Except.bind_eq_ok, Except.mapM_eq_ok,
        Except.pure_eq_ok] at h
      obtain ⟨ts', hall, rfl⟩ := h
      rw [ids_node]
      refine (Refines.refl _).append (.flatMap (hall.imp_of_mem fun t ht t' ht' => ?_))
      exact ih t ht ht' fun u hu => huses u (mem_uses_node.mpr (.inr ⟨t, ht, hu⟩))

/-- Trees in which no id has a dot, none stands twice and every use has one. -/
structure Distinguished (ts : List (DiagramTree α)) : Prop where
  undotted : ∀ id ∈ ts.flatMap ids, '.' ∉ id.toList
  nodup : (ts.flatMap ids).Nodup
  uses : ∀ t ∈ ts, ∀ u ∈ uses t, u.id.isSome

theorem Distinguished.apart {ts : List (DiagramTree α)} (h : Distinguished ts) :
    (ts.flatMap ids).Pairwise Apart :=
  h.nodup.imp_of_mem fun hi hj => .of_undotted (h.undotted _ hi) (h.undotted _ hj)

end DiagramTree

namespace Registry

variable {r : Registry α} {t x y : DiagramTree α} {u : Element α} {i : String}

/-- Below the root of every template that a tree reaches the ids are distinguished. -/
def Distinguishes (r : Registry α) (t : DiagramTree α) : Prop :=
  ∀ n s, r.Reaches t n → r.lookup n = some s → DiagramTree.Distinguished s.children

theorem Distinguishes.namesUses (hr : r.Distinguishes t) : r.NamesUses t :=
  fun n s hn hs => (hr n s hn hs).uses

/-- The ids of an instance are apart. Those below the root come of those of the template, which are
apart and stay so behind the id of the use, and all are longer than this, the id of the root. -/
theorem Distinguishes.nodup (hr : r.Distinguishes t) {depth : Nat} {chain : List String}
    (haround : r.Around t depth chain u) (hid : u.id = some i)
    (h : r.instantiate depth chain u = .ok y) : y.ids.Nodup := by
  induction depth using Nat.strong_induction_on generalizing chain u y i with
  | _ depth ih =>
    have hqualified := hr.namesUses.qualifiedBy haround hid h
    obtain ⟨n, d, s, hn, rfl, hs, ⟨v, hv, hvid, hy⟩ | ⟨-, hchildren⟩⟩ := instantiate_cases h
    · exact ih d d.lt_succ_self (haround.inside hn hs hv) (hvid.trans hid) hy
    · have hdistinguished := hr n s (haround.nested n hn).reaches hs
      have hnames := (hr.namesUses n s (haround.nested n hn).reaches hs).instantiatedBy u
      have hrefines : Refines (s.instantiatedBy u).innerIds y.innerIds := by
        refine .flatMap (hchildren.imp_of_mem fun c hc c' hc' => ?_)
        refine DiagramTree.replaceUses_refines hc' fun v hv z hz => ?_
        obtain ⟨j, hj⟩ := Option.isSome_iff_exists.mp (hnames c hc v hv)
        have hinside := haround.inside hn hs (DiagramTree.mem_uses_of_mem_children hc hv)
        rw [hj]
        exact ⟨(hr.namesUses.qualifiedBy hinside hj hz).covers,
          fun _ => ih d d.lt_succ_self hinside hj hz⟩
      have hapart : (s.instantiatedBy u).innerIds.Pairwise Apart := by
        rw [DiagramTree.innerIds_instantiatedBy hid, List.pairwise_map]
        exact hdistinguished.apart.imp fun h => h.qualify i
      rw [DiagramTree.ids_eq, hqualified.root, Option.toList_some, List.singleton_append,
        List.nodup_cons]
      exact ⟨fun hi => (hqualified.inner i hi).ne rfl, hrefines.nodup hapart⟩

/-- With ids that are distinguished within its tree and below the root of each template, an
expansion that succeeds gives no two elements one id. -/
theorem expand_ids_unique [Scalar α] (ht : DiagramTree.Distinguished [t])
    (hr : r.Distinguishes t) (h : r.expand t = .ok x) : checkUniqueIds x = .ok () := by
  have hrefines : Refines t.ids x.ids := by
    refine DiagramTree.replaceUses_refines h fun u hu y hy => ?_
    obtain ⟨i, hid⟩ := Option.isSome_iff_exists.mp (ht.uses t (List.mem_singleton_self t) u hu)
    have haround : r.Around t _ [] u := .direct hu
    rw [hid]
    exact ⟨(hr.namesUses.qualifiedBy haround hid hy).covers,
      fun _ => hr.nodup haround hid hy⟩
  have hapart : t.ids.Pairwise Apart := by simpa using ht.apart
  exact checkUniqueIds_eq_ok.mpr (hrefines.nodup hapart)

end Registry

theorem badgeTemplates_ids_unique :
    DiagramTree.Distinguished [panelPair] ∧
      (badgeTemplates (some "inner")).Distinguishes panelPair ∧
      ∃ x, (badgeTemplates (some "inner")).expand panelPair = .ok x ∧
        x.ids = ["left", "left.inner", "left.inner.mark", "right", "right.inner",
          "right.inner.mark"] ∧
        checkUniqueIds x = .ok () := by
  have ht : DiagramTree.Distinguished [panelPair] := by
    constructor <;>
      simp [panelPair, panelUse, DiagramTree.ids_node, DiagramTree.uses, Tree.preorderAll,
        Element.kind, Tag.kind]
  have hr : (badgeTemplates (some "inner")).Distinguishes panelPair := by
    intro n s _ hs
    obtain ⟨scope, hscope, hmem⟩ := Registry.mem_of_lookup_eq_some hs
    obtain rfl := List.mem_singleton.mp hscope
    obtain ⟨rfl, rfl⟩ | ⟨rfl, rfl⟩ : (n = _ ∧ s = _) ∨ (n = _ ∧ s = _) := by simpa using hmem
    · constructor <;>
        simp [DiagramTree.ids_node, DiagramTree.uses, Tree.preorderAll, Element.kind, Tag.kind]
    · constructor <;>
        simp [DiagramTree.ids_node, DiagramTree.uses, Tree.preorderAll, Element.kind, Tag.kind]
  obtain ⟨x, hx, hids⟩ : ∃ x, (badgeTemplates (some "inner")).expand panelPair = .ok x ∧
      x.ids = ["left", "left.inner", "left.inner.mark", "right", "right.inner",
        "right.inner.mark"] := ⟨_, rfl, by decide⟩
  exact ⟨ht, hr, x, hx, hids, Registry.expand_ids_unique ht hr hx⟩

end GridDiagram
