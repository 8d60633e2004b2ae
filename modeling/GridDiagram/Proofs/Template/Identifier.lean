import GridDiagram.Proofs.Template.Instance
import Mathlib.Data.List.Infix
import Mathlib.Data.List.Flatten

/-!
Ids on their way through an expansion. A use puts its own id and a dot in front of those of its
template, so that ids which are apart, neither continuing the other, lead to ids that differ.
-/

namespace GridDiagram

variable {α : Type}

/-! ### Ids and their continuations -/

/-- The second id begins with the first one and a dot. -/
def Qualifies (outer id : String) : Prop :=
  outer.toList ++ ['.'] <+: id.toList

/-- The second id is the first one or is qualified by it. -/
def Within (outer id : String) : Prop :=
  id = outer ∨ Qualifies outer id

/-- Two ids differ and neither qualifies the other. -/
structure Apart (i j : String) : Prop where
  ne : i ≠ j
  left : ¬Qualifies i j
  right : ¬Qualifies j i

variable {i j k l : String}

theorem qualifies_append (i j : String) : Qualifies i (i ++ "." ++ j) := by
  rw [Qualifies, String.toList_append, String.toList_append]
  exact List.prefix_append _ _

theorem Qualifies.trans (h : Qualifies i j) (h' : Qualifies j k) : Qualifies i k :=
  List.IsPrefix.trans h ((List.prefix_append j.toList ['.']).trans h')

theorem Qualifies.within (h : Qualifies i j) (h' : Within j k) : Qualifies i k := by
  obtain rfl | h' := h'
  · exact h
  · exact h.trans h'

theorem Qualifies.ne (h : Qualifies i j) : i ≠ j := by
  rintro rfl
  have := h.length_le
  simp only [List.length_append, List.length_singleton] at this
  omega

/-- Of two ids that qualify the same one, either is the other or qualifies it: both stand at the
beginning of one id. -/
theorem Qualifies.total (h : Qualifies i k) (h' : Qualifies j k) : Within i j ∨ Within j i := by
  have within {i j : String} (h : i.toList ++ ['.'] <+: j.toList ++ ['.']) : Within i j := by
    obtain h | h := List.prefix_concat_iff.mp h
    · exact .inl (String.toList_inj.mp (List.append_cancel_right h)).symm
    · exact .inr h
  exact (List.prefix_or_prefix_of_prefix h h').imp within within

theorem Within.total (h : Within i k) (h' : Within j k) : Within i j ∨ Within j i := by
  obtain rfl | h := h
  · exact .inr h'
  · obtain rfl | h' := h'
    · exact .inl (.inr h)
    · exact h.total h'

/-- The ids within two ids that are apart differ. -/
theorem Apart.ne_of_within (h : Apart i j) (hk : Within i k) (hl : Within j l) : k ≠ l := by
  rintro rfl
  obtain (heq | hij) | (heq | hji) := hk.total hl
  · exact h.ne heq.symm
  · exact h.left hij
  · exact h.ne heq
  · exact h.right hji

theorem Apart.of_undotted (hi : '.' ∉ i.toList) (hj : '.' ∉ j.toList) (h : i ≠ j) : Apart i j := by
  have undotted {i j : String} (hj : '.' ∉ j.toList) : ¬Qualifies i j :=
    fun h => hj (h.subset (by simp))
  exact ⟨h, undotted hj, undotted hi⟩

/-- Ids that are apart stay so behind one and the same id. -/
theorem Apart.qualify (h : Apart i j) (outer : String) :
    Apart (outer ++ "." ++ i) (outer ++ "." ++ j) := by
  have cancel {i j : String} (h : Qualifies (outer ++ "." ++ i) (outer ++ "." ++ j)) :
      Qualifies i j := by
    rw [Qualifies, String.toList_append, String.toList_append (t := j), List.append_assoc] at h
    exact (List.prefix_append_right_inj _).mp h
  refine ⟨fun heq => h.ne ?_, fun hij => h.left (cancel hij), fun hji => h.right (cancel hji)⟩
  exact String.append_right_inj _ |>.mp heq

/-- Every id of the second list is within one of the first. -/
def Covers (is ks : List String) : Prop :=
  ∀ k ∈ ks, ∃ i ∈ is, Within i k

theorem Covers.disjoint {is js ks ls : List String} (hk : Covers is ks) (hl : Covers js ls)
    (h : ∀ i ∈ is, ∀ j ∈ js, Apart i j) : ks.Disjoint ls := by
  intro k hkmem hlmem
  obtain ⟨i, hi, hik⟩ := hk k hkmem
  obtain ⟨j, hj, hjk⟩ := hl k hlmem
  exact (h i hi j hj).ne_of_within hik hjk rfl

theorem Covers.mono {is js ks : List String} (h : Covers is ks) (hsub : is ⊆ js) :
    Covers js ks :=
  fun k hk => (h k hk).imp fun _ ⟨hi, hik⟩ => ⟨hsub hi, hik⟩

theorem Covers.flatMap {β γ : Type} {f : β → List String} {g : γ → List String} {xs : List β}
    {ys : List γ} (h : List.Forall₂ (fun x y => Covers (f x) (g y)) xs ys) :
    Covers (xs.flatMap f) (ys.flatMap g) := by
  intro k hk
  obtain ⟨y, hy, hk⟩ := List.mem_flatMap.mp hk
  obtain ⟨x, hx, hxy⟩ := h.exists_left hy
  obtain ⟨i, hi, hik⟩ := hxy k hk
  exact ⟨i, List.mem_flatMap.mpr ⟨x, hx, hi⟩, hik⟩

namespace DiagramTree

/-! ### The ids of a tree -/

/-- The ids of a tree, in preorder. -/
def ids (t : DiagramTree α) : List String :=
  t.preorder.filterMap (·.id)

/-- The ids below the root of a tree. -/
def innerIds (t : DiagramTree α) : List String :=
  t.children.flatMap ids

theorem ids_node (e : Element α) (ts : List (DiagramTree α)) :
    ids (.node e ts) = e.id.toList ++ ts.flatMap ids := by
  rw [ids, Tree.preorder_node, Tree.preorderAll_eq_flatMap, List.filterMap_cons,
    List.filterMap_flatMap]
  cases e.id <;> rfl

theorem ids_eq (t : DiagramTree α) : t.ids = t.value.id.toList ++ t.innerIds := by
  obtain ⟨e, ts⟩ := t
  exact ids_node e ts

theorem ids_map_qualify (t : DiagramTree α) (outer : String) :
    ids (t.map (Element.qualify outer)) = t.ids.map (outer ++ "." ++ ·) := by
  rw [ids, Tree.preorder_map, List.filterMap_map, ids, List.map_filterMap]
  rfl

/-- The root of a tree has an id, and every id below it is qualified by that. -/
structure QualifiedBy (t : DiagramTree α) (i : String) : Prop where
  root : t.value.id = some i
  inner : ∀ j ∈ t.innerIds, Qualifies i j

theorem QualifiedBy.covers {t : DiagramTree α} (h : t.QualifiedBy i) : Covers [i] t.ids := by
  intro j hj
  rw [ids_eq, h.root, Option.toList_some, List.singleton_append] at hj
  obtain rfl | hj := List.mem_cons.mp hj
  · exact ⟨j, List.mem_singleton_self j, .inl rfl⟩
  · exact ⟨i, List.mem_singleton_self i, .inr (h.inner j hj)⟩

/-! ### The ids of an instance -/

@[simp] theorem instantiatedBy_id (t : DiagramTree α) (u : Element α) :
    (t.instantiatedBy u).value.id = u.id := by
  obtain ⟨e, ts⟩ := t
  rw [instantiatedBy_eq, Tree.value_node, Element.overriddenBy_id]

theorem innerIds_instantiatedBy {t : DiagramTree α} {u : Element α} (hid : u.id = some i) :
    (t.instantiatedBy u).innerIds = t.innerIds.map (i ++ "." ++ ·) := by
  obtain ⟨e, ts⟩ := t
  rw [instantiatedBy_eq, hid, innerIds, innerIds, Tree.children_node, Tree.children_node,
    List.flatMap_map, List.map_flatMap]
  exact List.flatMap_congr fun t _ => ids_map_qualify t i

/-- Every use below the root of a tree has an id. -/
def NamesUses (t : DiagramTree α) : Prop :=
  ∀ c ∈ t.children, ∀ u ∈ uses c, u.id.isSome

theorem NamesUses.instantiatedBy {t : DiagramTree α} (h : t.NamesUses) (u : Element α) :
    (t.instantiatedBy u).NamesUses := by
  obtain ⟨e, ts⟩ := t
  refine forall_children_instantiatedBy h fun s outer hs v hv => ?_
  obtain ⟨hmem, hkind⟩ := mem_uses.mp hv
  rw [Tree.preorder_map] at hmem
  obtain ⟨w, hw, rfl⟩ := List.mem_map.mp hmem
  simpa [Element.qualify] using hs w (mem_uses.mpr ⟨hw, hkind⟩)

/-- Where every use is replaced by a tree with ids within its own, the ids that come of it are
within those that were there. -/
theorem replaceUses_covers {f : Element α → Except TemplateError (DiagramTree α)}
    {t x : DiagramTree α} (h : t.replaceUses f = .ok x)
    (huses : ∀ u ∈ t.uses, ∀ y, f u = .ok y → Covers u.id.toList y.ids) : Covers t.ids x.ids := by
  have within {e : Element α} (he : e ∈ t.preorder) {i : String} (hi : i ∈ e.id.toList) :
      i ∈ t.ids :=
    List.mem_filterMap.mpr ⟨e, he, Option.mem_toList.mp hi⟩
  refine replaceUses_forall (P := fun x => Covers t.ids x.ids) h (fun u hu y hy => ?_)
    fun s hs _ ts' _ hts' k hk => ?_
  · exact (huses u hu y hy).mono fun i hi => within (mem_uses.mp hu).1 hi
  · rw [ids_node] at hk
    obtain hk | hk := List.mem_append.mp hk
    · have hmem : s.value ∈ t.preorder := by
        rw [Tree.preorder_eq_map_subtrees]
        exact List.mem_map_of_mem hs
      exact ⟨k, within hmem hk, .inl rfl⟩
    · obtain ⟨x, hx, hk⟩ := List.mem_flatMap.mp hk
      exact hts' x hx k hk

end DiagramTree

end GridDiagram
