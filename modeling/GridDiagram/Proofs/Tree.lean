import GridDiagram.Tree
import Mathlib.Data.List.Basic

/-!
Induction over trees, and what holds of every tree inside a tree.
-/

namespace GridDiagram.Tree

variable {β γ : Type}

/-- What holds of a tree when it holds of all its children holds of every tree. -/
@[elab_as_elim]
theorem induct {P : Tree β → Prop} (step : ∀ v ts, (∀ t ∈ ts, P t) → P (node v ts))
    (t : Tree β) : P t :=
  @Tree.rec β P (fun ts => ∀ t ∈ ts, P t) step (by simp)
    (fun _ _ head tail s h => (List.mem_cons.mp h).elim (fun e => e ▸ head) (tail s)) t

mutual

/-- A tree and all trees below it. -/
def subtrees : Tree β → List (Tree β)
  | node v ts => node v ts :: subtreesAll ts

/-- The trees inside several trees. -/
def subtreesAll : List (Tree β) → List (Tree β)
  | [] => []
  | t :: ts => subtrees t ++ subtreesAll ts

end

theorem subtreesAll_eq_flatMap (ts : List (Tree β)) : subtreesAll ts = ts.flatMap subtrees := by
  induction ts with
  | nil => simp [subtreesAll]
  | cons t ts ih => simp [subtreesAll, ih]

@[simp] theorem subtrees_node (v : β) (ts : List (Tree β)) :
    (node v ts).subtrees = node v ts :: ts.flatMap subtrees := by
  rw [subtrees, subtreesAll_eq_flatMap]

theorem forall_subtrees_node {P : Tree β → Prop} {v : β} {ts : List (Tree β)} :
    (∀ s ∈ (node v ts).subtrees, P s) ↔ P (node v ts) ∧ ∀ t ∈ ts, ∀ s ∈ t.subtrees, P s := by
  simp only [subtrees_node, List.mem_cons, List.mem_flatMap, forall_eq_or_imp]
  constructor
  · rintro ⟨h, hs⟩
    exact ⟨h, fun t ht s hst => hs s ⟨t, ht, hst⟩⟩
  · rintro ⟨h, hs⟩
    exact ⟨h, fun s ⟨t, ht, hst⟩ => hs t ht s hst⟩

/-- What holds at every node, of its value and the values of its children. -/
def Local (P : β → List β → Prop) (t : Tree β) : Prop :=
  ∀ s ∈ t.subtrees, P s.value (s.children.map value)

theorem local_node {P : β → List β → Prop} {v : β} {ts : List (Tree β)} :
    (node v ts).Local P ↔ P v (ts.map value) ∧ ∀ t ∈ ts, t.Local P :=
  forall_subtrees_node

theorem Local.self {P : β → List β → Prop} {t : Tree β} (h : t.Local P) :
    P t.value (t.children.map value) := by
  obtain ⟨v, ts⟩ := t
  exact (local_node.mp h).1

theorem mem_subtrees_of_mem_children {t s c : Tree β} (hs : s ∈ t.subtrees)
    (hc : c ∈ s.children) : c ∈ t.subtrees := by
  induction t using induct with
  | step v ts ih =>
    rw [subtrees_node] at hs ⊢
    refine List.mem_cons_of_mem _ (List.mem_flatMap.mpr ?_)
    rcases List.mem_cons.mp hs with rfl | hs
    · refine ⟨c, hc, ?_⟩
      cases c
      simp
    · obtain ⟨t, ht, hs⟩ := List.mem_flatMap.mp hs
      exact ⟨t, ht, ih t ht hs⟩

theorem subtrees_trans {t s r : Tree β} (hs : s ∈ t.subtrees) (hr : r ∈ s.subtrees) :
    r ∈ t.subtrees := by
  induction t using induct with
  | step v ts ih =>
    rw [subtrees_node] at hs
    obtain rfl | hs := List.mem_cons.mp hs
    · exact hr
    · obtain ⟨t, ht, hs⟩ := List.mem_flatMap.mp hs
      rw [subtrees_node]
      exact List.mem_cons_of_mem _ (List.mem_flatMap.mpr ⟨t, ht, ih t ht hs⟩)

theorem forall_preorder_node {P : β → Prop} {v : β} {ts : List (Tree β)} :
    (∀ w ∈ (node v ts).preorder, P w) ↔ P v ∧ ∀ t ∈ ts, ∀ w ∈ t.preorder, P w := by
  simp only [preorder_node, preorderAll_eq_flatMap, List.mem_cons, List.mem_flatMap,
    forall_eq_or_imp]
  constructor
  · rintro ⟨h, hs⟩
    exact ⟨h, fun t ht w hw => hs w ⟨t, ht, hw⟩⟩
  · rintro ⟨h, hs⟩
    exact ⟨h, fun w ⟨t, ht, hw⟩ => hs t ht w hw⟩

theorem preorder_eq_map_subtrees (t : Tree β) : t.preorder = t.subtrees.map value := by
  induction t using induct with
  | step v ts ih =>
    simp only [preorder_node, preorderAll_eq_flatMap, subtrees_node, List.map_cons, value_node,
      List.map_flatMap, List.flatMap_congr ih]

theorem preorder_map (f : β → γ) (t : Tree β) : (t.map f).preorder = t.preorder.map f := by
  induction t using induct with
  | step v ts ih =>
    simp only [map_node, mapAll_eq_map, preorder_node, preorderAll_eq_flatMap, List.map_cons,
      List.flatMap_map, List.map_flatMap, List.flatMap_congr ih]

theorem map_map {δ : Type} (f : β → γ) (g : γ → δ) (t : Tree β) :
    (t.map f).map g = t.map (g ∘ f) := by
  induction t using induct with
  | step v ts ih =>
    simp only [map_node, mapAll_eq_map, List.map_map, Function.comp_apply]
    exact congrArg (node _) (List.map_congr_left ih)

/-- Every value of a tree is that of the root or of a child of a node. -/
theorem mem_preorder_iff {t : Tree β} {w : β} :
    w ∈ t.preorder ↔ w = t.value ∨ ∃ s ∈ t.subtrees, ∃ c ∈ s.children, w = c.value := by
  induction t using induct with
  | step v ts ih =>
    simp only [preorder_node, preorderAll_eq_flatMap, List.mem_cons, List.mem_flatMap, value_node,
      subtrees_node, exists_eq_or_imp, children_node]
    refine or_congr_right ⟨?_, ?_⟩
    · rintro ⟨t, ht, hw⟩
      rcases (ih t ht).mp hw with rfl | ⟨s, hs, c, hc, rfl⟩
      · exact .inl ⟨t, ht, rfl⟩
      · exact .inr ⟨s, ⟨t, ht, hs⟩, c, hc, rfl⟩
    · rintro (⟨t, ht, rfl⟩ | ⟨s, ⟨t, ht, hs⟩, c, hc, rfl⟩)
      · exact ⟨t, ht, (ih t ht).mpr (.inl rfl)⟩
      · exact ⟨t, ht, (ih t ht).mpr (.inr ⟨s, hs, c, hc, rfl⟩)⟩

theorem self_mem_subtrees (t : Tree β) : t ∈ t.subtrees := by
  cases t
  simp

theorem value_mem_preorder (t : Tree β) : t.value ∈ t.preorder := by
  cases t
  simp

mutual

/-- The values of a tree in preorder, each with the values above it, the nearest first. `above` are
those above the root. -/
def lineages (above : List β) : Tree β → List (β × List β)
  | node v ts => (v, above) :: lineagesAll (v :: above) ts

/-- `lineages` of several trees, one tree after the other. -/
def lineagesAll (above : List β) : List (Tree β) → List (β × List β)
  | [] => []
  | t :: ts => lineages above t ++ lineagesAll above ts

end

theorem lineagesAll_eq_flatMap (above : List β) (ts : List (Tree β)) :
    lineagesAll above ts = ts.flatMap (lineages above) := by
  induction ts with
  | nil => simp [lineagesAll]
  | cons t ts ih => simp [lineagesAll, ih]

@[simp] theorem lineages_node (above : List β) (v : β) (ts : List (Tree β)) :
    (node v ts).lineages above = (v, above) :: ts.flatMap (lineages (v :: above)) := by
  rw [lineages, lineagesAll_eq_flatMap]

theorem map_fst_lineages (above : List β) (t : Tree β) :
    (t.lineages above).map (·.1) = t.preorder := by
  induction t using induct generalizing above with
  | step v ts ih =>
    simp only [lineages_node, List.map_cons, List.map_flatMap, preorder_node,
      preorderAll_eq_flatMap]
    rw [List.flatMap_congr fun t ht => ih t ht (v :: above)]

end GridDiagram.Tree
