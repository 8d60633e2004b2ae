import GridDiagram.Template
import GridDiagram.Proofs.Document.WellFormed

/-!
The uses of a tree, and the replacement of each by a tree. A replacement succeeds exactly when it
does at every use, and changes nothing else.
-/

namespace GridDiagram

variable {α : Type}

namespace DiagramTree

/-- The uses in a tree, in order. -/
def uses (t : DiagramTree α) : List (Element α) :=
  t.preorder.filter (·.kind = .use)

theorem mem_uses {t : DiagramTree α} {u : Element α} :
    u ∈ t.uses ↔ u ∈ t.preorder ∧ u.kind = .use := by
  simp [uses]

theorem mem_uses_node {e u : Element α} {ts : List (DiagramTree α)} :
    u ∈ uses (.node e ts) ↔ (u = e ∧ e.kind = .use) ∨ ∃ t ∈ ts, u ∈ t.uses := by
  simp only [mem_uses, Tree.preorder_node, Tree.preorderAll_eq_flatMap, List.mem_cons,
    List.mem_flatMap]
  grind

theorem mem_uses_of_mem_children {t c : DiagramTree α} {u : Element α} (hc : c ∈ t.children)
    (hu : u ∈ c.uses) : u ∈ t.uses := by
  obtain ⟨e, ts⟩ := t
  exact mem_uses_node.mpr (.inr ⟨c, hc, hu⟩)

variable {f : Element α → Except TemplateError (DiagramTree α)}

theorem replaceUsesAll_eq_mapM (ts : List (DiagramTree α)) :
    replaceUsesAll f ts = ts.mapM (replaceUses f) := by
  induction ts with
  | nil => simp only [replaceUsesAll, List.mapM_nil, pure, Except.pure]
  | cons t ts ih => simp only [replaceUsesAll, List.mapM_cons, ih]

theorem replaceUses_of_use {e : Element α} {ts : List (DiagramTree α)} (h : e.kind = .use) :
    replaceUses f (.node e ts) = f e := by
  simp only [replaceUses, h, if_true]

theorem replaceUses_of_ne {e : Element α} {ts : List (DiagramTree α)} (h : e.kind ≠ .use) :
    replaceUses f (.node e ts) = (do return .node e (← ts.mapM (replaceUses f))) := by
  simp only [replaceUses, h, if_false, replaceUsesAll_eq_mapM]

theorem replaceUses_error {t : DiagramTree α} {error : TemplateError}
    (h : t.replaceUses f = .error error) : ∃ u ∈ t.uses, f u = .error error := by
  induction t using Tree.induct with
  | step e ts ih =>
    by_cases he : e.kind = .use
    · rw [replaceUses_of_use he] at h
      exact ⟨e, mem_uses_node.mpr (.inl ⟨rfl, he⟩), h⟩
    · simp only [replaceUses_of_ne he, Except.bind_eq_error, Except.pure_eq_error, and_false,
        exists_false, or_false] at h
      obtain ⟨t, ht, h⟩ := Except.mapM_eq_error h
      obtain ⟨u, hu, h⟩ := ih t ht h
      exact ⟨u, mem_uses_node.mpr (.inr ⟨t, ht, hu⟩), h⟩

/-- A replacement that succeeds does so at every use, where nothing stands inside a use. -/
theorem replaceUses_ok [Scalar α] {t t' : DiagramTree α} (ht : t.WellFormed)
    (h : t.replaceUses f = .ok t') : ∀ u ∈ t.uses, ∃ x, f u = .ok x := by
  induction t using Tree.induct generalizing t' with
  | step e ts ih =>
    obtain ⟨⟨-, hleaf⟩, hts⟩ := wellFormed_node.mp ht
    intro u hu
    by_cases he : e.kind = .use
    · obtain rfl : ts = [] := hleaf (by simp [he]) (by simp [he])
      rw [replaceUses_of_use he] at h
      obtain ⟨rfl, -⟩ | ⟨t, ht, -⟩ := mem_uses_node.mp hu
      · exact ⟨t', h⟩
      · simp at ht
    · simp only [replaceUses_of_ne he, Except.bind_eq_ok, Except.mapM_eq_ok] at h
      obtain ⟨ts', hall, -⟩ := h
      obtain ⟨-, hkind⟩ | ⟨t, ht, hu⟩ := mem_uses_node.mp hu
      · exact absurd hkind he
      · obtain ⟨t', -, ht'⟩ := hall.exists_right ht
        exact ih t ht (hts t ht) ht' u hu

/-- What replaces a use stands in the result, where nothing stands inside a use. -/
theorem replaceUses_mem_subtrees [Scalar α] {t t' x : DiagramTree α} {u : Element α}
    (ht : t.WellFormed) (h : t.replaceUses f = .ok t') (hu : u ∈ t.uses) (hx : f u = .ok x) :
    x ∈ t'.subtrees := by
  induction t using Tree.induct generalizing t' with
  | step e ts ih =>
    obtain ⟨⟨-, hleaf⟩, hts⟩ := wellFormed_node.mp ht
    by_cases he : e.kind = .use
    · obtain rfl : ts = [] := hleaf (by simp [he]) (by simp [he])
      rw [replaceUses_of_use he] at h
      obtain ⟨rfl, -⟩ | ⟨t, ht, -⟩ := mem_uses_node.mp hu
      · obtain rfl := Except.ok.inj (h.symm.trans hx)
        exact Tree.self_mem_subtrees _
      · simp at ht
    · simp only [replaceUses_of_ne he, Except.bind_eq_ok, Except.mapM_eq_ok,
        Except.pure_eq_ok] at h
      obtain ⟨ts', hall, rfl⟩ := h
      obtain ⟨-, hkind⟩ | ⟨t, ht, hu⟩ := mem_uses_node.mp hu
      · exact absurd hkind he
      · obtain ⟨t', hmem, ht'⟩ := hall.exists_right ht
        rw [Tree.subtrees_node]
        exact List.mem_cons_of_mem _ (List.mem_flatMap.mpr ⟨t', hmem, ih t ht (hts t ht) ht' hu⟩)

theorem replaceUses_value {t t' : DiagramTree α} (h : t.replaceUses f = .ok t')
    (hkind : t.value.kind ≠ .use) : t'.value = t.value := by
  obtain ⟨e, ts⟩ := t
  rw [Tree.value_node] at hkind
  simp only [replaceUses_of_ne hkind, Except.bind_eq_ok, Except.pure_eq_ok] at h
  obtain ⟨_, -, rfl⟩ := h
  rfl

/-- What every replaced use brings with it, and every other element has, the whole result has. -/
theorem replaceUses_forall {t t' : DiagramTree α} {P : DiagramTree α → Prop}
    (h : t.replaceUses f = .ok t') (huse : ∀ u ∈ t.uses, ∀ x, f u = .ok x → P x)
    (hnode : ∀ s ∈ t.subtrees, s.value.kind ≠ .use → ∀ ts', ts'.length = s.children.length →
      (∀ x ∈ ts', P x) → P (.node s.value ts')) : P t' := by
  induction t using Tree.induct generalizing t' with
  | step e ts ih =>
    by_cases he : e.kind = .use
    · rw [replaceUses_of_use he] at h
      exact huse e (mem_uses_node.mpr (.inl ⟨rfl, he⟩)) t' h
    · simp only [replaceUses_of_ne he, Except.bind_eq_ok, Except.mapM_eq_ok,
        Except.pure_eq_ok] at h
      obtain ⟨ts', hall, rfl⟩ := h
      refine hnode _ (Tree.self_mem_subtrees _) he ts' hall.length_eq.symm fun x hx => ?_
      obtain ⟨t, ht, hx⟩ := hall.exists_left hx
      refine ih t ht hx (fun u hu => huse u (mem_uses_node.mpr (.inr ⟨t, ht, hu⟩))) ?_
      intro s hs
      refine hnode s ?_
      rw [Tree.subtrees_node]
      exact List.mem_cons_of_mem _ (List.mem_flatMap.mpr ⟨t, ht, hs⟩)

end DiagramTree

end GridDiagram
