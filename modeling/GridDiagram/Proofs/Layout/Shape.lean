import GridDiagram.Proofs.Layout.Positioned

/-!
A layout keeps the tree: every pass leaves each node where it found it, with the same element. The
second pass goes inside groups only, and checks that nothing else contains anything.
-/

namespace GridDiagram

open Except

variable {α : Type} [Scalar α] {settings : LayoutSettings α}

/-- The first pass measures every node where it stands. -/
theorem measureTree_elements {path : String} {t : DiagramTree α} {m : Tree (Measured α)}
    (h : measureTree settings path t = .ok m) :
    m.map (·.element) = t ∧ ∀ n ∈ m.preorder, n.stage = .measured := by
  induction t using Tree.induct generalizing path m with
  | step e ts ih =>
    simp only [measureTree, Except.bind_eq_ok, Except.pure_eq_ok] at h
    obtain ⟨ms, hms, m₀, hm₀, m₁, hm₁, rfl⟩ := h
    obtain ⟨rfl, -, -⟩ := Measured.ofElement_ok hm₀
    obtain rfl := Measured.finish_ok hm₁
    have hall := (measureTrees_ok hms).imp_of_mem fun t ht m ⟨_, hm⟩ => ih t ht hm
    have hts : ms.map (Tree.map (·.element)) = ts := by
      rw [← List.map_id ts]
      exact hall.flip.map_eq fun _ _ h => h.1
    refine ⟨?_, Tree.forall_preorder_node.mpr ⟨rfl, fun m hm => ?_⟩⟩
    · rw [Tree.map_node, Tree.mapAll_eq_map, hts]
    · obtain ⟨_, _, -, hstage⟩ := hall.exists_left hm
      exact hstage

omit [Scalar α] in
/-- Nothing inside a node that is positioned has only been measured. -/
theorem Positioned.eq_nil_of_finish {p p' : Positioned α} {children : List Progress}
    (h : p.finish children = .ok p') (hchildren : ∀ c ∈ children, c.stage = .measured) :
    children = [] := by
  simp only [Positioned.finish, Progress.advance, Except.bind_eq_ok, Except.mapError_eq_ok] at h
  obtain ⟨_, h, -⟩ := h
  cases children with
  | nil => rfl
  | cons c cs =>
    have hc := hchildren c List.mem_cons_self
    split at h
    · simp at h
    · simp [Progress.blocking, hc, Stage.rank] at h

/-- The second pass positions every node where it stands. -/
theorem positionTree_measured {parent : Option Progress} {cell : Box α} {m : Tree (Measured α)}
    {p : Tree (Positioned α)} (hm : ∀ n ∈ m.preorder, n.stage = .measured)
    (h : positionTree settings parent cell m = .ok p) : p.map (·.measured) = m := by
  induction m using Tree.induct generalizing parent cell p with
  | step m ms ih =>
    obtain ⟨-, hms⟩ := Tree.forall_preorder_node.mp hm
    simp only [positionTree, Except.bind_eq_ok, Except.mapError_eq_ok] at h
    obtain ⟨_, -, h⟩ := h
    split at h
    · simp only [Except.bind_eq_ok, Except.pure_eq_ok] at h
      obtain ⟨ps, hps, p, hp, rfl⟩ := h
      obtain rfl := Positioned.finish_ok hp
      have hall := (positionTrees_ok hps).imp_of_mem fun m hmem p hp =>
        hp.elim fun _ hp => hp.elim fun _ hp => ih m hmem (hms m hmem) hp
      have hms : ps.map (Tree.map (·.measured)) = ms := by
        rw [← List.map_id ms]
        exact hall.flip.map_eq fun _ _ h => h
      rw [Tree.map_node, Tree.mapAll_eq_map, hms, Positioned.ofMeasured_measured]
    · simp only [Except.bind_eq_ok, Except.pure_eq_ok] at h
      obtain ⟨p, hp, rfl⟩ := h
      have hnil := Positioned.eq_nil_of_finish hp fun c hc => by
        obtain ⟨m, hmem, rfl⟩ := List.mem_map.mp hc
        exact hms m hmem _ m.value_mem_preorder
      obtain rfl := List.map_eq_nil_iff.mp hnil
      obtain rfl := Positioned.finish_ok hp
      rw [Tree.map_node, Tree.mapAll_eq_map, Positioned.ofMeasured_measured, List.map_nil]

/-- What a shifted node has from its first pass it has whatever the shift is. -/
theorem resolveTree_map {γ : Type} {f : Resolved α → γ} {g : Measured α → γ}
    (hfg : ∀ shift p, f (Resolved.ofPositioned shift p) = g p.measured) (offset : Pair α)
    (p : Tree (Positioned α)) :
    (resolveTree offset p).map f = (p.map (·.measured)).map g := by
  induction p using Tree.induct generalizing offset with
  | step p ps ih =>
    simp only [resolveTree, resolveTrees_eq_map, Tree.map_node, Tree.mapAll_eq_map, List.map_map,
      hfg]
    exact congrArg (Tree.node _) (List.map_congr_left fun q hq => ih q hq _)

/-- A layout keeps what the first pass says of each node, where it stands. -/
theorem layout_map {γ : Type} {f : Resolved α → γ} {g : Measured α → γ}
    (hfg : ∀ shift p, f (Resolved.ofPositioned shift p) = g p.measured) {t : DiagramTree α}
    {size : Option (Pair α)} {l : Layout α} (h : layout settings t size = .ok l) :
    ∃ m, measureTree settings t.value.label t = .ok m ∧ l.tree.map f = m.map g := by
  obtain ⟨p, hp, htree, -⟩ := layout_ok h
  obtain ⟨m, hm, hp⟩ := positioned_ok hp
  refine ⟨m, hm, ?_⟩
  rw [htree, resolveTree_map hfg, positionTree_measured (measureTree_elements hm).2 hp]

/-- A layout gives geometry to the elements of its tree, each where it stands. -/
theorem layout_elements {t : DiagramTree α} {size : Option (Pair α)} {l : Layout α}
    (h : layout settings t size = .ok l) : l.tree.map (·.element) = t := by
  obtain ⟨m, hm, htree⟩ := layout_map (f := (·.element)) (g := (·.element)) (fun _ _ => rfl) h
  rw [htree, (measureTree_elements hm).1]

end GridDiagram
