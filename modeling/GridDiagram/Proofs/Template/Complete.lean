import GridDiagram.Compile
import GridDiagram.Proofs.Template.Expansion

/-!
An expansion leaves no use behind, and changes nothing where there is none. What it makes of a tree
therefore stays as it is in every other expansion, whatever templates are then at hand, and a
document is compiled as one whose templates have been put in place beforehand.
-/

namespace GridDiagram

variable {α : Type}

namespace DiagramTree

variable {f : Element α → Except TemplateError (DiagramTree α)}

theorem uses_eq_nil {t : DiagramTree α} : t.uses = [] ↔ ∀ e ∈ t.preorder, e.kind ≠ .use := by
  simp [uses]

theorem uses_node_eq_nil {e : Element α} {ts : List (DiagramTree α)} :
    uses (.node e ts) = [] ↔ e.kind ≠ .use ∧ ∀ t ∈ ts, t.uses = [] := by
  simp only [uses_eq_nil]
  exact Tree.forall_preorder_node

theorem replaceUses_of_uses_eq_nil {t : DiagramTree α} (h : t.uses = []) :
    t.replaceUses f = .ok t := by
  induction t using Tree.induct with
  | step e ts ih =>
    obtain ⟨he, hts⟩ := uses_node_eq_nil.mp h
    have hall : ts.mapM (replaceUses f) = .ok ts :=
      Except.mapM_eq_ok.mpr (List.forall₂_same.mpr fun t ht => ih t ht (hts t ht))
    rw [replaceUses_of_ne he, hall]
    rfl

theorem replaceUses_uses {t t' : DiagramTree α} (h : t.replaceUses f = .ok t')
    (huse : ∀ u ∈ t.uses, ∀ x, f u = .ok x → x.uses = []) : t'.uses = [] :=
  replaceUses_forall h huse fun _ _ hkind _ _ hts => uses_node_eq_nil.mpr ⟨hkind, hts⟩

end DiagramTree

namespace Registry

variable {r : Registry α}

/-- There are no uses in an instance: those in it, its root among them, are replaced with less depth
left. -/
theorem instantiate_uses {depth : Nat} {chain : List String} {u : Element α} {x : DiagramTree α}
    (h : r.instantiate depth chain u = .ok x) : x.uses = [] := by
  induction depth generalizing chain u x with
  | zero =>
    obtain ⟨_, _, _, -, -, hdepth, -⟩ := instantiate_ok h
    simp at hdepth
  | succ depth ih =>
    obtain ⟨_, _, _, -, -, hdepth, -, hx, -⟩ := instantiate_ok h
    obtain rfl := Nat.succ.inj hdepth
    exact DiagramTree.replaceUses_uses hx fun _ _ _ hy => ih hy

theorem expand_uses {t x : DiagramTree α} (h : r.expand t = .ok x) : x.uses = [] :=
  DiagramTree.replaceUses_uses h fun _ _ _ hy => instantiate_uses hy

theorem expand_of_uses_eq_nil {t : DiagramTree α} (h : t.uses = []) : r.expand t = .ok t :=
  DiagramTree.replaceUses_of_uses_eq_nil h

end Registry

namespace Document

/-- Two documents with the same declarations are compiled alike where their roots are expanded
alike. -/
theorem compile_eq_of_expand_eq [Scalar α] {world : Surroundings α}
    {options options' : CompileOptions α} {d d' : Document α} {shared shared' r r' : Registry α}
    (hr : d.registry shared options.maxTemplateDepth = .ok r)
    (hr' : d'.registry shared' options'.maxTemplateDepth = .ok r')
    (hexpand : r'.expand d'.root = r.expand d.root)
    (hstyles : d'.styles = d.styles) (hrules : d'.rules = d.rules)
    (hoptions : options' = { options with maxTemplateDepth := options'.maxTemplateDepth }) :
    d'.compile world options' shared' = d.compile world options shared := by
  have expanded_eq {d : Document α} {shared r : Registry α} {maxDepth : Int}
      (hr : d.registry shared maxDepth = .ok r) :
      d.expanded shared maxDepth =
        (do
          let tree ← (r.expand d.root).mapError .template
          (checkUniqueIds tree).mapError .structural
          return tree) := by
    rw [expanded, hr]
    rfl
  rw [compile, compile, expanded_eq hr, expanded_eq hr', hexpand, hstyles, hrules, hoptions]
  rfl

/-- An expansion leaves no use and is not changed by another one, with whatever registry, as no tree
without uses is. A document is therefore compiled as the one that has the expansion for its root and
no templates, or any others that can be defined, between any shared ones and within any depth. -/
theorem compile_inlined [Scalar α] :
    (∀ (r : Registry α) (t x : DiagramTree α), r.expand t = .ok x →
      (∀ e ∈ x.preorder, e.kind ≠ .use) ∧ ∀ r' : Registry α, r'.expand x = .ok x) ∧
    (∀ (r : Registry α) (t : DiagramTree α), (∀ e ∈ t.preorder, e.kind ≠ .use) →
      r.expand t = .ok t) ∧
    ∀ (world : Surroundings α) (options : CompileOptions α) (shared : Registry α) (d : Document α)
      (r : Registry α) (x : DiagramTree α), d.registry shared options.maxTemplateDepth = .ok r →
      r.expand d.root = .ok x → ∀ (shared' : Registry α) (maxDepth : Int),
        { d with root := x, templates := [] }.compile world
            { options with maxTemplateDepth := maxDepth } shared' =
          d.compile world options shared ∧
        ∀ templates r', { d with root := x, templates }.registry shared' maxDepth = .ok r' →
          { d with root := x, templates }.compile world
              { options with maxTemplateDepth := maxDepth } shared' =
            d.compile world options shared := by
  have huseless {r : Registry α} {t : DiagramTree α} (h : ∀ e ∈ t.preorder, e.kind ≠ .use) :
      r.expand t = .ok t := Registry.expand_of_uses_eq_nil (DiagramTree.uses_eq_nil.mpr h)
  have hexpand {r : Registry α} {t x : DiagramTree α} (hx : r.expand t = .ok x) :
      ∀ e ∈ x.preorder, e.kind ≠ .use := DiagramTree.uses_eq_nil.mp (Registry.expand_uses hx)
  refine ⟨fun r t x hx => ⟨hexpand hx, fun r' => huseless (hexpand hx)⟩, fun r t => huseless, ?_⟩
  intro world options shared d r x hr hx shared' maxDepth
  have hcompile (templates : List (DiagramTree α)) (r' : Registry α)
      (hr' : { d with root := x, templates }.registry shared' maxDepth = .ok r') :
      { d with root := x, templates }.compile world
          { options with maxTemplateDepth := maxDepth } shared' =
        d.compile world options shared :=
    compile_eq_of_expand_eq hr hr' ((huseless (hexpand hx)).trans hx.symm) rfl rfl rfl
  exact ⟨hcompile [] _ rfl, hcompile⟩

/-- A diagram with one use of its template `panel`, inside which there is a use of `card`. -/
def panelMarkup : MarkupTree :=
  .node { tag := "diagram" }
    [.node { tag := "defs" }
      [.node { tag := "group", id := some "panel" }
        [.node { tag := "use", id := some "inner", attributes := [("ref", "card")] } []]],
      .node { tag := "use", id := some "left", attributes := [("ref", "panel")] } []]

theorem panelMarkup_inlined :
    ∃ d r x, Document.ofMarkup panelMarkup = .ok d ∧ d.registry cardTemplates 50 = .ok r ∧
      r.expand d.root = .ok x ∧ x.preorder.map (·.id) = [none, some "left", some "left.inner"] ∧
      (∀ e ∈ x.preorder, e.kind ≠ .use) ∧ Registry.expand [] x = .ok x ∧
      cardTemplates.expand x = .ok x ∧
      ∀ world, { d with root := x, templates := [] }.compile world .default [] =
        d.compile world .default cardTemplates := by
  obtain ⟨d, r, x, hd, hr, hx, hids⟩ : ∃ d r x, Document.ofMarkup panelMarkup = .ok d ∧
      d.registry cardTemplates 50 = .ok r ∧ r.expand d.root = .ok x ∧
      x.preorder.map (·.id) = [none, some "left", some "left.inner"] :=
    ⟨_, _, _, rfl, rfl, rfl, rfl⟩
  obtain ⟨huseless, hsame⟩ := compile_inlined.1 r d.root x hx
  exact ⟨d, r, x, hd, hr, hx, hids, huseless, hsame [], compile_inlined.2.1 _ x huseless,
    fun world => (compile_inlined.2.2 world .default cardTemplates d r x hr hx [] 50).1⟩

end Document

end GridDiagram
