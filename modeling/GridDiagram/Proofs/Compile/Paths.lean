import GridDiagram.Proofs.Compile.Nodes
import GridDiagram.Proofs.Layout.Paths
import GridDiagram.Proofs.Template.Instances

/-!
The paths of the primitives of a document. No stage in front of the layout puts a slash into an id
or a class, and no id stands twice behind the expansion, so that the paths of a compilation differ.
-/

namespace GridDiagram

variable {α : Type}

theorem mem_of_mem_distinctNames {names : List String} {n : String}
    (h : n ∈ distinctNames names) : n ∈ names := by
  have hsub : ∀ n ∈ distinctNames names, n ∈ names := by
    refine List.foldlRecOn (motive := fun seen => ∀ n ∈ seen, n ∈ names) names _ (by simp) ?_
    intro seen hseen name hname
    split
    · exact hseen
    · simpa [or_imp, forall_and] using ⟨hseen, hname⟩
  exact hsub n h

/-! ### Expansions -/

theorem Element.slashless_inherited : Element.Inherited (α := α) Element.Slashless where
  overriddenBy e u he hu := by
    refine ⟨by simpa using hu.id, fun c hc => ?_⟩
    have hmem : c ∈ distinctNames (e.classes ++ u.classes) := by
      rw [overriddenBy] at hc
      split at hc
      · exact hc
      · split at hc <;> exact hc
    obtain hc | hc := List.mem_append.mp (mem_of_mem_distinctNames hmem)
    · exact he.classes c hc
    · exact hu.classes c hc
  qualify e u outer he hu houter := by
    refine ⟨fun id hid => ?_, he.classes⟩
    obtain ⟨inner, hinner, rfl⟩ := Option.map_eq_some_iff.mp hid
    simpa using ⟨hu.id outer houter, he.id inner hinner⟩

theorem Element.StyledAs.slashless {e s : Element α} (h : e.StyledAs s) (he : e.Slashless) :
    s.Slashless := by
  rw [h]
  exact ⟨he.id, he.classes⟩

theorem Primitive.ofResolved_path {r : Resolved α} {p : Primitive α}
    (h : ofResolved r = .ok p) : p.path = r.path := by
  unfold ofResolved at h
  dsimp only at h
  split at h
  · cases h
  · obtain rfl := Except.ok.inj h
    rfl

namespace Document

/-- No slash stands in the ids and classes of a document, outside its declarations. -/
def Slashless (d : Document α) : Prop :=
  ∀ t ∈ d.root :: d.templates, ∀ e ∈ t.preorder, e.Slashless

variable {d : Document α} {shared : Registry α}

theorem Slashless.expanded (hd : d.Slashless) (hshared : shared.All Element.Slashless)
    {maxDepth : Int} {t : DiagramTree α} (h : d.expanded shared maxDepth = .ok t) :
    ∀ e ∈ t.preorder, e.Slashless := by
  obtain ⟨hroot, htemplates⟩ := List.forall_mem_cons.mp hd
  simp only [Document.expanded, Except.bind_eq_ok, Except.mapError_eq_ok, Except.pure_eq_ok] at h
  obtain ⟨r, hr, x, hx, _, -, rfl⟩ := h
  obtain ⟨-, rfl⟩ := registry_eq_ok.mp hr
  refine Registry.All.expand Element.slashless_inherited ?_ hroot hx
  refine List.forall_mem_cons.mpr ⟨fun p hp => ?_, hshared⟩
  obtain ⟨template, htemplate, rfl⟩ := List.mem_map.mp hp
  exact htemplates template htemplate

variable [Scalar α]

/-- Where no id and no class of a document and of the templates around it has a slash, the paths of
the primitives that it is compiled to differ. -/
theorem compile_paths_distinct (world : Surroundings α) (options : CompileOptions α)
    (shared : Registry α) (d : Document α) (c : Compiled α) (hd : d.Slashless)
    (hshared : shared.All Element.Slashless) (h : d.compile world options shared = .ok c) :
    (c.primitives.map (·.path)).Nodup := by
  obtain ⟨t, sheet, l, ht, hsheet, hl, hps⟩ := compile_ok h
  have hstyled : List.Forall₂ Element.StyledAs t.preorder (sheet.styled t).preorder :=
    (sheet.apply_styledAs [] [] t).preorder.imp fun _ _ h => h.1
  have hslash : ∀ s ∈ (sheet.styled t).preorder, s.Slashless := by
    intro s hs
    obtain ⟨e, he, hes⟩ := hstyled.exists_left hs
    exact hes.slashless (hd.expanded hshared ht e he)
  have hids : (sheet.styled t).ids = t.ids := by
    refine (hstyled.filterMap_eq fun e s hes => ?_).symm
    rw [hes]
  have hpaths : l.tree.preorder.map (·.path) = c.primitives.map (·.path) :=
    (Except.mapM_eq_ok.mp hps).map_eq fun _ _ hp => (Primitive.ofResolved_path hp).symm
  rw [← hpaths, layout_paths hl]
  exact DiagramTree.paths_nodup hslash (hids ▸ expanded_ids ht)

/-- The source of a diagram whose ids and classes have all that stands between the parts of a path,
but slashes. -/
def bracketMarkup : MarkupTree :=
  .node { tag := "diagram" }
    [.node { tag := "defs" }
        [.node { tag := "group", id := some "t" } [.node { tag := "rect", id := some "y" } []]],
      .node { tag := "rect", classes := ["c[1]"] } [],
      .node { tag := "rect", id := some "c[1]" } [],
      .node { tag := "group", classes := ["a#"] } [.node { tag := "rect" } [],
        .node { tag := "rect", id := some ".c[1]" } []],
      .node { tag := "use", id := some "x", attributes := [("ref", "t")] } []]

theorem bracketMarkup_paths : ∃ (d : Document Rat) (c : Compiled Rat),
    ofMarkup bracketMarkup = .ok d ∧ d.Slashless ∧
      Registry.All Element.Slashless ([] : Registry Rat) ∧
      d.compile plainWorld rowOptions [] = .ok c ∧
      c.primitives.map (·.path) = ["layout", "layout/rect.c[1][1]", "layout/rect#c[1]",
        "layout/group.a#[3]", "layout/group.a#[3]/rect[1]", "layout/group.a#[3]/rect#.c[1]",
        "layout/group#x", "layout/group#x/rect#x.y"] ∧
      (c.primitives.map (·.path)).Nodup := by
  have hany : (ofMarkup (α := Rat) bracketMarkup).toOption.any (fun d =>
      decide ((∀ t ∈ d.root :: d.templates, ∀ e ∈ t.preorder,
          (∀ id ∈ e.id, '/' ∉ id.toList) ∧ ∀ c ∈ e.classes, '/' ∉ c.toList) ∧
        (d.compile plainWorld rowOptions []).toOption.any fun c =>
          decide (c.primitives.map (·.path) = ["layout", "layout/rect.c[1][1]",
            "layout/rect#c[1]", "layout/group.a#[3]", "layout/group.a#[3]/rect[1]",
            "layout/group.a#[3]/rect#.c[1]", "layout/group#x", "layout/group#x/rect#x.y"]))) =
      true := by
    decide +kernel
  obtain ⟨d, hd, hslash, hcompiled⟩ := Except.exists_ok_of_any hany
  obtain ⟨c, hc, hpaths⟩ := Except.exists_ok_of_any hcompiled
  have hslash : d.Slashless := fun t ht e he => ⟨(hslash t ht e he).1, (hslash t ht e he).2⟩
  have hshared : Registry.All Element.Slashless ([] : Registry Rat) := by simp [Registry.All]
  exact ⟨d, c, hd, hslash, hshared, hc, hpaths,
    compile_paths_distinct plainWorld rowOptions [] d c hslash hshared hc⟩

end Document

end GridDiagram
