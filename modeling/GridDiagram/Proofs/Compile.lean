import GridDiagram.Compile
import GridDiagram.Proofs.Drawing
import GridDiagram.Proofs.Template.Scope

/-!
Compilations of documents that were read. Whatever a document holds and whatever the options are, no
list is missed, nothing is left that cannot be drawn, no stage is out of turn, and nothing is
divided by zero.
-/

namespace GridDiagram

open Except

variable {α : Type} [Scalar α]

/-! ### Registries of documents -/

/-- A registry of documents that were read: no scope, or the scope of such a document around those
of others. -/
inductive Registry.Accepted : Registry α → Prop where
  | nil : Accepted []
  | scope {shared r : Registry α} {m : MarkupTree} {d : Document α} {maxDepth : Int}
      (hshared : Accepted shared) (hd : Document.ofMarkup m = .ok d)
      (hr : d.registry shared maxDepth = .ok r) : Accepted r

theorem Document.registry_plain {d : Document α} {shared r : Registry α} {maxDepth : Int}
    (hd : d.WellFormed) (hshared : shared.Plain) (h : d.registry shared maxDepth = .ok r) :
    r.Plain := by
  obtain ⟨-, rfl⟩ := Document.registry_eq_ok.mp h
  refine List.forall_mem_cons.mpr ⟨fun p hp => ?_, hshared⟩
  obtain ⟨template, htemplate, rfl⟩ := List.mem_map.mp hp
  exact hd.templates template htemplate

theorem Registry.Accepted.plain {r : Registry α} (h : r.Accepted) : r.Plain := by
  induction h with
  | nil => simp [Registry.Plain]
  | scope _ hd hr ih => exact Document.registry_plain (Document.ofMarkup_wellFormed hd) ih hr

/-! ### Errors -/

/-- An error that no document should lead to, whatever it holds. -/
def DiagramError.IsInternal : DiagramError α → Prop
  | .template (.noReference _) => True
  | .layout cause => cause.IsInternal
  | .drawing cause => cause.IsInternal
  | _ => False

/-- What a compilation reads of the world divides by nothing that may be zero. -/
structure Surroundings.Safe (world : Surroundings α) : Prop where
  measurer : world.measurer.Safe
  trigonometry : world.trigonometry.Safe

theorem Document.expanded_avoids {d : Document α} {shared : Registry α} (hd : d.WellFormed)
    (hshared : shared.Plain) (maxDepth : Int) :
    (d.expanded shared maxDepth).Avoids DiagramError.IsInternal := by
  have hdefined : (d.registry shared maxDepth).Avoids
      fun e => DiagramError.IsInternal (.template e : DiagramError α) := by
    refine Avoids.bind (fun e h => ?_) fun _ _ => avoids_pure _
    obtain ⟨name, rfl⟩ := Scope.defineAll_error h
    exact not_false
  refine (hdefined.mapError fun _ h => h).bind fun r hr => ?_
  have hplain := Document.registry_plain hd hshared (Except.mapError_eq_ok.mp hr)
  have hexpand : (r.expand d.root).Avoids
      fun e => DiagramError.IsInternal (.template e : DiagramError α) := by
    intro e h
    have hroot := hd.root
    cases Registry.blames_of_expand hplain.wellFormed hroot.wellFormed hroot.inVocabulary h
    all_goals exact not_false
  refine (hexpand.mapError fun _ h => h).bind fun t _ => ?_
  have hunique : (checkUniqueIds t).Avoids fun _ => False := fun _ _ => not_false
  exact (hunique.mapError fun _ h => h).bind fun _ _ => avoids_pure _

theorem Document.expanded_ok {d : Document α} {shared : Registry α} {maxDepth : Int}
    {t : DiagramTree α} (hd : d.WellFormed) (hshared : shared.Plain)
    (h : d.expanded shared maxDepth = .ok t) : t.Expanded := by
  simp only [Document.expanded, Except.bind_eq_ok, Except.mapError_eq_ok, Except.pure_eq_ok] at h
  obtain ⟨r, hr, x, hx, _, -, rfl⟩ := h
  exact (Document.registry_plain hd hshared hr).expand hd.root hx

omit [Scalar α] in
/-- Options give sizes of fonts and nothing else. -/
theorem CompileOptions.mem_defaults {options : CompileOptions α} {tag : Tag} {p : Property α}
    (h : p ∈ options.defaults tag) : tag = .text ∧ p.1 = .fontSize := by
  unfold CompileOptions.defaults at h
  split at h
  · obtain rfl := List.mem_singleton.mp h
    exact ⟨rfl, rfl⟩
  · simp at h

/-- The style sheet of declarations that were read gives every attribute a value in its range, where
the defaults of the tags do and no others but sizes of fonts are given. -/
theorem StyleSheet.sound_of_read {P : (a : Attribute) → a.Value α → Prop}
    (hP : ∀ a (v : a.Value α), a.Ranged v → P a v)
    (htags : ∀ tag, (Tag.defaults tag : Properties α).All P)
    {styles rules : List (DiagramTree α)} (hstyles : ∀ t ∈ styles, t.WellFormed)
    (hrules : ∀ t ∈ rules, t.WellFormed) {defaults : Tag → Properties α}
    (hdefaults : ∀ tag, ∀ p ∈ defaults tag, tag = .text ∧ p.1 = .fontSize) {sheet : StyleSheet α}
    (h : ofDeclarations styles rules defaults = .ok sheet) : sheet.Sound P := by
  refine ofDeclarations_sound ?_ ?_ htags ?_ ?_ h
  · exact fun t ht e he => ((hstyles t ht).of_mem_preorder he).ranged.imp hP
  · exact fun t ht e he => ((hrules t ht).of_mem_preorder he).ranged.imp hP
  · rintro tag ⟨a, v⟩ hp
    obtain ⟨-, rfl⟩ := hdefaults tag _ hp
    exact hP _ v fun hne => absurd rfl hne
  · intro tag p hp
    obtain ⟨rfl, ha⟩ := hdefaults tag p hp
    rw [ha]
    rfl

namespace Document

variable {d : Document α} {world : Surroundings α} {options : CompileOptions α}
  {shared : Registry α}

/-- What a compilation of a document goes through: the expanded tree, its style sheet, its layout
and its primitives. -/
theorem compile_ok {c : Compiled α} (h : d.compile world options shared = .ok c) :
    ∃ t sheet l, d.expanded shared options.maxTemplateDepth = .ok t ∧
      StyleSheet.ofDeclarations d.styles d.rules options.defaults = .ok sheet ∧
      layout (options.layoutSettings world) (sheet.styled t) options.size = .ok l ∧
      Primitive.ofTree l.tree = .ok c.primitives := by
  simp only [compile, Except.bind_eq_ok, Except.mapError_eq_ok, Except.pure_eq_ok] at h
  obtain ⟨t, ht, sheet, hsheet, l, hl, ps, hps, rfl⟩ := h
  exact ⟨t, sheet, l, ht, hsheet, hl, hps⟩

theorem styled_counts (hd : d.WellFormed) (hshared : shared.Plain) {maxDepth : Int}
    {t : DiagramTree α} (ht : d.expanded shared maxDepth = .ok t) {sheet : StyleSheet α}
    (hsheet : StyleSheet.ofDeclarations d.styles d.rules options.defaults = .ok sheet) :
    (sheet.styled t).Styled Attribute.Counts :=
  (StyleSheet.sound_of_read (fun _ _ h => h.counts) Tag.defaults_counts
    (fun t ht => (hd.styles t ht).1) (fun t ht => (hd.rules t ht).1)
    (fun _ _ => CompileOptions.mem_defaults) hsheet).styled
    (fun _ _ h => h.counts) (expanded_ok hd hshared ht)

theorem layout_styled {settings : LayoutSettings α} {t : DiagramTree α} {size : Option (Pair α)}
    {l : Layout α} {P : (a : Attribute) → a.Value α → Prop} (ht : t.Styled P)
    (h : layout settings t size = .ok l) : ∀ r ∈ l.tree.preorder, r.element.Styled P := by
  obtain ⟨p, hp, htree, -⟩ := layout_ok h
  intro r hr
  rw [htree] at hr
  obtain ⟨q, hq, shift, rfl⟩ := mem_resolveTree hr
  rw [Tree.preorder_eq_map_subtrees] at hq
  obtain ⟨s, hs, rfl⟩ := List.mem_map.mp hq
  exact (positioned_done ht hp s hs).measured.styled

theorem compile_avoids (hworld : world.Safe) (hd : d.WellFormed) (hshared : shared.Plain) :
    (d.compile world options shared).Avoids DiagramError.IsInternal := by
  refine (expanded_avoids hd hshared _).bind fun t ht => ?_
  have hstyle : (StyleSheet.ofDeclarations d.styles d.rules options.defaults).Avoids
      fun _ => False := fun _ _ => not_false
  refine (hstyle.mapError fun _ h => h).bind fun sheet hsheet => ?_
  have hstyled := styled_counts hd hshared ht (Except.mapError_eq_ok.mp hsheet)
  have hsettings : (options.layoutSettings world).Safe :=
    ⟨hworld.measurer, hworld.trigonometry⟩
  have hlayout : ((layout (options.layoutSettings world) (sheet.styled t) options.size).mapError
      DiagramError.layout).Avoids DiagramError.IsInternal :=
    (layout_avoids hsettings hstyled _).mapError fun _ h => h
  refine hlayout.bind fun l hl => ?_
  obtain ⟨ps, hps, -⟩ := ofTree_drawable (layout_styled hstyled (Except.mapError_eq_ok.mp hl))
  rw [hps]
  exact avoids_pure _

theorem compile_drawable (hd : d.WellFormed) (hshared : shared.Plain) {c : Compiled α}
    (h : d.compile world options shared = .ok c) : ∀ p ∈ c.primitives, p.Drawable := by
  obtain ⟨t, sheet, l, ht, hsheet, hl, hps⟩ := compile_ok h
  have hstyled := styled_counts hd hshared ht hsheet
  obtain ⟨ps, hps', hdrawable⟩ := ofTree_drawable (layout_styled hstyled hl)
  obtain rfl := Except.ok.inj (hps.symm.trans hps')
  exact hdrawable

theorem svg_avoids (hworld : world.Safe) (hd : d.WellFormed) (hshared : shared.Plain)
    {c : Compiled α} (h : d.compile world options shared = .ok c) :
    (c.svg world options).Avoids DiagramError.IsInternal := by
  have hsettings : (options.drawingSettings world).Safe :=
    ⟨hworld.measurer, hworld.trigonometry⟩
  have hdrawable := compile_drawable hd hshared h
  exact (Drawing.svg_avoids hsettings hdrawable _).mapError fun _ h => h

end Document

/-- A document that was read, between shared ones that were read, is never compiled or drawn with an
internal error, whatever the fonts and the options are. Every node of its expanded tree is part of a
diagram, with attributes of its tag's vocabulary; only groups have anything inside them, only texts
have lines, every path has coordinates, and every node has a span of one line or more on both axes
and does not have both a place and a placement. -/
theorem Document.compile_never_internal (fonts : FontSet) (options : CompileOptions Float)
    (m : MarkupTree) (d : Document Float) (hd : Document.ofMarkup m = .ok d)
    (shared : Registry Float) (hshared : shared.Accepted) :
    (∀ e, d.compile ⟨.float, fonts.measurer⟩ options shared = .error e → ¬e.IsInternal) ∧
    (∀ c, d.compile ⟨.float, fonts.measurer⟩ options shared = .ok c →
      ∀ e, c.svg ⟨.float, fonts.measurer⟩ options = .error e → ¬e.IsInternal) ∧
    ∀ r t, d.registry shared options.maxTemplateDepth = .ok r → r.expand d.root = .ok t →
      ∀ s ∈ t.subtrees,
        s.value.kind ∈ [Kind.group, Kind.shape, Kind.text, Kind.path] ∧
        (∀ p ∈ s.value.attributes, s.value.tag.allows p.1 = true) ∧
        (s.value.kind ≠ .group → s.children = []) ∧
        (s.value.kind ≠ .text → s.value.lines = []) ∧
        (s.value.kind = .path → (s.value.attributes.get? .coords).isSome) ∧
        (∀ axis, 1 ≤ (s.value.placement.on axis).start ∧
          (s.value.placement.on axis).start < (s.value.placement.on axis).stop) ∧
        ¬((s.value.attributes.get? .place).isSome ∧ s.value.placed = true) := by
  have hworld : Surroundings.Safe ⟨.float, fonts.measurer⟩ :=
    ⟨fonts.measurer_safe, Trigonometry.float_safe⟩
  have hwell := ofMarkup_wellFormed hd
  have hplain := hshared.plain
  refine ⟨compile_avoids hworld hwell hplain, fun c hc => svg_avoids hworld hwell hplain hc, ?_⟩
  intro r t hr ht s hs
  have hexpanded := (registry_plain hwell hplain hr).expand hwell.root ht
  have hmem : s.value ∈ t.preorder := by
    rw [Tree.preorder_eq_map_subtrees]
    exact List.mem_map_of_mem hs
  obtain ⟨he, hleaf⟩ := hexpanded.wellFormed s hs
  obtain ⟨hstyle, hrule⟩ := hexpanded.undeclaring s.value hmem
  have huse := hexpanded.useless s.value hmem
  refine ⟨?_, hexpanded.inVocabulary s.value hmem, fun hgroup => hleaf hgroup hrule, he.lines,
    he.coords, he.placement, ?_⟩
  · cases hkind : s.value.kind <;> simp_all
  · rintro ⟨hplace, hplaced⟩
    simp [he.place hplaced] at hplace

/-- The source of a diagram with one use of a template of another source, `card`. -/
def cardMarkup : MarkupTree :=
  .node { tag := "diagram" } [.node { tag := "use", attributes := [("ref", "card")] } []]

/-- The source of that template. -/
def sharedMarkup : MarkupTree :=
  .node { tag := "diagram" }
    [.node { tag := "defs" } [.node { tag := "rect", id := some "card" } []]]

theorem cardMarkup_never_internal :
    ∃ d shared, Document.ofMarkup cardMarkup = .ok d ∧ Registry.Accepted shared ∧
      ∀ e, d.compile ⟨.float, ({} : FontSet).measurer⟩ .default shared = .error e →
        ¬e.IsInternal := by
  have hd : ∃ d : Document Float, Document.ofMarkup cardMarkup = .ok d := ⟨_, rfl⟩
  have hs : ∃ d : Document Float, Document.ofMarkup sharedMarkup = .ok d ∧
      ∃ r, d.registry [] 50 = .ok r := ⟨_, rfl, _, rfl⟩
  obtain ⟨d, hd⟩ := hd
  obtain ⟨d', hd', r, hr⟩ := hs
  have hshared : Registry.Accepted r := .scope .nil hd' hr
  exact ⟨d, r, hd, hshared,
    (Document.compile_never_internal {} .default cardMarkup d hd r hshared).1⟩

end GridDiagram
