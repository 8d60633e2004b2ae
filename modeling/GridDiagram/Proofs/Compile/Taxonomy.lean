import GridDiagram.Report
import GridDiagram.Proofs.Compile
import GridDiagram.Proofs.Drawing.Finite
import GridDiagram.Proofs.Layout.Finite

/-!
The errors between the tree of a source and its drawing. An error has a code that says what is wrong
with a diagram, unless a number that is measured or written is not finite.
-/

namespace GridDiagram

open Except

variable {α : Type}

/-- The code of an error is that of a certain fault of a diagram, and neither that of values in
general nor that of an unforeseen error. -/
def DiagramError.InTaxonomy (e : DiagramError α) : Prop :=
  e.kind ≠ .value ∧ e.kind ≠ .internal

/-- An operation on numbers had no result. -/
def DiagramError.IsNumber : DiagramError α → Prop
  | .layout cause => cause.IsNumber
  | .drawing cause => cause.IsNumber
  | _ => False

theorem DiagramError.inTaxonomy {e : DiagramError α} (hinternal : ¬e.IsInternal)
    (hnumber : ¬e.IsNumber) : e.InTaxonomy := by
  cases e with
  | source | structural => exact ⟨nofun, nofun⟩
  | template cause =>
    cases cause with
    | noReference => exact absurd trivial hinternal
    | _ => exact ⟨nofun, nofun⟩
  | style cause => cases cause <;> exact ⟨nofun, nofun⟩
  | layout cause =>
    cases cause with
    | number => exact absurd trivial hnumber
    | overconstrained => exact ⟨nofun, nofun⟩
    | _ => exact absurd trivial hinternal
  | drawing cause =>
    cases cause with
    | number => exact absurd trivial hnumber
    | _ => exact absurd trivial hinternal

variable [Scalar α]

/-- What a compilation reads of the world is defined for finite numbers. -/
structure Surroundings.Defined (world : Surroundings α) : Prop where
  measurer : world.measurer.Defined
  trigonometry : world.trigonometry.Defined

/-- The numbers of a compiled diagram that its drawing writes or takes an angle from. -/
def Compiled.numbers (world : Surroundings α) (options : CompileOptions α) (c : Compiled α) :
    List α :=
  c.size.numbers ++ c.primitives.flatMap (Drawing.numbersOf (options.drawingSettings world))

/-- The registry of the trees of shared sources, of which later ones hide earlier ones, around those
of `shared`. -/
def Registry.ofMarkups (maxDepth : Int) (shared : Registry α) :
    List MarkupTree → Except (DiagramError α) (Registry α)
  | [] => .ok shared
  | m :: ms => do
    let d ← (Document.ofMarkup m).mapError .structural
    let shared ← (d.registry shared maxDepth).mapError .template
    ofMarkups maxDepth shared ms

/-- Reads, compiles and draws the tree of a source, with the templates of the trees of shared
sources around its own. -/
def svgOfMarkup (world : Surroundings α) (options : CompileOptions α) (shared : List MarkupTree)
    (m : MarkupTree) : Except (DiagramError α) String := do
  let registry ← Registry.ofMarkups options.maxTemplateDepth [] shared
  let d ← (Document.ofMarkup m).mapError .structural
  let c ← d.compile world options registry
  c.svg world options

/-- An element of what a document is laid out from has a font or an angle that is not finite. -/
def Document.Unmeasurable (world : Surroundings α) (options : CompileOptions α)
    (shared : Registry α) (d : Document α) : Prop :=
  ∃ t sheet, d.expanded shared options.maxTemplateDepth = .ok t ∧
    StyleSheet.ofDeclarations d.styles d.rules options.defaults = .ok sheet ∧
    ∃ e ∈ (sheet.styled t).preorder, ¬e.Measurable world.trigonometry

/-- A number that is written for a document is not finite. -/
def Document.Unwritable (world : Surroundings α) (options : CompileOptions α)
    (shared : Registry α) (d : Document α) : Prop :=
  ∃ c, d.compile world options shared = .ok c ∧ ∃ x ∈ c.numbers world options, ¬Scalar.Finite x

/-! ### Sources -/

theorem Registry.ofMarkups_eq_ofSources {sources : List String} {ms : List MarkupTree}
    (h : List.Forall₂ (fun s m => MarkupTree.ofSource s = .ok m) sources ms) (maxDepth : Int)
    (shared : Registry α) : ofMarkups maxDepth shared ms = ofSources maxDepth shared sources := by
  induction h generalizing shared with
  | nil => rfl
  | cons hsource _ ih =>
    simp only [ofMarkups, ofSources, Document.ofSource, hsource, ih]
    rfl

/-- Sources are drawn as their trees are. -/
theorem compileSource_svg {sources : List String} {ms : List MarkupTree}
    (hshared : List.Forall₂ (fun s m => MarkupTree.ofSource s = .ok m) sources ms)
    {source : String} {m : MarkupTree} (h : MarkupTree.ofSource source = .ok m)
    (world : Surroundings α) (options : CompileOptions α) :
    (compileSource world options sources source >>= fun c => c.svg world options) =
      svgOfMarkup world options ms m := by
  simp only [svgOfMarkup, compileSource, Registry.ofMarkups_eq_ofSources hshared,
    Document.ofSource, h, bind_assoc]
  rfl

theorem Registry.ofMarkups_accepted {maxDepth : Int} {shared r : Registry α}
    {ms : List MarkupTree} (hshared : shared.Accepted) (h : ofMarkups maxDepth shared ms = .ok r) :
    r.Accepted := by
  induction ms generalizing shared with
  | nil => exact Except.ok.inj h ▸ hshared
  | cons m ms ih =>
    simp only [ofMarkups, bind_eq_ok, mapError_eq_ok] at h
    obtain ⟨d, hd, scope, hscope, h⟩ := h
    exact ih (.scope hshared hd hscope) h

theorem Registry.ofMarkups_error {maxDepth : Int} {shared : Registry α} {ms : List MarkupTree}
    {e : DiagramError α} (h : ofMarkups maxDepth shared ms = .error e) : e.InTaxonomy := by
  induction ms generalizing shared with
  | nil => simp [ofMarkups] at h
  | cons m ms ih =>
    simp only [ofMarkups, bind_eq_error, mapError_eq_error] at h
    obtain ⟨_, -, rfl⟩ | ⟨d, -, ⟨_, hregistry, rfl⟩ | ⟨_, -, h⟩⟩ := h
    · exact DiagramError.inTaxonomy not_false not_false
    · simp only [Document.registry, bind_eq_error, pure_eq_error, and_false, exists_false,
        or_false] at hregistry
      obtain ⟨name, rfl⟩ := Scope.defineAll_error hregistry
      exact DiagramError.inTaxonomy not_false not_false
    · exact ih h

/-! ### Numbers -/

namespace Document

variable {world : Surroundings α} {options : CompileOptions α} {shared : Registry α}
  {d : Document α}

/-- A compilation fails with numbers only if a font or an angle is not finite. -/
theorem compile_avoids_number (hworld : world.Defined) (h : ¬d.Unmeasurable world options shared) :
    (d.compile world options shared).Avoids DiagramError.IsNumber := by
  have hexpanded : (d.expanded shared options.maxTemplateDepth).Avoids DiagramError.IsNumber := by
    refine (avoids_mapError (fun _ => not_false) _).bind fun _ _ => ?_
    refine (avoids_mapError (fun _ => not_false) _).bind fun _ _ => ?_
    exact (avoids_mapError (fun _ => not_false) _).bind fun _ _ => avoids_pure _
  refine hexpanded.bind fun t ht => ?_
  refine (avoids_mapError (fun _ => not_false) _).bind fun sheet hsheet => ?_
  have hmeasurable : ∀ e ∈ (sheet.styled t).preorder, e.Measurable world.trigonometry :=
    fun e he => by_contra fun hnot => h ⟨t, sheet, ht, mapError_eq_ok.mp hsheet, e, he, hnot⟩
  have hlayout : ((layout (options.layoutSettings world) (sheet.styled t) options.size).mapError
      DiagramError.layout).Avoids DiagramError.IsNumber :=
    (layout_avoids_number ⟨hworld.measurer, hworld.trigonometry⟩ hmeasurable _).mapError
      fun _ h => h
  refine hlayout.bind fun l _ => ?_
  have hprimitives : ((Primitive.ofTree l.tree).mapError DiagramError.drawing).Avoids
      (DiagramError.IsNumber (α := α)) :=
    (Primitive.ofTree_avoids_number l.tree).mapError fun _ h => h
  exact hprimitives.bind fun _ _ => avoids_pure _

/-- A compiled document is drawn without numbers failing, unless one of those that are written is
not finite. -/
theorem svg_avoids_number (hworld : world.Defined) (hd : d.WellFormed) (hshared : shared.Plain)
    {c : Compiled α} (hc : d.compile world options shared = .ok c)
    (h : ¬d.Unwritable world options shared) :
    (c.svg world options).Avoids DiagramError.IsNumber := by
  have hfinite : ∀ x ∈ c.numbers world options, Scalar.Finite x :=
    fun x hx => by_contra fun hnot => h ⟨c, hc, x, hx, hnot⟩
  have hdrawing := Drawing.svg_avoids_number ⟨hworld.measurer, hworld.trigonometry⟩
    (compile_drawable hd hshared hc) hfinite
  exact hdrawing.mapError fun _ h => h

end Document

/-- The tree of every source is drawn, or refused with the code of what is wrong with it, whatever
its attributes, the shared sources, the fonts and the options are: unless the size of a font, an
angle or a number to be written is not finite. -/
theorem svgOfMarkup_outcome (fonts : FontSet) (options : CompileOptions Float)
    (shared : List MarkupTree) (m : MarkupTree) :
    (∃ text, svgOfMarkup ⟨.float, fonts.measurer⟩ options shared m = .ok text) ∨
    (∃ e, svgOfMarkup ⟨.float, fonts.measurer⟩ options shared m = .error e ∧ e.InTaxonomy) ∨
    ∃ e r d, svgOfMarkup ⟨.float, fonts.measurer⟩ options shared m = .error e ∧ e.IsNumber ∧
      Registry.ofMarkups options.maxTemplateDepth [] shared = .ok r ∧
      Document.ofMarkup m = .ok d ∧
      (d.Unmeasurable ⟨.float, fonts.measurer⟩ options r ∨
        d.Unwritable ⟨.float, fonts.measurer⟩ options r) := by
  have hdefined : Surroundings.Defined ⟨.float, fonts.measurer⟩ :=
    ⟨fonts.measurer_defined, Trigonometry.float_defined⟩
  have hsafe : Surroundings.Safe ⟨.float, fonts.measurer⟩ :=
    ⟨fonts.measurer_safe, Trigonometry.float_safe⟩
  cases hrun : svgOfMarkup ⟨.float, fonts.measurer⟩ options shared m with
  | ok text => exact .inl ⟨text, rfl⟩
  | error e =>
    right
    simp only [svgOfMarkup, bind_eq_error, mapError_eq_ok, mapError_eq_error] at hrun
    obtain hshared | ⟨r, hr, ⟨_, -, rfl⟩ | ⟨d, hd, hrun⟩⟩ := hrun
    · exact .inl ⟨e, rfl, Registry.ofMarkups_error hshared⟩
    · exact .inl ⟨_, rfl, DiagramError.inTaxonomy not_false not_false⟩
    have hwell := Document.ofMarkup_wellFormed hd
    have hplain := (Registry.ofMarkups_accepted .nil hr).plain
    by_cases hnumber : e.IsNumber
    · refine .inr ⟨e, r, d, rfl, hnumber, hr, hd, ?_⟩
      obtain hcompile | ⟨c, hc, hsvg⟩ := hrun
      · exact .inl (by_contra fun hfinite =>
          Document.compile_avoids_number hdefined hfinite e hcompile hnumber)
      · exact .inr (by_contra fun hfinite =>
          Document.svg_avoids_number hdefined hwell hplain hc hfinite e hsvg hnumber)
    · refine .inl ⟨e, rfl, DiagramError.inTaxonomy ?_ hnumber⟩
      obtain hcompile | ⟨c, hc, hsvg⟩ := hrun
      · exact Document.compile_avoids hsafe hwell hplain e hcompile
      · exact Document.svg_avoids hsafe hwell hplain hc e hsvg

/-- A text in a font whose size is no number. -/
def unsizedText : MarkupTree :=
  .node { tag := "diagram" }
    [.node { tag := "text", attributes := [("font-size", "nan")], lines := ["a"] } []]

theorem unsizedText_not_inTaxonomy :
    ∃ e, svgOfMarkup ⟨.float, ({} : FontSet).measurer⟩ .default [] unsizedText = .error e ∧
      ¬e.InTaxonomy := by
  have hrun : svgOfMarkup ⟨.float, ({} : FontSet).measurer⟩ .default [] unsizedText =
      .error (.layout (.number .roundedNan)) := by rfl
  exact ⟨_, hrun, fun h => h.1 rfl⟩

end GridDiagram
