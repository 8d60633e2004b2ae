import GridDiagram.Proofs.Template.Complete
import GridDiagram.Proofs.Template.Scope
import Mathlib.Data.List.Pairwise

/-!
What an expansion depends on: the templates of the names that it reaches, and nothing else of a
registry but its depth. Templates that are not reached, or that others hide, play no part, and a
chain of scopes is worth as much as one scope with the templates that are not hidden.
-/

namespace GridDiagram

variable {α : Type}

namespace DiagramTree

variable {f g : Element α → Except TemplateError (DiagramTree α)}

theorem replaceUses_congr {t : DiagramTree α} (h : ∀ u ∈ t.uses, f u = g u) :
    t.replaceUses f = t.replaceUses g := by
  induction t using Tree.induct with
  | step e ts ih =>
    by_cases he : e.kind = .use
    · rw [replaceUses_of_use he, replaceUses_of_use he]
      exact h e (mem_uses_node.mpr (.inl ⟨rfl, he⟩))
    · have hall : ts.mapM (replaceUses f) = ts.mapM (replaceUses g) :=
        Except.mapM_congr fun t ht => ih t ht fun u hu => h u (mem_uses_node.mpr (.inr ⟨t, ht, hu⟩))
      rw [replaceUses_of_ne he, replaceUses_of_ne he, hall]

/-- The template of a name, the last where several have it. -/
def lastNamed (ts : List (DiagramTree α)) (n : String) : Option (DiagramTree α) :=
  ts.reverse.find? (·.name = n)

/-- Of all templates with one name the last, in order. -/
def lastOfNames (ts : List (DiagramTree α)) : List (DiagramTree α) :=
  ts.pwFilter fun s t => s.name ≠ t.name

theorem lastNamed_append (ts ts' : List (DiagramTree α)) (n : String) :
    lastNamed (ts ++ ts') n = (lastNamed ts' n).or (lastNamed ts n) := by
  simp [lastNamed]

theorem lastNamed_eq_none {ts : List (DiagramTree α)} {n : String} :
    lastNamed ts n = none ↔ ∀ t ∈ ts, t.name ≠ n := by
  simp [lastNamed]

theorem find?_eq_lastNamed {ts : List (DiagramTree α)}
    (h : ts.Pairwise fun s t => s.name ≠ t.name) (n : String) :
    ts.find? (·.name = n) = lastNamed ts n := by
  induction ts with
  | nil => rfl
  | cons t ts ih =>
    obtain ⟨ht, hts⟩ := List.pairwise_cons.mp h
    rw [← List.singleton_append, lastNamed_append, ← ih hts, List.find?_append]
    by_cases hn : t.name = n
    · have hnone : ts.find? (·.name = n) = none :=
        List.find?_eq_none.mpr fun s hs => by simpa [← hn] using (ht s hs).symm
      rw [hnone, Option.none_or, Option.or_none]
      rfl
    · simp [lastNamed, hn]

theorem pairwise_lastOfNames (ts : List (DiagramTree α)) :
    (lastOfNames ts).Pairwise fun s t => s.name ≠ t.name :=
  List.pairwise_pwFilter ts

theorem lastNamed_lastOfNames (ts : List (DiagramTree α)) (n : String) :
    lastNamed (lastOfNames ts) n = lastNamed ts n := by
  induction ts with
  | nil => rfl
  | cons t ts ih =>
    rw [← List.singleton_append, lastNamed_append, ← ih]
    by_cases h : ∀ s ∈ lastOfNames ts, t.name ≠ s.name
    · rw [lastOfNames, List.singleton_append, List.pwFilter_cons_of_pos h,
        ← List.singleton_append, lastNamed_append]
      rfl
    · rw [lastOfNames, List.singleton_append, List.pwFilter_cons_of_neg h, ← lastOfNames]
      by_cases hn : t.name = n
      · have hsome : lastNamed (lastOfNames ts) n ≠ none := fun hnone =>
          h fun s hs => hn ▸ (lastNamed_eq_none.mp hnone s hs).symm
        obtain ⟨s, hs⟩ := Option.ne_none_iff_exists'.mp hsome
        rw [hs, Option.some_or]
      · simp [lastNamed, hn]

end DiagramTree

namespace Registry

variable {r r' : Registry α} {t : DiagramTree α}

theorem lookup_append (before behind : Registry α) (n : String) :
    lookup (before ++ behind) n = (lookup before n).or (lookup behind n) := by
  induction before with
  | nil => rfl
  | cons s before ih =>
    rw [List.cons_append, lookup, lookup]
    cases s.lookup n with
    | some t => rfl
    | none => exact ih

/-! ### Registries that agree -/

/-- Registries that agree on the names that a use reaches give it the same instance. What a use
inside the instance refers to, the template refers to as well. -/
theorem instantiate_congr (hdepth : r.maxDepth = r'.maxDepth) {depth : Nat} {chain : List String}
    {u : Element α}
    (h : ∀ m ∈ u.reference?, ∀ n, Relation.ReflTransGen r.Refers m n → r.lookup n = r'.lookup n) :
    r.instantiate depth chain u = r'.instantiate depth chain u := by
  induction depth generalizing chain u with
  | zero => rw [instantiate.eq_def, instantiate.eq_def r', hdepth]
  | succ depth ih =>
    rw [instantiate.eq_def, instantiate.eq_def r']
    cases hm : u.attributes.get? .ref with
    | none => rfl
    | some m =>
      have hlookup := h m hm m .refl
      dsimp only
      rw [← hlookup]
      cases hs : r.lookup m with
      | none => rfl
      | some s =>
        have hinside : (s.instantiatedBy u).replaceUses (r.instantiate depth (chain ++ [m])) =
            (s.instantiatedBy u).replaceUses (r'.instantiate depth (chain ++ [m])) := by
          refine DiagramTree.replaceUses_congr fun v hv => ih fun k hk n hkn => ?_
          have hmk : r.Refers m k := ⟨s, hs, DiagramTree.mem_references_instantiatedBy.mp
            (DiagramTree.mem_references.mpr ⟨v, hv, hk⟩)⟩
          exact h m hm n (.head hmk hkn)
        dsimp only
        rw [hinside]

theorem expand_congr (hdepth : r.maxDepth = r'.maxDepth)
    (h : ∀ n, r.Reaches t n → r.lookup n = r'.lookup n) : r.expand t = r'.expand t := by
  rw [expand, expand, hdepth]
  refine DiagramTree.replaceUses_congr fun u hu => instantiate_congr hdepth fun m hm n hmn => ?_
  exact h n ⟨m, DiagramTree.mem_references.mpr ⟨u, hu, hm⟩, hmn⟩

end Registry

/-! ### One scope in the place of many -/

theorem Document.registry_lookup {d : Document α} {shared r : Registry α} {maxDepth : Int}
    (h : d.registry shared maxDepth = .ok r) (n : String) :
    r.lookup n = (DiagramTree.lastNamed d.templates n).or (shared.lookup n) := by
  obtain ⟨hnames, rfl⟩ := Document.registry_eq_ok.mp h
  rw [Registry.lookup, Scope.lookup_map_name, DiagramTree.find?_eq_lastNamed hnames]
  cases DiagramTree.lastNamed d.templates n <;> rfl

/-- The document with the templates of others beside its own. Of those with one name it has the
last, and its own before all others. -/
def Document.withTemplatesOf (d : Document α) (documents : List (Document α)) : Document α :=
  { d with templates :=
      DiagramTree.lastOfNames (documents.flatMap (·.templates) ++ d.templates) }

/-- Of the templates of several sources with one name the last is found. -/
theorem Registry.ofSources_ok [Scalar α] {maxDepth : Int} {sources : List String}
    {before shared : Registry α} (h : Registry.ofSources maxDepth before sources = .ok shared) :
    ∃ documents, List.Forall₂ (fun source d => Document.ofSource source = .ok d) sources documents ∧
      ∀ n, shared.lookup n =
        (DiagramTree.lastNamed (documents.flatMap (·.templates)) n).or (before.lookup n) := by
  induction sources generalizing before with
  | nil =>
    obtain rfl := Except.ok.inj h
    exact ⟨[], .nil, fun _ => rfl⟩
  | cons source sources ih =>
    simp only [Registry.ofSources, Except.bind_eq_ok, Except.mapError_eq_ok] at h
    obtain ⟨d, hd, r, hr, h⟩ := h
    obtain ⟨documents, hdocuments, hlookup⟩ := ih h
    refine ⟨d :: documents, .cons hd hdocuments, fun n => ?_⟩
    rw [hlookup, Document.registry_lookup hr, List.flatMap_cons, DiagramTree.lastNamed_append,
      Option.or_assoc]

theorem Document.withTemplatesOf_registry {d : Document α} {documents : List (Document α)}
    {shared r : Registry α} {maxDepth : Int} (h : d.registry shared maxDepth = .ok r)
    (hshared : ∀ n, shared.lookup n = DiagramTree.lastNamed (documents.flatMap (·.templates)) n) :
    ∃ scope : Scope α, (d.withTemplatesOf documents).registry [] maxDepth = .ok [scope] ∧
      scope.maxDepth = maxDepth ∧ ∀ n, r.lookup n = scope.lookup n := by
  have hnames := DiagramTree.pairwise_lastOfNames (documents.flatMap (·.templates) ++ d.templates)
  refine ⟨_, Document.registry_eq_ok.mpr ⟨hnames, rfl⟩, rfl, fun n => ?_⟩
  rw [Document.registry_lookup h, hshared, ← DiagramTree.lastNamed_append, Scope.lookup_map_name,
    ← DiagramTree.lastNamed_lastOfNames]
  exact (DiagramTree.find?_eq_lastNamed hnames n).symm

/-- Registries of one depth that agree on the names that a tree reaches expand it alike, to a tree
or to an error. The scopes of shared sources around that of a document are therefore worth as much
as the one scope of the document with the templates of all, where later ones hide earlier ones and
its own hide all; and templates that are not reached, or that are hidden by the scopes in front of
theirs, can be anything. -/
theorem Registry.expand_agrees [Scalar α] :
    (∀ (r r' : Registry α) (t : DiagramTree α), r.maxDepth = r'.maxDepth →
      (∀ n, r.Reaches t n → r.lookup n = r'.lookup n) → r.expand t = r'.expand t) ∧
    (∀ (sharedDepth : Int) (sources : List String) (shared : Registry α),
      Registry.ofSources sharedDepth [] sources = .ok shared →
      ∃ documents,
        List.Forall₂ (fun source d => Document.ofSource source = .ok d) sources documents ∧
        ∀ (d : Document α) (maxDepth : Int) (r : Registry α), d.registry shared maxDepth = .ok r →
          ∃ scope : Scope α, (d.withTemplatesOf documents).registry [] maxDepth = .ok [scope] ∧
            (∀ t, r.expand t = Registry.expand [scope] t) ∧
            ∀ world options, options.maxTemplateDepth = maxDepth →
              d.compile world options shared =
                (d.withTemplatesOf documents).compile world options []) ∧
    ∀ (before middle middle' behind : Registry α) (t : DiagramTree α),
      (before ++ middle ++ behind).maxDepth = (before ++ middle' ++ behind).maxDepth →
      (∀ n, middle.lookup n ≠ middle'.lookup n →
        (before.lookup n).isSome ∨ ¬(before ++ middle ++ behind).Reaches t n) →
      (before ++ middle ++ behind).expand t = (before ++ middle' ++ behind).expand t := by
  refine ⟨fun r r' t => expand_congr, ?_, ?_⟩
  · intro sharedDepth sources shared hshared
    obtain ⟨documents, hdocuments, hlookup⟩ := Registry.ofSources_ok hshared
    refine ⟨documents, hdocuments, fun d maxDepth r hr => ?_⟩
    obtain ⟨scope, hscope, hdepth, hsame⟩ := Document.withTemplatesOf_registry hr
      fun n => (hlookup n).trans Option.or_none
    have hmaxDepth : r.maxDepth = maxDepth := by
      obtain ⟨-, rfl⟩ := Document.registry_eq_ok.mp hr
      rfl
    have hexpand (t : DiagramTree α) : r.expand t = Registry.expand [scope] t := by
      refine expand_congr (hmaxDepth.trans hdepth.symm) fun n _ => ?_
      rw [hsame, Registry.lookup]
      cases scope.lookup n <;> rfl
    refine ⟨scope, hscope, hexpand, ?_⟩
    rintro world options rfl
    exact Document.compile_eq_of_expand_eq hscope hr (hexpand d.root) rfl rfl rfl
  · intro before middle middle' behind t hdepth hsame
    refine expand_congr hdepth fun n hn => ?_
    rw [lookup_append, lookup_append, lookup_append (before ++ middle'), lookup_append before]
    by_cases hmiddle : middle.lookup n = middle'.lookup n
    · rw [hmiddle]
    · obtain hhidden | hnot := hsame n hmiddle
      · obtain ⟨s, hs⟩ := Option.isSome_iff_exists.mp hhidden
        simp only [hs, Option.some_or]
      · exact absurd hn hnot

/-- A source with the templates `chip` and `pin`. -/
def chipSource : String :=
  "<diagram><defs><rect id=\"chip\" width=\"10\"/><rect id=\"pin\"/></defs></diagram>"

/-- A diagram with a `chip` of its own, and uses of both. -/
def chipMarkup : MarkupTree :=
  .node { tag := "diagram" }
    [.node { tag := "defs" }
      [.node { tag := "rect", id := some "chip", attributes := [("width", "20")] } []],
      .node { tag := "use", attributes := [("ref", "chip")] } [],
      .node { tag := "use", attributes := [("ref", "pin")] } []]

/-- Templates behind those of a registry: `card`, which the registry has itself, and `badge`. -/
def hiddenTemplates : Registry Rat :=
  [{ templates := [("card", .node { tag := .text } []), ("badge", cardUse)] }]

theorem cardUse_reaches {behind : Registry Rat} {n : String}
    (h : Registry.Reaches (cardTemplates ++ behind) cardUse n) : n = "card" := by
  obtain ⟨m, hm, hmn⟩ := h
  obtain rfl : m = "card" := List.mem_singleton.mp hm
  induction hmn with
  | refl => rfl
  | tail _ hrefers ih =>
    obtain rfl := ih
    obtain ⟨t, ht, hn⟩ := hrefers
    obtain rfl := Option.some.inj ht
    simp [DiagramTree.references, DiagramTree.uses, Tree.preorderAll, Element.kind, Tag.kind] at hn

theorem chipMarkup_expand_agrees :
    (∃ shared d r documents, Registry.ofSources 50 [] [chipSource] = .ok shared ∧
      Document.ofMarkup chipMarkup = .ok d ∧ d.registry shared 50 = .ok r ∧
      ∃ (scope : Scope Rat) (x : DiagramTree Rat),
        (d.withTemplatesOf documents).registry [] 50 = .ok [scope] ∧
        r.expand d.root = .ok x ∧ Registry.expand [scope] d.root = .ok x ∧
        ∀ world, d.compile world .default shared =
          (d.withTemplatesOf documents).compile world .default []) ∧
    (cardTemplates ++ hiddenTemplates).expand cardUse = cardTemplates.expand cardUse ∧
    (cardTemplates ++ hiddenTemplates ++ []).expand cardUse =
      (cardTemplates ++ [] ++ []).expand cardUse := by
  refine ⟨?_, ?_, ?_⟩
  · have hexpanded : (do
        let shared ← Registry.ofSources 50 [] [chipSource]
        let d ← (Document.ofMarkup chipMarkup).mapError DiagramError.structural
        let r ← (d.registry shared 50).mapError DiagramError.template
        (r.expand d.root).mapError DiagramError.template :
          Except (DiagramError Rat) (DiagramTree Rat)).isOk = true := by
      decide +kernel
    obtain ⟨x, hx⟩ := Except.exists_of_isOk hexpanded
    simp only [Except.bind_eq_ok, Except.mapError_eq_ok] at hx
    obtain ⟨shared, hshared, d, hd, r, hr, hx⟩ := hx
    obtain ⟨documents, -, hone⟩ := Registry.expand_agrees.2.1 50 _ shared hshared
    obtain ⟨scope, hscope, hsame, hcompile⟩ := hone d 50 r hr
    exact ⟨shared, d, r, documents, hshared, hd, hr, scope, x, hscope, hx, hsame d.root ▸ hx,
      fun world => hcompile world .default rfl⟩
  · refine Registry.expand_agrees.1 _ _ _ rfl fun n hn => ?_
    obtain rfl := cardUse_reaches hn
    rfl
  · refine Registry.expand_agrees.2.2 cardTemplates hiddenTemplates [] [] cardUse rfl
      fun n _ => ?_
    by_cases hn : n = "card"
    · exact .inl (by rw [hn]; rfl)
    · refine .inr fun h => hn ?_
      rw [List.append_assoc] at h
      exact cardUse_reaches h

end GridDiagram
