import GridDiagram.Compile
import GridDiagram.Proofs.Outcome

/-!
The scopes that templates are defined in: which definitions are accepted, what is then found under a
name, and the registry that a document makes of its templates.
-/

namespace GridDiagram

variable {α : Type}

/-- The name under which a template is defined. -/
def DiagramTree.name (t : DiagramTree α) : String :=
  t.value.id.getD ""

namespace Scope

theorem lookup_map_name (ts : List (DiagramTree α)) (maxDepth : Int) (n : String) :
    lookup ⟨ts.map fun t => (t.name, t), maxDepth⟩ n = ts.find? (·.name = n) := by
  unfold lookup
  induction ts with
  | nil => rfl
  | cons t ts ih =>
    by_cases hn : t.name = n
    · simp [hn]
    · rw [List.map_cons, List.lookup_cons, beq_false_of_ne (Ne.symm hn),
        List.find?_cons_of_neg (by simpa using hn)]
      exact ih

/-- Templates are defined in a scope where none has the name of another one or one of the scope. -/
theorem defineAll_eq_ok {s s' : Scope α} {ts : List (DiagramTree α)} :
    s.defineAll ts = (s', .ok ()) ↔
      (ts.Pairwise fun t u => t.name ≠ u.name) ∧ (∀ t ∈ ts, s.lookup t.name = none) ∧
        s' = ⟨s.templates ++ ts.map fun t => (t.name, t), s.maxDepth⟩ := by
  induction ts generalizing s with
  | nil => simp [defineAll, Prod.ext_iff, eq_comm]
  | cons t ts ih =>
    rw [defineAll, define, ← DiagramTree.name, List.pairwise_cons, List.forall_mem_cons]
    cases hlookup : s.lookup t.name with
    | some u => simp
    | none =>
      have hdefined (u : DiagramTree α) :
          Scope.lookup ⟨s.templates ++ [(t.name, t)], s.maxDepth⟩ u.name = none ↔
            t.name ≠ u.name ∧ s.lookup u.name = none := by
        rw [lookup, List.lookup_append, Option.or_eq_none_iff, ← lookup, and_comm,
          List.lookup_eq_none_iff, List.forall_mem_singleton, bne_iff_ne, ne_comm]
      simp only [ih, hdefined, forall₂_and, true_and, List.append_assoc, List.singleton_append,
        List.map_cons]
      grind

/-- The only error of definitions is a name that is given twice. -/
theorem defineAll_error {s : Scope α} {ts : List (DiagramTree α)} {e : TemplateError}
    (h : (s.defineAll ts).2 = .error e) : ∃ name, e = .duplicate name := by
  induction ts generalizing s with
  | nil => simp [defineAll] at h
  | cons t ts ih =>
    unfold defineAll at h
    split at h
    · rename_i e' he
      obtain rfl := Except.error.inj h
      unfold define at he
      split at he
      · exact ⟨_, (Except.error.inj he).symm⟩
      · simp at he
    · exact ih h

end Scope

theorem Document.registry_eq_ok {d : Document α} {shared r : Registry α} {maxDepth : Int} :
    d.registry shared maxDepth = .ok r ↔
      (d.templates.Pairwise fun t u => t.name ≠ u.name) ∧
        r = ⟨d.templates.map fun t => (t.name, t), maxDepth⟩ :: shared := by
  rw [Document.registry]
  rcases h : ({ maxDepth } : Scope α).defineAll d.templates with ⟨scope, e | ⟨⟩⟩
  · refine ⟨nofun, fun ⟨hnames, _⟩ => ?_⟩
    rw [Scope.defineAll_eq_ok.mpr ⟨hnames, fun _ _ => rfl, rfl⟩] at h
    cases h
  · obtain ⟨hnames, -, rfl⟩ := Scope.defineAll_eq_ok.mp h
    exact ⟨fun hr => ⟨hnames, (Except.ok.inj hr).symm⟩, fun ⟨_, hr⟩ => hr ▸ rfl⟩

end GridDiagram
