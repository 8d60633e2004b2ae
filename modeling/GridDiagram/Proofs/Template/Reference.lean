import GridDiagram.Proofs.Template.Instance
import Mathlib.Data.List.Chain

/-!
How templates refer to each other, and what an expansion asks of that: every name that is reached
has a template, no template reaches itself, no chain of references is too long, and every instance
keeps to the vocabulary of its root.
-/

namespace GridDiagram

variable {α : Type}

namespace Registry

open Relation

/-- The template of `m` refers to `n`. -/
def Refers (r : Registry α) (m n : String) : Prop :=
  ∃ t, r.lookup m = some t ∧ n ∈ t.references

/-- A tree refers to `n`, itself or by way of the templates that it refers to. -/
def Reaches (r : Registry α) (t : DiagramTree α) (n : String) : Prop :=
  ∃ m ∈ t.references, ReflTransGen r.Refers m n

/-- A chain of nested references: the tree refers to the first name, and the template of every name
to the next one. -/
structure Nested (r : Registry α) (t : DiagramTree α) (names : List String) : Prop where
  head : ∀ n ∈ names.head?, n ∈ t.references
  chain : names.IsChain r.Refers

/-- The uses that an expansion of a tree comes to: those in the tree, and those in the instances
that such a use makes of its template. -/
inductive Instantiated (r : Registry α) (t : DiagramTree α) : Element α → Prop where
  | direct {u : Element α} (hu : u ∈ t.uses) : Instantiated r t u
  | nested {u v : Element α} {n : String} {s : DiagramTree α} (hu : Instantiated r t u)
      (hn : u.reference? = some n) (hs : r.lookup n = some s)
      (hv : v ∈ (s.instantiatedBy u).uses) : Instantiated r t v

/-- Every name that a tree reaches has a template. -/
def Defined (r : Registry α) (t : DiagramTree α) : Prop :=
  ∀ n, r.Reaches t n → (r.lookup n).isSome

/-- No template that a tree reaches reaches itself. -/
def Acyclic (r : Registry α) (t : DiagramTree α) : Prop :=
  ∀ n, r.Reaches t n → ¬TransGen r.Refers n n

/-- No chain of nested references holds more names than there may be. A chain without names never
does. -/
def Shallow (r : Registry α) (t : DiagramTree α) : Prop :=
  ∀ names, names ≠ [] → r.Nested t names → (names.length : Int) ≤ r.maxDepth

/-- The merged attributes of every root that is instantiated lie in the vocabulary of its tag. -/
def KeepsVocabulary (r : Registry α) (t : DiagramTree α) : Prop :=
  ∀ u n s, r.Instantiated t u → u.reference? = some n → r.lookup n = some s →
    (s.instantiatedBy u).value.InVocabulary

variable {r : Registry α} {t s : DiagramTree α} {names : List String} {m n : String}

theorem Nested.singleton (h : n ∈ t.references) : r.Nested t [n] :=
  ⟨by simpa using h, .singleton n⟩

/-- A chain of references goes on with what the template of its last name refers to. -/
theorem Nested.concat (h : r.Nested t (names ++ [m])) (hmn : r.Refers m n) :
    r.Nested t (names ++ [m] ++ [n]) := by
  constructor
  · have hne : names ++ [m] ≠ [] := by simp
    rw [List.head?_append_of_ne_nil _ hne]
    exact h.head
  · exact h.chain.append (.singleton n) (by simpa using hmn)

/-- A chain of references without its last name is one, and its last two names refer to each other.
-/
theorem Nested.of_concat (h : r.Nested t (names ++ [m] ++ [n])) :
    r.Nested t (names ++ [m]) ∧ r.Refers m n := by
  obtain ⟨hhead, hchain⟩ := h
  rw [List.isChain_append] at hchain
  refine ⟨⟨?_, hchain.1⟩, hchain.2.2 m (by simp) n (by simp)⟩
  rwa [List.head?_append_of_ne_nil _ (by simp)] at hhead

theorem Nested.reaches (h : r.Nested t (names ++ [n])) : r.Reaches t n := by
  induction names using List.reverseRecOn generalizing n with
  | nil => exact ⟨n, h.head n rfl, .refl⟩
  | append_singleton names m ih =>
    obtain ⟨hm, hmn⟩ := h.of_concat
    obtain ⟨k, hk, hkm⟩ := ih hm
    exact ⟨k, hk, hkm.tail hmn⟩

theorem Reaches.nested (h : r.Reaches t n) : ∃ names, r.Nested t (names ++ [n]) := by
  obtain ⟨m, hm, hmn⟩ := h
  induction hmn with
  | refl => exact ⟨[], .singleton hm⟩
  | tail _ hkn ih =>
    obtain ⟨names, h⟩ := ih
    exact ⟨_, h.concat hkn⟩

theorem Nested.transGen (h : r.Nested t (names ++ [n])) (hm : m ∈ names) :
    TransGen r.Refers m n := by
  have := (List.isChain_iff_pairwise (R := TransGen r.Refers)).mp
    (h.chain.imp fun _ _ => TransGen.single)
  exact (List.pairwise_append.mp this).2.2 m hm n (List.mem_singleton_self n)

/-- A chain goes on to whatever the template of its last name reaches, with all names on the way. -/
theorem Nested.extend (h : r.Nested t (names ++ [m])) (hmn : TransGen r.Refers m n) :
    ∃ between, r.Nested t (names ++ [m] ++ between ++ [n]) := by
  induction hmn with
  | single hmn => exact ⟨[], by simpa using h.concat hmn⟩
  | @tail k n _ hkn ih =>
    obtain ⟨between, ih⟩ := ih
    exact ⟨between ++ [k], by simpa using ih.concat hkn⟩

end Registry

end GridDiagram
