import GridDiagram.Drawing.Svg
import GridDiagram.Proofs.Outcome

/-!
The elements of a drawing: which of them there are for a primitive, in which order, and which of
them has its id. The text of an outline, a transformation or a coordinate says nothing of that.
-/

namespace GridDiagram

open Except

/-- The values of the attribute `id` of an element. -/
def XmlElement.ids (e : XmlElement) : List String :=
  (e.attributes.filter (·.1 == "id")).map (·.2)

/-- No attribute is an `id`. -/
def Anonymous (attributes : List (String × String)) : Prop :=
  ∀ a ∈ attributes, a.1 ≠ "id"

theorem Anonymous.append {as bs : List (String × String)} (h : Anonymous as) (h' : Anonymous bs) :
    Anonymous (as ++ bs) :=
  fun a ha => (List.mem_append.mp ha).elim (h a) (h' a)

theorem Anonymous.cons {a : String × String} {as : List (String × String)} (ha : a.1 ≠ "id")
    (h : Anonymous as) : Anonymous (a :: as) :=
  List.forall_mem_cons.mpr ⟨ha, h⟩

theorem Anonymous.filter_eq_nil {as : List (String × String)} (h : Anonymous as) :
    as.filter (·.1 == "id") = [] := by
  rw [List.filter_eq_nil_iff]
  intro a ha
  simpa using h a ha

variable {α : Type} [Scalar α]

namespace Drawing

/-! ### Attributes -/

theorem ids_of_anonymous {e : XmlElement} (h : Anonymous e.attributes) : e.ids = [] := by
  rw [XmlElement.ids, h.filter_eq_nil, List.map_nil]

/-! ### Figures -/

/-- The lines of a figure: those of a text. -/
def Figure.lines : Figure α → List String
  | .text block => block.lines
  | _ => []

/-- The names of the elements that draw a figure. A polygon with round corners is a path. -/
def Figure.elementNames : Figure α → List String
  | .rectangle _ _ => ["rect"]
  | .ellipse _ _ => ["ellipse"]
  | .polygon _ _ => ["polygon", "path"]
  | .text _ => ["text"]
  | .path _ _ _ => ["path"]

/-- What is inside the element of a figure: an element without an id for each line of a text. -/
structure Inside (lines : List String) (ts : List XmlTree) : Prop where
  lines : ts.map (·.value.text) = lines
  children : ∀ t ∈ ts, t.children = []
  ids : ∀ t ∈ ts, t.value.ids = []

theorem Inside.nil : Inside [] [] :=
  ⟨rfl, by simp, by simp⟩

theorem Inside.cons {lines : List String} {ts : List XmlTree} (h : Inside lines ts)
    (name line : String) {attributes : List (String × String)} (ha : Anonymous attributes) :
    Inside (line :: lines) (.node { name, attributes, text := line } [] :: ts) where
  lines := congrArg (line :: ·) h.lines
  children := List.forall_mem_cons.mpr ⟨rfl, h.children⟩
  ids := List.forall_mem_cons.mpr ⟨ids_of_anonymous ha, h.ids⟩

end Drawing

/-- The names of the elements that draw a primitive. -/
def PrimitiveKind.elementNames : PrimitiveKind → List String
  | rect => ["rect"]
  | circle => ["ellipse"]
  | polygon => ["polygon", "path"]
  | text => ["text"]
  | path => ["path"]
  | group | other _ => []

/-- A primitive has a background or a border to be seen: a border has a colour and a width. -/
def Primitive.HasBackdrop (p : Primitive α) : Prop :=
  (p.attributes.get? .bg).join.isSome ∨
    (p.attributes.get? .borderColor).join.isSome ∧ 0.0 < p.attributes.border

namespace Drawing

/-- The elements of a primitive: the rectangle of its background and border, where it has any, and
what is drawn, unless it is a group. The id is on what is drawn, or on the rectangle of a group. -/
structure Shows (p : Primitive α) (backdrop : Option XmlElement) (drawn : Option XmlTree) :
    Prop where
  hasBackdrop : backdrop.isSome ↔ p.HasBackdrop
  isDrawn : drawn.isSome ↔ p.kind ≠ .group
  rectangle : ∀ e ∈ backdrop, e.name = "rect" ∧
    e.ids = if p.kind = .group then (nonempty? p.id).toList else []
  figure : ∀ x ∈ drawn, x.value.name ∈ p.kind.elementNames ∧
    x.value.ids = (nonempty? p.id).toList ∧
    Inside (if p.kind = .text then p.lines else []) x.children

/-- The elements of primitives: for each its rectangle and what is drawn, in order. -/
def Drawn (ps : List (Primitive α)) (xs : List XmlTree) : Prop :=
  ∃ parts : List (Option XmlElement × Option XmlTree),
    List.Forall₂ (fun p part => Shows p part.1 part.2) ps parts ∧
    xs = parts.flatMap fun part => (part.1.map (Tree.node · [])).toList ++ part.2.toList

end Drawing

end GridDiagram
