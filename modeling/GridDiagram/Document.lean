import GridDiagram.Markup
import GridDiagram.Selector
import GridDiagram.Vocabulary

/-!
Documents: the tree of a diagram with the templates, styles and rules declared beside it, and how
one is made of the markup of a source.
-/

namespace GridDiagram

/-- A diagram and what it declares. -/
structure Document (α : Type) where
  root : DiagramTree α
  templates : List (DiagramTree α) := []
  styles : List (DiagramTree α) := []
  rules : List (DiagramTree α) := []

variable {α : Type} [Scalar α]

/-- Reads the attributes of an element in order, within the vocabulary of its tag. `tagName` is the
name under which messages speak of the element. -/
def readAttributes (tagName : String) (tag : Tag) :
    List (String × String) → Except StructuralError (Properties α)
  | [] => .ok []
  | (name, text) :: rest =>
    match (Attribute.ofName? name).filter tag.allows with
    | none => .error (.unsupportedAttribute name tagName)
    | some a =>
      match a.parse text with
      | .error reason => .error (.badValue name tagName reason)
      | .ok v => do
        let ps ← readAttributes tagName tag rest
        .ok (⟨a, v⟩ :: ps)

def refuse (fault : Prop) [Decidable fault] (error : StructuralError) :
    Except StructuralError Unit :=
  if fault then .error error else .ok ()

namespace Element

/-- Refuses a rule that chooses nothing, or that has anything but rules inside it. -/
def checkRule (m : Markup) (children : List Markup) (e : Element α) :
    Except StructuralError Unit := do
  match e.attributes.get? .select with
  | some text => discard (Selector.parse text)
  | none => refuse (e.id.isNone ∧ m.classes.isEmpty) (.ruleWithoutCriteria m.mention)
  refuse (children.any (·.tag != "rule")) (.ruleAroundOther m.mention)

/-- Refuses an element that contradicts itself or lacks what its kind needs. `children` are the
elements directly inside it. -/
def check (m : Markup) (children : List Markup) (placement : Option Placement) (e : Element α) :
    Except StructuralError Unit := do
  refuse (e.kind = .style ∧ e.id.isNone) .styleWithoutId
  (if e.kind = .rule then checkRule m children e else .ok ())
  refuse ((e.attributes.get? .place).isSome ∧ placement.isSome) (.placedTwice m.mention)
  refuse (e.kind = .use ∧ ((e.attributes.get? .ref).getD "").isEmpty)
    (.useWithoutReference m.mention)
  refuse (e.kind ≠ .group ∧ e.kind ≠ .rule ∧ !children.isEmpty) (.childrenNotAllowed m.mention)
  refuse (e.kind = .path ∧ (e.attributes.get? .coords).isNone) (.pathWithoutCoordinates m.mention)
  refuse (e.kind ≠ .text ∧ !m.lines.isEmpty) (.textNotAllowed m.mention)

/-- Reads one element. `children` are the elements directly inside it. -/
def ofMarkup (m : Markup) (children : List Markup) : Except StructuralError (Element α) := do
  let some tag := Tag.ofName? m.tag | throw (.unknownElement m.tag)
  let placement ← (m.placement.parse).mapError (.badPlacement m.mention)
  refuse (placement.isSome ∧ (tag.kind = .style ∨ tag.kind = .rule))
    (.placementNotAllowed m.mention)
  let attributes ← readAttributes m.tag tag m.attributes
  let e : Element α :=
    { tag, id := m.properId, classes := distinctNames m.classes,
      placement := placement.getD Placement.first, placed := placement.isSome,
      attributes, lines := m.lines }
  check m children placement e
  return e

end Element

/-- Refuses a style or a rule inside anything but a rule. -/
def checkNesting (outer : Kind) (mention : Mention) (inner : Tag) : Except StructuralError Unit :=
  if outer ≠ .rule ∧ (inner.kind = .style ∨ inner.kind = .rule) then
    .error (.nestedDeclaration inner.name mention)
  else .ok ()

mutual

/-- Reads a tree of elements, each before those inside it. -/
def DiagramTree.ofMarkup : MarkupTree → Except StructuralError (DiagramTree α)
  | .node m ts => do
    let e ← Element.ofMarkup m (ts.map Tree.value)
    let children ← DiagramTree.ofMarkupAll e.kind m.mention ts
    return .node e children

/-- Reads the elements inside another one. -/
def DiagramTree.ofMarkupAll (outer : Kind) (mention : Mention) :
    List MarkupTree → Except StructuralError (List (DiagramTree α))
  | [] => .ok []
  | t :: ts => do
    let child ← DiagramTree.ofMarkup t
    checkNesting outer mention child.value.tag
    let rest ← DiagramTree.ofMarkupAll outer mention ts
    return child :: rest

end

namespace Document

/-- Reads a template, which needs a name and is no declaration. -/
def readTemplate (t : MarkupTree) : Except StructuralError (DiagramTree α) := do
  let template ← DiagramTree.ofMarkup t
  refuse (template.value.kind = .style ∨ template.value.kind = .rule)
    (.declarationAsTemplate t.value.tag)
  refuse template.value.id.isNone (.templateWithoutId t.value.tag)
  return template

/-- Adds what stands directly below the root of a source: a list of templates, a declaration, or a
part of the diagram. -/
def add (d : Document α) (t : MarkupTree) : Except StructuralError (Document α) := do
  if t.value.tag = "defs" then
    let templates ← t.children.mapM readTemplate
    return { d with templates := d.templates ++ templates }
  else
    let tree ← DiagramTree.ofMarkup t
    match tree.value.kind with
    | .style => return { d with styles := d.styles ++ [tree] }
    | .rule => return { d with rules := d.rules ++ [tree] }
    | _ => return { d with root := .node d.root.value (d.root.children ++ [tree]) }

/-- Reads a document. Its root is laid out like any other layout. -/
def ofMarkup (t : MarkupTree) : Except StructuralError (Document α) := do
  let m := t.value
  refuse (m.tag ≠ "diagram") (.wrongRoot m.tag)
  refuse (!m.placement.isEmpty) .placedDiagram
  refuse (m.attributes.any (·.1 == "place")) .positionedDiagram
  let attributes ← readAttributes "diagram" .layout m.attributes
  let root : Element α :=
    { tag := .layout, id := m.properId, classes := distinctNames m.classes, attributes }
  t.children.foldlM add { root := .node root [] }

end Document

/-- The first id in a list that some element before it has, with that later element. -/
def findRepeatedId (seen : List String) : List (Element α) → Option (String × Element α)
  | [] => none
  | e :: es =>
    match e.id with
    | none => findRepeatedId seen es
    | some id => if seen.contains id then some (id, e) else findRepeatedId (id :: seen) es

/-- Refuses a tree in which two elements have one id. -/
def checkUniqueIds (t : DiagramTree α) : Except StructuralError Unit :=
  match findRepeatedId [] t.preorder with
  | none => .ok ()
  | some (id, e) => .error (.duplicateId id e.label)

end GridDiagram
