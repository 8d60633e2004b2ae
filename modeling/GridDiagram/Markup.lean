import GridDiagram.Placement
import GridDiagram.StructuralError
import GridDiagram.Tree

/-!
Elements as they stand in a source: names, texts and nesting, with nothing read yet.
-/

namespace GridDiagram

/-- One element of a source. `attributes` has each name once, in order. -/
structure Markup where
  tag : String
  id : Option String := none
  classes : List String := []
  placement : PlacementText := {}
  attributes : List (String × String) := []
  lines : List String := []
  deriving DecidableEq, Repr

/-- A tree of elements of a source. -/
abbrev MarkupTree : Type :=
  Tree Markup

namespace Markup

/-- Gives an attribute a text: in its place if there is one of the name, at the end if not. -/
def setAttribute : List (String × String) → String → String → List (String × String)
  | [], name, text => [(name, text)]
  | (n, t) :: rest, name, text =>
    if n == name then (n, text) :: rest else (n, t) :: setAttribute rest name text

/-- The id of an element, where it is not empty. -/
def properId (m : Markup) : Option String :=
  m.id.filter (!·.isEmpty)

/-- The element as messages describe it. -/
def mention (m : Markup) : Mention :=
  ⟨m.tag, m.properId⟩

end Markup

end GridDiagram
