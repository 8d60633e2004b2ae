import GridDiagram.Element
import GridDiagram.StructuralError
import GridDiagram.Text.Blank

/-!
Selectors of rules, and the criteria by which a rule chooses elements.
-/

namespace GridDiagram

/-- What a selector names. -/
inductive Selector where
  | byClass (name : String)
  | byId (name : String)
  deriving DecidableEq, Repr

namespace Selector

/-- The kind and the name that a selector spells: after a dot or a hash, or around the first
equals sign. -/
def split (cs : List Char) : String × String :=
  match cs with
  | '.' :: name => ("class", String.ofList name)
  | '#' :: name => ("id", String.ofList name)
  | cs =>
    match cs.dropWhile (· != '=') with
    | _ :: name =>
      (String.ofList (Text.trim Text.isBlank (cs.takeWhile (· != '='))),
        String.ofList (Text.trim Text.isBlank name))
    | [] => ("", "")

/-- Reads a selector. -/
def parse (s : String) : Except StructuralError Selector :=
  match split (Text.trim Text.isBlank s.toList) with
  | (kind, name) =>
    if name.isEmpty then .error (.badSelector s)
    else if kind == "class" then .ok (.byClass name)
    else if kind == "id" then .ok (.byId name)
    else .error (.badSelector s)

end Selector

/-- The names of a list without empty ones and, of equal ones, the first only. -/
def distinctNames (names : List String) : List String :=
  names.foldl (fun seen name => if name.isEmpty || seen.contains name then seen else seen ++ [name])
    []

/-- What an element must carry to be chosen: an id, if one is asked for, and all of the classes. -/
structure Criteria where
  id : Option String
  classes : List String
  deriving DecidableEq, Repr

namespace Criteria

variable {α : Type}

/-- An element fulfils the criteria. -/
def admits (c : Criteria) (e : Element α) : Bool :=
  (match c.id with
    | some id => e.id == some id
    | none => true) &&
  c.classes.all fun name => e.classes.contains name

/-- The criteria of a rule: its own id and classes together with its selector. -/
def ofRule (rule : Element α) : Except StructuralError Criteria := do
  match rule.attributes.get? .select with
  | none => return ⟨rule.id, distinctNames rule.classes⟩
  | some text =>
    match ← Selector.parse text with
    | .byClass name => return ⟨rule.id, distinctNames (rule.classes ++ [name])⟩
    | .byId name =>
      match rule.id with
      | some id =>
        if id = name then return ⟨some name, distinctNames rule.classes⟩
        else throw (.conflictingIds name id)
      | none => return ⟨some name, distinctNames rule.classes⟩

end Criteria

end GridDiagram
