import GridDiagram.Document

/-!
Templates: named trees in nested scopes, and the expansion of a tree, which puts an instance of the
named template in the place of every use.
-/

namespace GridDiagram

/-- Why templates cannot be defined or expanded. -/
inductive TemplateError where
  | duplicate (name : String)
  | cycle (chain : List String) (path : String)
  | tooDeep (maxDepth : Int) (path : String)
  | unresolved (name path : String)
  | noReference (path : String)
  | structural (error : StructuralError)
  deriving DecidableEq, Repr

/-- The templates of one scope, in the order of their definition. -/
structure Scope (α : Type) where
  templates : List (String × DiagramTree α) := []
  maxDepth : Int := 50

/-- The scopes of a chain, the innermost first. Names of an inner scope hide those of the outer
ones. -/
abbrev Registry (α : Type) : Type :=
  List (Scope α)

namespace Scope

variable {α : Type}

def lookup (s : Scope α) (name : String) : Option (DiagramTree α) :=
  s.templates.lookup name

/-- Defines a template under a name that the scope does not have yet. -/
def define (s : Scope α) (name : String) (t : DiagramTree α) : Except TemplateError (Scope α) :=
  match s.lookup name with
  | some _ => .error (.duplicate name)
  | none => .ok { s with templates := s.templates ++ [(name, t)] }

/-- Defines each tree under its id, up to the first that is refused; what was defined before that
stays. -/
def defineAll (s : Scope α) : List (DiagramTree α) → Scope α × Except TemplateError Unit
  | [] => (s, .ok ())
  | t :: ts =>
    match s.define (t.value.id.getD "") t with
    | .error e => (s, .error e)
    | .ok s => defineAll s ts

end Scope

/-- `name` in its place in an ascending list of names, where it is not in the list yet. -/
def insertName (name : String) : List String → List String
  | [] => [name]
  | n :: ns =>
    if name = n then n :: ns else if name < n then name :: n :: ns else n :: insertName name ns

namespace Registry

variable {α : Type}

/-- The template of a name in the innermost scope that has one. -/
def lookup : Registry α → String → Option (DiagramTree α)
  | [], _ => none
  | s :: outer, name =>
    match s.lookup name with
    | some t => some t
    | none => lookup outer name

/-- The names of all scopes, in ascending order. -/
def names (r : Registry α) : List String :=
  (r.flatMap fun s => s.templates.map (·.1)).foldr insertName []

/-- The depth to which the innermost scope lets uses be nested. -/
def maxDepth : Registry α → Int
  | [] => 50
  | s :: _ => s.maxDepth

end Registry

namespace Element

variable {α : Type}

/-- The element that stands for the root of a template where it is used: the use gives it its id,
its attributes win, its classes follow, and a placement or a place on the use replaces whichever of
the two the template has. -/
def overriddenBy (e use : Element α) : Element α :=
  let attributes := e.attributes.merge (use.attributes.only (· != .ref))
  let e := { e with id := use.id, attributes, classes := distinctNames (e.classes ++ use.classes) }
  if use.placed then
    { e with placement := use.placement, placed := true, attributes := attributes.erase .place }
  else if (use.attributes.get? .place).isSome then
    { e with placement := Placement.first, placed := false }
  else e

/-- The element with `outer` and a dot in front of its id, if it has one. -/
def qualify (outer : String) (e : Element α) : Element α :=
  { e with id := e.id.map fun id => outer ++ "." ++ id }

/-- Refuses an attribute outside the vocabulary of the element's tag, the first if there are
several. -/
def checkVocabulary (e : Element α) : Except TemplateError Unit :=
  match e.attributes.attributes.find? fun a => !e.tag.allows a with
  | some a => .error (.structural (.unsupportedAfterMerge a.name e.tag.name e.label))
  | none => .ok ()

end Element

namespace DiagramTree

variable {α : Type}

/-- The tree that a use makes of a template, its own uses not yet replaced. With an id on the use
every id below the root is qualified by it. -/
def instantiatedBy (t : DiagramTree α) (use : Element α) : DiagramTree α :=
  match t with
  | .node e ts =>
    .node (e.overriddenBy use)
      (match use.id with
        | some id => Tree.mapAll (Element.qualify id) ts
        | none => ts)

mutual

/-- The tree with `f` applied to every use in it. -/
def replaceUses (f : Element α → Except TemplateError (DiagramTree α)) :
    DiagramTree α → Except TemplateError (DiagramTree α)
  | .node e ts =>
    if e.kind = .use then f e
    else do
      let ts ← replaceUsesAll f ts
      return .node e ts

/-- `replaceUses` on several trees, from the left. -/
def replaceUsesAll (f : Element α → Except TemplateError (DiagramTree α)) :
    List (DiagramTree α) → Except TemplateError (List (DiagramTree α))
  | [] => .ok []
  | t :: ts => do
    let t ← replaceUses f t
    let ts ← replaceUsesAll f ts
    return t :: ts

end

end DiagramTree

namespace Registry

variable {α : Type}

/-- The instance of the template that a use names. `chain` holds the names of the templates inside
which the use stands, the outermost first, and `depth` says how many uses may still be nested. -/
def instantiate (r : Registry α) (depth : Nat) (chain : List String) (use : Element α) :
    Except TemplateError (DiagramTree α) :=
  match use.attributes.get? .ref with
  | none => .error (.noReference use.label)
  | some name =>
    if chain.contains name then .error (.cycle (chain ++ [name]) use.label)
    else
      match depth with
      | 0 => .error (.tooDeep r.maxDepth use.label)
      | depth + 1 =>
        match r.lookup name with
        | none => .error (.unresolved name use.label)
        | some template => do
          let expanded ← (template.instantiatedBy use).replaceUses
            (instantiate r depth (chain ++ [name]))
          expanded.value.checkVocabulary
          return expanded

/-- The tree with an instance of its template in the place of every use. -/
def expand (r : Registry α) (t : DiagramTree α) : Except TemplateError (DiagramTree α) :=
  t.replaceUses (r.instantiate r.maxDepth.toNat [])

end Registry

namespace TemplateError

/-- The wording of an error, without the place where it arose. -/
def reason : TemplateError → String
  | duplicate name => "template \"" ++ name ++ "\" is already defined"
  | cycle chain _ => "template reference cycle: " ++ " -> ".intercalate chain
  | tooDeep maxDepth _ =>
    "maximum template depth of " ++ toString maxDepth ++ " reached - recursive use?"
  | unresolved name _ => "use references undefined template \"" ++ name ++ "\""
  | noReference _ => "'ref'"
  | structural error => error.reason

/-- The place where an error arose, if it is known. -/
def path? : TemplateError → Option String
  | duplicate _ | noReference _ => none
  | cycle _ path | tooDeep _ path | unresolved _ path => some path
  | structural error => error.path?

end TemplateError

end GridDiagram
