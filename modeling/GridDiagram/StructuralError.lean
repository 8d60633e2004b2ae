import GridDiagram.Attribute.ValueError

/-!
The ways in which a source that can be read is still no diagram, and their wording.
-/

namespace GridDiagram

/-- An element as messages describe it: its tag, and its id if it has one. -/
structure Mention where
  tag : String
  id : Option String
  deriving DecidableEq, Repr

/-- The description between angle brackets. -/
def Mention.text (m : Mention) : String :=
  match m.id with
  | some id => "<" ++ m.tag ++ " id=" ++ Text.quoted id ++ ">"
  | none => "<" ++ m.tag ++ ">"

/-- What is wrong with the structure of a diagram. -/
inductive StructuralError where
  | unknownElement (tag : String)
  | unsupportedAttribute (name tag : String)
  | badValue (name tag : String) (reason : ValueError)
  | badPlacement (element : Mention) (reason : ValueError)
  | placementNotAllowed (element : Mention)
  | styleWithoutId
  | ruleWithoutCriteria (element : Mention)
  | ruleAroundOther (element : Mention)
  | placedTwice (element : Mention)
  | useWithoutReference (element : Mention)
  | childrenNotAllowed (element : Mention)
  | pathWithoutCoordinates (element : Mention)
  | textNotAllowed (element : Mention)
  | nestedDeclaration (tag : String) (inside : Mention)
  | badSelector (text : String)
  | conflictingIds (selected carried : String)
  | wrongRoot (tag : String)
  | placedDiagram
  | positionedDiagram
  | declarationAsTemplate (tag : String)
  | templateWithoutId (tag : String)
  | unsupportedAfterMerge (name tag path : String)
  | duplicateId (id path : String)
  | notStyle (tag : String)
  | duplicateStyle (id : String)
  | notRule (tag : String)
  deriving DecidableEq, Repr

namespace StructuralError

/-- The wording of an error, without the place where it arose. -/
def reason : StructuralError → String
  | unknownElement tag => "unknown element <" ++ tag ++ ">"
  | unsupportedAttribute name tag | unsupportedAfterMerge name tag _ =>
    "attribute \"" ++ name ++ "\" is not supported on <" ++ tag ++ ">"
  | badValue name tag reason =>
    "bad value for \"" ++ name ++ "\" on <" ++ tag ++ ">: " ++ reason.message
  | badPlacement element reason =>
    "bad grid placement on " ++ element.text ++ ": " ++ reason.message
  | placementNotAllowed element => element.text ++ " cannot take a grid placement"
  | styleWithoutId => "<style> needs an id so rules can reference it"
  | ruleWithoutCriteria element =>
    element.text ++ " needs a \"select\", \"id\" or \"class\" attribute"
  | ruleAroundOther element => element.text ++ " can only contain nested <rule> elements"
  | placedTwice element => element.text ++ " cannot take both \"place\" and a grid placement"
  | useWithoutReference element =>
    element.text ++ " needs a \"ref\" attribute naming a template"
  | childrenNotAllowed element => element.text ++ " cannot have children"
  | pathWithoutCoordinates element => element.text ++ " needs a \"coords\" attribute"
  | textNotAllowed element => element.text ++ " cannot contain text"
  | nestedDeclaration tag inside =>
    "<" ++ tag ++ "> must be declared at document level, not inside " ++ inside.text
  | badSelector text =>
    "bad rule selector \"" ++ text ++ "\" (use class=NAME or id=NAME)"
  | conflictingIds selected carried =>
    "rule selects id \"" ++ selected ++ "\" but also carries id \"" ++ carried ++ "\""
  | wrongRoot tag => "root element must be <diagram>, got <" ++ tag ++ ">"
  | placedDiagram => "<diagram> cannot take a grid placement"
  | positionedDiagram => "<diagram> cannot take a \"place\" position"
  | declarationAsTemplate tag => "<" ++ tag ++ "> cannot be used as a template"
  | templateWithoutId tag => "template <" ++ tag ++ "> inside <defs> needs an id (its name)"
  | duplicateId id _ => "duplicate id \"" ++ id ++ "\""
  | notStyle tag => "<" ++ tag ++ "> is not a style definition"
  | duplicateStyle id => "duplicate style id \"" ++ id ++ "\""
  | notRule tag => "<" ++ tag ++ "> is not a rule"

/-- The place where an error arose, if it is known. -/
def path? : StructuralError → Option String
  | unsupportedAfterMerge _ _ path | duplicateId _ path => some path
  | _ => none

end StructuralError

end GridDiagram
