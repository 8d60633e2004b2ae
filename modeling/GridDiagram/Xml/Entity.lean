import GridDiagram.Xml.Token

/-!
What a document type declares: entities, and values of attributes that are not given. Values of
attributes are normalised with its help: references in them are replaced, and blanks become spaces.
-/

namespace GridDiagram.Xml

/-- What a declared name stands for: a text of the document, whose lines end in line feeds, or
something outside of it that is or is not XML. -/
inductive Entity where
  | text (cs : List Char)
  | external
  | unparsed
  deriving DecidableEq, Repr

/-- What is declared of an attribute: whether blanks in its value are kept, and the value that holds
where none is given. -/
structure AttributeDefault where
  name : String
  keepsBlanks : Bool
  value : Option String
  deriving DecidableEq, Repr

/-- A document type. `defaults` has the attributes by the names of their elements. `isPartial` says
that declarations outside of the document have not been read, and `recordsMore` that declarations
still count. -/
structure Doctype where
  entities : List (String × Entity) := []
  defaults : List (String × AttributeDefault) := []
  standsAlone : Bool := false
  isPartial : Bool := false
  recordsMore : Bool := true
  deriving DecidableEq, Repr

namespace Doctype

/-- Declares an entity. The first declaration of a name counts, and the predefined ones do before
any. -/
def declare (d : Doctype) (name : String) (entity : Entity) : Doctype :=
  let known := (predefinedEntities.lookup name).isSome || (d.entities.lookup name).isSome
  if d.recordsMore && !known then
    { d with entities := d.entities ++ [(name, entity)] }
  else d

/-- What is declared of the attributes of an element, in order. -/
def defaultsOf (d : Doctype) (element : String) : List AttributeDefault :=
  (d.defaults.filter (·.1 == element)).map (·.2)

/-- Declares an attribute of an element. A declaration with a value, or of an attribute that
identifies the element, counts only for an attribute that has none before. -/
def declareDefault (d : Doctype) (element : String) (identifies : Bool) (a : AttributeDefault) :
    Doctype :=
  let known := (d.defaultsOf element).any (·.name == a.name)
  if d.recordsMore && !(known && (identifies || a.value.isSome)) then
    { d with defaults := d.defaults ++ [(element, a)] }
  else d

/-- A reference in a value may be to an entity that is declared elsewhere. -/
def mayMiss (d : Doctype) : Bool :=
  d.isPartial && !d.standsAlone

/-- Blanks in the value of an attribute are kept, each as a space. -/
def keepsBlanks (d : Doctype) (element name : String) : Bool :=
  match (d.defaultsOf element).find? (·.name == name) with
  | some a => a.keepsBlanks
  | none => true

end Doctype

/-- Where a value goes wrong: at a place given by the number of characters left, or inside a text
that it refers to. -/
inductive ValueFault where
  | at (remaining : Nat)
  | inside
  deriving DecidableEq, Repr

/-- The parts of a text as part of a value, up to the first place where it goes wrong. `behind`
characters follow the text. -/
def valueParts (behind : Nat) (cs : List Char) : List (Except ValueFault ValuePart) :=
  match cs with
  | [] => []
  | c :: rest =>
    if c = '&' then
      match scanReference rest with
      | .error .unclosed => [.error (.at ((c :: rest).length + behind))]
      | .error (.unexpected cs) => [.error (.at (cs.length + behind))]
      | .ok target =>
        .ok (.reference target.value ((c :: rest).length + behind)) ::
          valueParts behind target.rest
    else if c = '<' then [.error (.at ((c :: rest).length + behind))]
    else .ok (.character c) :: valueParts behind rest
termination_by cs.length
decreasing_by
  · have := target.shorter
    simp only [List.length_cons]
    omega
  · simp

/-- Adds a character to a value that is held from its end on. Where blanks are not kept, a space is
left out at the start and behind another one. -/
def pushToValue (keepsBlanks : Bool) (c : Char) (value : List Char) : List Char :=
  if c = ' ' ∧ !keepsBlanks ∧ value.head?.all (· == ' ') then value else c :: value

/-- Adds parts to a value that is held from its end on. `enter` adds the text of an entity. -/
def expandParts (enter : String → Nat → List Char → Except ValueFault (List Char))
    (keepsBlanks : Bool) :
    List (Except ValueFault ValuePart) → List Char → Except ValueFault (List Char)
  | [], value => .ok value
  | .error fault :: _, _ => .error fault
  | .ok (.character c) :: parts, value =>
    expandParts enter keepsBlanks parts
      (pushToValue keepsBlanks (if isBlank c then ' ' else c) value)
  | .ok (.reference (.character c) _) :: parts, value =>
    expandParts enter keepsBlanks parts (pushToValue keepsBlanks c value)
  | .ok (.reference .noCharacter remaining) :: _, _ => .error (.at remaining)
  | .ok (.reference (.entity name) remaining) :: parts, value =>
    match predefinedEntities.lookup name with
    | some c => expandParts enter keepsBlanks parts (c :: value)
    | none => (enter name remaining value).bind (expandParts enter keepsBlanks parts)

namespace Doctype

/-- Adds the text of an entity to a value. `chain` holds the entities inside whose texts the
reference stands, and `depth` says how many more may be nested. -/
def enterValue (d : Doctype) (keepsBlanks : Bool) (depth : Nat) (chain : List String)
    (name : String) (remaining : Nat) (value : List Char) : Except ValueFault (List Char) :=
  match d.entities.lookup name with
  | none => if d.mayMiss then .ok value else .error .inside
  | some .external | some .unparsed => .error (.at remaining)
  | some (.text cs) =>
    if chain.contains name then .error (.at remaining)
    else
      match depth with
      | 0 => .error (.at remaining)
      | depth + 1 =>
        (expandParts (d.enterValue keepsBlanks depth (name :: chain)) keepsBlanks
          (valueParts 0 cs) value).mapError fun _ => .inside

/-- The normalised value of parts. A chain of entities has no repetition, so that their number
bounds it. -/
def valueOfParts (d : Doctype) (keepsBlanks : Bool) (chain : List String)
    (parts : List (Except ValueFault ValuePart)) : Except ValueFault String := do
  let value ← expandParts (d.enterValue keepsBlanks d.entities.length chain) keepsBlanks parts []
  match value with
  | ' ' :: rest => return String.ofList (if keepsBlanks then value else rest).reverse
  | _ => return String.ofList value.reverse

end Doctype

end GridDiagram.Xml
