import GridDiagram.Xml.Entity

/-!
The name spaces of XML: prefixes of names stand for them, and attributes bind prefixes. Of a name
that has been read only the local part is kept.
-/

namespace GridDiagram.Xml

/-- The name space of the prefix `xml`, to which no other prefix is bound. -/
def xmlSpace : String :=
  "http://www.w3.org/XML/1998/namespace"

/-- The name space of the attributes that bind prefixes, to which no prefix is bound. -/
def bindingSpace : String :=
  "http://www.w3.org/2000/xmlns/"

/-- The name spaces of prefixes, the bindings of inner elements first. -/
abbrev Bindings : Type :=
  List (String × String)

/-- The bindings that need no attribute. -/
def Bindings.initial : Bindings :=
  [("xml", xmlSpace)]

/-- The prefix of a name, if it has one, and its local part. -/
def splitName (name : String) : Option String × String :=
  let cs := name.toList
  match cs.dropWhile (· != ':') with
  | _ :: localName => (some (String.ofList (cs.takeWhile (· != ':'))), String.ofList localName)
  | [] => (none, name)

/-- The prefix that an attribute of a name binds; `none` inside for the name space of names without
a prefix. -/
def boundPrefix? (name : String) : Option (Option String) :=
  if name = "xmlns" then some none
  else
    match splitName name with
    | (some "xmlns", localName) => some (some localName)
    | _ => none

/-- A prefix may be bound to a name space: none is unbound, the reserved ones keep theirs, and a
name space has no closing brace in its name. -/
def mayBind (bound : Option String) (space : String) : Bool :=
  !(space.isEmpty && bound.isSome) && bound != some "xmlns" &&
    (bound == some "xml") == (space == xmlSpace) && space != bindingSpace &&
    !space.toList.contains '\x7d'

/-- Why the names of a start tag cannot be resolved: at an attribute, or for the tag as a whole. -/
inductive TagFault where
  | at (remaining : Nat)
  | whole
  deriving DecidableEq, Repr

/-- Attributes by their full names, with the bindings in force. -/
structure TagNames where
  bindings : Bindings
  attributes : List (String × String) := []
  deriving DecidableEq, Repr

namespace TagNames

/-- Adds an attribute, which may be a binding. -/
def add (names : TagNames) (name value : String) : Except TagFault TagNames :=
  match boundPrefix? name with
  | none => .ok { names with attributes := names.attributes ++ [(name, value)] }
  | some bound =>
    if !mayBind bound value then .error .whole
    else
      match bound with
      | none => .ok names
      | some name => .ok { names with bindings := (name, value) :: names.bindings }

/-- The name space and the local part of a name that has a prefix; `none` for one without. -/
def expand (names : TagNames) (name : String) : Except TagFault (Option (String × String)) :=
  match splitName name with
  | (none, _) => .ok none
  | (some bound, localName) =>
    match names.bindings.lookup bound with
    | some space => .ok (some (space, localName))
    | none => .error .whole

/-- Refuses names with unbound prefixes and attributes with the same full name. -/
def check (names : TagNames) (element : String) : Except TagFault Unit := do
  let full ← names.attributes.mapM fun (name, _) => names.expand name
  let known := full.filterMap id
  if known.eraseDups.length ≠ known.length then throw .whole
  discard (names.expand element)

def localAttributes (names : TagNames) : List (String × String) :=
  names.attributes.map fun (name, value) => ((splitName name).2, value)

end TagNames

namespace StartTag

/-- Adds the attributes of a start tag in order, each with its normalised value. `chain` holds the
entities inside whose texts the tag stands. -/
def addGiven (d : Doctype) (chain : List String) (element : String) (seen : List String)
    (names : TagNames) : List RawAttribute → Except TagFault TagNames
  | [] => .ok names
  | a :: rest => do
    if seen.contains a.name then throw (.at a.start.length)
    let value ← (d.valueOfParts (d.keepsBlanks element a.name) chain (a.value.map .ok)).mapError
      fun
      | .at remaining => .at remaining
      | .inside => .whole
    let names ← names.add a.name value
    addGiven d chain element (a.name :: seen) names rest

/-- Adds the attributes that have a value by declaration and are not in `seen`. -/
def addDefaults (seen : List String) (names : TagNames) :
    List AttributeDefault → Except TagFault TagNames
  | [] => .ok names
  | a :: rest =>
    match a.value with
    | none => addDefaults seen names rest
    | some value =>
      if seen.contains a.name then addDefaults seen names rest
      else do
        let names ← names.add a.name value
        addDefaults (a.name :: seen) names rest

/-- The attributes of a start tag, given and declared ones, and the bindings in force inside its
element. -/
def resolve (d : Doctype) (chain : List String) (bindings : Bindings) (tag : StartTag) :
    Except TagFault TagNames := do
  let names ← addGiven d chain tag.name [] { bindings } tag.attributes
  let names ← addDefaults (tag.attributes.map (·.name)) names (d.defaultsOf tag.name)
  names.check tag.name
  return names

end StartTag

end GridDiagram.Xml
