import GridDiagram.Text.Position
import GridDiagram.Xml.Entity
import GridDiagram.Xml.Prolog
import GridDiagram.Xml.TextDeclaration

/-!
Reading what stands in front of the root element. What may come next is a state, which every token
of the prolog changes; on the way the declarations of entities and attributes are recorded.
-/

namespace GridDiagram.Xml

/-- What a declaration of an entity is about: a name of the document, or one of the document type
itself. -/
inductive EntityScope where
  | general (name : String)
  | parameter
  deriving DecidableEq, Repr

/-- An attribute whose declaration is being read. -/
structure PendingAttribute where
  element : String
  name : String
  keepsBlanks : Bool := false
  identifies : Bool := false
  deriving DecidableEq, Repr

/-- What may come next in a prolog. A group of a content model is held by the mark between its
items, once there is one, behind those of the groups inside it. -/
inductive Expecting where
  | anything
  | doctype
  | root
  | doctypeName
  | doctypeSource
  | doctypePublic
  | doctypeSystem
  | subsetOrClose
  | doctypeClose
  | subset
  | declarationClose
  | entityName
  | parameterName
  | entityBody (scope : EntityScope)
  | entityPublic (scope : EntityScope)
  | entitySystem (scope : EntityScope)
  | entityEnd (scope : EntityScope)
  | entityNotation (name : String)
  | notationName
  | notationSource
  | notationPublic
  | notationSystem
  | notationEnd
  | attributesOf
  | attributeName (element : String)
  | attributeType (a : PendingAttribute)
  | choice (a : PendingAttribute)
  | choiceNext (a : PendingAttribute)
  | notationGroup (a : PendingAttribute)
  | notationChoice (a : PendingAttribute)
  | notationNext (a : PendingAttribute)
  | attributeDefault (a : PendingAttribute)
  | attributeFixed (a : PendingAttribute)
  | contentOf
  | content
  | groupStart
  | mixedNext
  | mixedName
  | mixedMore
  | groupItem (marks : List (Option PrologToken))
  | groupNext (marks : List (Option PrologToken))
  deriving DecidableEq, Repr

/-- What is known of a prolog so far. -/
structure PrologState where
  expecting : Expecting := .anything
  doctype : Doctype := {}
  deriving DecidableEq, Repr

/-- A character that a public identifier may hold. -/
def isPublicChar (c : Char) : Bool :=
  c.isAlphanum || "-'()+,./:=?;!*#@$_% \r\n".toList.contains c

/-- Refuses a public identifier with any other character; an error is the number of characters left
from there on, where `behind` follow the identifier. -/
def checkPublic (behind : Nat) (cs : List Char) : Except Nat Unit :=
  match cs.dropWhile isPublicChar with
  | [] => .ok ()
  | rest => .error (rest.length + behind)

/-- The text that the literal of an entity stands for: references to characters are replaced, and
those to entities stay. A parameter entity has no place in it. -/
def entityText (behind : Nat) (cs : List Char) : Except Nat (List Char) :=
  match cs with
  | [] => .ok []
  | c :: rest =>
    let here := (c :: rest).length + behind
    if c = '&' then
      match scanReference rest with
      | .error .unclosed => .error here
      | .error (.unexpected cs) => .error (cs.length + behind)
      | .ok target =>
        match target.value with
        | .noCharacter => .error here
        | .character d => (entityText behind target.rest).map (d :: ·)
        | .entity name =>
          (entityText behind target.rest).map (('&' :: name.toList ++ [';']) ++ ·)
    else if c = '%' then
      match scanName rest with
      | .error .unclosed => .error here
      | .error (.unexpected cs) => .error (cs.length + behind)
      | .ok name =>
        match name.rest with
        | [] => .error here
        | d :: more => .error (if d = ';' then here else (d :: more).length + behind)
    else (entityText behind rest).map (c :: ·)
termination_by cs.length
decreasing_by
  all_goals first
    | (have shorter := target.shorter; simp only [List.length_cons]; omega)
    | simp

namespace PrologState

/-- The state with something else to come. -/
def next (s : PrologState) (e : Expecting) : PrologState :=
  { s with expecting := e }

/-- The state after the value of an attribute, or after the word that stands for none. -/
def declareDefault (s : PrologState) (a : PendingAttribute) (value : Option String) : PrologState :=
  { s with
    expecting := .attributeName a.element
    doctype := s.doctype.declareDefault a.element a.identifies ⟨a.name, a.keepsBlanks, value⟩ }

/-- The state after the literal that is the value of an attribute, of which `behind` characters
follow the text. A fault inside an entity counts as one of the literal. -/
def readDefault (s : PrologState) (a : PendingAttribute) (here behind : Nat) (cs : List Char) :
    Except Nat PrologState :=
  if s.doctype.recordsMore then
    match s.doctype.valueOfParts a.keepsBlanks [] (valueParts behind cs) with
    | .ok value => .ok (s.declareDefault a (some value))
    | .error (.at remaining) => .error remaining
    | .error .inside => .error here
  else .ok (s.next (.attributeName a.element))

/-- The state after the literal that is the value of an entity. -/
def readEntity (s : PrologState) (scope : EntityScope) (behind : Nat) (cs : List Char) :
    Except Nat PrologState := do
  let s := s.next .declarationClose
  if !s.doctype.recordsMore then return s
  let text ← entityText behind cs
  match scope with
  | .general name =>
    return { s with doctype := s.doctype.declare name (.text (Text.unifyLineEnds text)) }
  | .parameter => return s

/-- The state after a declaration of an entity that is elsewhere. -/
def declareEntity (s : PrologState) (name : String) (entity : Entity) (e : Expecting) :
    PrologState :=
  { s with expecting := e, doctype := s.doctype.declare name entity }

/-- What may come behind the name of a declaration. -/
def declarationStart? : String → Option Expecting
  | "ENTITY" => some .entityName
  | "ATTLIST" => some .attributesOf
  | "ELEMENT" => some .contentOf
  | "NOTATION" => some .notationName
  | _ => none

/-- What may come behind the name of the type of an attribute. -/
def attributeType? (a : PendingAttribute) (word : String) : Option Expecting :=
  if word = "CDATA" then some (.attributeDefault { a with keepsBlanks := true })
  else if word = "ID" then some (.attributeDefault { a with identifies := true })
  else if ["IDREF", "IDREFS", "ENTITY", "ENTITIES", "NMTOKEN", "NMTOKENS"].contains word then
    some (.attributeDefault a)
  else if word = "NOTATION" then some (.notationGroup a)
  else none

/-- What may come behind a token of a content model, where no text is read on the way. -/
def contentNext? : Expecting → PrologToken → Option Expecting
  | .contentOf, .name _ shape => if shape = .loose then none else some .content
  | .content, .name word .plain =>
    if word = "EMPTY" ∨ word = "ANY" then some .declarationClose else none
  | .content, .openParen => some .groupStart
  | .groupStart, .hash word => if word = "PCDATA" then some .mixedNext else none
  | .groupStart, .openParen => some (.groupItem [none, none])
  | .groupStart, .name _ shape => if shape = .loose then none else some (.groupNext [none])
  | .groupStart, .counted _ => some (.groupNext [none])
  | .mixedNext, .closeParen mark =>
    if mark = none ∨ mark = some '*' then some .declarationClose else none
  | .mixedNext, .bar | .mixedMore, .bar => some .mixedName
  | .mixedName, .name _ shape => if shape = .loose then none else some .mixedMore
  | .mixedMore, .closeParen mark => if mark = some '*' then some .declarationClose else none
  | .groupItem marks, .openParen => some (.groupItem (none :: marks))
  | .groupItem marks, .name _ shape => if shape = .loose then none else some (.groupNext marks)
  | .groupItem marks, .counted _ => some (.groupNext marks)
  | .groupNext (_ :: marks), .closeParen _ =>
    some (if marks.isEmpty then .declarationClose else .groupNext marks)
  | .groupNext (mark :: marks), token =>
    if (token = .comma ∨ token = .bar) ∧ mark.all (· = token) then
      some (.groupItem (some token :: marks))
    else none
  | _, _ => none

/-- What may come behind a token of the declaration of a document type or a notation, or of the
front of another declaration, where nothing is recorded on the way. -/
def next? : Expecting → PrologToken → Option Expecting
  | .anything, .comment | .doctype, .comment => some .doctype
  | .root, .comment => some .root
  | .subset, .comment => some .subset
  | .anything, .instruction .processing | .doctype, .instruction .processing => some .doctype
  | .root, .instruction .processing => some .root
  | .subset, .instruction .processing => some .subset
  | .anything, .declaration word | .doctype, .declaration word =>
    if word = "DOCTYPE" then some .doctypeName else none
  | .doctypeName, .name _ shape => if shape = .loose then none else some .doctypeSource
  | .doctypeSource, .openBracket | .subsetOrClose, .openBracket => some .subset
  | .doctypeSource, .close | .subsetOrClose, .close | .doctypeClose, .close => some .root
  | .doctypeSource, .name "SYSTEM" .plain => some .doctypeSystem
  | .doctypeSource, .name "PUBLIC" .plain => some .doctypePublic
  | .subset, .closeBracket => some .doctypeClose
  | .subset, .declaration word => declarationStart? word
  | .declarationClose, .close => some .subset
  | .entityName, .percent => some .parameterName
  | .entityName, .name name .plain => some (.entityBody (.general name))
  | .parameterName, .name _ .plain => some (.entityBody .parameter)
  | .entityBody scope, .name "SYSTEM" .plain => some (.entitySystem scope)
  | .entityBody scope, .name "PUBLIC" .plain => some (.entityPublic scope)
  | .entitySystem scope, .literal _ _ => some (.entityEnd scope)
  | .entityEnd .parameter, .close => some .subset
  | .entityEnd (.general name), .name "NDATA" .plain => some (.entityNotation name)
  | .notationName, .name _ .plain => some .notationSource
  | .notationSource, .name "SYSTEM" .plain => some .notationSystem
  | .notationSource, .name "PUBLIC" .plain => some .notationPublic
  | .notationSystem, .literal _ _ | .notationEnd, .literal _ _ => some .declarationClose
  | .notationEnd, .close => some .subset
  | .attributesOf, .name element shape =>
    if shape = .loose then none else some (.attributeName element)
  | .attributeName _, .close => some .subset
  | .attributeName element, .name name shape =>
    if shape = .loose then none else some (.attributeType { element, name })
  | .attributeType a, .name word .plain => attributeType? a word
  | .attributeType a, .openParen => some (.choice a)
  | .choice a, .name _ _ => some (.choiceNext a)
  | .choiceNext a, .closeParen none | .notationNext a, .closeParen none =>
    some (.attributeDefault a)
  | .choiceNext a, .bar => some (.choice a)
  | .notationGroup a, .openParen | .notationNext a, .bar => some (.notationChoice a)
  | .notationChoice a, .name _ .plain => some (.notationNext a)
  | e, .blank => some (if e = .anything then .doctype else e)
  | e, token => contentNext? e token

/-- The state after a token, in front of which `here` characters are left. An error is the number
of characters left where the prolog goes wrong. -/
def step (s : PrologState) (here : Nat) (token : PrologToken) : Except Nat PrologState :=
  match s.expecting, token with
  | .anything, .instruction (.declaration text behind) =>
    match readTextDeclaration text with
    | .error remaining => .error (remaining + behind)
    | .ok standsAlone =>
      .ok { s with expecting := .doctype, doctype := { s.doctype with standsAlone } }
  | .doctypePublic, .literal text behind => do
    checkPublic behind text
    return s.next .doctypeSystem
  | .entityPublic scope, .literal text behind => do
    checkPublic behind text
    return s.next (.entitySystem scope)
  | .notationPublic, .literal text behind => do
    checkPublic behind text
    return s.next .notationEnd
  | .doctypeSystem, .literal _ _ =>
    .ok { s with expecting := .subsetOrClose, doctype := { s.doctype with isPartial := true } }
  | .subset, .parameter _ =>
    .ok { s with
      doctype := { s.doctype with isPartial := true, recordsMore := s.doctype.standsAlone } }
  | .entityBody scope, .literal text behind => s.readEntity scope behind text
  | .entityEnd (.general name), .close => .ok (s.declareEntity name .external .subset)
  | .entityNotation name, .name _ .plain =>
    .ok (s.declareEntity name .unparsed .declarationClose)
  | .attributeDefault a, .literal text behind | .attributeFixed a, .literal text behind =>
    s.readDefault a here behind text
  | .attributeDefault a, .hash word =>
    if word = "IMPLIED" ∨ word = "REQUIRED" then .ok (s.declareDefault a none)
    else if word = "FIXED" then .ok (s.next (.attributeFixed a))
    else .error here
  | e, token =>
    match next? e token with
    | some e => .ok (s.next e)
    | none => .error here

/-- A root element may come next. -/
def allowsRoot (s : PrologState) : Bool :=
  s.expecting = .anything || s.expecting = .doctype || s.expecting = .root

end PrologState

/-- The number of characters left where a piece of a text goes wrong. A piece in which the text ends
goes wrong at its start. -/
def ScanError.remaining (start : List Char) : ScanError → Nat
  | unexpected rest => rest.length
  | unclosed => start.length

/-- Reads a prolog up to the root element. An error is the number of characters left where it goes
wrong. -/
def readProlog (s : PrologState) (cs : List Char) : Except Nat (Doctype × List Char) :=
  match cs with
  | [] => .error 0
  | c :: rest =>
    match scanPrologToken (c :: rest) with
    | .error e => .error (e.remaining (c :: rest))
    | .ok token =>
      if token.value = .tagStart then
        if s.allowsRoot then .ok (s.doctype, c :: rest) else .error (c :: rest).length
      else
        match s.step (c :: rest).length token.value with
        | .error remaining => .error remaining
        | .ok s => readProlog s token.rest
termination_by cs.length
decreasing_by exact token.shorter

/-- Reads what stands behind the root element: blanks, comments and processing instructions. -/
def readEpilog (cs : List Char) : Except Nat Unit :=
  match cs with
  | [] => .ok ()
  | c :: rest =>
    match scanPrologToken (c :: rest) with
    | .error e => .error (e.remaining (c :: rest))
    | .ok token =>
      if token.value = .blank ∨ token.value = .comment ∨
          token.value = .instruction .processing then
        readEpilog token.rest
      else .error (c :: rest).length
termination_by cs.length
decreasing_by exact token.shorter

end GridDiagram.Xml
