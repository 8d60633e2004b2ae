import GridDiagram.Xml
import GridDiagram.Xml.Doctype
import GridDiagram.Xml.Namespace

/-!
Reading an XML text as a tree of elements. References to entities are replaced by what their texts
contain, comments and processing instructions are left out, and names are local. A text that is
not well-formed has a place where it goes wrong.
-/

namespace GridDiagram.Xml

/-- An element whose end has not been read. `tagName` is its name as it is written, and the children
are held from the last one on. -/
structure OpenElement where
  tagName : String
  bindings : Bindings
  element : XmlElement
  children : List XmlTree := []

namespace OpenElement

/-- What contains the root element. -/
def document : OpenElement where
  tagName := ""
  bindings := Bindings.initial
  element := { name := "" }

def ofTag (tag : StartTag) (names : TagNames) : OpenElement where
  tagName := tag.name
  bindings := names.bindings
  element := { name := (splitName tag.name).2, attributes := names.localAttributes }

/-- The tree of an element at its end. -/
def close (e : OpenElement) : XmlTree :=
  .node e.element e.children.reverse

/-- Adds a child at the end. -/
def addChild (e : OpenElement) (t : XmlTree) : OpenElement :=
  { e with children := t :: e.children }

/-- Adds characters behind the last child, or to the text of the element where there is none. -/
def addText (e : OpenElement) (cs : List Char) : OpenElement :=
  let text := String.ofList cs
  match e.children with
  | [] => { e with element := { e.element with text := e.element.text ++ text } }
  | .node child ts :: before =>
    { e with children := .node { child with tail := child.tail ++ text } ts :: before }

end OpenElement

/-- What may end the content that is read: the end of the root element, or that of the text. -/
inductive ContentEnd where
  | root
  | text
  deriving DecidableEq, Repr

/-- Reads content inside an element, which itself is inside those of `outer`, up to its end. The
result is the outermost of these elements with the content added to it, and what is left of the
text. `enter` adds the text of an entity to an element, if that is well-formed, and `chain` holds
the entities inside whose texts the content stands. An error is the number of characters left where
the text goes wrong. -/
def readContent (d : Doctype) (enter : String → OpenElement → Option OpenElement)
    (chain : List String) (stop : ContentEnd) (cs : List Char) (inner : OpenElement)
    (outer : List OpenElement) : Except Nat (OpenElement × List Char) :=
  match cs with
  | [] => if stop = .text ∧ outer.isEmpty then .ok (inner, []) else .error 0
  | c :: rest =>
    match scanToken (c :: rest) with
    | .error e => .error (e.remaining (c :: rest))
    | .ok token =>
      match token.value with
      | .text text => readContent d enter chain stop token.rest (inner.addText text) outer
      | .comment | .instruction .processing =>
        readContent d enter chain stop token.rest inner outer
      | .instruction (.declaration _ _) => .error (c :: rest).length
      | .entity name =>
        match enter name inner with
        | some inner => readContent d enter chain stop token.rest inner outer
        | none => .error (c :: rest).length
      | .endTag name =>
        match outer with
        | [] => .error (c :: rest).length
        | parent :: outer =>
          if name ≠ inner.tagName then .error ((c :: rest).length - 2)
          else
            let parent := parent.addChild inner.close
            if stop = .root ∧ outer.isEmpty then .ok (parent, token.rest)
            else readContent d enter chain stop token.rest parent outer
      | .startTag tag =>
        match tag.resolve d chain inner.bindings with
        | .error (.at remaining) => .error remaining
        | .error .whole => .error (c :: rest).length
        | .ok names =>
          let opened := OpenElement.ofTag tag names
          if tag.isEmpty then
            let inner := inner.addChild opened.close
            if stop = .root ∧ outer.isEmpty then .ok (inner, token.rest)
            else readContent d enter chain stop token.rest inner outer
          else readContent d enter chain stop token.rest opened (inner :: outer)
termination_by cs.length
decreasing_by all_goals exact token.shorter

/-- Adds the text of an entity to an element. No entity contains itself, so that `depth`, the number
of those that may still be nested, is bounded by that of all. -/
def enterContent (d : Doctype) (depth : Nat) (chain : List String) (name : String)
    (inner : OpenElement) : Option OpenElement :=
  match d.entities.lookup name with
  | some (.text cs) =>
    if chain.contains name then none
    else
      match depth with
      | 0 => none
      | depth + 1 =>
        let chain := name :: chain
        match readContent d (enterContent d depth chain) chain .text cs inner [] with
        | .ok (inner, _) => some inner
        | .error _ => none
  | _ => none

/-- The characters of a source with a line feed for each line end. A carriage return at the very end
stays, because a line feed could still follow it. -/
def sourceCharacters (source : String) : List Char :=
  let cs := source.toList
  if cs.getLast? = some '\r' then Text.unifyLineEnds cs.dropLast ++ ['\r']
  else Text.unifyLineEnds cs

/-- A text without the mark of its byte order. -/
def dropByteOrderMark : List Char → List Char
  | '\ufeff' :: cs => cs
  | cs => cs

/-- Reads a whole text; an error is the number of characters left where it goes wrong. -/
def readCharacters (cs : List Char) : Except Nat XmlTree := do
  let (d, cs) ← readProlog {} (dropByteOrderMark cs)
  let (document, cs) ← readContent d (enterContent d d.entities.length []) [] .root cs
    OpenElement.document []
  readEpilog cs
  match document.children with
  | root :: _ => return root
  | [] => throw cs.length

/-- Reads an XML text as the tree of its root element. -/
def parse (source : String) : Except Text.Position XmlTree :=
  let cs := sourceCharacters source
  (readCharacters cs).mapError fun remaining =>
    Text.Position.after (cs.take (cs.length - remaining))

end GridDiagram.Xml
