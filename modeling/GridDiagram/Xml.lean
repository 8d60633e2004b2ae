import GridDiagram.Tree

/-!
XML as trees of elements, and the indented form in which they are written.
-/

namespace GridDiagram

/-- An element of an XML text. `text` is the character data in front of its first child, and `tail`
that between its end and the next tag. -/
structure XmlElement where
  name : String
  attributes : List (String × String) := []
  text : String := ""
  tail : String := ""
  deriving DecidableEq, Repr

/-- A tree of XML elements. -/
abbrev XmlTree : Type :=
  Tree XmlElement

namespace Xml

/-- One character of character data. -/
def escapeTextChar (c : Char) : List Char :=
  if c == '&' then "&amp;".toList
  else if c == '<' then "&lt;".toList
  else if c == '>' then "&gt;".toList
  else [c]

/-- One character of the value of an attribute. -/
def escapeAttributeChar (c : Char) : List Char :=
  if c == '"' then "&quot;".toList
  else if c == '\r' then "&#13;".toList
  else if c == '\n' then "&#10;".toList
  else if c == '\t' then "&#09;".toList
  else escapeTextChar c

/-- Character data in an XML text. -/
def escapeText (s : String) : String :=
  String.ofList (s.toList.flatMap escapeTextChar)

/-- The value of an attribute in an XML text. -/
def escapeAttribute (s : String) : String :=
  String.ofList (s.toList.flatMap escapeAttributeChar)

/-- A start tag without its end. -/
def tagStart (e : XmlElement) : String :=
  "<" ++ e.name ++ String.join (e.attributes.map fun (name, value) =>
    " " ++ name ++ "=\"" ++ escapeAttribute value ++ "\"")

/-- The start of a line inside `depth` elements. -/
def lineStart (depth : Nat) : String :=
  "\n" ++ String.ofList (List.replicate (2 * depth) ' ')

mutual

/-- The indented form of a tree inside `depth` elements. An element with children has each of them
on a line of its own, and the character data around them is left out. -/
def writeAt (depth : Nat) : XmlTree → String
  | .node e [] =>
    if e.text.isEmpty then tagStart e ++ " />"
    else tagStart e ++ ">" ++ escapeText e.text ++ "</" ++ e.name ++ ">"
  | .node e (t :: ts) =>
    tagStart e ++ ">" ++ writeLines (depth + 1) (t :: ts) ++ lineStart depth ++ "</" ++ e.name ++
      ">"

/-- Trees in the indented form, each on a line of its own. -/
def writeLines (depth : Nat) : List XmlTree → String
  | [] => ""
  | t :: ts => lineStart depth ++ writeAt depth t ++ writeLines depth ts

end

/-- The indented form of a tree. -/
def write (t : XmlTree) : String :=
  writeAt 0 t

end Xml

end GridDiagram
