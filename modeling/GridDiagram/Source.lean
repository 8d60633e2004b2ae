import GridDiagram.Markup
import GridDiagram.Text.Blank
import GridDiagram.Xml.Reader

/-!
Sources: XML texts as the markup of a diagram. Of the text of an element, what stands in front of
its first child is kept, in lines.
-/

namespace GridDiagram

/-- A source that is no well-formed XML text, with the place where it goes wrong. -/
structure SourceError where
  position : Text.Position
  deriving DecidableEq, Repr

/-- The wording of an error. -/
def SourceError.reason (e : SourceError) : String :=
  "Failed to parse diagram input. Ensure XML entities like &, <, > are escaped " ++
    "(use &amp;, &lt;, &gt;) at line " ++ toString e.position.line ++ ", column " ++
    toString e.position.column

namespace Markup

/-- Adds an attribute of an XML element: its id, its classes, a placement, or any other. -/
def addXmlAttribute (m : Markup) (name value : String) : Markup :=
  match name with
  | "id" => { m with id := (some (Text.strip value)).filter (!·.isEmpty) }
  | "class" => { m with classes := Text.words value }
  | "grid" => { m with placement := { m.placement with grid := some value } }
  | "gridx" => { m with placement := { m.placement with gridx := some value } }
  | "gridy" => { m with placement := { m.placement with gridy := some value } }
  | _ => { m with attributes := setAttribute m.attributes name value }

def ofXml (e : XmlElement) : Markup :=
  e.attributes.foldl (fun m (name, value) => m.addXmlAttribute name value)
    { tag := e.name, lines := Text.lines e.text }

end Markup

/-- The markup of a tree of XML elements. -/
def MarkupTree.ofXml (t : XmlTree) : MarkupTree :=
  t.map Markup.ofXml

/-- Reads the markup of a source. -/
def MarkupTree.ofSource (source : String) : Except SourceError MarkupTree :=
  match Xml.parse source with
  | .ok t => .ok (ofXml t)
  | .error position => .error ⟨position⟩

end GridDiagram
