import GridDiagram.DiagramError
import GridDiagram.Drawing.Svg

/-!
From a source to drawing primitives: templates are expanded, styles applied, and the tree is laid
out and flattened.
-/

namespace GridDiagram

/-- The choices that apply to a whole compilation. Without a size the diagram has its natural
one. -/
structure CompileOptions (α : Type) where
  anchor : Pair α
  maxTemplateDepth : Int := 50
  fontFamily : Option String := none
  fontSize : α
  size : Option (Pair α) := none

/-- The options that hold where none are given. -/
def CompileOptions.default {α : Type} [Scalar α] : CompileOptions α where
  anchor := ⟨0.0, 0.0⟩
  fontSize := 10.0

/-- The parts of the world that a compilation reads: trigonometry and the measures of text. -/
structure Surroundings (α : Type) where
  trigonometry : Trigonometry α
  measurer : Measurer α

/-- The result of a compilation. -/
structure Compiled (α : Type) where
  primitives : List (Primitive α)
  warnings : List (LayoutWarning α)
  size : Pair α

variable {α : Type} [Scalar α]

namespace CompileOptions

/-- What holds for elements of a tag where nothing else does, as far as options say it. -/
def defaults (options : CompileOptions α) : Tag → Properties α
  | .text => [⟨.fontSize, options.fontSize⟩]
  | _ => []

/-- What a layout depends on. -/
def layoutSettings (options : CompileOptions α) (world : Surroundings α) : LayoutSettings α where
  trigonometry := world.trigonometry
  measurer := world.measurer
  fontFamily := options.fontFamily
  anchor := options.anchor

/-- What a drawing is made with. -/
def drawingSettings (options : CompileOptions α) (world : Surroundings α) :
    Drawing.DrawingSettings α where
  trigonometry := world.trigonometry
  measurer := world.measurer
  fontFamily := options.fontFamily

end CompileOptions

namespace Document

/-- Reads the document of a source. -/
def ofSource (source : String) : Except (DiagramError α) (Document α) := do
  let markup ← (MarkupTree.ofSource source).mapError .source
  (ofMarkup markup).mapError .structural

/-- The registry of a document: a scope with its own templates around those of `shared`. -/
def registry (d : Document α) (shared : Registry α) (maxDepth : Int) :
    Except TemplateError (Registry α) := do
  let (scope, result) := ({ maxDepth } : Scope α).defineAll d.templates
  result
  return scope :: shared

/-- The tree of a document with its templates expanded, in which no two elements have one id. -/
def expanded (d : Document α) (shared : Registry α) (maxDepth : Int) :
    Except (DiagramError α) (DiagramTree α) := do
  let registry ← (d.registry shared maxDepth).mapError .template
  let tree ← (registry.expand d.root).mapError .template
  (checkUniqueIds tree).mapError .structural
  return tree

/-- Compiles a document, with shared templates around its own. -/
def compile (world : Surroundings α) (options : CompileOptions α) (shared : Registry α)
    (d : Document α) : Except (DiagramError α) (Compiled α) := do
  let tree ← d.expanded shared options.maxTemplateDepth
  let sheet ← (StyleSheet.ofDeclarations d.styles d.rules options.defaults).mapError .style
  let laidOut ← (layout (options.layoutSettings world) (sheet.styled tree) options.size).mapError
    .layout
  let primitives ← (Primitive.ofTree laidOut.tree).mapError .drawing
  let outer := laidOut.tree.value.outer
  return ⟨primitives, laidOut.warnings, options.size.getD ⟨outer.width, outer.height⟩⟩

end Document

/-- The registry of shared sources, of which later ones hide earlier ones, around those of
`shared`. -/
def Registry.ofSources (maxDepth : Int) (shared : Registry α) :
    List String → Except (DiagramError α) (Registry α)
  | [] => .ok shared
  | source :: sources => do
    let d ← Document.ofSource source
    let shared ← (d.registry shared maxDepth).mapError .template
    ofSources maxDepth shared sources

/-- Compiles a source, with the templates of shared sources around its own. -/
def compileSource (world : Surroundings α) (options : CompileOptions α)
    (sharedSources : List String) (source : String) : Except (DiagramError α) (Compiled α) := do
  let shared ← Registry.ofSources options.maxTemplateDepth [] sharedSources
  let d ← Document.ofSource source
  d.compile world options shared

/-- The SVG document of a compiled diagram. -/
def Compiled.svg (world : Surroundings α) (options : CompileOptions α) (c : Compiled α) :
    Except (DiagramError α) String :=
  (Drawing.svg (options.drawingSettings world) c.primitives c.size).mapError .drawing

end GridDiagram
