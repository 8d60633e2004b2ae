import GridDiagram.Measurer
import GridDiagram.Text.Case

/-!
Fonts: which file a family stands for among those that are installed, and the measures of text in
it. Without any font a line is taken to be 0.6 of its size wide for each character.
-/

namespace GridDiagram

/-- The measures of a font file: the advance of a character at size 1, and the reach of a line above
and below its baseline. -/
structure FontFile where
  advance : Float
  ascent : Float
  descent : Float

/-- The installed font files by name, and the advance of a character in the built-in font, if there
is one. -/
structure FontSet where
  files : List (String × FontFile) := []
  builtIn : Option Float := none

/-- A font that has been loaded. -/
inductive Font where
  | file (name : String) (size : Int) (measures : FontFile)
  | builtIn (advance : Float)

/-- One attempt to load a font. -/
inductive FontAttempt where
  | file (name : String) (size : Int)
  | builtIn

/-- A family in lower-case letters and a whole size: what determines a font. -/
structure FontRequest where
  family : String
  size : Int
  deriving DecidableEq, Repr

/-- The files of the generic families, in the order in which they are tried. -/
def genericFonts : List (String × List String) := [
  ("sans-serif", ["DejaVuSans.ttf", "LiberationSans-Regular.ttf", "Arial.ttf"]),
  ("serif", ["DejaVuSerif.ttf", "LiberationSerif-Regular.ttf", "Times New Roman.ttf"]),
  ("monospace", ["DejaVuSansMono.ttf", "LiberationMono-Regular.ttf", "Courier New.ttf"])]

namespace FontRequest

/-- The request for a family, sans-serif if none is named, in the nearest whole size from 1 up. -/
def ofText (size : Float) (family : Option String) : Except NumberError FontRequest := do
  let size ← Scalar.round size
  let family := (family.filter (!·.isEmpty)).getD "sans-serif"
  return ⟨Text.lowercase family, max 1 size⟩

/-- The files that a request may stand for, in the order in which they are tried. A family that is
not generic is tried by its name, and the files without serifs come after that. -/
def fileNames (r : FontRequest) : List String :=
  match genericFonts.lookup r.family with
  | some names => names
  | none =>
    let compact := String.ofList (r.family.toList.filter (· != ' '))
    [r.family ++ ".ttf", compact ++ ".ttf", compact ++ "-Regular.ttf"] ++
      (genericFonts.lookup "sans-serif").getD []

end FontRequest

namespace FontSet

/-- Tries font files in order, and the built-in font after them; the attempts made and the font, if
there is one. -/
def tryFiles (fonts : FontSet) (size : Int) : List String → List FontAttempt × Option Font
  | [] => ([.builtIn], fonts.builtIn.map .builtIn)
  | name :: names =>
    match fonts.files.lookup name with
    | some file => ([.file name size], some (.file name size file))
    | none =>
      let (attempts, font) := tryFiles fonts size names
      (.file name size :: attempts, font)

def load (fonts : FontSet) (r : FontRequest) : List FontAttempt × Option Font :=
  fonts.tryFiles r.size r.fileNames

def font (fonts : FontSet) (size : Float) (family : Option String) :
    Except NumberError (Option Font) := do
  let request ← FontRequest.ofText size family
  return (fonts.load request).2

/-- The width of a line in a font, or its estimate without one. -/
def lineWidth (font : Option Font) (text : String) (size : Float) : Float :=
  let count : Float := Scalar.ofInt text.length
  match font with
  | none => 0.6 * size * count
  | some (.builtIn advance) => advance * count
  | some (.file _ size file) => file.advance * Scalar.ofInt size * count

/-- The vertical measures of a line in a font. Those of a font that is not from a file are estimated
by the size. -/
def lineMetrics (font : Option Font) (size : Float) : LineMetrics Float :=
  match font with
  | some (.file _ _ file) => ⟨file.ascent, file.descent, file.ascent + file.descent⟩
  | _ => ⟨0.8 * size, 0.2 * size, size⟩

/-- The measures of text in the fonts of a set. -/
def measurer (fonts : FontSet) : Measurer Float where
  metrics size family := do
    return lineMetrics (← fonts.font size family) size
  width text size family := do
    return lineWidth (← fonts.font size family) text size

end FontSet

/-- The requests whose fonts are already loaded. -/
abbrev FontCache : Type :=
  List (FontRequest × Option Font)

/-- The font of a request, loaded at its first use only, with the attempts that were made. -/
def FontCache.font (cache : FontCache) (fonts : FontSet) (r : FontRequest) :
    List FontAttempt × Option Font × FontCache :=
  match cache.lookup r with
  | some font => ([], font, cache)
  | none =>
    let (attempts, font) := fonts.load r
    (attempts, font, (r, font) :: cache)

end GridDiagram
