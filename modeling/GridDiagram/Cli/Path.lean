import GridDiagram.Text.Blank

/-!
Paths of files by their parts. Doubled slashes and the part `.` say nothing and are left out, so
that two spellings of one path are one value; the part `..` is kept.
-/

namespace GridDiagram.Cli

/-- A path: the slashes it starts with, if any, and its parts. -/
structure Path where
  root : String := ""
  parts : List String
  deriving DecidableEq, Repr

/-- `name` without its extension. A point at the start or at the end of a name starts none. -/
def stem (name : List Char) : List Char :=
  let extension := name.reverse.takeWhile (· != '.')
  match name.reverse.dropWhile (· != '.') with
  | _ :: c :: rest => if extension.isEmpty then name else (c :: rest).reverse
  | _ => name

namespace Path

/-- The slashes that say where a path starts: one for the root directory, as three and more do, and
two for themselves. -/
def rootOf (cs : List Char) : String :=
  match (cs.takeWhile (· == '/')).length with
  | 0 => ""
  | 2 => "//"
  | _ => "/"

/-- Reads a path. -/
def ofString (s : String) : Path where
  root := rootOf s.toList
  parts := ((Text.fields (· == '/') s.toList).map String.ofList).filter (· != ".")

/-- The written form of a path. -/
def text (p : Path) : String :=
  if p.root.isEmpty && p.parts.isEmpty then "." else p.root ++ "/".intercalate p.parts

/-- The path of a name inside the directory at `p`. -/
def child (p : Path) (name : String) : Path :=
  { p with parts := p.parts ++ [name] }

/-- `p` with another extension, which starts with a point. -/
def withExtension (extension : String) (p : Path) : Path :=
  match p.parts.getLast? with
  | none => p
  | some name =>
    { p with parts := p.parts.dropLast ++ [String.ofList (stem name.toList) ++ extension] }

/-- `a` comes before `b`, or is `b`, in the order of the first name in which they differ. -/
def namesLE : List String → List String → Bool
  | [], _ => true
  | _ :: _, [] => false
  | a :: as, b :: bs => a < b || (a == b && namesLE as bs)

/-- What a path is ordered by: the root comes before all names. -/
def key (p : Path) : List String :=
  if p.root.isEmpty then p.parts else p.root :: p.parts

/-- `p` comes before `q`, or is `q`. -/
def isLE (p q : Path) : Bool :=
  namesLE p.key q.key

end Path

end GridDiagram.Cli
