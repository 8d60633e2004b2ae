import GridDiagram.Cli.Host

/-!
A host in memory: a working directory with its files, and a standard input. What lies outside the
working directory is a directory in which nothing is found; files can be written there, but are not
kept.
-/

namespace GridDiagram.Cli

/-- A working directory and a standard input. An entry has the names that lead to it and the content
of a file, or none for a directory; the directories on the way to an entry need no entries of their
own. -/
structure Workspace where
  entries : List (List String × Option String)
  input : Option String := none
  deriving DecidableEq, Repr

/-- A place that paths lead to. -/
inductive Location where
  | inside (names : List String)
  | outside
  deriving DecidableEq, Repr

namespace Workspace

/-- What is found under `names`. -/
def kindOf (w : Workspace) (names : List String) : Option FileKind :=
  match w.entries.lookup names with
  | some (some _) => some .file
  | some none => some .directory
  | none =>
    if names.isEmpty || w.entries.any (fun e => names.isPrefixOf e.1) then some .directory else none

/-- The place that one name leads to from another place. Each place on the way has to be a
directory. -/
def enter (w : Workspace) (name : String) : Location → Except FileError Location
  | .outside => if name == ".." then .ok .outside else .error .missing
  | .inside names =>
    match w.kindOf names with
    | none => .error .missing
    | some .file => .error .notDirectory
    | some .directory =>
      if name == ".." then
        if names.isEmpty then .ok .outside else .ok (.inside names.dropLast)
      else .ok (.inside (names ++ [name]))

/-- The place that the names of a path lead to. -/
def enterAll (w : Workspace) : Location → List String → Except FileError Location
  | l, [] => .ok l
  | l, name :: names => do
    let l ← w.enter name l
    w.enterAll l names

def startOf (p : Path) : Location :=
  if p.root.isEmpty then .inside [] else .outside

/-- The place of a path. -/
def locate (w : Workspace) (p : Path) : Except FileError Location :=
  w.enterAll (startOf p) p.parts

/-- What a path leads to. -/
def kind (w : Workspace) (p : Path) : Option FileKind :=
  match w.locate p with
  | .error _ => none
  | .ok .outside => some .directory
  | .ok (.inside names) => w.kindOf names

/-- The names in a directory; one may come more than once. -/
def names (w : Workspace) (p : Path) : List String :=
  match w.locate p with
  | .ok (.inside names) =>
    w.entries.filterMap fun e =>
      if names.isPrefixOf e.1 then (e.1.drop names.length).head? else none
  | _ => []

def read (w : Workspace) (p : Path) : Except FileError String := do
  match ← w.locate p with
  | .outside => throw .isDirectory
  | .inside names =>
    match w.entries.lookup names with
    | some (some content) => return content
    | _ => if (w.kindOf names).isSome then throw .isDirectory else throw .missing

/-- The entries with a file of its new content. -/
def put (names : List String) (content : String) :
    List (List String × Option String) → List (List String × Option String)
  | [] => [(names, some content)]
  | e :: es => if e.1 = names then (names, some content) :: es else e :: put names content es

/-- Writes a file. The directory that it is in has to exist. -/
def write (w : Workspace) (p : Path) (content : String) : Except FileError Workspace := do
  match p.parts.getLast? with
  | none => throw .isDirectory
  | some name =>
    match ← w.enterAll (startOf p) p.parts.dropLast with
    | .outside => if name == ".." then throw .isDirectory else return w
    | directory =>
      match ← w.enter name directory with
      | .outside => throw .isDirectory
      | .inside names =>
        if w.kindOf names = some .directory then throw .isDirectory
        else return { w with entries := put names content w.entries }

def host : Host (StateM Workspace) where
  input := return (← get).input
  kind p := return (← get).kind p
  names p := return ((← get).names p).eraseDups
  read p := return (← get).read p
  write p content := do
    match (← get).write p content with
    | .error e => return .error e
    | .ok w =>
      set w
      return .ok ()

end Workspace

end GridDiagram.Cli
