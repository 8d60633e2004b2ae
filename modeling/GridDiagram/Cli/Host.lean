import GridDiagram.Cli.Path
import GridDiagram.Text.Quoted

/-!
The host of a run: the files and the standard input that a program reads, and the files that it
writes. What a program does is said over any host, so that it is the same on a machine and in a
file tree that is held in memory.
-/

namespace GridDiagram.Cli

/-- What a path leads to. -/
inductive FileKind where
  | file
  | directory
  deriving DecidableEq, Repr

/-- Why a file is not read or written. -/
inductive FileError where
  | missing
  | notDirectory
  | isDirectory
  | other (reason : String)
  deriving DecidableEq, Repr

/-- The wording of an error about a path. -/
def FileError.message (path : Path) : FileError → String
  | missing => "[Errno 2] No such file or directory: " ++ Text.quoted path.text
  | notDirectory => "[Errno 20] Not a directory: " ++ Text.quoted path.text
  | isDirectory => "[Errno 21] Is a directory: " ++ Text.quoted path.text
  | other reason => reason

/-- A host whose operations run in `m`. The standard input is none where it is a terminal, and
`names` are the names in a directory, in any order. -/
structure Host (m : Type → Type) where
  input : m (Option String)
  kind : Path → m (Option FileKind)
  names : Path → m (List String)
  read : Path → m (Except FileError String)
  write : Path → String → m (Except FileError Unit)

end GridDiagram.Cli
