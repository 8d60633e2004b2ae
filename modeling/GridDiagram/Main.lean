import GridDiagram.Cli
import GridDiagram.Compile.Json
import GridDiagram.Font

/-!
The program on a machine: its files, standard streams and environment as the host of a run. No fonts
are loaded, so that text has its estimated measures.
-/

namespace GridDiagram.Cli

/-- What an open file is: a directory can be opened, but not read. -/
def kindOfHandle (file : IO.FS.Handle) : IO FileKind := do
  try
    let _ ← file.read 1
    return .file
  catch _ => return .directory

/-- What a path leads to. -/
def kindOnDisk (path : Path) : IO (Option FileKind) := do
  try
    let file ← IO.FS.Handle.mk path.text .read
    return some (← kindOfHandle file)
  catch _ => return none

/-- The reason of a failure on a path. -/
def failureOnDisk (path : Path) (e : IO.Error) : IO FileError := do
  match ← kindOnDisk path, e with
  | some .directory, _ => return .isDirectory
  | _, .noFileOrDirectory _ _ _ => return .missing
  | _, e => return .other (toString e)

/-- The host that a machine is. The names in a directory stay unknown: patterns are left to the
shell, which puts paths in their places before the program starts. -/
def machine : Host IO where
  input := do
    let stream ← IO.getStdin
    if ← stream.isTty then return none else return some (← stream.readToEnd)
  kind := kindOnDisk
  names _ := return []
  read path := do
    try return .ok (← IO.FS.readFile path.text)
    catch e => return .error (← failureOnDisk path e)
  write path content := do
    try
      IO.FS.writeFile path.text content
      return .ok ()
    catch e => return .error (← failureOnDisk path e)

end GridDiagram.Cli

open GridDiagram in
/-- Runs the program on a command line. -/
def main (args : List String) : IO UInt32 := do
  let world : Surroundings Float := ⟨.float, FontSet.measurer {}⟩
  let debug := (← IO.getEnv "DIAGRID_DEBUG") == some "1"
  let shown ← Cli.run world Compiled.toJson Cli.machine debug args
  IO.print shown.stdout
  IO.eprint shown.stderr
  return UInt32.ofNat shown.code
