import GridDiagram.Cli.Arguments
import GridDiagram.Cli.Glob
import GridDiagram.Compile
import GridDiagram.Report

/-!
What a command works on: the options, the sources and the templates that its arguments stand for.
-/

namespace GridDiagram.Cli

/-- A source with the name that it goes by, and the path of its file if it comes from one. -/
structure Input where
  source : String
  name : String
  path : Option Path := none
  deriving DecidableEq, Repr

/-- The file that a report about an input is about, if there is one. -/
def Input.file (input : Input) : Option String :=
  input.path.map fun _ => input.name

/-- A report on arguments that do not go together, or stand for nothing. -/
def argumentReport (message : String) (hint : Option String := none) : Report where
  code := "E_ARGS"
  message
  hint
  exitCode := 2

namespace SourceArguments

variable {α : Type} [Scalar α]

/-- The size that arguments give. -/
def size (args : SourceArguments α) : Except Report (Option (Pair α)) :=
  match args.width, args.height with
  | none, none => .ok none
  | some width, some height =>
    if width < 0.0 ∨ height < 0.0 then
      .error (argumentReport "--width and --height must be >= 0")
    else .ok (some ⟨width, height⟩)
  | _, _ =>
    .error (argumentReport "--width and --height must be given together"
      (some "Pass both, e.g. --width 400 --height 300."))

/-- A number that an anchor may have. -/
def isAnchor (x : α) : Bool :=
  (-1.0 : α) ≤ x && x ≤ 1.0

/-- The options that arguments stand for. -/
def options (args : SourceArguments α) : Except Report (CompileOptions α) := do
  let size ← args.size
  let default : CompileOptions α := .default
  match args.anchor with
  | none => return { default with size }
  | some anchor =>
    if isAnchor anchor.x && isAnchor anchor.y then return { default with size, anchor }
    else throw (argumentReport "--anchor values must be between -1 and 1")

end SourceArguments

variable {m : Type → Type} [Monad m]

def readStandardInput (host : Host m) : ExceptT Report m Input := do
  match ← host.input with
  | none =>
    throw (argumentReport "no input provided"
      (some "Use a subcommand with FILE, --text, or pipe stdin."))
  | some source =>
    if Text.isBlankText source then
      throw (argumentReport "stdin was empty" (some "Pipe diagram content into stdin."))
    else return { source, name := "<stdin>" }

def readFile (host : Host m) (path : Path) : ExceptT Report m Input := do
  let failure (message : String) (hint : Option String) : Report :=
    { code := "E_IO_READ", message := message ++ path.text, hint, exitCode := 2,
      file := some path.text }
  match ← host.kind path with
  | none => throw (failure "input file not found: " none)
  | some _ =>
    match ← host.read path with
    | .ok source => return { source, name := path.text, path := some path }
    | .error e => throw (failure "failed to read input file: " (some (e.message path)))

/-- The report on a text that is given beside files. -/
def textAndFiles : Report :=
  argumentReport "--text cannot be combined with file input" (some "Use either FILE or --text.")

/-- Reads one input: a file, a text that is given, or else the standard input. -/
def readInput (host : Host m) (path : Option String) (text : Option String) :
    ExceptT Report m Input := do
  match path, text with
  | none, some source => return { source, name := "<text>" }
  | none, none => readStandardInput host
  | some _, some _ => throw textAndFiles
  | some path, none => readFile host (.ofString path)

/-- Reads the inputs of a command, which are files if there are any. -/
def readInputs (host : Host m) (paths : List String) (text : Option String) :
    ExceptT Report m (List Input) := do
  match paths with
  | [] => return [← readInput host none text]
  | paths => paths.mapM fun path => readInput host (some path) text

/-- The paths of the files that patterns stand for. Each pattern has to stand for one at least. -/
def templatePaths (host : Host m) (patterns : List String) : ExceptT Report m (List Path) := do
  let found ← patterns.mapM fun pattern => do
    match ← (Glob.expand host pattern : m (List Path)) with
    | [] =>
      throw {
        code := "E_TEMPLATE"
        message := "template glob matched no files: " ++ pattern
        hint := some "Provide at least one existing template file."
        exitCode := 3 : Report }
    | paths => pure paths
  return found.flatten

/-- Reads a template file. -/
def readTemplate (host : Host m) (path : Path) : ExceptT Report m String := do
  match ← host.read path with
  | .ok source => return source
  | .error e =>
    throw {
      code := "E_TEMPLATE"
      message := "failed to read template file: " ++ path.text
      hint := some (e.message path)
      exitCode := 3
      file := some path.text : Report }

/-- Reads the sources of the templates that patterns stand for. -/
def readTemplates (host : Host m) (patterns : List String) : ExceptT Report m (List String) := do
  (← templatePaths host patterns).mapM (readTemplate host)

/-- Reads the templates of a command, which are shared by all its inputs. -/
def readShared {α : Type} [Scalar α] (host : Host m) (patterns : List String) (maxDepth : Int) :
    ExceptT Report m (Registry α) := do
  let sources ← readTemplates host patterns
  match (Registry.ofSources maxDepth [] sources : Except (DiagramError α) (Registry α)) with
  | .ok shared => return shared
  | .error e => throw (.ofError e none)

end GridDiagram.Cli
