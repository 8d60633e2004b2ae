import GridDiagram.Cheatsheet
import GridDiagram.Cli.Input

/-!
The program: what a command line does to the files of a host, what it prints, and with which code
it ends. Every failure is reported, and a failure of one input leaves the others alone.
-/

namespace GridDiagram.Cli

/-- What a run has shown so far, and the code with which it is to end. -/
structure Shown where
  code : Nat := 0
  stdout : String := ""
  stderr : String := ""
  deriving DecidableEq, Repr

/-- How failures are reported: in which form, and whether a trace follows. -/
structure Reporting where
  format : ReportFormat := .text
  trace : Bool := false
  deriving DecidableEq, Repr

/-- The line that stands for a trace. -/
def traceLine : String := "<traceback>\n"

/-- A report in a form. -/
def ReportFormat.write (format : ReportFormat) (r : Report) : String :=
  match format with
  | .text => r.text
  | .json => r.json

namespace Shown

/-- Adds to the standard output. -/
def print (shown : Shown) (s : String) : Shown :=
  { shown with stdout := shown.stdout ++ s }

/-- Adds to the standard error. -/
def warn (shown : Shown) (s : String) : Shown :=
  { shown with stderr := shown.stderr ++ s }

/-- Adds a report without a trace. The run goes on. -/
def note (shown : Shown) (format : ReportFormat) (r : Report) : Shown :=
  shown.warn (format.write r)

/-- Adds a report, and its trace. The run goes on. -/
def report (shown : Shown) (how : Reporting) (r : Report) : Shown :=
  let shown := shown.note how.format r
  if how.trace then shown.warn traceLine else shown

/-- Adds a report with which the run ends. -/
def fail (shown : Shown) (how : Reporting) (r : Report) : Shown :=
  { shown.report how r with code := r.exitCode }

/-- Adds a report on one of many inputs. The code is that of the first of them. -/
def failInput (shown : Shown) (how : Reporting) (r : Report) : Shown :=
  { shown.report how r with code := if shown.code = 0 then r.exitCode else shown.code }

end Shown

/-- Warnings about an input, in a form. -/
def writeWarnings {α : Type} [Scalar α] (format : ReportFormat) (name : String)
    (warnings : List (LayoutWarning α)) : String :=
  "".intercalate (warnings.map fun w =>
    match format with
    | .text => w.text
    | .json => w.json name)

/-- The drawing of one input, with the warnings about it. -/
structure Drawn (α : Type) where
  svg : String
  warnings : List (LayoutWarning α)

variable {α : Type} [Scalar α]

def draw (world : Surroundings α) (options : CompileOptions α) (shared : Registry α)
    (source : String) : Except (DiagramError α) (Drawn α) := do
  let d ← Document.ofSource source
  let c ← d.compile world options shared
  return ⟨← c.svg world options, c.warnings⟩

/-- The file that the drawing of an input goes to, or none for the standard output. -/
def destination (args : CompileArguments α) (input : Input) : Option Path :=
  match input.path with
  | none => none
  | some path =>
    if args.toStdout then none
    else
      match args.output.filter (!·.isEmpty) with
      | some output => some (.ofString output)
      | none => some (path.withExtension ".svg")

/-- The report on a file that is not written. -/
def writeReport (path : Path) (e : FileError) : Report where
  code := "E_IO_WRITE"
  message := "failed to write output file: " ++ path.text
  hint := some (e.message path)
  exitCode := 4
  file := some path.text

/-- Options of `compile` that do not go together. -/
def CompileArguments.check (args : CompileArguments α) : Except Report Unit :=
  let output := args.output.filter (!·.isEmpty)
  if args.toStdout && output.isSome then
    .error (argumentReport "--stdout and --output are mutually exclusive"
      (some "Choose either --stdout or --output."))
  else if output.isSome && 1 < args.inputs.length then
    .error (argumentReport "--output can only be used with a single input file"
      (some "Drop --output to write FILE.svg next to each input."))
  else if args.jobs < 1 then .error (argumentReport "--jobs must be >= 1")
  else .ok ()

variable {m : Type → Type} [Monad m]

/-- Shows the drawings of inputs one after the other, or why there is none. A drawing that cannot be
written ends the run. -/
def showDrawings (host : Host m) (how : Reporting) (target : Input → Option Path) :
    Shown → List (Input × Except (DiagramError α) (Drawn α)) → m Shown
  | shown, [] => return shown
  | shown, (input, .error e) :: rest =>
    showDrawings host how target (shown.failInput how (.ofError e input.file)) rest
  | shown, (input, .ok drawn) :: rest => do
    let shown := shown.warn (writeWarnings how.format input.name drawn.warnings)
    match target input with
    | none => showDrawings host how target (shown.print (drawn.svg ++ "\n")) rest
    | some path =>
      match ← host.write path drawn.svg with
      | .error e => return shown.fail how (writeReport path e)
      | .ok () =>
        showDrawings host how target (shown.print ("Wrote " ++ path.text ++ "\n")) rest

/-- What `compile` works on: options, inputs and shared templates, read in this order. -/
def prepareCompile (host : Host m) (args : CompileArguments α) :
    ExceptT Report m (CompileOptions α × List Input × Registry α) := do
  ExceptT.mk (pure args.check)
  let options ← ExceptT.mk (pure args.source.options)
  let inputs ← readInputs host args.inputs args.source.text
  let shared ← readShared host args.source.templates options.maxTemplateDepth
  return (options, inputs, shared)

/-- Runs `compile`. -/
def compile (world : Surroundings α) (host : Host m) (how : Reporting) (args : CompileArguments α) :
    m Shown := do
  match ← (prepareCompile host args).run with
  | .error r => return Shown.fail {} how r
  | .ok (options, inputs, shared) =>
    showDrawings host how (destination args) {}
      (inputs.map fun input => (input, draw world options shared input.source))

/-- The report on an error of `geometry`. Errors of numbers are not about a file. -/
def geometryReport (input : Option String) (e : DiagramError α) : Report :=
  match e.kind with
  | .value | .internal => .ofError e none
  | _ => .ofError e input

/-- What `geometry` works on: options, the input and shared templates, read in this order. -/
def prepareGeometry (host : Host m) (args : GeometryArguments α) :
    ExceptT Report m (CompileOptions α × Input × Registry α) := do
  let options ← ExceptT.mk (pure args.source.options)
  let input ← readInput host (args.input.filter (!·.isEmpty)) args.source.text
  let shared ← readShared host args.source.templates options.maxTemplateDepth
  return (options, input, shared)

/-- Runs `geometry`; `toJson` is the form in which a compiled diagram is printed. -/
def geometry (world : Surroundings α) (toJson : Compiled α → Json) (host : Host m) (how : Reporting)
    (args : GeometryArguments α) : m Shown := do
  match ← (prepareGeometry host args).run with
  | .error r => return Shown.fail {} how r
  | .ok (options, input, shared) =>
    match (Document.ofSource input.source).bind fun d => d.compile world options shared with
    | .error e => return Shown.fail {} how (geometryReport args.input e)
    | .ok c =>
      let warnings := writeWarnings how.format input.name c.warnings
      return (Shown.warn {} warnings).print ((toJson c).indented ++ "\n")

/-- A short text on how the program is used. -/
def usage : String :=
  "usage: diagrid [--error-format text|json] [--debug] compile|geometry|cheatsheet ...\n"

/-- The report on a command line without a command. -/
def noCommand : Report :=
  argumentReport "missing subcommand" (some "Use one of: compile, geometry, cheatsheet.")

/-- The report on a command line that is wrong. -/
def usageReport (e : UsageError) : Report :=
  argumentReport e.message (some "Use subcommands: compile, geometry, cheatsheet.")

/-- The form of reports as far as it is known before a command line has been read: what follows the
option that is written in full. -/
def earlyFormat (args : List String) : ReportFormat :=
  match args.dropWhile (· != "--error-format") with
  | _ :: "json" :: _ => .json
  | _ => .text

/-- Runs the program; `debug` asks for traces, as the option of this name does. -/
def run (world : Surroundings α) (toJson : Compiled α → Json) (host : Host m) (debug : Bool)
    (args : List String) : m Shown := do
  if args.isEmpty then return { Shown.note {} .text noCommand with code := noCommand.exitCode }
  else
    match (Arguments.read args : Except Stop (Arguments α)) with
    | .error .help => return Shown.print {} usage
    | .error (.usage e) => return Shown.fail {} ⟨earlyFormat args, false⟩ (usageReport e)
    | .ok line =>
      let how : Reporting := ⟨line.format, debug || args.contains "--debug"⟩
      match line.command with
      | none => return Shown.fail {} how noCommand
      | some (.compile args) => compile world host how args
      | some (.geometry args) => geometry world toJson host how args
      | some .cheatsheet => return Shown.print {} (cheatsheet ++ "\n")

end GridDiagram.Cli
