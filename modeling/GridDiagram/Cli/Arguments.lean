import GridDiagram.Cli.Grammar
import GridDiagram.Plane
import GridDiagram.Scalar

/-!
The command line of the program: options for the form of its reports, and a command with options of
its own.
-/

namespace GridDiagram.Cli

/-- The forms of reports: for people, and for programs. -/
inductive ReportFormat where
  | text
  | json
  deriving DecidableEq, Repr

namespace ReportFormat

/-- The name of a form. -/
def name : ReportFormat → String
  | text => "text"
  | json => "json"

/-- All forms. -/
def all : List ReportFormat := [text, json]

/-- The form of a name. -/
def ofName? (s : String) : Option ReportFormat :=
  all.find? (·.name == s)

end ReportFormat

/-- What the commands on a source have in common. -/
structure SourceArguments (α : Type) where
  text : Option String := none
  templates : List String := []
  width : Option α := none
  height : Option α := none
  anchor : Option (Pair α) := none

structure CompileArguments (α : Type) where
  inputs : List String := []
  toStdout : Bool := false
  output : Option String := none
  jobs : Int := 1
  source : SourceArguments α := {}

structure GeometryArguments (α : Type) where
  input : Option String := none
  source : SourceArguments α := {}

inductive Command (α : Type) where
  | compile (args : CompileArguments α)
  | geometry (args : GeometryArguments α)
  | cheatsheet

def commandNames : List String := ["compile", "geometry", "cheatsheet"]

/-- A whole command line. -/
structure Arguments (α : Type) where
  format : ReportFormat := .text
  command : Option (Command α) := none

variable {α : Type}

namespace SourceArguments

/-- Reads the two numbers of `--anchor`. -/
def storeAnchor [Scalar α] (values : List String) (s : SourceArguments α) :
    Except Stop (SourceArguments α) := do
  let number (v : String) : Except Stop α :=
    match Scalar.parse? v with
    | some x => .ok x
    | none => .error (.usage (.malformed "--anchor" "float" v))
  match values with
  | [x, y] => return { s with anchor := some ⟨← number x, ← number y⟩ }
  | _ => return s

/-- The options that the commands on a source have in common. -/
def switches [Scalar α] : List (Switch (SourceArguments α)) := [
  .text ["--text"] fun v s => { s with text := some v },
  ⟨["--templates"], .some, fun values s => .ok { s with templates := values }⟩,
  .value ["--width"] "float" Scalar.parse? fun x s => { s with width := some x },
  .value ["--height"] "float" Scalar.parse? fun x s => { s with height := some x },
  ⟨["--anchor"], .two, storeAnchor⟩]

end SourceArguments

def CompileArguments.grammar [Scalar α] : Grammar (CompileArguments α) where
  switches := [
    .help,
    .flag ["--stdout"] fun s => { s with toStdout := true },
    .text ["-o", "--output"] fun v s => { s with output := some v },
    .value ["--jobs"] "int" Numeral.integer? fun n s => { s with jobs := n }] ++
    SourceArguments.switches.map (.within (·.source) fun source s => { s with source })
  operands := .any fun inputs s => { s with inputs }

def GeometryArguments.grammar [Scalar α] : Grammar (GeometryArguments α) where
  switches :=
    .help :: SourceArguments.switches.map (.within (·.source) fun source s => { s with source })
  operands := .atMostOne fun input s => { s with input }

def cheatsheetGrammar : Grammar Unit where
  switches := [.help]
  operands := .none

namespace Command

/-- Reads a command by its name and what follows it: the command, and the arguments that it does not
take. -/
def read [Scalar α] : List String → Except Stop (Option (Command α) × List String)
  | [] => .ok (none, [])
  | "compile" :: args => do
    let (s, extras) ← (CompileArguments.grammar (α := α)).read args {}
    return (some (.compile s), extras)
  | "geometry" :: args => do
    let (s, extras) ← (GeometryArguments.grammar (α := α)).read args {}
    return (some (.geometry s), extras)
  | "cheatsheet" :: args => do
    let (_, extras) ← cheatsheetGrammar.read args ()
    return (some .cheatsheet, extras)
  | name :: _ => .error (.usage (.notAChoice "command" name commandNames))

end Command

namespace Arguments

/-- Chooses the form of reports. -/
def storeFormat (values : List String) (s : Arguments α × List String) :
    Except Stop (Arguments α × List String) :=
  match values with
  | [v] =>
    match ReportFormat.ofName? v with
    | some format => .ok ({ s.1 with format }, s.2)
    | none => .error (.usage (.notAChoice "--error-format" v (ReportFormat.all.map (·.name))))
  | _ => .ok s

/-- The grammar of a whole command line. The settings hold the arguments that a command does not
take beside it. -/
def grammar [Scalar α] : Grammar (Arguments α × List String) where
  switches := [.help, ⟨["--error-format"], .one, storeFormat⟩, .flag ["--debug"] id]
  operands := .command fun values s => do
    let (command, extras) ← Command.read values
    return ({ s.1 with command }, extras)

/-- Reads a whole command line. -/
def read [Scalar α] (args : List String) : Except Stop (Arguments α) := do
  let ((s, extras), others) ← grammar.read args ({}, [])
  let unrecognized := others ++ extras
  if unrecognized.isEmpty then return s
  else throw (.usage (.unrecognized unrecognized))

end Arguments

end GridDiagram.Cli
