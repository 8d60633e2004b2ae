import GridDiagram.DiagramError
import GridDiagram.Json

/-!
Reports of what went wrong, for people and for programs: a code, a message, advice, and what it
means for whoever has run the program.
-/

namespace GridDiagram

/-- The kinds of errors that are told apart by their codes. -/
inductive ErrorKind where
  | diagram
  | source
  | structural
  | duplicateTemplate
  | unresolvedTemplate
  | templateCycle
  | unresolvedStyle
  | overconstrainedLayout
  | unsupportedPrimitive
  | layoutStage
  | value
  | internal
  deriving DecidableEq, Repr

namespace ErrorKind

def code : ErrorKind → String
  | diagram => "E_DIAGRID"
  | source => "E_PARSE_XML"
  | structural => "E_STRUCTURE"
  | duplicateTemplate => "E_TEMPLATE_DUPLICATE"
  | unresolvedTemplate => "E_TEMPLATE_UNRESOLVED"
  | templateCycle => "E_TEMPLATE_CYCLE"
  | unresolvedStyle => "E_STYLE_UNRESOLVED"
  | overconstrainedLayout => "E_LAYOUT_OVERCONSTRAINED"
  | unsupportedPrimitive => "E_INTERNAL_PRIMITIVE"
  | layoutStage => "E_INTERNAL_STATE"
  | value => "E_SEMANTIC"
  | internal => "E_INTERNAL"

/-- What may help against an error. -/
def hint : ErrorKind → String
  | diagram | value => "Check diagram semantics and template usage."
  | source => "Ensure input is well-formed XML and escape &, <, > in text."
  | structural => "Check element names, attributes and grid placements."
  | duplicateTemplate => "Give every template in <defs> a distinct id."
  | unresolvedTemplate => "Define the template in <defs> or pass it with --templates."
  | templateCycle => "Break the chain of templates that use each other."
  | unresolvedStyle => "Declare the <style> a rule refers to."
  | overconstrainedLayout => "Relax a minx/miny floor or make an interval size 0 or +weight."
  | unsupportedPrimitive | layoutStage =>
    "This is a bug in diagrid; re-run with --debug to see traceback."
  | internal => "Re-run with --debug to see traceback."

/-- The error lies in the program and not in what it was given. -/
def isFault : ErrorKind → Bool
  | unsupportedPrimitive | layoutStage | internal => true
  | _ => false

/-- The exit code of the program after an error. -/
def exitCode : ErrorKind → Nat
  | source => 2
  | kind => if kind.isFault then 1 else 3

end ErrorKind

/-- The kind of an error on numbers: numbers that a source may give are a matter of values. -/
def NumberError.kind : NumberError → ErrorKind
  | roundedNan | angleUnbounded => .value
  | roundedInfinity | integerTooLarge | divisionByZero => .internal

namespace DiagramError

variable {α : Type}

def kind : DiagramError α → ErrorKind
  | source _ => .source
  | structural _ => .structural
  | template (.duplicate _) => .duplicateTemplate
  | template (.cycle _ _) | template (.tooDeep _ _) => .templateCycle
  | template (.unresolved _ _) => .unresolvedTemplate
  | template (.noReference _) => .internal
  | template (.structural _) => .structural
  | style (.undefinedStyle _ _) => .unresolvedStyle
  | style (.structural _) => .structural
  | layout (.overconstrained _ _ _ _ _ _) => .overconstrainedLayout
  | layout (.noInterval _ _) | layout (.noLine _ _) | layout (.noCoordinates _) => .internal
  | layout (.notLaidOut _ _) => .unsupportedPrimitive
  | layout (.stage _) => .layoutStage
  | layout (.number error) => error.kind
  | drawing (.notDrawn _ _ _) | drawing (.unknownPrimitive _) => .unsupportedPrimitive
  | drawing .noCorners => .internal
  | drawing (.number error) => error.kind

end DiagramError

/-- A report. `line` and `column` are a place in a source, and `retryable` says that other input may
help. -/
structure Report where
  code : String
  message : String
  hint : Option String := none
  exitCode : Nat
  file : Option String := none
  line : Option Nat := none
  column : Option Nat := none
  retryable : Bool := true
  deriving DecidableEq, Repr

namespace Report

def ofKind (kind : ErrorKind) (message : String) (file : Option String) : Report where
  code := kind.code
  message
  hint := some kind.hint
  exitCode := kind.exitCode
  file
  retryable := !kind.isFault

/-- The report of an error about a file, if it is about one. -/
def ofError {α : Type} [Scalar α] (e : DiagramError α) (file : Option String) : Report :=
  { ofKind e.kind e.message file with
    line := e.position?.map (·.line)
    column := e.position?.map (·.column) }

/-- A report for people. -/
def text (r : Report) : String :=
  let file := (r.file.filter (!·.isEmpty)).elim "" (· ++ ": ")
  let hint := (r.hint.filter (!·.isEmpty)).elim "" ("hint: " ++ · ++ "\n")
  "error[" ++ r.code ++ "]: " ++ file ++ r.message ++ "\n" ++ hint

/-- A number of a place, or null. -/
def placeToJson (n : Option Nat) : Json :=
  Json.ofInt? (n.map Int.ofNat)

/-- A report for programs: one object on a line. -/
def json (r : Report) : String :=
  (Json.object [
    ("ok", .bool false),
    ("code", .string r.code),
    ("message", .string r.message),
    ("file", .ofString? r.file),
    ("line", placeToJson r.line),
    ("column", placeToJson r.column),
    ("hint", .ofString? r.hint),
    ("retryable", .bool r.retryable)]).compact ++ "\n"

end Report

namespace LayoutWarning

variable {α : Type} [Scalar α]

/-- A warning for people. -/
def text (w : LayoutWarning α) : String :=
  "warning[" ++ w.code ++ "]: " ++ located w.reason (some w.path) ++ "\n"

/-- A warning about what was compiled from a source of a name, for programs. -/
def json (name : String) (w : LayoutWarning α) : String :=
  (Json.object [
    ("ok", .bool true),
    ("code", .string w.code),
    ("message", .string w.reason),
    ("file", .string name),
    ("node_path", .string w.path)]).compact ++ "\n"

end LayoutWarning

end GridDiagram
