import GridDiagram.Layout.Grid
import GridDiagram.Layout.Stage
import GridDiagram.Number.Error

/-!
What can go wrong while a diagram is laid out, what is worth a warning, and the wording of both.
-/

namespace GridDiagram

/-- Why a tree cannot be laid out. -/
inductive LayoutError (α : Type) where
  | overconstrained (axis : Axis) (start stop : Int) (fixed needed : α) (path : String)
  | noInterval (axis : Axis) (line : Int)
  | noLine (axis : Axis) (line : Int)
  | noCoordinates (path : String)
  | notLaidOut (tag path : String)
  | stage (error : StageError)
  | number (error : NumberError)
  deriving DecidableEq, Repr

/-- The error of an axis, where `path` is that of the child for which room was made. -/
def GridError.on {α : Type} (axis : Axis) (path : String) : GridError α → LayoutError α
  | .noInterval line => .noInterval axis line
  | .overconstrained start stop fixed needed =>
    .overconstrained axis start stop fixed needed path

/-- A condition of a layout that its author may not want. -/
inductive LayoutWarning (α : Type) where
  | overflow (axis : Axis) (needed available : α) (path : String)
  | unusedExpansion (axis : Axis) (path : String)
  deriving DecidableEq, Repr

namespace LayoutError

variable {α : Type} [Scalar α]

/-- The wording of an error, without the place where it arose. -/
def reason : LayoutError α → String
  | overconstrained axis start stop fixed needed _ =>
    axis.name ++ " intervals between lines " ++ toString start ++ " and " ++ toString stop ++
      " are fixed at " ++ (Scalar.exact fixed).brief ++ " but a spanning child needs " ++
      (Scalar.exact needed).brief
  | noInterval _ _ | noLine _ _ => "list index out of range"
  | noCoordinates _ => "'coords'"
  | notLaidOut tag _ => "<" ++ tag ++ "> cannot be laid out"
  | stage error => error.reason
  | number error => error.message

omit [Scalar α] in
/-- The place where an error arose, if it is known. -/
def path? : LayoutError α → Option String
  | overconstrained _ _ _ _ _ path | notLaidOut _ path => some path
  | stage error => some error.path
  | _ => none

end LayoutError

namespace LayoutWarning

variable {α : Type} [Scalar α]

/-- The wording of a warning, without the place that it is about. -/
def reason : LayoutWarning α → String
  | overflow axis needed available _ =>
    "content needs " ++ (Scalar.exact needed).brief ++ " on " ++ axis.name ++ " but its box is " ++
      (Scalar.exact available).brief
  | unusedExpansion axis _ =>
    "layout expands on " ++ axis.name ++ " but has no expandable interval"

omit [Scalar α] in
/-- The place that a warning is about. -/
def path : LayoutWarning α → String
  | overflow _ _ _ path | unusedExpansion _ path => path

omit [Scalar α] in
/-- The code by which programs know a warning. -/
def code : LayoutWarning α → String
  | overflow _ _ _ _ => "W_OVERFLOW"
  | unusedExpansion _ _ => "W_EXPAND_UNUSED"

end LayoutWarning

/-- A message with the place that it is about, where there is one. -/
def located (message : String) (path : Option String) : String :=
  match path with
  | some path => if path.isEmpty then message else message ++ " (at " ++ path ++ ")"
  | none => message

end GridDiagram
