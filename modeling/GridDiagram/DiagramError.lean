import GridDiagram.Primitive
import GridDiagram.Source
import GridDiagram.StyleSheet
import GridDiagram.Template

/-!
Everything that can go wrong between a source and a drawing, with one wording and one place for
each error whatever the stage in which it arises.
-/

namespace GridDiagram

/-- Why a source is not compiled or drawn. -/
inductive DiagramError (α : Type) where
  | source (error : SourceError)
  | structural (error : StructuralError)
  | template (error : TemplateError)
  | style (error : StyleError)
  | layout (error : LayoutError α)
  | drawing (error : DrawingError)
  deriving DecidableEq, Repr

namespace DiagramError

variable {α : Type}

/-- The wording of an error, without the place where it arose. -/
def reason [Scalar α] : DiagramError α → String
  | source error => error.reason
  | structural error => error.reason
  | template error => error.reason
  | style error => error.reason
  | layout error => error.reason
  | drawing error => error.reason

/-- The place in the diagram where an error arose, if it is known. -/
def path? : DiagramError α → Option String
  | source _ => none
  | structural error => error.path?
  | template error => error.path?
  | style error => error.path?
  | layout error => error.path?
  | drawing error => error.path?

/-- The place in the source where an error arose, if it is known. -/
def position? : DiagramError α → Option Text.Position
  | source error => some error.position
  | _ => none

/-- The wording of an error with its place in the diagram. -/
def message [Scalar α] (e : DiagramError α) : String :=
  located e.reason e.path?

end DiagramError

end GridDiagram
