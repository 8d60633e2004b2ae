import GridDiagram.Plane
import GridDiagram.Text.Quoted

/-!
The reasons for which the text of an attribute is refused, and their wording.
-/

namespace GridDiagram

/-- Why a text is no value. -/
inductive ValueError where
  | noNumber
  | notNumbers (text : String)
  | notOneNumber (text : String)
  | negative
  | notPositive
  | moreThanTwoNumbers
  | outside (low high : Int)
  | noInteger
  | notIntegers (text : String)
  | sideCount
  | unknownColor (text : String)
  | notBoolean (text : String)
  | tooFewVertices
  | oddCoordinates
  | noConstraint
  | notLine (token : String)
  | lineBelowOne
  | linesNotIncreasing
  | badSize (token : String)
  | gridCount
  | axisCount (key : String)
  | emptySpan (axis : Axis) (start stop : Int)
  deriving DecidableEq, Repr

/-- The wording of a reason. -/
def ValueError.message : ValueError → String
  | noNumber => "expected at least one number"
  | notNumbers text => "expected numbers, got " ++ Text.quoted text
  | notOneNumber text => "expected a single number, got " ++ Text.quoted text
  | negative => "must be >= 0"
  | notPositive => "must be > 0"
  | moreThanTwoNumbers => "expected one or two numbers"
  | outside low high => "values must lie in [" ++ toString low ++ ", " ++ toString high ++ "]"
  | noInteger => "expected at least one integer"
  | notIntegers text => "expected integers, got " ++ Text.quoted text
  | sideCount => "expected 1, 2 or 4 numbers"
  | unknownColor text => "unknown colour " ++ Text.quoted text
  | notBoolean text => "expected a boolean, got " ++ Text.quoted text
  | tooFewVertices => "expected an integer >= 3"
  | oddCoordinates => "expected an even list of at least two x,y pairs"
  | noConstraint => "expected line/size pairs"
  | notLine token => "expected a grid line index, got " ++ Text.quoted token
  | lineBelowOne => "grid lines are numbered from 1"
  | linesNotIncreasing => "grid line indices must increase"
  | badSize token => "bad interval size " ++ Text.quoted token
  | gridCount => "grid takes 1 to 4 line indices"
  | axisCount key => key ++ " takes 1 or 2 line indices"
  | emptySpan axis start stop =>
    axis.name ++ " span must end after it starts (" ++ toString start ++ " -> " ++
      toString stop ++ ")"

end GridDiagram
