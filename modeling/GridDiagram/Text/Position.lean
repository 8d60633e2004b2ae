/-!
Places in a text by line and column, and the line ends that divide it.
-/

namespace GridDiagram.Text

/-- A place in a text. Lines are counted from 1, and columns from 0 in characters. -/
structure Position where
  line : Nat
  column : Nat
  deriving DecidableEq, Repr

/-- The place behind `cs`, which starts at a given one. A carriage return and a line feed behind it
end one line together. -/
def Position.advance (p : Position) : List Char → Position
  | [] => p
  | '\r' :: '\n' :: cs => advance ⟨p.line + 1, 0⟩ cs
  | c :: cs =>
    if c == '\r' || c == '\n' then advance ⟨p.line + 1, 0⟩ cs
    else advance ⟨p.line, p.column + 1⟩ cs

/-- The place behind a whole text. -/
def Position.after (cs : List Char) : Position :=
  advance ⟨1, 0⟩ cs

/-- `cs` with a line feed for each line end: a carriage return, a line feed, or both in that
order. -/
def unifyLineEnds : List Char → List Char
  | [] => []
  | '\r' :: '\n' :: cs => '\n' :: unifyLineEnds cs
  | c :: cs => (if c == '\r' then '\n' else c) :: unifyLineEnds cs

end GridDiagram.Text
