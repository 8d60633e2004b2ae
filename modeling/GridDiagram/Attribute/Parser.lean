import GridDiagram.Attribute
import GridDiagram.Attribute.ValueError
import GridDiagram.Color.Parser

/-!
Reading the text of an attribute as a value of its type. The comparisons reject what lies outside
a range; in a type of numbers where a number can be neither inside nor outside, it is accepted.
-/

namespace GridDiagram

/-- Reads the integers of a text. -/
def parseIntegers (s : String) : Except ValueError (List Int) :=
  match Text.items s with
  | [] => .error .noInteger
  | items =>
    match items.mapM Numeral.integer? with
    | some ns => .ok ns
    | none => .error (.notIntegers s)

namespace Attribute

variable {α : Type} [Scalar α]

/-- Reads the numbers of a text, at least one. -/
def parseNumbers (s : String) : Except ValueError (List α) :=
  match Text.items s with
  | [] => .error .noNumber
  | items =>
    match items.mapM Scalar.parse? with
    | some xs => .ok xs
    | none => .error (.notNumbers s)

/-- Reads a single number. -/
def parseNumber (s : String) : Except ValueError α := do
  match ← parseNumbers s with
  | [x] => .ok x
  | _ => .error (.notOneNumber s)

/-- Reads a single number that is not negative. -/
def parseNonnegative (s : String) : Except ValueError α := do
  let x ← parseNumber s
  if x < 0.0 then .error .negative else .ok x

/-- Reads a single number above zero. -/
def parsePositive (s : String) : Except ValueError α := do
  let x ← parseNumber s
  if x ≤ 0.0 then .error .notPositive else .ok x

/-- Reads one number for each axis; a single one counts for both. -/
def parsePoint (s : String) : Except ValueError (Pair α) := do
  match ← parseNumbers s with
  | [a] => .ok ⟨a, a⟩
  | [a, b] => .ok ⟨a, b⟩
  | _ => .error .moreThanTwoNumbers

/-- A number lies below `low` or above `high`. -/
def isOutside (low high : Int) (x : α) : Bool :=
  x < Scalar.ofInt low || Scalar.ofInt high < x

/-- Reads one number between `low` and `high` for each axis. -/
def parseBounded (low high : Int) (s : String) : Except ValueError (Pair α) := do
  let p ← parsePoint s
  if isOutside low high p.x || isOutside low high p.y then .error (.outside low high) else .ok p

/-- The sides that one number for all, two for the axes or four in order give. -/
def sidesOf? : List α → Option (Sides α)
  | [a] => some (Sides.all a)
  | [a, b] => some ⟨a, b, a, b⟩
  | [a, b, c, d] => some ⟨a, b, c, d⟩
  | _ => none

/-- Reads one number that is not negative for each side. -/
def parseSides (s : String) : Except ValueError (Sides α) := do
  match sidesOf? (← parseNumbers s) with
  | none => .error .sideCount
  | some sides =>
    if sides.left < 0.0 ∨ sides.top < 0.0 ∨ sides.right < 0.0 ∨ sides.bottom < 0.0 then
      .error .negative
    else .ok sides

/-- Reads a colour or none. -/
def parsePaint (s : String) : Except ValueError (Option Color) :=
  match Color.parsePaint? s with
  | some paint => .ok paint
  | none => .error (.unknownColor s)

/-- A text without the blanks around it, and without a pair of quotation marks inside those. -/
def unquote (s : String) : String :=
  let cs := Text.trim Text.isBlank s.toList
  let quotedBy (mark : Char) := cs.head? == some mark && cs.getLast? == some mark
  if quotedBy '"' || quotedBy '\'' then String.ofList (cs.drop 1).dropLast else String.ofList cs

/-- Reads a truth value. -/
def parseBoolean (s : String) : Except ValueError Bool :=
  let word := Text.lowercase (Text.strip s)
  if ["1", "true", "yes"].contains word then .ok true
  else if ["0", "false", "no"].contains word then .ok false
  else .error (.notBoolean s)

/-- Reads a count of corners. -/
def parseVertices (s : String) : Except ValueError Int := do
  match ← parseIntegers s with
  | [n] => if n < 3 then .error .tooFewVertices else .ok n
  | _ => .error .tooFewVertices

/-- The points whose coordinates alternate in a list of even length. -/
def pointsOf? : List α → Option (List (Pair α))
  | [] => some []
  | [_] => none
  | x :: y :: rest => (pointsOf? rest).map (⟨x, y⟩ :: ·)

/-- Reads two points or more. -/
def parsePoints (s : String) : Except ValueError (List (Pair α)) := do
  match pointsOf? (← parseNumbers s) with
  | some (p :: q :: rest) => .ok (p :: q :: rest)
  | _ => .error .oddCoordinates

/-- Reads the size of an interval at a line: a least size, or a weight after a plus sign. -/
def parseSize (line : Int) (token : String) : Except ValueError (IntervalConstraint α) :=
  let (weighted, text) :=
    match token.toList with
    | '+' :: rest => (true, String.ofList rest)
    | _ => (false, token)
  match Scalar.parse? text with
  | none => .error (.badSize token)
  | some x =>
    if x < 0.0 then .error (.badSize token)
    else .ok (if weighted then ⟨line, 0.0, x⟩ else ⟨line, x, 0.0⟩)

/-- Reads the number of a grid line behind the line `last`. -/
def parseLine (last : Int) (token : String) : Except ValueError Int :=
  match Numeral.integer? token with
  | none => .error (.notLine token)
  | some line =>
    if line < 1 then .error .lineBelowOne
    else if line ≤ last then .error .linesNotIncreasing
    else .ok line

/-- Reads lines and sizes in turn, the lines behind `last`. A line without a size ends the list and
asks for nothing. -/
def constraintsOf (last : Int) : List String → Except ValueError (List (IntervalConstraint α))
  | [] => .ok []
  | [token] => do
    let _ ← parseLine last token
    .ok []
  | token :: size :: rest => do
    let line ← parseLine last token
    let c ← parseSize line size
    let cs ← constraintsOf line rest
    .ok (c :: cs)

/-- Reads the constraints on the intervals of an axis. -/
def parseConstraints (s : String) : Except ValueError (List (IntervalConstraint α)) :=
  match Text.items s with
  | [] => .error .noConstraint
  | items => constraintsOf 0 items

/-- Reads the text of an attribute. -/
def parse (a : Attribute) (s : String) : Except ValueError (a.Value α) :=
  match a with
  | anchor => parseBounded (-1) 1 s
  | expand => parseBounded 0 1 s
  | minx | miny => parseConstraints s
  | place | translate => parsePoint s
  | pad | margin => parseSides s
  | bg | borderColor | fill | stroke => parsePaint s
  | borderWidth | borderRound | strokeWidth | width | height | round | stellate | fontSize =>
    parseNonnegative s
  | scale => parsePositive s
  | rotate => parseNumber s
  | vertices => parseVertices s
  | fontFamily | fontWeight | fontStyle => .ok (some (unquote s))
  | coords => parsePoints s
  | closed => parseBoolean s
  | ref | select | style => .ok (unquote s)

end Attribute

end GridDiagram
