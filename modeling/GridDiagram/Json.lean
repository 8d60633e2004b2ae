import GridDiagram.Number.Shortest
import GridDiagram.Text.Quoted

/-!
JSON values and their two written forms: on one line, and indented. Text is written in ASCII, with
everything else escaped by its UTF-16 units.
-/

namespace GridDiagram

/-- A JSON value. Integers are told from other numbers, and an object keeps the order of its
fields. -/
inductive Json where
  | null
  | bool (b : Bool)
  | integer (n : Int)
  | number (x : Float)
  | string (s : String)
  | array (items : List Json)
  | object (fields : List (String × Json))

namespace Json

/-- A string, or null where there is none. -/
def ofString? : Option String → Json
  | some s => string s
  | none => null

/-- An integer, or null where there is none. -/
def ofInt? : Option Int → Json
  | some n => integer n
  | none => null

/-- The UTF-16 units of a character. -/
def units (c : Char) : List Nat :=
  let n := c.toNat
  if n < 0x10000 then [n]
  else [0xd800 + (n - 0x10000) / 0x400, 0xdc00 + (n - 0x10000) % 0x400]

/-- One character inside a string. -/
def escapeChar (c : Char) : List Char :=
  if c == '"' then ['\\', '"']
  else if c == '\\' then ['\\', '\\']
  else if c == '\n' then ['\\', 'n']
  else if c == '\r' then ['\\', 'r']
  else if c == '\t' then ['\\', 't']
  else if c == '\x08' then ['\\', 'b']
  else if c == '\x0c' then ['\\', 'f']
  else if 0x20 ≤ c.toNat && c.toNat < 0x7f then [c]
  else (units c).flatMap fun u => '\\' :: 'u' :: Text.hexDigits 4 u

/-- A string between quotation marks. -/
def quote (s : String) : String :=
  String.ofList ('"' :: s.toList.flatMap escapeChar ++ ['"'])

/-- A number. Those that JSON has no numeral for are written as words. -/
def numeral (x : Float) : String :=
  match Binary.ofFloat? x with
  | some b => b.shortest
  | none => if x == x then (if x < 0.0 then "-Infinity" else "Infinity") else "NaN"

mutual

/-- The form on one line. -/
def compact : Json → String
  | null => "null"
  | bool b => if b then "true" else "false"
  | integer n => toString n
  | number x => numeral x
  | string s => quote s
  | array items => "[" ++ ", ".intercalate (compactItems items) ++ "]"
  | object fields => "\x7b" ++ ", ".intercalate (compactFields fields) ++ "\x7d"

/-- The items of an array on one line. -/
def compactItems : List Json → List String
  | [] => []
  | j :: js => compact j :: compactItems js

/-- The fields of an object on one line. -/
def compactFields : List (String × Json) → List String
  | [] => []
  | (name, j) :: fs => (quote name ++ ": " ++ compact j) :: compactFields fs

end

/-- The start of a line inside `depth` arrays and objects. -/
def lineStart (depth : Nat) : String :=
  "\n" ++ String.ofList (List.replicate (2 * depth) ' ')

/-- Items between brackets, each on a line of its own; without items the brackets alone. -/
def block (opening closing : String) (depth : Nat) (items : List String) : String :=
  if items.isEmpty then opening ++ closing
  else
    opening ++ lineStart (depth + 1) ++ ("," ++ lineStart (depth + 1)).intercalate items ++
      lineStart depth ++ closing

mutual

/-- The indented form inside `depth` arrays and objects. -/
def indentedAt (depth : Nat) : Json → String
  | array items => block "[" "]" depth (indentedItems (depth + 1) items)
  | object fields => block "\x7b" "\x7d" depth (indentedFields (depth + 1) fields)
  | null => "null"
  | bool b => if b then "true" else "false"
  | integer n => toString n
  | number x => numeral x
  | string s => quote s

/-- The items of an array in the indented form. -/
def indentedItems (depth : Nat) : List Json → List String
  | [] => []
  | j :: js => indentedAt depth j :: indentedItems depth js

/-- The fields of an object in the indented form. -/
def indentedFields (depth : Nat) : List (String × Json) → List String
  | [] => []
  | (name, j) :: fs => (quote name ++ ": " ++ indentedAt depth j) :: indentedFields depth fs

end

/-- The indented form. -/
def indented (j : Json) : String :=
  j.indentedAt 0

end Json

end GridDiagram
