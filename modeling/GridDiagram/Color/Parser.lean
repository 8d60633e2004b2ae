import GridDiagram.Color
import GridDiagram.Color.Name
import GridDiagram.Scalar
import GridDiagram.Text.Blank
import GridDiagram.Text.Case

/-!
The spellings of a colour: a name, hexadecimal digits after a hash, or channels in one of three
colour spaces as arguments.
-/

namespace GridDiagram.Color

/-- The whole part of a number, without its fraction. -/
def wholePart (x : Float) : Int :=
  match Exact.ofFloat x with
  | .finite negative magnitude => if negative then -magnitude.floor else magnitude.floor
  | _ => 0

/-- What is left of `x` above the next lower integer. -/
def fractionalPart (x : Float) : Float :=
  let rest := x - Scalar.ofInt (wholePart x)
  if rest < 0.0 then rest + 1.0 else rest

/-- A channel between 0 and 255 for a share between 0 and 1. -/
def channel (share : Float) : Int :=
  wholePart (share * 255.0 + 0.5)

/-- The share of a channel at a place of the colour wheel, between the shares `m1` and `m2`. -/
def wheelShare (m1 m2 hue : Float) : Float :=
  let hue := fractionalPart hue
  if hue < 1.0 / 6.0 then m1 + (m2 - m1) * hue * 6.0
  else if hue < 0.5 then m2
  else if hue < 2.0 / 3.0 then m1 + (m2 - m1) * (2.0 / 3.0 - hue) * 6.0
  else m1

/-- The colour with a hue, a saturation and a lightness between 0 and 1. -/
def ofHueSaturationLightness (h s l : Float) : Color :=
  if s == 0.0 then ⟨channel l, channel l, channel l⟩
  else
    let m2 := if l ≤ 0.5 then l * (1.0 + s) else l + s - l * s
    let m1 := 2.0 * l - m2
    ⟨channel (wheelShare m1 m2 (h + 1.0 / 3.0)), channel (wheelShare m1 m2 h),
      channel (wheelShare m1 m2 (h - 1.0 / 3.0))⟩

/-- The colour with a hue, a saturation and a value between 0 and 1. -/
def ofHueSaturationValue (h s v : Float) : Color :=
  if s == 0.0 then ⟨channel v, channel v, channel v⟩
  else
    let i := wholePart (h * 6.0)
    let f := h * 6.0 - Scalar.ofInt i
    let p := channel (v * (1.0 - s))
    let q := channel (v * (1.0 - s * f))
    let t := channel (v * (1.0 - s * (1.0 - f)))
    let v := channel v
    match (i % 6).toNat with
    | 0 => ⟨v, t, p⟩
    | 1 => ⟨q, v, p⟩
    | 2 => ⟨p, v, t⟩
    | 3 => ⟨p, q, v⟩
    | 4 => ⟨t, p, v⟩
    | _ => ⟨v, p, q⟩

/-- The value of a lower-case hexadecimal digit. -/
def hexValue? (c : Char) : Option Nat :=
  if c.isDigit then some (c.toNat - '0'.toNat)
  else if 'a' ≤ c ∧ c ≤ 'f' then some (c.toNat - 'a'.toNat + 10)
  else none

/-- The colour of the digits behind a hash: one or two for each channel, and as many more that say
how opaque it is and are passed over. -/
def ofHash? (ds : List Char) : Option Color :=
  (ds.mapM hexValue?).bind fun vs =>
    match vs with
    | [r, g, b] => some ⟨17 * r, 17 * g, 17 * b⟩
    | [r, g, b, _] => some ⟨17 * r, 17 * g, 17 * b⟩
    | [r, r', g, g', b, b'] => some ⟨16 * r + r', 16 * g + g', 16 * b + b'⟩
    | [r, r', g, g', b, b', _, _] => some ⟨16 * r + r', 16 * g + g', 16 * b + b'⟩
    | _ => none

/-- One argument of a colour in a colour space. -/
inductive Argument where
  | integer (n : Nat)
  | fraction (x : Float)
  | percentage (n : Nat)
  | percentageFraction (x : Float)

/-- Reads digits, or digits with a point after or between them. -/
def number? (cs : List Char) : Option (Nat ⊕ Float) :=
  let ds := cs.map Numeral.plainDigit
  let (whole, fraction, rest) := Numeral.takeFraction ds
  if whole.isEmpty || !rest.isEmpty then none
  else if ds.contains '.' then
    some (.inr (floatOfDecimal false (Numeral.ofDigits (whole ++ fraction)) (-fraction.length)))
  else some (.inl (Numeral.ofDigits whole))

/-- Reads one argument, without the blanks around it. -/
def Argument.parse? (cs : List Char) : Option Argument :=
  match cs.reverse with
  | '%' :: rest =>
    (number? rest.reverse).map fun
      | .inl n => .percentage n
      | .inr x => .percentageFraction x
  | _ =>
    (number? cs).map fun
      | .inl n => .integer n
      | .inr x => .fraction x

/-- The number of a plain argument. -/
def Argument.plain? : Argument → Option Float
  | .integer n => some (Scalar.ofInt n)
  | .fraction x => some x
  | _ => none

/-- The number before the percent sign of an argument. -/
def Argument.percent? : Argument → Option Float
  | .percentage n => some (Scalar.ofInt n)
  | .percentageFraction x => some x
  | _ => none

/-- The channel of a percentage. -/
def percentChannel (n : Nat) : Int :=
  wholePart (Scalar.ofInt (n * 255) / 100.0 + 0.5)

/-- The colour of a name and arguments. Channels are given as integers or as percentages, and the
other spaces take a hue in degrees and two percentages. -/
def ofArguments? (name : String) (arguments : List Argument) : Option Color :=
  match name, arguments with
  | "rgb", [.integer r, .integer g, .integer b] => some ⟨r, g, b⟩
  | "rgba", [.integer r, .integer g, .integer b, .integer _] => some ⟨r, g, b⟩
  | "rgb", [.percentage r, .percentage g, .percentage b] =>
    some ⟨percentChannel r, percentChannel g, percentChannel b⟩
  | "hsl", [h, s, l] => do
    some (ofHueSaturationLightness ((← h.plain?) / 360.0) ((← s.percent?) / 100.0)
      ((← l.percent?) / 100.0))
  | "hsv", [h, s, v] => do
    some (ofHueSaturationValue ((← h.plain?) / 360.0) ((← s.percent?) / 100.0)
      ((← v.percent?) / 100.0))
  | "hsb", [h, s, v] => do
    some (ofHueSaturationValue ((← h.plain?) / 360.0) ((← s.percent?) / 100.0)
      ((← v.percent?) / 100.0))
  | _, _ => none

/-- The colour of a name with its arguments between parentheses. -/
def ofCall? (cs : List Char) : Option Color :=
  match (cs.dropWhile (· != '(')).reverse with
  | ')' :: rest => do
    let inner := (rest.reverse).drop 1
    let arguments ← ((Text.pieces (· == ',') inner).map (Text.trim Text.isBlank)).mapM
      Argument.parse?
    ofArguments? (String.ofList (cs.takeWhile (· != '('))) arguments
  | _ => none

/-- The longest spelling of a colour that is read. -/
def maxLength : Nat := 100

/-- Reads a colour, in letters of either case and without blanks around it. -/
def parse? (s : String) : Option Color :=
  let cs := (Text.lowercase s).toList
  if maxLength < s.length then none
  else
    match colorNames.lookup (String.ofList cs) with
    | some n => some (ofHex n)
    | none =>
      match cs with
      | '#' :: ds => ofHash? ds
      | _ => ofCall? cs

/-- Reads a paint: a colour, or one of the two words for none. -/
def parsePaint? (s : String) : Option (Option Color) :=
  let s := Text.strip s
  let lower := Text.lowercase s
  if lower == "none" || lower == "transparent" then some none else (parse? s).map some

end GridDiagram.Color
