import GridDiagram.Text.Blank
import GridDiagram.Text.Digit

/-!
Numerals as sources spell them: integers and decimal fractions in the digits of any script, with
single underscores between digits, and the words for infinity and for no number.
-/

namespace GridDiagram

/-- What a numeral stands for; a finite one for `± digits * 10 ^ exponent`. -/
inductive Numeral where
  | finite (negative : Bool) (digits : Nat) (exponent : Int)
  | infinite (negative : Bool)
  | nan
  deriving DecidableEq, Repr

namespace Numeral

/-- The blanks that may stand around a numeral: all but the information separators. -/
def isMargin (c : Char) : Bool :=
  Text.isBlank c && !(0x1c ≤ c.toNat && c.toNat ≤ 0x1f)

/-- The digit 0 to 9 of the same value for a digit of any script; any other character as it is. -/
def plainDigit (c : Char) : Char :=
  match Text.digitValue? c with
  | some d => Nat.digitChar d
  | none => c

/-- `cs` without its underscores, each of which has to stand between two digits; `afterDigit` says
that a digit is in front of `cs`. -/
def dropUnderscores (afterDigit : Bool) : List Char → Option (List Char)
  | [] => some []
  | ['_'] => none
  | '_' :: c :: cs =>
    if afterDigit && c.isDigit then (dropUnderscores true cs).map (c :: ·) else none
  | c :: cs => (dropUnderscores c.isDigit cs).map (c :: ·)

/-- The characters of a numeral with plain digits, and without margins and underscores. -/
def plain? (s : String) : Option (List Char) :=
  dropUnderscores false ((Text.trim isMargin s.toList).map plainDigit)

/-- A leading sign, and what follows it. -/
def takeSign : List Char → Bool × List Char
  | '+' :: cs => (false, cs)
  | '-' :: cs => (true, cs)
  | cs => (false, cs)

/-- The number that plain digits spell. -/
def ofDigits (cs : List Char) : Nat :=
  cs.foldl (fun n c => 10 * n + (c.toNat - '0'.toNat)) 0

/-- The exponent that ends a numeral: nothing for 0, or a mark and an integer. -/
def exponent? : List Char → Option Int
  | [] => some 0
  | c :: cs =>
    let (negative, ds) := takeSign cs
    if c.toLower == 'e' && !ds.isEmpty && ds.all Char.isDigit then
      some (if negative then -(ofDigits ds : Int) else ofDigits ds)
    else none

/-- The digits of a decimal fraction that `cs` starts with: those before its point, those after it,
and the rest of `cs`. -/
def takeFraction (cs : List Char) : List Char × List Char × List Char :=
  let whole := cs.takeWhile Char.isDigit
  match cs.dropWhile Char.isDigit with
  | '.' :: rest => (whole, rest.takeWhile Char.isDigit, rest.dropWhile Char.isDigit)
  | rest => (whole, [], rest)

/-- A numeral without a sign that has digits before or after its point. -/
def decimal? (negative : Bool) (cs : List Char) : Option Numeral :=
  let (whole, fraction, rest) := takeFraction cs
  if whole.isEmpty && fraction.isEmpty then none
  else
    (exponent? rest).map fun e =>
      .finite negative (ofDigits (whole ++ fraction)) (e - fraction.length)

/-- Reads a numeral. -/
def parse? (s : String) : Option Numeral :=
  (plain? s).bind fun cs =>
    let (negative, cs) := takeSign cs
    let word := String.ofList (cs.map Char.toLower)
    if word == "inf" || word == "infinity" then some (.infinite negative)
    else if word == "nan" then some .nan
    else decimal? negative cs

/-- An integer is read only up to this many digits, leading zeros counted. -/
def maxIntegerDigits : Nat := 4300

/-- Reads an integer numeral. -/
def integer? (s : String) : Option Int :=
  (plain? s).bind fun cs =>
    let (negative, ds) := takeSign cs
    if !ds.isEmpty && ds.all Char.isDigit && ds.length ≤ maxIntegerDigits then
      some (if negative then -(ofDigits ds : Int) else ofDigits ds)
    else none

end Numeral

end GridDiagram
