import GridDiagram.Number.Exact
import GridDiagram.Number.Rounding

/-!
Decimal numerals: a number written with a fixed count of places, with a fixed count of significant
digits, and the form that a run of significant digits takes.
-/

namespace GridDiagram

/-- How significant digits become a numeral. A number whose decimal exponent is at least -4 and
below `positionalBelow` is written with its point in place, any other with an exponent of two digits
or more; `keepsPoint` says that an integral numeral without an exponent ends in `.0`. -/
structure DecimalForm where
  positionalBelow : Int
  keepsPoint : Bool

namespace Decimal

def digits (n : Nat) : List Char :=
  Nat.toDigits 10 n

/-- `n` in decimal digits, filled up with zeros to `width` of them. -/
def padded (width n : Nat) : List Char :=
  let ds := digits n
  List.replicate (width - ds.length) '0' ++ ds

/-- `cs` without the zeros at its end. -/
def dropZeros (cs : List Char) : List Char :=
  (cs.reverse.dropWhile (· == '0')).reverse

/-- A minus sign for a negative number. -/
def sign (negative : Bool) : List Char :=
  if negative then ['-'] else []

/-- An integer in decimal digits. -/
def integer (n : Int) : List Char :=
  sign (n < 0) ++ digits n.natAbs

/-- A magnitude with `places` digits after the point; a tie goes to the even neighbour. -/
def fixed (places : Nat) (negative : Bool) (magnitude : Rat) : List Char :=
  let scaled := roundMagnitude (magnitude * (Nat.pow 10 places : Nat))
  let whole := scaled / Nat.pow 10 places
  let fraction := scaled % Nat.pow 10 places
  sign negative ++ digits whole ++ '.' :: padded places fraction

/-- A numeral without the zeros after its point that say nothing, and without a point that nothing
follows. -/
def shorten (cs : List Char) : List Char :=
  match (dropZeros cs).reverse with
  | '.' :: rest => rest.reverse
  | _ => dropZeros cs

/-- The mark, sign and two digits or more of an exponent. -/
def exponentPart (e : Int) : List Char :=
  'e' :: (if e < 0 then '-' else '+') :: padded 2 e.natAbs

end Decimal

open Decimal in
/-- The numeral of `n * 10 ^ unit` for a positive `n`. Zeros at the end of the digits of `n` are
left out. -/
def DecimalForm.write (form : DecimalForm) (n : Nat) (unit : Int) : List Char :=
  let e := unit + digitCount n - 1
  let ds := dropZeros (digits n)
  if -4 ≤ e ∧ e < form.positionalBelow then
    if e < 0 then
      '0' :: '.' :: List.replicate (-e - 1).toNat '0' ++ ds
    else
      let count := (e + 1).toNat
      let whole := ds.take count ++ List.replicate (count - ds.length) '0'
      match ds.drop count with
      | [] => if form.keepsPoint then whole ++ ['.', '0'] else whole
      | fraction => whole ++ '.' :: fraction
  else
    match ds with
    | [d] => d :: exponentPart e
    | ds => ds.take 1 ++ '.' :: ds.drop 1 ++ exponentPart e

/-- The form of a number inside a message: six significant digits, positional below a million. -/
def DecimalForm.brief : DecimalForm := ⟨6, false⟩

/-- A number inside a message. -/
def Exact.brief : Exact → String
  | .nan => "nan"
  | .infinite negative => if negative then "-inf" else "inf"
  | .finite negative magnitude =>
    let numeral :=
      if magnitude = 0 then ['0']
      else
        let (n, unit) := roundToDigits 6 magnitude
        DecimalForm.brief.write n unit
    String.ofList (Decimal.sign negative ++ numeral)

end GridDiagram
