import GridDiagram.Text.Quoted

/-!
Colours, and the hexadecimal form in which a drawing gives them.
-/

namespace GridDiagram

/-- A colour by its red, green and blue channels. A channel is as large as its source says. -/
structure Color where
  red : Int
  green : Int
  blue : Int
  deriving DecidableEq, Repr

namespace Color

def black : Color := ⟨0, 0, 0⟩

/-- The colour whose channels are the two-digit pieces of the hexadecimal number `n`. -/
def ofHex (n : Nat) : Color :=
  ⟨(n / 0x10000 % 0x100 : Nat), (n / 0x100 % 0x100 : Nat), (n % 0x100 : Nat)⟩

/-- A channel in hexadecimal digits: two of them, or as many as it takes. -/
def channelDigits (n : Int) : List Char :=
  if n < 0 then '-' :: Text.hexDigits 1 n.natAbs else Text.hexDigits 2 n.natAbs

/-- The form of a colour in a drawing. -/
def hex (c : Color) : String :=
  String.ofList
    ('#' :: channelDigits c.red ++ channelDigits c.green ++ channelDigits c.blue)

end Color

/-- The form of a paint in a drawing: a colour, or none. -/
def paintText : Option Color → String
  | none => "none"
  | some c => c.hex

end GridDiagram
