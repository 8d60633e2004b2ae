import GridDiagram.Xml.Scan

/-!
The declaration at the front of an XML text: its version, its encoding, and whether it stands alone.
Of these the last one alone changes how the text is read, as the text is one of characters.
-/

namespace GridDiagram.Xml

/-- An item of the declaration, with the numbers of characters left from its name and from its value
on, and what is left behind it. -/
structure DeclarationItem where
  name : String
  nameRemaining : Nat
  value : String
  valueRemaining : Nat
  rest : List Char

/-- A character that the value of an item may hold. -/
def isDeclarationValueChar (c : Char) : Bool :=
  c.isAlphanum || c == '.' || c == '-' || c == '_'

/-- Reads the value of an item and the closing quotation mark. An error is the number of characters
left where it goes wrong. -/
def readDeclarationValue (name : String) (nameRemaining : Nat) :
    List Char → Except Nat DeclarationItem
  | [] => .error 0
  | mark :: cs =>
    let value := cs.takeWhile isDeclarationValueChar
    if mark = '"' ∨ mark = '\'' then
      match cs.dropWhile isDeclarationValueChar with
      | [] => .error 0
      | c :: rest =>
        if c = mark then .ok ⟨name, nameRemaining, String.ofList value, cs.length, rest⟩
        else .error (c :: rest).length
    else .error (mark :: cs).length

/-- Reads an item behind a blank, if there is one. -/
def readDeclarationItem : List Char → Except Nat (Option DeclarationItem)
  | [] => .ok none
  | c :: cs =>
    if !isBlank c then .error (c :: cs).length
    else
      let front := skipBlanks cs
      let isName (c : Char) := c != '=' && !isBlank c && c.toNat < 0x80
      if front.isEmpty then .ok none
      else
        let name := front.takeWhile isName
        match skipBlanks (front.dropWhile isName) with
        | '=' :: rest =>
          if name.isEmpty then .error ('=' :: rest).length
          else (readDeclarationValue (String.ofList name) front.length (skipBlanks rest)).map some
        | rest => .error rest.length

/-- Reads the last item, behind which blanks alone may follow. -/
def readStandalone (item : DeclarationItem) : Except Nat Bool :=
  if item.name ≠ "standalone" then .error item.nameRemaining
  else if item.value ≠ "yes" ∧ item.value ≠ "no" then .error item.valueRemaining
  else
    match skipBlanks item.rest with
    | [] => .ok (item.value == "yes")
    | rest => .error rest.length

/-- Reads the declaration between its marks, and says whether the text stands alone. An error is the
number of characters left where it goes wrong. -/
def readTextDeclaration (cs : List Char) : Except Nat Bool := do
  let some version ← readDeclarationItem cs | throw cs.length
  if version.name ≠ "version" then throw version.nameRemaining
  let some second ← readDeclarationItem version.rest | return false
  if second.name = "encoding" then
    if !second.value.toList.head?.any Char.isAlpha then throw second.valueRemaining
    let some third ← readDeclarationItem second.rest | return false
    readStandalone third
  else readStandalone second

end GridDiagram.Xml
