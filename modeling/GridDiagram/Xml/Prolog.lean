import GridDiagram.Xml.Token

/-!
The tokens of what stands around the root element of an XML text: the declaration of the document
type and what is declared in it.
-/

namespace GridDiagram.Xml

/-- How a name in a prolog is made up: of a name alone, of two with a colon between them, or of
the characters of names in another order. -/
inductive NameShape where
  | plain
  | qualified
  | loose
  deriving DecidableEq, Repr

/-- A token of a prolog. A `literal` comes with the number of characters left behind its text, and
`counted` is a name with a mark that says how often it occurs. -/
inductive PrologToken where
  | blank
  | comment
  | instruction (content : Instruction)
  | declaration (name : String)
  | sectionStart
  | sectionEnd
  | tagStart
  | literal (text : List Char) (remaining : Nat)
  | percent
  | parameter (name : String)
  | comma
  | bar
  | openBracket
  | closeBracket
  | openParen
  | closeParen (mark : Option Char)
  | close
  | hash (name : String)
  | name (text : String) (shape : NameShape)
  | counted (text : String)
  deriving DecidableEq, Repr

/-- Reads up to the quotation mark that closes a literal. -/
def scanLiteralText (mark : Char) : (cs : List Char) → Except ScanError (Scanned (List Char) cs)
  | [] => .error .unclosed
  | c :: rest =>
    if c = mark then .ok (.first [])
    else if isCharacter c then
      (scanLiteralText mark rest).map fun text => (text.map (c :: ·)).behind
    else refuse (c :: rest)

/-- Refuses a piece behind which another character follows than one of `allowed` or a blank. The
end of the text may follow. -/
def Scanned.followedBy {β : Type} {text : List Char} (allowed : List Char) (s : Scanned β text) :
    Except ScanError (Scanned β text) :=
  match s.rest with
  | [] => .ok s
  | c :: rest => if isBlank c || allowed.contains c then .ok s else refuse (c :: rest)

/-- Reads a literal behind the mark that opens it. -/
def scanLiteral (mark : Char) (cs : List Char) : Except ScanError (Scanned PrologToken cs) := do
  let text ← scanLiteralText mark cs
  let text ← text.followedBy ['>', '%', '[']
  return text.map fun cs => .literal cs (text.rest.length + 1)

/-- A letter of ASCII or a low line: the characters of the names of declarations. -/
def isKeywordChar (c : Char) : Bool :=
  c.isAlpha || c == '_'

/-- Reads the name of a declaration and looks at what follows: a blank, or a percent sign that
begins a reference. -/
def scanDeclaration (cs : List Char) : Except ScanError (Scanned PrologToken cs) := do
  let name ← scanRun isKeywordChar isKeywordChar cs
  match name.rest with
  | [] => .error .unclosed
  | ['%'] => .error .unclosed
  | '%' :: c :: rest =>
    if isBlank c || c == '%' then refuse ('%' :: c :: rest)
    else return name.map fun cs => .declaration (String.ofList cs)
  | c :: rest =>
    if isBlank c then return name.map fun cs => .declaration (String.ofList cs)
    else refuse (c :: rest)

/-- Reads what follows a percent sign: the name of a parameter entity, or nothing that belongs to
it. -/
def scanPercent : (cs : List Char) → Except ScanError (Scanned PrologToken ('%' :: cs))
  | [] => .error .unclosed
  | c :: rest =>
    if isBlank c || c == '%' then .ok (.first .percent)
    else do
      let name ← scanName (c :: rest)
      let stop ← scanChar ';' name.rest
      return ((name.andThen stop).map fun _ => .parameter name.value).behind

/-- The shape of a name or of what is like one. -/
def NameShape.of (text : List Char) : NameShape :=
  if text.head?.all (!isNameStart ·) then .loose
  else
    match text.dropWhile (· != ':') with
    | [] => .plain
    | [_] => .loose
    | _ :: localName => if localName.contains ':' then .loose else .qualified

/-- Reads a name in a prolog, and a mark behind it that says how often it occurs. A text that ends
with the colon of a name ends inside the name. -/
def scanPrologName (cs : List Char) : Except ScanError (Scanned PrologToken cs) := do
  let isFirst (c : Char) := isNameChar c || c == ':'
  let name ← scanRun isFirst isFirst cs
  let shape := NameShape.of name.value
  let text := String.ofList name.value
  match name.rest with
  | [] =>
    if name.value.head?.any isNameStart ∧ name.value.idxOf ':' + 1 = name.value.length then
      .error .unclosed
    else return name.map fun _ => .name text shape
  | c :: rest =>
    if isBlank c || ['>', ')', ',', '|', '[', '%'].contains c then
      return name.map fun _ => .name text shape
    else if ['?', '*', '+'].contains c && shape != .loose then
      return name.withNext.map fun _ => .counted text
    else refuse (c :: rest)

/-- Reads what follows an exclamation mark in a prolog: a comment, a section or a declaration. -/
def scanPrologMarked : (cs : List Char) → Except ScanError (Scanned PrologToken cs)
  | '-' :: cs => do
    let dash ← scanChar '-' cs
    let stop ← scanComment dash.rest
    return ((dash.andThen stop).map fun _ => .comment).behind
  | '[' :: _ => .ok (.first .sectionStart)
  | cs => scanDeclaration cs

/-- Reads what follows a closing parenthesis: a mark that says how often the group occurs, or
nothing that belongs to it. -/
def scanGroupEnd : (cs : List Char) → Except ScanError (Scanned PrologToken (')' :: cs))
  | [] => .ok (.first (.closeParen none))
  | c :: rest =>
    if ['?', '*', '+'].contains c then .ok (Scanned.first (.closeParen (some c))).behind
    else if isBlank c || ['>', ',', '|', ')'].contains c then .ok (.first (.closeParen none))
    else refuse (c :: rest)

/-- Reads a token of a prolog. A start tag is only looked at, and left to be read as content. -/
def scanPrologToken : (cs : List Char) → Except ScanError (Scanned PrologToken cs)
  | [] => .error .unclosed
  | '<' :: '!' :: cs => (scanPrologMarked cs).map fun token => token.behind.behind
  | '<' :: '?' :: cs =>
    (scanInstruction cs).map fun content => (content.map PrologToken.instruction).behind.behind
  | '<' :: c :: cs =>
    if isKeywordChar c || 0x80 ≤ c.toNat then .ok (.first .tagStart)
    else refuse (c :: cs)
  | ['<'] => .error .unclosed
  | '%' :: cs => scanPercent cs
  | '#' :: cs => do
    let name ← scanName cs
    let name ← name.followedBy ['>', ')', '|', '%']
    return (name.map PrologToken.hash).behind
  | [']'] => .ok (.first .closeBracket)
  | [']', ']'] => .error .unclosed
  | ']' :: ']' :: '>' :: _ => .ok (Scanned.first .sectionEnd).behind.behind
  | ']' :: _ => .ok (.first .closeBracket)
  | '[' :: _ => .ok (.first .openBracket)
  | '(' :: _ => .ok (.first .openParen)
  | ')' :: cs => scanGroupEnd cs
  | ',' :: _ => .ok (.first .comma)
  | '|' :: _ => .ok (.first .bar)
  | '>' :: _ => .ok (.first .close)
  | c :: cs =>
    if c = '"' ∨ c = '\'' then (scanLiteral c cs).map Scanned.behind
    else if isBlank c then .ok (Scanned.first .blank).withBlanks
    else scanPrologName (c :: cs)

end GridDiagram.Xml
