import GridDiagram.Xml.Scan

/-!
The tokens between which the content of an element divides: tags, references and characters, with
comments and processing instructions, which say nothing.
-/

namespace GridDiagram.Xml

/-- A part of the value of an attribute: a character, or a reference together with the number of
characters left from it on. -/
inductive ValuePart where
  | character (c : Char)
  | reference (target : Reference) (remaining : Nat)
  deriving DecidableEq, Repr

/-- An attribute of a start tag, with the text from its name on. -/
structure RawAttribute where
  name : String
  value : List ValuePart
  start : List Char
  deriving DecidableEq, Repr

/-- A start tag as it is written. `isEmpty` says that it ends its element as well. -/
structure StartTag where
  name : String
  attributes : List RawAttribute
  isEmpty : Bool
  deriving DecidableEq, Repr

/-- What stands between the marks of a processing instruction: the declaration of a whole text,
with the number of characters left behind it, or anything else. -/
inductive Instruction where
  | declaration (text : List Char) (remaining : Nat)
  | processing
  deriving DecidableEq, Repr

/-- A token of content. -/
inductive Token where
  | startTag (tag : StartTag)
  | endTag (name : String)
  | text (cs : List Char)
  | entity (name : String)
  | comment
  | instruction (content : Instruction)
  deriving DecidableEq, Repr

/-- Reads the value of an attribute behind the quotation mark that opens it, and the one that closes
it. -/
def scanValue (mark : Char) (cs : List Char) : Except ScanError (Scanned (List ValuePart) cs) :=
  match cs with
  | [] => .error .unclosed
  | c :: rest =>
    if c = mark then .ok (.first [])
    else if c = '&' then
      match scanReference rest with
      | .error e => .error e
      | .ok target =>
        (scanValue mark target.rest).map fun more =>
          ((target.andThen more).map (.reference target.value (c :: rest).length :: ·)).behind
    else if c = '<' ∨ !isCharacter c then refuse (c :: rest)
    else (scanValue mark rest).map fun more => (more.map (.character c :: ·)).behind
termination_by cs.length
decreasing_by
  · exact Nat.lt_succ_of_lt target.shorter
  · exact Nat.lt_succ_self rest.length

/-- Reads a value between two equal quotation marks. -/
def scanQuotedValue : (cs : List Char) → Except ScanError (Scanned (List ValuePart) cs)
  | [] => .error .unclosed
  | c :: rest =>
    if c = '"' ∨ c = '\'' then (scanValue c rest).map Scanned.behind
    else refuse (c :: rest)

/-- Reads an attribute: a name, an equals sign and a value, with blanks between them. -/
def scanAttribute (cs : List Char) : Except ScanError (Scanned RawAttribute cs) := do
  let name := (← scanQualifiedName cs).withBlanks
  let equals := (← scanChar '=' name.rest).withBlanks
  let value ← scanQuotedValue equals.rest
  return (name.andThen (equals.andThen value)).map (⟨name.value, ·, cs⟩)

/-- Reads the end of a start tag, if it stands at the front of a text. The value says whether the
tag ends its element too. -/
def scanTagEnd : (cs : List Char) → Except ScanError (Option (Scanned Bool cs))
  | '>' :: _ => .ok (some (.first false))
  | '/' :: cs => (scanChar '>' cs).map fun stop => some (stop.map fun _ => true).behind
  | _ => .ok none

/-- Reads what follows the name in a start tag: attributes, each behind a blank, and the end of the
tag. -/
def scanAttributes (cs : List Char) :
    Except ScanError (Scanned (List RawAttribute × Bool) cs) :=
  match scanTagEnd (skipBlanks cs) with
  | .error e => .error e
  | .ok (some stop) => .ok (stop.map fun isEmpty => ([], isEmpty)).behindBlanks
  | .ok none =>
    if !cs.head?.any isBlank then refuse cs
    else
      match scanAttribute (skipBlanks cs) with
      | .error e => .error e
      | .ok given =>
        (scanAttributes given.rest).map fun more =>
          ((given.andThen more).map fun (as, isEmpty) =>
            (given.value :: as, isEmpty)).behindBlanks
termination_by cs.length
decreasing_by exact Nat.lt_of_lt_of_le given.shorter (length_skipBlanks_le cs)

/-- Reads a start tag behind its angle bracket. -/
def scanStartTag (cs : List Char) : Except ScanError (Scanned StartTag cs) := do
  let name ← scanQualifiedName cs
  let attributes ← scanAttributes name.rest
  return (name.andThen attributes).map fun (as, isEmpty) => ⟨name.value, as, isEmpty⟩

/-- Reads an end tag behind its slash. Any colons count as part of the name. -/
def scanEndTag (cs : List Char) : Except ScanError (Scanned String cs) := do
  let name := (← scanRun isNameStart (fun c => isNameChar c || c == ':') cs).withBlanks
  let stop ← scanChar '>' name.rest
  return (name.andThen stop).map fun _ => String.ofList name.value

/-- Reads a comment behind its first two dashes. Two dashes stand only at its end. -/
def scanComment : (cs : List Char) → Except ScanError (Scanned Unit cs)
  | [] => .error .unclosed
  | '-' :: '-' :: rest => (scanChar '>' rest).map fun stop => stop.behind.behind
  | c :: rest =>
    if isCharacter c then (scanComment rest).map Scanned.behind else refuse (c :: rest)

/-- Reads up to the end of a processing instruction. -/
def scanInstructionText : (cs : List Char) → Except ScanError (Scanned (List Char) cs)
  | [] => .error .unclosed
  | '?' :: '>' :: _ => .ok (Scanned.first []).behind
  | c :: rest =>
    if isCharacter c then (scanInstructionText rest).map fun text => (text.map (c :: ·)).behind
    else refuse (c :: rest)

/-- Reads what follows the name of a processing instruction: its end, or a blank and a text. No name
but that of the declaration spells it, whatever the case of the letters. -/
def scanInstructionEnd (name : String) (cs : List Char) :
    Except ScanError (Scanned (List Char) cs) :=
  if name ≠ "xml" ∧ name.toLower = "xml" then refuse cs
  else
    match cs with
    | [] => .error .unclosed
    | '?' :: rest => (scanChar '>' rest).map fun stop => (stop.map fun _ => []).behind
    | c :: rest => if isBlank c then scanInstructionText (c :: rest) else refuse (c :: rest)

/-- Reads a processing instruction behind its question mark. -/
def scanInstruction (cs : List Char) : Except ScanError (Scanned Instruction cs) := do
  let target ← scanName cs
  let behind ← scanInstructionEnd target.value target.rest
  return (target.andThen behind).map fun text =>
    if target.value = "xml" then .declaration text (behind.rest.length + 2) else .processing

/-- Reads the characters of a section in which nothing is markup, up to its end. A text that ends
inside it goes wrong where the end of the section could still begin. -/
def scanLiteralSection : (cs : List Char) → Except ScanError (Scanned (List Char) cs)
  | [] => .error (.unexpected [])
  | [']', ']'] => .error (.unexpected [']', ']'])
  | [']'] => .error (.unexpected [']'])
  | ['\r'] => .error (.unexpected ['\r'])
  | ']' :: ']' :: '>' :: _ => .ok (Scanned.first []).behind.behind
  | c :: rest =>
    if isCharacter c then (scanLiteralSection rest).map fun text => (text.map (c :: ·)).behind
    else refuse (c :: rest)

/-- Reads a character and a given word behind it. -/
def scanWord (c : Char) (word cs : List Char) : Except ScanError (Scanned Unit cs) := do
  let first ← scanChar c cs
  match word with
  | [] => return first
  | c :: word => return first.andThen (← scanWord c word first.rest)

/-- Reads a section in which nothing is markup behind its first bracket. -/
def scanSection (cs : List Char) : Except ScanError (Scanned (List Char) cs) :=
  if (String.ofList cs).utf8ByteSize < "CDATA[".length then .error .unclosed
  else do
    let word ← scanWord 'C' "DATA[".toList cs
    let text ← scanLiteralSection word.rest
    return word.andThen text

/-- Reads a token behind the exclamation mark that follows its angle bracket. -/
def scanMarked : (cs : List Char) → Except ScanError (Scanned Token cs)
  | '-' :: cs => do
    let dash ← scanChar '-' cs
    let stop ← scanComment dash.rest
    return ((dash.andThen stop).map fun _ => .comment).behind
  | '[' :: cs => (scanSection cs).map fun text => (text.map Token.text).behind
  | cs => refuse cs

/-- Reads a token of content. The end of a section stands in no other text. -/
def scanToken : (cs : List Char) → Except ScanError (Scanned Token cs)
  | [] => .error .unclosed
  | '<' :: '/' :: cs => (scanEndTag cs).map fun name => (name.map Token.endTag).behind.behind
  | '<' :: '?' :: cs =>
    (scanInstruction cs).map fun content => (content.map Token.instruction).behind.behind
  | '<' :: '!' :: cs => (scanMarked cs).map fun token => token.behind.behind
  | '<' :: cs => (scanStartTag cs).map fun tag => (tag.map Token.startTag).behind
  | '&' :: cs => do
    let target ← scanReference cs
    match target.value with
    | .character c => return (target.map fun _ => .text [c]).behind
    | .noCharacter => refuse ('&' :: cs)
    | .entity name =>
      match predefinedEntities.lookup name with
      | some c => return (target.map fun _ => .text [c]).behind
      | none => return (target.map fun _ => .entity name).behind
  | ']' :: ']' :: '>' :: cs => refuse ('>' :: cs)
  | ['\r'] => refuse ['\r']
  | c :: cs => if isCharacter c then .ok (.first (.text [c])) else refuse (c :: cs)

end GridDiagram.Xml
