import GridDiagram.Xml.Character

/-!
Reading pieces from the front of an XML text. Every piece leaves a shorter text behind it, which is
why reading comes to an end; a piece that cannot be read says where it goes wrong.
-/

namespace GridDiagram.Xml

/-- Why a piece cannot be read: a character stands where it may not, with the text from there on, or
the text ends inside the piece. -/
inductive ScanError where
  | unexpected (rest : List Char)
  | unclosed
  deriving DecidableEq, Repr

/-- A value read from the front of a text, and what is left of the text. -/
structure Scanned (β : Type) (text : List Char) where
  value : β
  rest : List Char
  shorter : rest.length < text.length

theorem length_dropWhile_le (p : Char → Bool) (cs : List Char) :
    (cs.dropWhile p).length ≤ cs.length := by
  induction cs with
  | nil => simp
  | cons c cs ih =>
    by_cases h : p c
    · simp [h]
      omega
    · simp [h]

/-- Nothing that may follow stands at the front of a text. -/
def refuse {β : Type} : List Char → Except ScanError β
  | [] => .error .unclosed
  | c :: cs => .error (.unexpected (c :: cs))

/-- A text without the blanks at its front. -/
def skipBlanks (cs : List Char) : List Char :=
  cs.dropWhile isBlank

theorem length_skipBlanks_le (cs : List Char) : (skipBlanks cs).length ≤ cs.length :=
  length_dropWhile_le isBlank cs

namespace Scanned

variable {β γ : Type} {text : List Char}

/-- The first character of a text as a piece. -/
def first {c : Char} (value : β) : Scanned β (c :: text) :=
  ⟨value, text, Nat.lt_succ_self text.length⟩

/-- The same piece with another value. -/
def map (f : β → γ) (s : Scanned β text) : Scanned γ text :=
  ⟨f s.value, s.rest, s.shorter⟩

/-- A piece together with the next one, whose value it takes. -/
def andThen (s : Scanned β text) (t : Scanned γ s.rest) : Scanned γ text :=
  ⟨t.value, t.rest, Nat.lt_trans t.shorter s.shorter⟩

/-- A piece together with a character in front of it. -/
def behind {c : Char} (s : Scanned β text) : Scanned β (c :: text) :=
  ⟨s.value, s.rest, Nat.lt_succ_of_lt s.shorter⟩

/-- A piece together with blanks in front of it. -/
def behindBlanks (s : Scanned β (skipBlanks text)) : Scanned β text :=
  ⟨s.value, s.rest, Nat.lt_of_lt_of_le s.shorter (length_skipBlanks_le text)⟩

/-- A piece together with the blanks that follow it. -/
def withBlanks (s : Scanned β text) : Scanned β text :=
  ⟨s.value, skipBlanks s.rest, Nat.lt_of_le_of_lt (length_skipBlanks_le s.rest) s.shorter⟩

/-- A piece together with the character that follows it, if there is one. -/
def withNext (s : Scanned β text) : Scanned β text :=
  ⟨s.value, s.rest.tail, Nat.lt_of_le_of_lt (List.tail_sublist s.rest).length_le s.shorter⟩

end Scanned

/-- Reads one given character. -/
def scanChar (c : Char) : (cs : List Char) → Except ScanError (Scanned Unit cs)
  | [] => .error .unclosed
  | d :: rest => if d = c then .ok (.first ()) else refuse (d :: rest)

/-- Reads a run of characters, the first of one class and the others of another. -/
def scanRun (first more : Char → Bool) :
    (cs : List Char) → Except ScanError (Scanned (List Char) cs)
  | [] => .error .unclosed
  | c :: cs =>
    if first c then
      .ok ⟨c :: cs.takeWhile more, cs.dropWhile more,
        Nat.lt_succ_of_le (length_dropWhile_le more cs)⟩
    else refuse (c :: cs)

/-- Reads a name without a colon. -/
def scanName (cs : List Char) : Except ScanError (Scanned String cs) :=
  (scanRun isNameStart isNameChar cs).map (Scanned.map String.ofList)

/-- Reads a name with one colon at most, behind which a name starts again. -/
def scanQualifiedName (cs : List Char) : Except ScanError (Scanned String cs) := do
  let name ← scanName cs
  match scanChar ':' name.rest with
  | .error _ => return name
  | .ok colon =>
    let localName ← scanName colon.rest
    return (name.andThen (colon.andThen localName)).map (name.value ++ ":" ++ ·)

/-- What a reference is to: a character by its number, a number that no character has, or an entity
by its name. -/
inductive Reference where
  | character (c : Char)
  | noCharacter
  | entity (name : String)
  deriving DecidableEq, Repr

def Reference.ofNumber (n : Nat) : Reference :=
  if isCodePoint n then .character (Char.ofNat n) else .noCharacter

/-- The characters of the entities that need no declaration. -/
def predefinedEntities : List (String × Char) :=
  [("lt", '<'), ("gt", '>'), ("amp", '&'), ("quot", '"'), ("apos", '\'')]

/-- A hexadecimal digit. -/
def isHexDigit (c : Char) : Bool :=
  c.isDigit || ('a' ≤ c && c ≤ 'f') || ('A' ≤ c && c ≤ 'F')

/-- The value of a hexadecimal digit. -/
def hexDigitValue (c : Char) : Nat :=
  if c.isDigit then c.toNat - '0'.toNat else c.toLower.toNat - 'a'.toNat + 10

/-- The number that digits spell in a base. -/
def numberOfDigits (base : Nat) (ds : List Char) : Nat :=
  ds.foldl (fun n d => base * n + hexDigitValue d) 0

/-- Reads the number of a character in a base, and the semicolon that ends it. -/
def scanNumber (base : Nat) (isDigit : Char → Bool) (cs : List Char) :
    Except ScanError (Scanned Reference cs) := do
  let digits ← scanRun isDigit isDigit cs
  let stop ← scanChar ';' digits.rest
  return (digits.andThen stop).map fun _ => .ofNumber (numberOfDigits base digits.value)

/-- Reads a reference behind its ampersand. -/
def scanReference : (cs : List Char) → Except ScanError (Scanned Reference cs)
  | '#' :: 'x' :: cs => (scanNumber 16 isHexDigit cs).map fun r => r.behind.behind
  | '#' :: cs => (scanNumber 10 Char.isDigit cs).map Scanned.behind
  | cs => do
    let name ← scanName cs
    let stop ← scanChar ';' name.rest
    return (name.andThen stop).map fun _ => .entity name.value

end GridDiagram.Xml
