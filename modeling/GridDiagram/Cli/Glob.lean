import GridDiagram.Cli.Host

/-!
Patterns of paths. In one name `*` stands for any characters, `?` for one, and brackets for one
character of a set; a name that starts with a point is found only by a pattern that does so.
-/

namespace GridDiagram.Cli

/-- A part of the pattern of a name. The members of a set are ranges, and `negated` makes it stand
for all other characters. -/
inductive Wildcard where
  | char (c : Char)
  | anyChar
  | anyRun
  | oneOf (negated : Bool) (ranges : List (Char × Char))
  deriving DecidableEq, Repr

namespace Wildcard

/-- The ranges that a set is written with: two characters around a hyphen, or a single one. -/
def ranges : List Char → List (Char × Char)
  | a :: '-' :: b :: cs => (a, b) :: ranges cs
  | c :: cs => (c, c) :: ranges cs
  | [] => []

/-- The number of characters in front of a set in which a bracket closes nothing: a mark of
negation, and a bracket behind it or in its place. -/
def frontLength : List Char → Nat
  | '!' :: ']' :: _ => 2
  | '!' :: _ => 1
  | ']' :: _ => 1
  | _ => 0

/-- The text of a set up to the bracket that closes it, and what follows. -/
def takeSet (cs : List Char) : Option (List Char × List Char) :=
  let n := frontLength cs
  match (cs.drop n).dropWhile (· != ']') with
  | [] => none
  | _ :: rest => some (cs.take n ++ (cs.drop n).takeWhile (· != ']'), rest)

/-- What follows a set is shorter than the set with it. -/
theorem takeSet_length {cs set rest : List Char} (h : takeSet cs = some (set, rest)) :
    rest.length < cs.length := by
  simp only [takeSet] at h
  split at h
  · simp at h
  · rename_i c behind heq
    have hle := (List.dropWhile_suffix (· != ']') (l := cs.drop (frontLength cs))).length_le
    rw [heq] at hle
    simp only [Option.some.injEq, Prod.mk.injEq] at h
    simp only [List.length_cons, List.length_drop, h.2] at hle
    omega

/-- The set that a text between brackets stands for. -/
def ofSet : List Char → Wildcard
  | '!' :: cs => oneOf true (ranges cs)
  | cs => oneOf false (ranges cs)

/-- The pattern that a name is written with. A bracket that nothing closes stands for itself. -/
def ofPattern : List Char → List Wildcard
  | [] => []
  | c :: cs =>
    if c == '*' then anyRun :: ofPattern cs
    else if c == '?' then anyChar :: ofPattern cs
    else if c == '[' then
      match _h : takeSet cs with
      | some (set, rest) => ofSet set :: ofPattern rest
      | none => char c :: ofPattern cs
    else char c :: ofPattern cs
termination_by cs => cs.length
decreasing_by
  all_goals simp only [List.length_cons]
  all_goals first
    | omega
    | (have shorter := takeSet_length (by assumption); omega)

/-- A wildcard stands for one character. -/
def stands : Wildcard → Char → Bool
  | char d, c => c == d
  | anyChar, _ => true
  | anyRun, _ => true
  | oneOf negated ranges, c => negated != ranges.any fun (a, b) => a ≤ c && c ≤ b

/-- A pattern stands for a whole name. -/
def matchesAll : List Wildcard → List Char → Bool
  | [], cs => cs.isEmpty
  | anyRun :: ws, [] => matchesAll ws []
  | anyRun :: ws, c :: cs => matchesAll ws (c :: cs) || matchesAll (anyRun :: ws) cs
  | _ :: _, [] => false
  | w :: ws, c :: cs => w.stands c && matchesAll ws cs
termination_by ws cs => ws.length + cs.length

end Wildcard

namespace Glob

/-- The characters that make a pattern of a name. -/
def isMagic (c : Char) : Bool :=
  c == '*' || c == '?' || c == '['

/-- A name starts with a point. -/
def isHidden (name : String) : Bool :=
  name.toList.head? == some '.'

/-- A name is found by a pattern. -/
def accepts (pattern name : String) : Bool :=
  (isHidden pattern || !isHidden name) &&
    Wildcard.matchesAll (Wildcard.ofPattern pattern.toList) name.toList

variable {m : Type → Type} [Monad m]

/-- The paths that one part of a pattern leads to from directories: any names that it accepts, or
the one name that it is, where that exists. -/
def step (host : Host m) (part : String) : List Path → m (List Path)
  | [] => return []
  | p :: ps => do
    let found ←
      if part.toList.any isMagic then do
        let names ← host.names p
        pure ((names.filter (accepts part)).map p.child)
      else do
        let kind ← host.kind (p.child part)
        pure (if kind.isSome then [p.child part] else [])
    return found ++ (← step host part ps)

/-- The paths that the parts of a pattern lead to. -/
def steps (host : Host m) : List String → List Path → m (List Path)
  | [], ps => return ps
  | part :: parts, ps => do steps host parts (← step host part ps)

/-- The directories among paths. -/
def directories (host : Host m) : List Path → m (List Path)
  | [] => return []
  | p :: ps => do
    let kind ← host.kind p
    let rest ← directories host ps
    return if kind = some .directory then p :: rest else rest

/-- A pattern asks for directories: nothing but slashes and a point follows its last name. -/
def wantsDirectory (pattern : String) : Bool :=
  match (Text.pieces (· == '/') pattern.toList).getLast? with
  | some last => last.isEmpty || last == ['.']
  | none => false

/-- The paths that a pattern stands for, in their order. -/
def expand (host : Host m) (pattern : String) : m (List Path) :=
  if pattern.isEmpty then return []
  else do
    let p := Path.ofString pattern
    let found ← steps host p.parts [{ p with parts := [] }]
    let found ← if wantsDirectory pattern then directories host found else pure found
    return found.mergeSort Path.isLE

end Glob

end GridDiagram.Cli
