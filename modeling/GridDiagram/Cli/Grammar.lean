import GridDiagram.Text.Digit
import GridDiagram.Text.Quoted

/-!
Command lines: options with their values, and the other arguments, which are operands. A grammar
says which options there are and what becomes of the operands; reading a command line by it yields
the settings that it stands for and the arguments that nothing takes.

A long option may be cut short as long as it is told from the others. The value of an option is
attached to it or comes behind it, and behind `--` there are only operands.
-/

namespace GridDiagram.Cli

/-- How many values an option takes; `some` is one or more. -/
inductive Arity where
  | none
  | one
  | two
  | some
  deriving DecidableEq, Repr

/-- What is wrong with a command line. -/
inductive UsageError where
  | ambiguous (written : String) (candidates : List String)
  | missingValue (option : String) (arity : Arity)
  | surplusValue (option value : String)
  | malformed (option type value : String)
  | notAChoice (option value : String) (choices : List String)
  | unrecognized (arguments : List String)
  deriving DecidableEq, Repr

namespace UsageError

/-- Names with commas between them. -/
def listed (names : List String) : String :=
  ", ".intercalate names

/-- The wording of an error. -/
def message : UsageError → String
  | ambiguous written candidates =>
    "ambiguous option: " ++ written ++ " could match " ++ listed candidates
  | missingValue option arity =>
    "argument " ++ option ++ ": expected " ++
      match arity with
      | .none => "0 arguments"
      | .one => "one argument"
      | .two => "2 arguments"
      | .some => "at least one argument"
  | surplusValue option value =>
    "argument " ++ option ++ ": ignored explicit argument " ++ Text.quoted value
  | malformed option type value =>
    "argument " ++ option ++ ": invalid " ++ type ++ " value: " ++ Text.quoted value
  | notAChoice option value choices =>
    "argument " ++ option ++ ": invalid choice: " ++ Text.quoted value ++ " (choose from " ++
      listed (choices.map Text.quoted) ++ ")"
  | unrecognized arguments => "unrecognized arguments: " ++ " ".intercalate arguments

end UsageError

/-- Why a command line is not followed: it asks for help, or is wrong. -/
inductive Stop where
  | help
  | usage (error : UsageError)
  deriving DecidableEq, Repr

/-- An option: its names, the values it takes, and what they change in the settings. -/
structure Switch (σ : Type) where
  names : List String
  arity : Arity
  store : List String → σ → Except Stop σ

namespace Switch

variable {σ τ : Type}

/-- The name of an option in messages. -/
def title (o : Switch σ) : String :=
  "/".intercalate o.names

/-- An option without values. -/
def flag (names : List String) (set : σ → σ) : Switch σ where
  names
  arity := .none
  store _ s := .ok (set s)

/-- An option with one value, which has to be readable. -/
def value {β : Type} (names : List String) (type : String) (read : String → Option β)
    (set : β → σ → σ) : Switch σ where
  names
  arity := .one
  store values s :=
    match values with
    | [v] =>
      match read v with
      | some b => .ok (set b s)
      | none => .error (.usage (.malformed ("/".intercalate names) type v))
    | _ => .ok s

/-- An option with a text for its value. -/
def text (names : List String) (set : String → σ → σ) : Switch σ :=
  value names "str" some set

/-- The option that asks for help. -/
def help : Switch σ where
  names := ["-h", "--help"]
  arity := .none
  store _ _ := .error .help

/-- An option of settings as an option of what they are a part of. -/
def within (get : τ → σ) (set : σ → τ → τ) (o : Switch σ) : Switch τ where
  names := o.names
  arity := o.arity
  store values t := (o.store values (get t)).map fun s => set s t

end Switch

/-- An argument as it stands on a command line. -/
inductive Argument (σ : Type) where
  | word
  | separator
  | unknown
  | option (switch : Switch σ) (name : String) (value : Option (List Char))

/-- The operands of a grammar: how many of the arguments in front they take, if they can take them
as they are, and what they change in the settings. -/
structure Operands (σ : Type) where
  count : List (Argument σ) → Option Nat
  store : List String → σ → Except Stop σ

/-- Options and operands. -/
structure Grammar (σ : Type) where
  switches : List (Switch σ)
  operands : Operands σ

namespace Operands

variable {σ : Type}

/-- The number of words in front. -/
def words : List (Argument σ) → Nat
  | .word :: as => words as + 1
  | _ => 0

/-- The number of words and separators in front. -/
def wordsAndSeparators : List (Argument σ) → Nat
  | .word :: as => wordsAndSeparators as + 1
  | .separator :: as => wordsAndSeparators as + 1
  | _ => 0

def none : Operands σ where
  count _ := .none
  store _ s := .ok s

def atMostOne (set : Option String → σ → σ) : Operands σ where
  count
    | .separator :: .word :: _ => .some 2
    | .separator :: _ => .some 1
    | .word :: .separator :: _ => .some 2
    | .word :: _ => .some 1
    | _ => .some 0
  store values s := .ok (set (values.erase "--").head? s)

/-- Any number of operands, as long as no option is between them. -/
def any (set : List String → σ → σ) : Operands σ where
  count as := .some (wordsAndSeparators as)
  store values s := .ok (set (values.erase "--") s)

/-- A command and all that follows it, options too. -/
def command (store : List String → σ → Except Stop σ) : Operands σ where
  count
    | .separator :: .word :: as => .some (as.length + 2)
    | .word :: as => .some (as.length + 1)
    | _ => .none
  store

end Operands

namespace Grammar

variable {σ : Type}

/-- A number with a minus sign looks like an option, but is none: digits, or a decimal fraction with
digits behind its point. A line feed may end it. -/
def isNegativeNumber (cs : List Char) : Bool :=
  match cs with
  | '-' :: cs =>
    let cs := if cs.getLast? == some '\n' then cs.dropLast else cs
    match cs.dropWhile Text.isDigit with
    | [] => !cs.isEmpty
    | '.' :: fraction => !fraction.isEmpty && fraction.all Text.isDigit
    | _ => false
  | _ => false

def find? (g : Grammar σ) (name : List Char) : Option (Switch σ) :=
  g.switches.find? (·.names.contains (String.ofList name))

/-- The options that `cs` may stand for where it is no name itself. A long option is cut short at
any place, and its value follows an equals sign; the value of a short one follows at once. -/
def candidates (g : Grammar σ) (cs : List Char) : List (Switch σ × String × Option (List Char)) :=
  let all := g.switches.flatMap fun o => o.names.map fun name => (o, name)
  if cs.take 2 == ['-', '-'] then
    let start := cs.takeWhile (· != '=')
    let value := (cs.dropWhile (· != '=')).tail?
    (all.filter fun (_, name) => start.isPrefixOf name.toList).map fun (o, name) => (o, name, value)
  else
    all.filterMap fun (o, name) =>
      if name.toList == cs.take 2 then some (o, name, some (cs.drop 2))
      else if cs.isPrefixOf name.toList then some (o, name, none)
      else none

/-- The option that `cs` names in full, alone or with a value behind an equals sign. -/
def named? (g : Grammar σ) (cs : List Char) : Option (Switch σ × String × Option (List Char)) :=
  match g.find? cs with
  | some o => some (o, String.ofList cs, none)
  | none =>
    match cs.dropWhile (· != '=') with
    | _ :: value =>
      let name := cs.takeWhile (· != '=')
      (g.find? name).map fun o => (o, String.ofList name, some value)
    | [] => none

/-- What an argument in front of any separator is. -/
def classify (g : Grammar σ) (written : String) : Except Stop (Argument σ) :=
  let cs := written.toList
  if cs.head? != some '-' || cs.length == 1 then .ok .word
  else
    match g.named? cs with
    | some (o, name, value) => .ok (.option o name value)
    | none =>
      match g.candidates cs with
      | [(o, name, value)] => .ok (.option o name value)
      | [] => .ok (if isNegativeNumber cs || cs.contains ' ' then .word else .unknown)
      | many => .error (.usage (.ambiguous written (many.map fun (_, name, _) => name)))

def classifyAll (g : Grammar σ) : List String → Except Stop (List (String × Argument σ))
  | [] => .ok []
  | "--" :: args => .ok (("--", .separator) :: args.map fun arg => (arg, .word))
  | arg :: args => do
    let a ← g.classify arg
    let as ← g.classifyAll args
    return (arg, a) :: as

/-- The number of arguments behind an option that are its values. -/
def valueCount (o : Switch σ) (behind : List (Argument σ)) : Except Stop Nat :=
  let missing : Except Stop Nat := .error (.usage (.missingValue o.title o.arity))
  let words := Operands.words behind
  match o.arity with
  | .none => .ok 0
  | .one => if 1 ≤ words then .ok 1 else missing
  | .two => if 2 ≤ words then .ok 2 else missing
  | .some => if 1 ≤ words then .ok words else missing

/-- The options that one argument stands for, with the value that is attached to the last of them.
Short options without values may be written together. -/
def spread (g : Grammar σ) (o : Switch σ) (name : String) :
    List Char → Except Stop (List (Switch σ) × Option String)
  | [] =>
    match o.arity with
    | .none => .error (.usage (.surplusValue o.title ""))
    | .two => .error (.usage (.missingValue o.title o.arity))
    | _ => .ok ([o], some "")
  | c :: cs =>
    match o.arity with
    | .none =>
      let refused : Except Stop (List (Switch σ) × Option String) :=
        .error (.usage (.surplusValue o.title (String.ofList (c :: cs))))
      if (name.toList.drop 1).head? == some '-' then refused
      else
        match g.find? ['-', c] with
        | none => refused
        | some next =>
          if cs.isEmpty then .ok ([o, next], none)
          else do
            let (os, value) ← g.spread next (String.ofList ['-', c]) cs
            return (o :: os, value)
    | .two => .error (.usage (.missingValue o.title o.arity))
    | _ => .ok ([o], some (String.ofList (c :: cs)))

/-- Stores options of which only the last has values. -/
def storeAll : List (Switch σ) → List String → σ → Except Stop σ
  | [], _, s => .ok s
  | [o], values, s => o.store values s
  | o :: os, values, s => do storeAll os values (← o.store [] s)

/-- Reads an option with the arguments behind it: the settings with it, and the number of those
arguments that are its values. -/
def take (g : Grammar σ) (o : Switch σ) (name : String) (value : Option (List Char))
    (behind : List (String × Argument σ)) (s : σ) : Except Stop (σ × Nat) := do
  let (os, attached) ←
    match value with
    | none => pure ([o], none)
    | some cs => g.spread o name cs
  match attached with
  | some v => return (← storeAll os [v] s, 0)
  | none =>
    let n ← valueCount (os.getLast?.getD o) (behind.map (·.2))
    return (← storeAll os ((behind.take n).map (·.1)) s, n)

/-- Reads arguments. `pending` says that the operands have not been read yet. Without an option
behind them the operands are read even if there are none. -/
def consume (g : Grammar σ) (pending : Bool) (s : σ) :
    List (String × Argument σ) → Except Stop (σ × List String)
  | [] =>
    if pending && (g.operands.count []).isSome then
      (g.operands.store [] s).map fun s => (s, [])
    else .ok (s, [])
  | (written, a) :: rest => do
    match a with
    | .unknown =>
      let (s, extras) ← g.consume pending s rest
      return (s, written :: extras)
    | .option o name value =>
      let (s, n) ← g.take o name value rest s
      g.consume pending s (rest.drop n)
    | _ =>
      match if pending then g.operands.count (a :: rest.map (·.2)) else none with
      | some (n + 1) =>
        let s ← g.operands.store (written :: (rest.take n).map (·.1)) s
        g.consume false s (rest.drop n)
      | _ =>
        let (s, extras) ← g.consume pending s rest
        return (s, written :: extras)
termination_by args => args.length
decreasing_by
  all_goals simp only [List.length_cons, List.length_drop]
  all_goals omega

/-- Reads a command line: the settings with it, and the arguments that nothing takes. -/
def read (g : Grammar σ) (args : List String) (s : σ) : Except Stop (σ × List String) := do
  g.consume true s (← g.classifyAll args)

end Grammar

end GridDiagram.Cli
