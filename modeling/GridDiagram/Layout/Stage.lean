/-!
The stages that the nodes of a tree go through while they are laid out, and the order in which they
may: a node is measured after its children, gets its box after its parent, and is finished when its
children have theirs.
-/

namespace GridDiagram

/-- How far a node has been laid out. -/
inductive Stage where
  | unresolved
  | measured
  | boxed
  | positioned
  deriving DecidableEq, Repr

namespace Stage

/-- Every stage, in order. -/
def all : List Stage :=
  [unresolved, measured, boxed, positioned]

/-- The number of stages in front of this one. -/
def rank : Stage → Nat
  | unresolved => 0
  | measured => 1
  | boxed => 2
  | positioned => 3

def name : Stage → String
  | unresolved => "UNRESOLVED"
  | measured => "NATURAL_SIZE_KNOWN"
  | boxed => "BOX_ASSIGNED"
  | positioned => "POSITIONED"

end Stage

/-- How far the node at a path has come. -/
structure Progress where
  path : String
  stage : Stage
  deriving DecidableEq, Repr

/-- Why a node cannot move on. -/
inductive StageError where
  | notNext (current target : Stage) (path : String)
  | notReady (target : Stage) (blocking path : String)
  | unfinished (path : String)
  deriving DecidableEq, Repr

/-- The wording of an error, without the place where it arose. -/
def StageError.reason : StageError → String
  | notNext current target _ => "cannot move from " ++ current.name ++ " to " ++ target.name
  | notReady target blocking _ => "cannot reach " ++ target.name ++ " before " ++ blocking
  | unfinished _ => "node was never positioned"

/-- The place where an error arose. -/
def StageError.path : StageError → String
  | notNext _ _ path | notReady _ _ path | unfinished path => path

namespace Progress

/-- The nodes around a node that keep it from a stage. -/
def blocking (parent : Option Progress) (children : List Progress) : Stage → List Progress
  | .unresolved => []
  | .measured => children.filter (·.stage.rank < Stage.measured.rank)
  | .boxed => parent.toList.filter (·.stage.rank < Stage.boxed.rank)
  | .positioned => children.filter (·.stage.rank < Stage.boxed.rank)

/-- Moves a node on to a stage, which has to be its next. -/
def advance (p : Progress) (parent : Option Progress) (children : List Progress)
    (target : Stage) : Except StageError Progress :=
  if target.rank ≠ p.stage.rank + 1 then .error (.notNext p.stage target p.path)
  else
    match blocking parent children target with
    | b :: _ => .error (.notReady target b.path p.path)
    | [] => .ok { p with stage := target }

end Progress

/-- What is recorded of a node: how far it has come, and the number of its parent's record. -/
structure StageRecord extends Progress where
  parent : Option Nat
  deriving DecidableEq, Repr

/-- The records of the nodes of a tree. -/
abbrev StageRecords : Type :=
  List StageRecord

namespace StageRecords

/-- How far the children of record `i` have come. -/
def childrenOf (rs : StageRecords) (i : Nat) : List Progress :=
  (rs.filter (·.parent == some i)).map (·.toProgress)

/-- How far the parent of a record has come. -/
def parentOf (rs : StageRecords) (r : StageRecord) : Option Progress :=
  (r.parent.bind fun p => rs[p]?).map (·.toProgress)

/-- Moves record `i` to a stage, which has to be its next. A number without a record moves
nothing. -/
def advance (rs : StageRecords) (i : Nat) (target : Stage) : Except StageError StageRecords :=
  match rs[i]? with
  | none => .ok rs
  | some r => do
    let p ← r.toProgress.advance (rs.parentOf r) (rs.childrenOf i) target
    return rs.set i { r with toProgress := p }

end StageRecords

end GridDiagram
