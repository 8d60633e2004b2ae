import GridDiagram.Attribute
import GridDiagram.Number.Error
import GridDiagram.Placement

/-!
The intervals between the grid lines of one axis: how constraints, cells and spans size them, and
how they grow.
-/

namespace GridDiagram

/-- The interval behind a grid line. `isLiteral` says that a constraint gives its size, `weight` is
its share of the space that is left over, and `minimum` is the size before it grows. -/
structure Interval (α : Type) where
  size : α
  isLiteral : Bool
  weight : α
  minimum : α
  deriving DecidableEq, Repr

/-- The intervals of one axis, in order. Interval `i`, counted from 1, lies between the lines `i`
and `i + 1`. -/
structure GridAxis (α : Type) where
  intervals : List (Interval α)
  deriving DecidableEq, Repr

/-- Why intervals cannot be sized. -/
inductive GridError (α : Type) where
  | noInterval (line : Int)
  | overconstrained (start stop : Int) (fixed needed : α)
  deriving DecidableEq, Repr

/-- Sizes that differ by no more than this count as equal. -/
def sizeTolerance {α : Type} [Scalar α] : α :=
  1e-9

namespace GridAxis

variable {α : Type} [Scalar α]

/-- The axis of a number of grid lines, with empty intervals between them. -/
def ofLineCount (count : Int) : GridAxis α :=
  ⟨List.replicate (count - 1).toNat ⟨0.0, false, 0.0, 0.0⟩⟩

/-- The number of grid lines. -/
def lineCount (g : GridAxis α) : Nat :=
  g.intervals.length + 1

/-- The index of the interval behind a line. Lines below 1 count back from the last interval. -/
def index? (g : GridAxis α) (line : Int) : Option Nat :=
  let n := g.intervals.length
  if 1 ≤ line ∧ line ≤ n then some (line - 1).toNat
  else if line ≤ 0 ∧ 0 < line + n then some (line - 1 + n).toNat
  else none

/-- The number of intervals in front of a line. Lines below 1 count back from the last interval. -/
def before (g : GridAxis α) (line : Int) : Nat :=
  let n := g.intervals.length
  if 1 ≤ line then min (line - 1).toNat n else (line - 1 + n).toNat

/-- The axis with `f` applied to the interval behind a line. -/
def modifyAt (g : GridAxis α) (line : Int) (f : Interval α → Interval α) :
    Except (GridError α) (GridAxis α) :=
  match g.index? line with
  | some i => .ok ⟨g.intervals.modify i f⟩
  | none => .error (.noInterval line)

/-- What a constraint does to its interval: a weight is taken over, and a size is a floor that also
makes the interval literal. -/
def constrain (c : IntervalConstraint α) (i : Interval α) : Interval α :=
  if 0.0 < c.weight then { i with weight := c.weight }
  else if 0.0 < c.size then { i with size := Scalar.larger i.size c.size, isLiteral := true }
  else i

/-- Applies one constraint. -/
def applyConstraint (g : GridAxis α) (c : IntervalConstraint α) :
    Except (GridError α) (GridAxis α) :=
  g.modifyAt c.line (constrain c)

/-- Applies constraints in order. -/
def applyConstraints (g : GridAxis α) (cs : List (IntervalConstraint α)) :
    Except (GridError α) (GridAxis α) :=
  cs.foldlM applyConstraint g

/-- Makes room for a child in one interval. -/
def addCell (g : GridAxis α) (line : Int) (size : α) : Except (GridError α) (GridAxis α) :=
  g.modifyAt line fun i => { i with size := Scalar.larger i.size size }

def spanned (g : GridAxis α) (s : Span) : List (Interval α) :=
  (g.intervals.take (g.before s.stop)).drop (g.before s.start)

/-- The interval with `share` added to its size, unless that is literal. -/
def widened (share : α) (i : Interval α) : Interval α :=
  if i.isLiteral then i else { i with size := i.size + share }

/-- The axis with `share` added to every interval of a span that is not literal. -/
def widen (g : GridAxis α) (s : Span) (share : α) : GridAxis α :=
  ⟨g.intervals.take (g.before s.start) ++ (g.spanned s).map (widened share) ++
    g.intervals.drop (max (g.before s.start) (g.before s.stop))⟩

/-- Makes room for a child across several intervals: what is missing is shared equally by those
that are not literal. -/
def addSpan (g : GridAxis α) (s : Span) (size : α) : Except (GridError α) (GridAxis α) :=
  let deficit := size - Scalar.sum ((g.spanned s).map (·.size))
  if deficit ≤ sizeTolerance then .ok g
  else
    match ((g.spanned s).filter (!·.isLiteral)).length with
    | 0 => .error (.overconstrained s.start s.stop (size - deficit) size)
    | count => .ok (g.widen s (deficit / Scalar.ofInt count))

/-- A span that there is room for changes nothing; else there are intervals that are not literal, to
share what is missing. -/
theorem addSpan_cases {g g' : GridAxis α} {s : Span} {size : α} (h : g.addSpan s size = .ok g') :
    (size - Scalar.sum ((g.spanned s).map (·.size)) ≤ sizeTolerance ∧ g' = g) ∨
      (¬size - Scalar.sum ((g.spanned s).map (·.size)) ≤ sizeTolerance ∧
        ((g.spanned s).filter (!·.isLiteral)).length ≠ 0 ∧
        g' = g.widen s ((size - Scalar.sum ((g.spanned s).map (·.size))) /
          Scalar.ofInt ((g.spanned s).filter (!·.isLiteral)).length)) := by
  simp only [addSpan] at h
  split at h
  · rename_i hroom
    exact .inl ⟨hroom, (Except.ok.inj h).symm⟩
  · rename_i hmissing
    split at h
    · cases h
    · rename_i hcount
      exact .inr ⟨hmissing, hcount, (Except.ok.inj h).symm⟩

/-- What a span lacks is never divided by zero. -/
theorem addSpan_divides [Scalar.ApartFromZero α] {g g' : GridAxis α} {s : Span} {size : α}
    (h : g.addSpan s size = .ok g') :
    g' = g ∨ ∃ share, g' = g.widen s share ∧
      Scalar.divide (size - Scalar.sum ((g.spanned s).map (·.size)))
        (Scalar.ofInt ((g.spanned s).filter (!·.isLiteral)).length) = .ok share := by
  obtain ⟨-, rfl⟩ | ⟨-, hcount, rfl⟩ := addSpan_cases h
  · exact .inl rfl
  · exact .inr ⟨_, rfl, Scalar.divide_eq_ok (Scalar.ApartFromZero.of_count hcount)⟩

/-- Remembers the sizes reached so far as the least ones. -/
def freezeMinimums (g : GridAxis α) : GridAxis α :=
  ⟨g.intervals.map fun i => { i with minimum := i.size }⟩

/-- The sum of the sizes. -/
def total (g : GridAxis α) : α :=
  Scalar.sum (g.intervals.map (·.size))

/-- The sum of the weights. -/
def totalWeight (g : GridAxis α) : α :=
  Scalar.sum (g.intervals.map (·.weight))

/-- Shares out space among the intervals with a weight, in proportion to it. -/
def grow (g : GridAxis α) (slack : α) : GridAxis α :=
  let total := g.totalWeight
  ⟨g.intervals.map fun i =>
    if 0.0 < i.weight then { i with size := i.size + slack * i.weight / total } else i⟩

/-- Where the weights come to more than zero, no share is divided by zero. -/
theorem grow_divides [Scalar.ApartFromZero α] {g : GridAxis α} (hweight : 0.0 < g.totalWeight)
    (slack : α) {i : Interval α} (hi : i ∈ (g.grow slack).intervals) :
    ∃ j ∈ g.intervals, i = j ∨ ∃ share, i = { j with size := j.size + share } ∧
      Scalar.divide (slack * j.weight) g.totalWeight = .ok share := by
  obtain ⟨j, hj, rfl⟩ := List.mem_map.mp hi
  refine ⟨j, hj, ?_⟩
  split
  · exact .inr ⟨_, rfl, Scalar.divide_eq_ok (Scalar.ApartFromZero.of_pos hweight)⟩
  · exact .inl rfl

/-- The positions that start at `origin` and lie one size after the other. -/
def positionsFrom (origin : α) : List (Interval α) → List α
  | [] => [origin]
  | i :: is => origin :: positionsFrom (origin + i.size) is

/-- The position of every grid line, the first at `origin`. -/
def positions (g : GridAxis α) (origin : α) : List α :=
  positionsFrom origin g.intervals

end GridAxis

end GridDiagram
