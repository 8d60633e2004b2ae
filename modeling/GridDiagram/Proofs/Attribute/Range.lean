import GridDiagram.Attribute.Parser
import GridDiagram.Proofs.Outcome
import GridDiagram.Proofs.Properties

/-!
The values that a text can give an attribute: a number outside the range of its attribute is never
read. A number that compares with nothing lies outside no range.
-/

namespace GridDiagram

variable {α : Type} [Scalar α]

/-- A constraint gives a weight and no size, or a size and no weight, and neither is below zero. -/
def IntervalConstraint.Fits (c : IntervalConstraint α) : Prop :=
  (c.size = 0.0 ∧ ¬c.weight < 0.0) ∨ (c.weight = 0.0 ∧ ¬c.size < 0.0)

/-- The constraints of an axis as a text gives them, with lines from 1 up in ascending order. -/
structure ConstraintsFit (cs : List (IntervalConstraint α)) : Prop where
  line_pos : ∀ c ∈ cs, 1 ≤ c.line
  fits : ∀ c ∈ cs, c.Fits
  ascending : cs.Pairwise fun c d => c.line < d.line

/-- No side is below zero. -/
structure Sides.Nonnegative (s : Sides α) : Prop where
  left : ¬s.left < 0.0
  top : ¬s.top < 0.0
  right : ¬s.right < 0.0
  bottom : ¬s.bottom < 0.0

namespace Attribute

/-- Neither value lies outside the bounds. -/
def Within (low high : Int) (p : Pair α) : Prop :=
  isOutside low high p.x = false ∧ isOutside low high p.y = false

/-- A value lies in the range of its attribute. -/
def Admits : (a : Attribute) → a.Value α → Prop
  | anchor, p => Within (-1) 1 p
  | expand, p => Within 0 1 p
  | minx, cs | miny, cs => ConstraintsFit cs
  | pad, s | margin, s => s.Nonnegative
  | borderWidth, x | borderRound, x | strokeWidth, x | width, x | height, x | round, x
  | stellate, x | fontSize, x => ¬x < (0.0 : α)
  | scale, x => ¬x ≤ (0.0 : α)
  | vertices, n => 3 ≤ n
  | coords, ps => 2 ≤ ps.length
  | place, _ | bg, _ | borderColor, _ | translate, _ | rotate, _ | fill, _ | stroke, _
  | fontFamily, _ | fontWeight, _ | fontStyle, _ | closed, _ | ref, _ | select, _
  | style, _ => True

theorem parseNonnegative_range {s : String} {x : α} (h : parseNonnegative s = .ok x) :
    ¬x < 0.0 := by
  simp only [parseNonnegative, Except.bind_eq_ok] at h
  obtain ⟨y, -, h⟩ := h
  split at h <;> simp_all

theorem parsePositive_range {s : String} {x : α} (h : parsePositive s = .ok x) : ¬x ≤ 0.0 := by
  simp only [parsePositive, Except.bind_eq_ok] at h
  obtain ⟨y, -, h⟩ := h
  split at h <;> simp_all

theorem parseBounded_range {low high : Int} {s : String} {p : Pair α}
    (h : parseBounded low high s = .ok p) : Within low high p := by
  simp only [parseBounded, Except.bind_eq_ok] at h
  obtain ⟨q, -, h⟩ := h
  split at h
  · simp at h
  · simp_all [Within]

theorem parseSides_range {s : String} {v : Sides α} (h : parseSides s = .ok v) :
    v.Nonnegative := by
  simp only [parseSides, Except.bind_eq_ok] at h
  obtain ⟨xs, -, h⟩ := h
  split at h
  · simp at h
  · split at h
    · simp at h
    · rename_i hs
      obtain rfl := Except.ok.inj h
      simp only [not_or] at hs
      exact ⟨hs.1, hs.2.1, hs.2.2.1, hs.2.2.2⟩

theorem parseVertices_range {s : String} {n : Int} (h : parseVertices s = .ok n) : 3 ≤ n := by
  simp only [parseVertices, Except.bind_eq_ok] at h
  obtain ⟨xs, -, h⟩ := h
  split at h
  · split at h
    · simp at h
    · simp only [Except.ok.injEq] at h
      omega
  · simp at h

theorem parsePoints_range {s : String} {ps : List (Pair α)} (h : parsePoints s = .ok ps) :
    2 ≤ ps.length := by
  simp only [parsePoints, Except.bind_eq_ok] at h
  obtain ⟨xs, -, h⟩ := h
  split at h
  · obtain rfl := Except.ok.inj h
    simp
  · simp at h

theorem parseLine_range {last line : Int} {token : String} (h : parseLine last token = .ok line) :
    1 ≤ line ∧ last < line := by
  simp only [parseLine] at h
  split at h
  · simp at h
  · split at h
    · simp at h
    · split at h
      · simp at h
      · simp only [Except.ok.injEq] at h
        omega

theorem parseSize_range {line : Int} {token : String} {c : IntervalConstraint α}
    (h : parseSize line token = .ok c) : c.line = line ∧ c.Fits := by
  simp only [parseSize] at h
  split at h
  · simp at h
  · rename_i x _
    split at h
    · simp at h
    · rename_i hx
      obtain rfl := Except.ok.inj h
      split
      · exact ⟨rfl, .inl ⟨rfl, hx⟩⟩
      · exact ⟨rfl, .inr ⟨rfl, hx⟩⟩

/-- Every line that is read lies behind the line `last`. -/
theorem constraintsOf_range {tokens : List String} {last : Int} {cs : List (IntervalConstraint α)}
    (h : constraintsOf last tokens = .ok cs) : (∀ c ∈ cs, last < c.line) ∧ ConstraintsFit cs := by
  fun_induction constraintsOf (α := α) last tokens generalizing cs with
  | case1 =>
    obtain rfl := Except.ok.inj h
    exact ⟨by simp, by simp, by simp, .nil⟩
  | case2 last token =>
    simp only [Except.bind_eq_ok] at h
    obtain ⟨_, -, h⟩ := h
    obtain rfl := Except.ok.inj h
    exact ⟨by simp, by simp, by simp, .nil⟩
  | case3 last token size rest ih =>
    simp only [Except.bind_eq_ok] at h
    obtain ⟨line, hline, c, hc, cs', hcs, h⟩ := h
    obtain rfl := Except.ok.inj h
    obtain ⟨hpos, hlast⟩ := parseLine_range hline
    obtain ⟨rfl, hfits⟩ := parseSize_range hc
    obtain ⟨hbehind, hrest⟩ := ih c.line hcs
    refine ⟨?_, ?_, ?_, .cons hbehind hrest.ascending⟩
    · exact List.forall_mem_cons.mpr ⟨hlast, fun d hd => Int.lt_trans hlast (hbehind d hd)⟩
    · exact List.forall_mem_cons.mpr ⟨hpos, hrest.line_pos⟩
    · exact List.forall_mem_cons.mpr ⟨hfits, hrest.fits⟩

theorem parseConstraints_range {s : String} {cs : List (IntervalConstraint α)}
    (h : parseConstraints s = .ok cs) : ConstraintsFit cs := by
  simp only [parseConstraints] at h
  split at h
  · simp at h
  · exact (constraintsOf_range h).2

/-- A text gives an attribute no value outside its range. -/
theorem parse_admits {a : Attribute} {s : String} {v : a.Value α} (h : a.parse s = .ok v) :
    a.Admits v := by
  cases a
  case anchor | expand => exact parseBounded_range h
  case minx | miny => exact parseConstraints_range h
  case pad | margin => exact parseSides_range h
  case borderWidth | borderRound | strokeWidth | width | height | round | stellate | fontSize =>
    exact parseNonnegative_range h
  case scale => exact parsePositive_range h
  case vertices => exact parseVertices_range h
  case coords => exact parsePoints_range h
  all_goals trivial

/-- A value lies in the range of its attribute, unless it is a size of fonts: options give that as
well. -/
def Ranged (a : Attribute) (v : a.Value α) : Prop :=
  a ≠ fontSize → a.Admits v

omit [Scalar α] in
/-- What counts and numbers of lines have to be for every index to be in its list. -/
def Counts : (a : Attribute) → a.Value α → Prop
  | minx, cs | miny, cs => ∀ c ∈ cs, 1 ≤ c.line
  | vertices, n => 3 ≤ n
  | coords, ps => ps ≠ []
  | _, _ => True

theorem Ranged.counts {a : Attribute} {v : a.Value α} (h : a.Ranged v) : a.Counts v := by
  cases a
  case minx | miny => exact (h (by decide)).line_pos
  case vertices => exact h (by decide)
  case coords =>
    have hlength : 2 ≤ v.length := h (by decide)
    exact List.ne_nil_of_length_pos (by omega)
  all_goals trivial

end Attribute

end GridDiagram
