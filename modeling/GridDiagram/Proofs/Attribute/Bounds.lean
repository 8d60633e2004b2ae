import GridDiagram.Proofs.Attribute.Constraints
import GridDiagram.Proofs.Number.Order

/-!
The bounds of the numbers in a value, in floating point. A text gives no number out of bounds,
except one that is no number, and that only if it says so.
-/

namespace GridDiagram

namespace Attribute

/-- The numbers in a value. -/
def numbers {α : Type} : (a : Attribute) → a.Value α → List α
  | anchor, p | expand, p | place, p | translate, p => [p.x, p.y]
  | minx, cs | miny, cs => cs.flatMap fun c => [c.size, c.weight]
  | pad, s | margin, s => [s.left, s.top, s.right, s.bottom]
  | borderWidth, x | borderRound, x | scale, x | rotate, x | strokeWidth, x | width, x | height, x
  | round, x | stellate, x | fontSize, x => [x]
  | coords, ps => ps.flatMap fun p => [p.x, p.y]
  | bg, _ | borderColor, _ | fill, _ | stroke, _ | vertices, _ | fontFamily, _ | fontWeight, _
  | fontStyle, _ | closed, _ | ref, _ | select, _ | style, _ => []

/-- The bounds of the numbers in the values of an attribute. -/
def Bounds : Attribute → Float → Prop
  | anchor, x => -1.0 ≤ x ∧ x ≤ 1.0
  | expand, x => 0.0 ≤ x ∧ x ≤ 1.0
  | minx, x | miny, x | pad, x | margin, x | borderWidth, x | borderRound, x | strokeWidth, x
  | width, x | height, x | round, x | stellate, x | fontSize, x => 0.0 ≤ x
  | scale, x => 0.0 < x
  | place, _ | translate, _ | rotate, _ | coords, _ | bg, _ | borderColor, _ | fill, _ | stroke, _
  | vertices, _ | fontFamily, _ | fontWeight, _ | fontStyle, _ | closed, _ | ref, _ | select, _
  | style, _ => True

/-- The least numbers of corners and of points. -/
def EnoughOf {α : Type} : (a : Attribute) → a.Value α → Prop
  | vertices, n => 3 ≤ n
  | coords, ps => 2 ≤ ps.length
  | _, _ => True

/-! ### Where numbers come from -/

section Spelled

variable {α : Type} [Scalar α]

/-- An item of a text is the numeral, perhaps behind a plus sign that is not part of it. -/
def HoldsNumeral (s numeral : String) : Prop :=
  numeral ∈ Text.items s ∨ "+" ++ numeral ∈ Text.items s

/-- An item of a text spells the number. -/
def Spelled (s : String) (x : α) : Prop :=
  ∃ numeral, HoldsNumeral s numeral ∧ Scalar.parse? numeral = some x

theorem parseNumbers_spelled {s : String} {xs : List α} (h : parseNumbers s = .ok xs) :
    ∀ x ∈ xs, Spelled s x := by
  intro x hx
  unfold parseNumbers at h
  split at h
  · cases h
  · split at h
    · rename_i ys hys
      obtain rfl := Except.ok.inj h
      obtain ⟨t, ht, hread⟩ := (Option.mapM_eq_some.mp hys).exists_left hx
      exact ⟨t, .inl ht, hread⟩
    · cases h

theorem parseNumber_spelled {s : String} {x : α} (h : parseNumber s = .ok x) : Spelled s x := by
  simp only [parseNumber, Except.bind_eq_ok] at h
  obtain ⟨xs, hxs, h⟩ := h
  split at h
  · obtain rfl := Except.ok.inj h
    exact parseNumbers_spelled hxs _ List.mem_cons_self
  · cases h

theorem parseNonnegative_spelled {s : String} {x : α} (h : parseNonnegative s = .ok x) :
    Spelled s x := by
  simp only [parseNonnegative, Except.bind_eq_ok] at h
  obtain ⟨y, hy, h⟩ := h
  split at h
  · cases h
  · exact Except.ok.inj h ▸ parseNumber_spelled hy

theorem parsePositive_spelled {s : String} {x : α} (h : parsePositive s = .ok x) :
    Spelled s x := by
  simp only [parsePositive, Except.bind_eq_ok] at h
  obtain ⟨y, hy, h⟩ := h
  split at h
  · cases h
  · exact Except.ok.inj h ▸ parseNumber_spelled hy

theorem parsePoint_spelled {s : String} {p : Pair α} (h : parsePoint s = .ok p) :
    ∀ x ∈ [p.x, p.y], Spelled s x := by
  simp only [parsePoint, Except.bind_eq_ok] at h
  obtain ⟨xs, hxs, h⟩ := h
  have hspelled := parseNumbers_spelled hxs
  split at h
  · obtain rfl := Except.ok.inj h
    simpa using hspelled
  · obtain rfl := Except.ok.inj h
    exact hspelled
  · cases h

theorem parseBounded_spelled {low high : Int} {s : String} {p : Pair α}
    (h : parseBounded low high s = .ok p) : ∀ x ∈ [p.x, p.y], Spelled s x := by
  simp only [parseBounded, Except.bind_eq_ok] at h
  obtain ⟨q, hq, h⟩ := h
  split at h
  · cases h
  · exact Except.ok.inj h ▸ parsePoint_spelled hq

omit [Scalar α] in
theorem mem_of_sidesOf? {xs : List α} {v : Sides α} (h : sidesOf? xs = some v) :
    ∀ x ∈ [v.left, v.top, v.right, v.bottom], x ∈ xs := by
  unfold sidesOf? at h
  split at h
  · obtain rfl := Option.some.inj h
    simp [Sides.all]
  · obtain rfl := Option.some.inj h
    simp
  · obtain rfl := Option.some.inj h
    simp
  · cases h

theorem parseSides_spelled {s : String} {v : Sides α} (h : parseSides s = .ok v) :
    ∀ x ∈ [v.left, v.top, v.right, v.bottom], Spelled s x := by
  simp only [parseSides, Except.bind_eq_ok] at h
  obtain ⟨xs, hxs, h⟩ := h
  split at h
  · cases h
  · rename_i sides hsides
    split at h
    · cases h
    · obtain rfl := Except.ok.inj h
      exact fun x hx => parseNumbers_spelled hxs x (mem_of_sidesOf? hsides x hx)

omit [Scalar α] in
theorem mem_of_pointsOf? {xs : List α} {ps : List (Pair α)} (h : pointsOf? xs = some ps) :
    ∀ p ∈ ps, p.x ∈ xs ∧ p.y ∈ xs := by
  fun_induction pointsOf? xs generalizing ps with
  | case1 =>
    obtain rfl := Option.some.inj h
    simp
  | case2 => cases h
  | case3 x y rest ih =>
    obtain ⟨qs, hqs, rfl⟩ := Option.map_eq_some_iff.mp h
    refine List.forall_mem_cons.mpr ⟨by simp, fun p hp => ?_⟩
    obtain ⟨hpx, hpy⟩ := ih hqs p hp
    exact ⟨List.mem_cons_of_mem _ (List.mem_cons_of_mem _ hpx),
      List.mem_cons_of_mem _ (List.mem_cons_of_mem _ hpy)⟩

theorem parsePoints_spelled {s : String} {ps : List (Pair α)} (h : parsePoints s = .ok ps) :
    ∀ x ∈ ps.flatMap fun p => [p.x, p.y], Spelled s x := by
  simp only [parsePoints, Except.bind_eq_ok] at h
  obtain ⟨xs, hxs, h⟩ := h
  split at h
  · rename_i p q rest hpoints
    obtain rfl := Except.ok.inj h
    intro x hx
    obtain ⟨p', hp', hx⟩ := List.mem_flatMap.mp hx
    obtain ⟨hpx, hpy⟩ := mem_of_pointsOf? hpoints p' hp'
    refine parseNumbers_spelled hxs x ?_
    obtain rfl | hx := List.mem_cons.mp hx
    · exact hpx
    · exact List.mem_singleton.mp hx ▸ hpy
  · cases h

theorem Spells.spelled {s : String} {p : String × String} {c : IntervalConstraint α}
    (h : Spells p c) (hp : p.2 ∈ Text.items s) :
    ∀ x ∈ [c.size, c.weight], x = 0.0 ∨ Spelled s x := by
  cases h with
  | size _ _ hsize _ => simpa using .inr ⟨_, .inl hp, hsize⟩
  | weight _ hweight _ => simpa using .inr ⟨_, .inr hp, hweight⟩

theorem parseConstraints_spelled {s : String} {cs : List (IntervalConstraint α)}
    (h : parseConstraints s = .ok cs) :
    ∀ x ∈ cs.flatMap fun c => [c.size, c.weight], x = 0.0 ∨ Spelled s x := by
  obtain ⟨pairs, bare, -, hs, hdecodes⟩ := parseConstraints_eq_ok_iff.mp h
  intro x hx
  obtain ⟨c, hc, hx⟩ := List.mem_flatMap.mp hx
  obtain ⟨p, hp, hspells⟩ := hdecodes.spells.exists_left hc
  refine hspells.spelled ?_ x hx
  rw [Text.lists_iff.mp hs]
  exact List.mem_append_left _ (List.mem_flatMap.mpr ⟨p, hp, by simp⟩)

/-- Every number in a value is spelled in its text, but for the size next to a weight and the weight
next to a size. -/
theorem parse_spelled {a : Attribute} {s : String} {v : a.Value α} (h : a.parse s = .ok v) :
    ∀ x ∈ a.numbers v, x = 0.0 ∨ Spelled s x := by
  cases a
  case minx | miny => exact parseConstraints_spelled h
  case anchor | expand => exact fun x hx => .inr (parseBounded_spelled h x hx)
  case place | translate => exact fun x hx => .inr (parsePoint_spelled h x hx)
  case pad | margin => exact fun x hx => .inr (parseSides_spelled h x hx)
  case borderWidth | borderRound | strokeWidth | width | height | round | stellate | fontSize =>
    simpa [numbers] using .inr (parseNonnegative_spelled h)
  case scale => simpa [numbers] using .inr (parsePositive_spelled h)
  case rotate => simpa [numbers] using .inr (parseNumber_spelled h)
  case coords => exact fun x hx => .inr (parsePoints_spelled h x hx)
  all_goals exact fun x hx => nomatch hx

end Spelled

/-! ### Numbers that compare -/

theorem nonneg_of_number {x : Float} (hx : x.isNaN = false) (h : ¬x < 0.0) : 0.0 ≤ x :=
  floatLE_of_not_lt hx rfl h

theorem between_of_number {low high : Int} {x : Float} (hx : x.isNaN = false)
    (h : isOutside low high x = false) : Scalar.ofInt low ≤ x ∧ x ≤ Scalar.ofInt high := by
  simp only [isOutside, Bool.or_eq_false_iff, decide_eq_false_iff_not] at h
  exact ⟨floatLE_of_not_lt hx (isNaN_floatOfDecimal _ _ _) h.1,
    floatLE_of_not_lt (isNaN_floatOfDecimal _ _ _) hx h.2⟩

theorem ofInt_zero : (Scalar.ofInt 0 : Float) = 0.0 := by
  rfl

theorem ofInt_one : (Scalar.ofInt 1 : Float) = 1.0 := by
  rfl

theorem ofInt_neg_one : (Scalar.ofInt (-1) : Float) = -1.0 := by
  rfl

theorem Within.bounds {low high : Int} {p : Pair Float} (h : Within low high p) {x : Float}
    (hx : x ∈ [p.x, p.y]) (hnumber : x.isNaN = false) :
    Scalar.ofInt low ≤ x ∧ x ≤ Scalar.ofInt high := by
  obtain rfl | hx := List.mem_cons.mp hx
  · exact between_of_number hnumber h.1
  · obtain rfl := List.mem_singleton.mp hx
    exact between_of_number hnumber h.2

theorem not_neg_of_fits {c : IntervalConstraint Float} (h : c.Fits) :
    ∀ x ∈ [c.size, c.weight], ¬x < 0.0 := by
  have hzero : ¬(0.0 : Float) < 0.0 := by decide
  obtain ⟨hsize, hweight⟩ | ⟨hweight, hsize⟩ := h
  · simpa [hsize, hzero] using hweight
  · simpa [hweight, hzero] using hsize

theorem not_neg_of_nonnegative {v : Sides Float} (h : v.Nonnegative) :
    ∀ x ∈ [v.left, v.top, v.right, v.bottom], ¬x < 0.0 := by
  simpa using ⟨h.left, h.top, h.right, h.bottom⟩

theorem bounds_of_admits {a : Attribute} {v : a.Value Float} (h : a.Admits v) {x : Float}
    (hx : x ∈ a.numbers v) (hnumber : x.isNaN = false) : a.Bounds x := by
  cases a
  case anchor =>
    have hbounds := Within.bounds h hx hnumber
    rwa [ofInt_neg_one, ofInt_one] at hbounds
  case expand =>
    have hbounds := Within.bounds h hx hnumber
    rwa [ofInt_zero, ofInt_one] at hbounds
  case minx | miny =>
    obtain ⟨c, hc, hx⟩ := List.mem_flatMap.mp hx
    exact nonneg_of_number hnumber (not_neg_of_fits (h.fits c hc) x hx)
  case pad | margin => exact nonneg_of_number hnumber (not_neg_of_nonnegative h x hx)
  case borderWidth | borderRound | strokeWidth | width | height | round | stellate | fontSize =>
    obtain rfl := List.mem_singleton.mp hx
    exact nonneg_of_number hnumber h
  case scale =>
    obtain rfl := List.mem_singleton.mp hx
    exact floatLT_of_not_le hnumber rfl h
  all_goals trivial

theorem enoughOf_of_admits {a : Attribute} {v : a.Value Float} (h : a.Admits v) : a.EnoughOf v := by
  cases a
  case vertices | coords => exact h
  all_goals trivial

/-- A number that is read is none only where its text says so. -/
theorem nan_of_parse {numeral : String} {x : Float} (h : Scalar.parse? numeral = some x)
    (hx : x.isNaN = true) : Numeral.parse? numeral = some .nan := by
  obtain ⟨n, hn, hvalue⟩ := Option.bind_eq_some_iff.mp h
  obtain rfl : floatOfNumeral n = x := Option.some.inj hvalue
  rw [hn, isNaN_floatOfNumeral hx]

/-- Every number that a text gives an attribute lies in its bounds, or it is no number and the text
says that it is none. Of corners and points there are enough. -/
theorem parse_bounded {a : Attribute} {s : String} {v : a.Value Float} (h : a.parse s = .ok v) :
    (∀ x ∈ a.numbers v, a.Bounds x ∨
      (x.isNaN = true ∧ ∃ numeral, HoldsNumeral s numeral ∧
        Numeral.parse? numeral = some .nan)) ∧
    a.EnoughOf v := by
  have hadmits := parse_admits h
  refine ⟨fun x hx => ?_, enoughOf_of_admits hadmits⟩
  cases hnumber : x.isNaN with
  | false => exact .inl (bounds_of_admits hadmits hx hnumber)
  | true =>
    obtain rfl | ⟨numeral, hnumeral, hread⟩ := parse_spelled h x hx
    · cases hnumber
    · exact .inr ⟨rfl, numeral, hnumeral, nan_of_parse hread hnumber⟩

theorem pad_parse_bounded :
    pad.parse " 1_0, +.5e1 INF nan" = .ok (⟨10.0, 5.0, 1.0 / 0.0, 0.0 / 0.0⟩ : Sides Float) ∧
    ∀ x ∈ [10.0, 5.0, 1.0 / 0.0, 0.0 / 0.0], pad.Bounds x ∨
      (x.isNaN = true ∧ ∃ numeral, HoldsNumeral " 1_0, +.5e1 INF nan" numeral ∧
        Numeral.parse? numeral = some .nan) :=
  have hparse : pad.parse " 1_0, +.5e1 INF nan" =
    .ok (⟨10.0, 5.0, 1.0 / 0.0, 0.0 / 0.0⟩ : Sides Float) := rfl
  ⟨hparse, (parse_bounded hparse).1⟩

/-- The comparisons that refuse what lies outside the bounds do not refuse what is no number. -/
theorem nan_anchor_out_of_bounds :
    anchor.parse "nan" = .ok (⟨0.0 / 0.0, 0.0 / 0.0⟩ : Pair Float) ∧ ¬anchor.Bounds (0.0 / 0.0) :=
  ⟨rfl, fun h => absurd h.1 (by decide)⟩

end Attribute

end GridDiagram
