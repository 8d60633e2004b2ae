import GridDiagram.Proofs.Attribute.Range
import GridDiagram.Proofs.Number.Numeral

/-!
The constraints that a text gives an axis: they are what its pairs of tokens spell, one after the
other, and a line without a size behind the last pair adds nothing.
-/

namespace GridDiagram

namespace Attribute

variable {α : Type} [Scalar α]

/-- A pair of tokens spells a constraint: the numeral of its line, and that of its size, or a plus
sign and the numeral of its weight. -/
inductive Spells : String × String → IntervalConstraint α → Prop
  | size {line size : String} {n : Int} {x : α} (hline : Numeral.integer? line = some n)
      (hplus : size.toList.head? ≠ some '+') (hsize : Scalar.parse? size = some x)
      (hx : ¬x < 0.0) : Spells (line, size) ⟨n, x, 0.0⟩
  | weight {line weight : String} {n : Int} {x : α} (hline : Numeral.integer? line = some n)
      (hweight : Scalar.parse? weight = some x) (hx : ¬x < 0.0) :
      Spells (line, "+" ++ weight) ⟨n, 0.0, x⟩

/-- The tokens of pairs, and a token that may stand behind them. -/
def tokensOf (pairs : List (String × String)) (bare : Option String) : List String :=
  pairs.flatMap (fun p => [p.1, p.2]) ++ bare.toList

/-- Pairs of tokens spell constraints on ascending lines behind the line `last`, and a token behind
the pairs is the numeral of a line behind those. -/
structure Decodes (last : Int) (pairs : List (String × String)) (bare : Option String)
    (cs : List (IntervalConstraint α)) : Prop where
  spells : List.Forall₂ Spells pairs cs
  line_pos : ∀ c ∈ cs, 1 ≤ c.line
  behind : ∀ c ∈ cs, last < c.line
  ascending : cs.Pairwise fun c d => c.line < d.line
  bare : ∀ token ∈ bare, ∃ n, Numeral.integer? token = some n ∧ 1 ≤ n ∧ last < n ∧
    ∀ c ∈ cs, c.line < n

/-! ### One pair -/

theorem parseLine_eq_ok_iff {last n : Int} {token : String} :
    parseLine last token = .ok n ↔ Numeral.integer? token = some n ∧ 1 ≤ n ∧ last < n := by
  unfold parseLine
  cases Numeral.integer? token with
  | none => simp
  | some line =>
    simp only [Option.some.injEq]
    split
    · simp
      omega
    · split
      · simp
        omega
      · simp only [Except.ok.injEq]
        constructor
        · rintro rfl
          omega
        · exact fun h => h.1

theorem Spells.parseLine {last : Int} {p : String × String} {c : IntervalConstraint α}
    (h : Spells p c) (hpos : 1 ≤ c.line) (hlast : last < c.line) :
    parseLine last p.1 = .ok c.line := by
  refine parseLine_eq_ok_iff.mpr ⟨?_, hpos, hlast⟩
  cases h with
  | size hline _ _ _ => exact hline
  | weight hline _ _ => exact hline

theorem Spells.parseSize {p : String × String} {c : IntervalConstraint α} (h : Spells p c) :
    parseSize c.line p.2 = .ok c := by
  cases h with
  | size _ hplus hsize hx =>
    unfold Attribute.parseSize
    split
    rename_i hmatch
    split at hmatch
    · rename_i hlist
      simp [hlist] at hplus
    · obtain ⟨rfl, rfl⟩ := Prod.mk.inj hmatch
      simp [hsize, hx]
  | weight _ hweight hx => simp [Attribute.parseSize, hweight, hx]

theorem spells_of_parseSize {line size : String} {n : Int} {c : IntervalConstraint α}
    (hline : Numeral.integer? line = some n) (h : parseSize n size = .ok c) :
    Spells (line, size) c := by
  unfold parseSize at h
  split at h
  rename_i weighted text hmatch
  split at h
  · cases h
  · rename_i x hread
    split at h
    · cases h
    · rename_i hx
      obtain rfl := Except.ok.inj h
      split at hmatch
      · rename_i rest hlist
        obtain ⟨rfl, rfl⟩ := Prod.mk.inj hmatch
        have hsize : size = "+" ++ String.ofList rest := String.toList_inj.mp (by simp [hlist])
        rw [hsize]
        exact .weight hline hread hx
      · rename_i hplus
        obtain ⟨rfl, rfl⟩ := Prod.mk.inj hmatch
        refine .size hline (fun hhead => ?_) hread hx
        obtain ⟨rest, hrest⟩ := List.head?_eq_some_iff.mp hhead
        exact hplus rest hrest

/-! ### All pairs -/

theorem decodes_nil_iff {last : Int} {bare : Option String} {cs : List (IntervalConstraint α)} :
    Decodes last [] bare cs ↔
      cs = [] ∧ ∀ token ∈ bare, ∃ n, Numeral.integer? token = some n ∧ 1 ≤ n ∧ last < n := by
  constructor
  · intro h
    obtain rfl := List.forall₂_nil_left_iff.mp h.spells
    refine ⟨rfl, fun token htoken => ?_⟩
    obtain ⟨n, hn, hpos, hlast, -⟩ := h.bare token htoken
    exact ⟨n, hn, hpos, hlast⟩
  · rintro ⟨rfl, hbare⟩
    refine ⟨.nil, by simp, by simp, .nil, fun token htoken => ?_⟩
    obtain ⟨n, hn, hpos, hlast⟩ := hbare token htoken
    exact ⟨n, hn, hpos, hlast, by simp⟩

theorem decodes_cons_iff {last : Int} {p : String × String} {pairs : List (String × String)}
    {bare : Option String} {c : IntervalConstraint α} {cs : List (IntervalConstraint α)} :
    Decodes last (p :: pairs) bare (c :: cs) ↔
      Spells p c ∧ 1 ≤ c.line ∧ last < c.line ∧ Decodes c.line pairs bare cs := by
  constructor
  · intro h
    obtain ⟨hp, hpairs⟩ := List.forall₂_cons.mp h.spells
    obtain ⟨hpos, hcspos⟩ := List.forall_mem_cons.mp h.line_pos
    obtain ⟨hbehind, hascending⟩ := List.pairwise_cons.mp h.ascending
    refine ⟨hp, hpos, h.behind c List.mem_cons_self, hpairs, hcspos, hbehind, hascending,
      fun token htoken => ?_⟩
    obtain ⟨n, hn, hnpos, -, hcs⟩ := h.bare token htoken
    exact ⟨n, hn, hnpos, List.forall_mem_cons.mp hcs⟩
  · rintro ⟨hp, hpos, hlast, h⟩
    refine ⟨.cons hp h.spells, List.forall_mem_cons.mpr ⟨hpos, h.line_pos⟩,
      List.forall_mem_cons.mpr ⟨hlast, fun d hd => Int.lt_trans hlast (h.behind d hd)⟩,
      .cons h.behind h.ascending, fun token htoken => ?_⟩
    obtain ⟨n, hn, hnpos, hcn, hcs⟩ := h.bare token htoken
    exact ⟨n, hn, hnpos, Int.lt_trans hlast hcn, List.forall_mem_cons.mpr ⟨hcn, hcs⟩⟩

/-- A pair that spells a constraint gives that, in front of what the tokens behind it give. -/
theorem constraintsOf_cons {last : Int} {p : String × String} {c : IntervalConstraint α}
    (h : Spells p c) (hpos : 1 ≤ c.line) (hlast : last < c.line) (pairs : List (String × String))
    (bare : Option String) :
    constraintsOf last (tokensOf (p :: pairs) bare) =
      (constraintsOf c.line (tokensOf pairs bare)).map (c :: ·) := by
  have htokens : tokensOf (p :: pairs) bare = p.1 :: p.2 :: tokensOf pairs bare := rfl
  rw [htokens, constraintsOf, h.parseLine hpos hlast]
  simp only [bind, Except.bind, h.parseSize]
  cases constraintsOf (α := α) c.line (tokensOf pairs bare) <;> rfl

theorem constraintsOf_tokensOf {last : Int} {pairs : List (String × String)}
    {bare : Option String} {cs : List (IntervalConstraint α)} (h : Decodes last pairs bare cs) :
    constraintsOf last (tokensOf pairs bare) = .ok cs := by
  induction pairs generalizing last cs with
  | nil =>
    obtain ⟨rfl, hbare⟩ := decodes_nil_iff.mp h
    cases bare with
    | none => rfl
    | some token =>
      obtain ⟨n, hn⟩ := hbare token rfl
      simp [tokensOf, constraintsOf, parseLine_eq_ok_iff.mpr hn]
  | cons p pairs ih =>
    cases cs with
    | nil => cases h.spells
    | cons c cs =>
      obtain ⟨hp, hpos, hlast, hrest⟩ := decodes_cons_iff.mp h
      rw [constraintsOf_cons hp hpos hlast, ih hrest]
      rfl

theorem decodes_of_constraintsOf {last : Int} {tokens : List String}
    {cs : List (IntervalConstraint α)} (h : constraintsOf last tokens = .ok cs) :
    ∃ pairs bare, tokens = tokensOf pairs bare ∧ Decodes last pairs bare cs := by
  fun_induction constraintsOf (α := α) last tokens generalizing cs with
  | case1 last =>
    obtain rfl := Except.ok.inj h
    exact ⟨[], none, rfl, decodes_nil_iff.mpr ⟨rfl, by simp⟩⟩
  | case2 last token =>
    simp only [Except.bind_eq_ok] at h
    obtain ⟨n, hn, h⟩ := h
    obtain rfl := Except.ok.inj h
    refine ⟨[], some token, rfl, decodes_nil_iff.mpr ⟨rfl, fun t ht => ?_⟩⟩
    exact ⟨n, Option.some.inj ht ▸ parseLine_eq_ok_iff.mp hn⟩
  | case3 last token size rest ih =>
    simp only [Except.bind_eq_ok] at h
    obtain ⟨line, hline, c, hc, cs', hcs, h⟩ := h
    obtain rfl := Except.ok.inj h
    obtain ⟨hread, hpos, hlast⟩ := parseLine_eq_ok_iff.mp hline
    obtain ⟨rfl, -⟩ := parseSize_range hc
    obtain ⟨pairs, bare, rfl, hrest⟩ := ih c.line hcs
    exact ⟨(token, size) :: pairs, bare, rfl,
      decodes_cons_iff.mpr ⟨spells_of_parseSize hread hc, hpos, hlast, hrest⟩⟩

theorem length_tokensOf (pairs : List (String × String)) (bare : Option String) :
    (tokensOf pairs bare).length = 2 * pairs.length + bare.toList.length := by
  simp [tokensOf, List.length_flatMap, Nat.mul_comm]

/-- A token behind the pairs that is no numeral of a line is refused. -/
theorem constraintsOf_not_line {last : Int} {pairs : List (String × String)} {token : String}
    {cs : List (IntervalConstraint α)} (h : Decodes last pairs none cs)
    (htoken : Numeral.integer? token = none) :
    constraintsOf (α := α) last (tokensOf pairs (some token)) = .error (.notLine token) := by
  induction pairs generalizing last cs with
  | nil => simp [tokensOf, constraintsOf, parseLine, htoken]
  | cons p pairs ih =>
    cases cs with
    | nil => cases h.spells
    | cons c cs =>
      obtain ⟨hp, hpos, hlast, hrest⟩ := decodes_cons_iff.mp h
      rw [constraintsOf_cons hp hpos hlast, ih hrest]
      rfl

/-! ### A whole text -/

theorem parseConstraints_of_lists {s : String} {tokens : List String}
    (hs : Text.Lists s tokens) (hne : tokens ≠ []) :
    parseConstraints (α := α) s = constraintsOf 0 tokens := by
  obtain rfl := Text.lists_iff.mp hs
  unfold parseConstraints
  split
  · contradiction
  · rfl

theorem parseConstraints_eq_ok_iff {s : String} {cs : List (IntervalConstraint α)} :
    parseConstraints s = .ok cs ↔
      ∃ pairs bare, tokensOf pairs bare ≠ [] ∧ Text.Lists s (tokensOf pairs bare) ∧
        Decodes 0 pairs bare cs := by
  constructor
  · intro h
    by_cases hne : Text.items s = []
    · simp [parseConstraints, hne] at h
    · rw [parseConstraints_of_lists (Text.lists_iff.mpr rfl) hne] at h
      obtain ⟨pairs, bare, htokens, hdecodes⟩ := decodes_of_constraintsOf h
      exact ⟨pairs, bare, htokens ▸ hne, Text.lists_iff.mpr htokens, hdecodes⟩
  · rintro ⟨pairs, bare, hne, hs, hdecodes⟩
    rw [parseConstraints_of_lists hs hne]
    exact constraintsOf_tokensOf hdecodes

/-- A text in which pairs of tokens spell constraints on ascending lines is read as those, also with
the numeral of a later line behind them, and a text that is read is such a text: a constraint for
each of its complete pairs. The decimal digits of a line are its numeral as long as there are not
more of them than an integer may have. -/
theorem constraints_read_as_written :
    (∀ (s : String) (pairs : List (String × String)) (bare : Option String)
        (cs : List (IntervalConstraint α)),
      pairs ≠ [] → Text.Lists s (tokensOf pairs bare) → List.Forall₂ Spells pairs cs →
      (∀ c ∈ cs, 1 ≤ c.line) → (cs.Pairwise fun c d => c.line < d.line) →
      (∀ token ∈ bare, ∃ n, Numeral.integer? token = some n ∧ ∀ c ∈ cs, c.line < n) →
      parseConstraints s = .ok cs) ∧
    (∀ (s : String) (cs : List (IntervalConstraint α)), parseConstraints s = .ok cs →
      (∃ pairs bare, Text.Lists s (tokensOf pairs bare) ∧ List.Forall₂ Spells pairs cs) ∧
      cs.length = (Text.items s).length / 2 ∧ ConstraintsFit cs) ∧
    ∀ n : Nat, (Decimal.digits n).length ≤ Numeral.maxIntegerDigits →
      Numeral.integer? (String.ofList (Decimal.digits n)) = some (n : Int) := by
  refine ⟨fun s pairs bare cs hne hs hspells hpos hascending hbare => ?_, fun s cs h => ?_,
    fun n hn => by rw [Numeral.integer?_digits, if_pos hn]⟩
  · obtain ⟨p, pairs, rfl⟩ := List.exists_cons_of_ne_nil hne
    obtain ⟨c, cs, -, -, rfl⟩ := List.forall₂_cons_left_iff.mp hspells
    have hdecodes : Decodes 0 (p :: pairs) bare (c :: cs) := by
      refine ⟨hspells, hpos, fun d hd => hpos d hd, hascending, fun token htoken => ?_⟩
      obtain ⟨n, hn, hcs⟩ := hbare token htoken
      have hc := hpos c List.mem_cons_self
      have hcn := hcs c List.mem_cons_self
      exact ⟨n, hn, by omega, by omega, hcs⟩
    exact parseConstraints_eq_ok_iff.mpr ⟨_, bare, by simp [tokensOf], hs, hdecodes⟩
  · obtain ⟨pairs, bare, -, hs, hdecodes⟩ := parseConstraints_eq_ok_iff.mp h
    refine ⟨⟨pairs, bare, hs, hdecodes.spells⟩, ?_, parseConstraints_range h⟩
    have hlength := hdecodes.spells.length_eq
    have hbare : bare.toList.length ≤ 1 := by cases bare <;> simp
    rw [Text.lists_iff.mp hs, length_tokensOf]
    omega

theorem constraints_read_as_written_mixed :
    Text.Lists " 1 10,, 2\t+1.5, 4 " (tokensOf [("1", "10"), ("2", "+1.5")] (some "4")) ∧
    parseConstraints (α := Float) " 1 10,, 2\t+1.5, 4 " =
      .ok [⟨1, 10.0, 0.0⟩, ⟨2, 0.0, 1.5⟩] := by
  have hs : Text.Lists " 1 10,, 2\t+1.5, 4 "
      (tokensOf [("1", "10"), ("2", "+1.5")] (some "4")) := by decide
  have hsize : Spells ("1", "10") (⟨1, 10.0, 0.0⟩ : IntervalConstraint Float) :=
    .size rfl (by decide) rfl (by decide)
  have hweight : Spells ("2", "+" ++ "1.5") (⟨2, 0.0, 1.5⟩ : IntervalConstraint Float) :=
    .weight rfl rfl (by decide)
  have hbare : Numeral.integer? "4" = some 4 := by decide
  refine ⟨hs, constraints_read_as_written.1 _ _ _ _ (by decide) hs
    (.cons hsize (.cons hweight .nil)) (by decide) (by simp) fun token htoken => ?_⟩
  obtain rfl := Option.some.inj htoken
  exact ⟨4, hbare, by decide⟩

theorem parseConstraints_long_bare {n : Nat}
    (hn : Numeral.maxIntegerDigits < (Decimal.digits n).length) :
    parseConstraints (α := Float) ("1 5 " ++ String.ofList (Decimal.digits n)) =
      .error (.notLine (String.ofList (Decimal.digits n))) := by
  have hread : Numeral.integer? (String.ofList (Decimal.digits n)) = none := by
    rw [Numeral.integer?_digits, if_neg (by omega)]
  have hs : Text.Lists ("1 5 " ++ String.ofList (Decimal.digits n))
      (tokensOf [("1", "5")] (some (String.ofList (Decimal.digits n)))) := by
    have htext : ("1 5 " ++ String.ofList (Decimal.digits n)).toList =
        ['1'] ++ ' ' :: (['5'] ++ ' ' :: Decimal.digits n) := by simp
    have htokens : (tokensOf [("1", "5")] (some (String.ofList (Decimal.digits n)))).map
        String.toList = [['1'], ['5'], Decimal.digits n] := by simp [tokensOf]
    rw [Text.Lists, htext, htokens]
    exact .token (by decide) (List.forall_mem_singleton.mpr rfl) rfl <|
      .token (by decide) (List.forall_mem_singleton.mpr rfl) rfl <|
        .last (Numeral.digits_ne_nil n) (Numeral.uncut_digits n)
  have hpair : Decodes 0 [("1", "5")] none [(⟨1, 5.0, 0.0⟩ : IntervalConstraint Float)] :=
    decodes_cons_iff.mpr ⟨.size rfl (by decide) rfl (by decide), by decide, by decide,
      decodes_nil_iff.mpr ⟨rfl, by simp⟩⟩
  rw [parseConstraints_of_lists hs (by simp [tokensOf]), constraintsOf_not_line hpair hread]

/-- The numeral of a line has one digit too many for an integer: it is refused, although it asks for
nothing. -/
theorem long_bare_line_refused :
    parseConstraints (α := Float) "1 5" = .ok [⟨1, 5.0, 0.0⟩] ∧ 1 < 10 ^ 4300 ∧
    parseConstraints (α := Float) ("1 5 " ++ String.ofList (Decimal.digits (10 ^ 4300))) =
      .error (.notLine (String.ofList (Decimal.digits (10 ^ 4300)))) := by
  have hpower : ∀ k, k ≠ 0 → 1 < 10 ^ k := fun k hk => Nat.one_lt_pow hk (by decide)
  have hlong : ∀ k, 0 < k → k < (Decimal.digits (10 ^ k)).length :=
    fun _ => Numeral.lt_length_digits_pow
  exact ⟨rfl, hpower 4300 (by decide), parseConstraints_long_bare (hlong 4300 (by decide))⟩

end Attribute

end GridDiagram
