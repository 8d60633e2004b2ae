import GridDiagram.Proofs.Document.WellFormed
import GridDiagram.Proofs.Number.Numeral

/-!
The placement that texts give a child: each axis has the span that its own text spells, or else the
one that the text for both axes spells for it, and every way to spell a placement is read as that.
-/

namespace GridDiagram

/-! ### Lines -/

/-- A text lists the numerals of integers, of one at least. -/
def ListsIntegers (s : String) (ns : List Int) : Prop :=
  ns ≠ [] ∧ ∃ tokens, Text.Lists s tokens ∧
    List.Forall₂ (fun token n => Numeral.integer? token = some n) tokens ns

theorem parseIntegers_eq_ok_iff {s : String} {ns : List Int} :
    parseIntegers s = .ok ns ↔ ListsIntegers s ns := by
  simp only [ListsIntegers, Text.lists_iff, exists_eq_left', parseIntegers]
  cases Text.items s with
  | nil => simp
  | cons token tokens =>
    have hne (h : List.Forall₂ (fun token n => Numeral.integer? token = some n)
        (token :: tokens) ns) : ns ≠ [] := by
      rintro rfl
      cases h
    rw [← Option.mapM_eq_some] at hne ⊢
    rw [and_iff_right_of_imp hne]
    dsimp only
    cases (token :: tokens).mapM Numeral.integer? with
    | none => simp only [reduceCtorEq]
    | some ms => rw [Except.ok.injEq, Option.some.injEq]

/-- The decimal digits of numbers with a blank between them. -/
def spacedDigits (ns : List Nat) : String :=
  String.ofList ([' '].intercalate (ns.map Decimal.digits))

theorem lists_spacedDigits (ns : List Nat) :
    Text.Lists (spacedDigits ns) (ns.map fun n => String.ofList (Decimal.digits n)) := by
  have htokens : (ns.map fun n => String.ofList (Decimal.digits n)).map String.toList =
      ns.map Decimal.digits := by
    simp [Function.comp_def]
  rw [Text.Lists, spacedDigits, String.toList_ofList, htokens]
  refine Text.separated_intercalate (by decide) fun token htoken => ?_
  obtain ⟨n, -, rfl⟩ := List.mem_map.mp htoken
  exact ⟨Numeral.digits_ne_nil n, Numeral.uncut_digits n⟩

theorem listsIntegers_spacedDigits {ns : List Nat} (hne : ns ≠ [])
    (hshort : ∀ n ∈ ns, (Decimal.digits n).length ≤ Numeral.maxIntegerDigits) :
    ListsIntegers (spacedDigits ns) (ns.map Int.ofNat) := by
  refine ⟨by simpa using hne, _, lists_spacedDigits ns, ?_⟩
  rw [List.forall₂_map_left_iff, List.forall₂_map_right_iff, List.forall₂_same]
  intro n hn
  rw [Numeral.integer?_digits, if_pos (hshort n hn)]
  rfl

namespace PlacementText

/-! ### The spelling of a placement -/

/-- Lines spell a span: its start and its end, or one line the cell behind it. -/
inductive SpellsSpan : List Int → Span → Prop
  | ends (s : Span) : SpellsSpan [s.start, s.stop] s
  | cell (line : Int) : SpellsSpan [line] (Span.cell line)

/-- Lines spell a placement: the starts of both spans and then their ends, the start and the end of
a span of columns around a row, a column and a row, or one line for both. -/
inductive Spells : List Int → Placement → Prop
  | ends (x y : Span) : Spells [x.start, y.start, x.stop, y.stop] ⟨x, y⟩
  | row (x : Span) (row : Int) : Spells [x.start, row, x.stop] ⟨x, Span.cell row⟩
  | cell (column row : Int) : Spells [column, row] ⟨Span.cell column, Span.cell row⟩
  | diagonal (line : Int) : Spells [line] ⟨Span.cell line, Span.cell line⟩

/-- A text writes a span. -/
def WritesSpan (text : String) (s : Span) : Prop :=
  ∃ ns, ListsIntegers text ns ∧ SpellsSpan ns s

/-- A text writes a placement. -/
def Writes (text : String) (p : Placement) : Prop :=
  ∃ ns, ListsIntegers text ns ∧ Spells ns p

theorem ofLines?_eq_some_iff {ns : List Int} {p : Placement} :
    ofLines? ns = some p ↔ Spells ns p := by
  constructor
  · intro h
    unfold ofLines? at h
    split at h <;> cases h
    · exact .diagonal _
    · exact .cell _ _
    · exact .row ⟨_, _⟩ _
    · exact .ends ⟨_, _⟩ ⟨_, _⟩
  · intro h
    cases h <;> rfl

theorem parseGrid_eq_ok_iff {text : String} {p : Placement} :
    parseGrid text = .ok p ↔ Writes text p := by
  simp only [parseGrid, Except.bind_eq_ok, parseIntegers_eq_ok_iff, Writes,
    ← ofLines?_eq_some_iff]
  refine exists_congr fun ns => and_congr_right fun _ => ?_
  cases ofLines? ns <;> simp

theorem parseSpan_eq_ok_iff (axis : Axis) {text : String} {s : Span} :
    parseSpan axis text = .ok s ↔ WritesSpan text s := by
  simp only [parseSpan, Except.bind_eq_ok, parseIntegers_eq_ok_iff, WritesSpan]
  refine exists_congr fun ns => and_congr_right fun _ => ?_
  constructor
  · intro h
    split at h <;> cases h
    · exact .cell _
    · exact .ends ⟨_, _⟩
  · intro h
    cases h <;> rfl

/-! ### The texts of both axes -/

/-- The text for one axis alone. -/
def along (t : PlacementText) : Axis → Option String
  | .x => t.gridx
  | .y => t.gridy

/-- The texts decide the span of an axis: the one for that axis alone if there is one, or else the
one for both axes, or else it is the first cell. -/
def Decides (t : PlacementText) (axis : Axis) (s : Span) : Prop :=
  match t.along axis, t.grid with
  | some text, _ => WritesSpan text s
  | none, some text => ∃ p, Writes text p ∧ p.on axis = s
  | none, none => s = Span.cell 1

theorem exists_grid_iff {t : PlacementText} :
    (∃ grid, optional parseGrid t.grid = .ok grid) ↔ ∀ text ∈ t.grid, ∃ q, Writes text q := by
  cases t.grid with
  | none => simp [optional]
  | some text => simp [optional, parseGrid_eq_ok_iff]

theorem decides_iff {t : PlacementText} {grid : Option Placement}
    (hgrid : optional parseGrid t.grid = .ok grid) {axis : Axis} {s : Span} :
    t.Decides axis s ↔ ∃ own, optional (parseSpan axis) (t.along axis) = .ok own ∧
      own.getD ((grid.getD Placement.first).on axis) = s := by
  unfold Decides
  cases t.along axis with
  | some text => simp [optional, parseSpan_eq_ok_iff]
  | none =>
    cases hboth : t.grid with
    | none =>
      rw [hboth] at hgrid
      obtain rfl := Except.ok.inj hgrid
      cases axis <;> simp [optional, Placement.first, Pair.on, eq_comm]
    | some text =>
      simp only [hboth, optional, Except.map_eq_ok] at hgrid
      obtain ⟨p, hp, rfl⟩ := hgrid
      simp only [← parseGrid_eq_ok_iff, hp, Except.ok.injEq, exists_eq_left', optional,
        Option.getD_none, Option.getD_some]

/-- Texts give a placement where the text for both axes writes one, if it is there, and each axis
has a valid span that is decided for it. -/
theorem parse_eq_ok_iff {t : PlacementText} {p : Placement} :
    t.parse = .ok (some p) ↔ t.isEmpty = false ∧ (∀ text ∈ t.grid, ∃ q, Writes text q) ∧
      (∀ axis, t.Decides axis (p.on axis)) ∧ ∀ axis, (p.on axis).Valid := by
  have both {P : Axis → Prop} : (∀ axis, P axis) ↔ P .x ∧ P .y :=
    ⟨fun h => ⟨h .x, h .y⟩, fun h axis => by cases axis; exacts [h.1, h.2]⟩
  rw [both, both]
  obtain ⟨px, py⟩ := p
  unfold parse
  split
  · simp_all
  · simp only [Except.bind_eq_ok, Except.pure_eq_ok, checkSpan_eq_ok, Option.some.injEq,
      Pair.mk.injEq]
    constructor
    · rintro ⟨grid, hgrid, x, hx, y, hy, -, hvx, -, hvy, rfl, rfl⟩
      exact ⟨by simp_all, exists_grid_iff.mp ⟨grid, hgrid⟩,
        ⟨(decides_iff hgrid).mpr ⟨x, hx, rfl⟩, (decides_iff hgrid).mpr ⟨y, hy, rfl⟩⟩, hvx, hvy⟩
    · rintro ⟨-, hgrid, ⟨hx, hy⟩, hvx, hvy⟩
      obtain ⟨grid, hgrid⟩ := exists_grid_iff.mpr hgrid
      obtain ⟨x, hx, hpx⟩ := (decides_iff hgrid).mp hx
      obtain ⟨y, hy, hpy⟩ := (decides_iff hgrid).mp hy
      exact ⟨grid, hgrid, x, hx, y, hy, (), hpx.symm ▸ hvx, (), hpy.symm ▸ hvy, hpx, hpy⟩

theorem parse_eq_none_iff {t : PlacementText} :
    t.parse = .ok none ↔ t.grid = none ∧ t.gridx = none ∧ t.gridy = none := by
  have hempty : t.isEmpty = true ↔ t.grid = none ∧ t.gridx = none ∧ t.gridy = none := by
    simp [isEmpty, and_assoc]
  rw [← hempty]
  unfold parse
  split
  · simp_all
  · rename_i hsome
    simp only [Except.bind_eq_ok, Except.pure_eq_ok, reduceCtorEq, and_false, exists_false, hsome,
      Bool.false_eq_true]

theorem WritesSpan.unique {text : String} {s s' : Span} (h : WritesSpan text s)
    (h' : WritesSpan text s') : s = s' := by
  rw [← parseSpan_eq_ok_iff .x] at h h'
  exact Except.ok.inj (h.symm.trans h')

theorem Writes.unique {text : String} {p p' : Placement} (h : Writes text p)
    (h' : Writes text p') : p = p' := by
  rw [← parseGrid_eq_ok_iff] at h h'
  exact Except.ok.inj (h.symm.trans h')

/-- The span of an axis is decided by its own text, or else by the text for both axes: what the
texts are besides makes no difference. -/
theorem Decides.unique {t t' : PlacementText} {axis : Axis} {s s' : Span} (h : t.Decides axis s)
    (h' : t'.Decides axis s') (halong : t.along axis = t'.along axis)
    (hgrid : t.along axis = none → t.grid = t'.grid) : s = s' := by
  unfold Decides at h h'
  rw [← halong] at h'
  cases hown : t.along axis with
  | some text =>
    rw [hown] at h h'
    exact WritesSpan.unique h h'
  | none =>
    rw [← hgrid hown, hown] at h'
    rw [hown] at h
    cases hboth : t.grid with
    | none =>
      rw [hboth] at h h'
      exact Eq.trans h (Eq.symm h')
    | some text =>
      rw [hboth] at h h'
      obtain ⟨p, hp, rfl⟩ := h
      obtain ⟨p', hp', rfl⟩ := h'
      rw [hp.unique hp']

/-! ### Placements as they are written -/

theorem parse_of_writes {text : String} {p : Placement} (h : Writes text p)
    (hp : ∀ axis, (p.on axis).Valid) : parse { grid := some text } = .ok (some p) := by
  refine parse_eq_ok_iff.mpr ⟨rfl, by simpa using ⟨p, h⟩, fun axis => ?_, hp⟩
  cases axis <;> exact ⟨p, h, rfl⟩

theorem parse_of_writesSpan {x y : String} {grid : Option String} {p : Placement}
    (hx : WritesSpan x p.x) (hy : WritesSpan y p.y) (hgrid : ∀ text ∈ grid, ∃ q, Writes text q)
    (hp : ∀ axis, (p.on axis).Valid) :
    parse { grid, gridx := some x, gridy := some y } = .ok (some p) := by
  refine parse_eq_ok_iff.mpr ⟨by simp [isEmpty], hgrid, fun axis => ?_, hp⟩
  cases axis
  · exact hx
  · exact hy

/-- No texts give no placement. In a placement that texts give, the span of each axis starts at the
first line or behind it and ends behind its start; it is decided by the text for that axis alone, if
there is one, or else by that for both axes, or else is the first cell, and nothing else makes a
difference to it. Every such placement is read as it is written, in each way that can spell it:
whole in one text, or axis by axis, also beside another one. The decimal digits of its lines write
them as long as no line has more of them than an integer may have. -/
theorem parse_reads_as_written :
    (∀ t : PlacementText,
      t.parse = .ok none ↔ t.grid = none ∧ t.gridx = none ∧ t.gridy = none) ∧
    (∀ (t : PlacementText) (p : Placement), t.parse = .ok (some p) → ∀ axis,
      1 ≤ (p.on axis).start ∧ (p.on axis).start < (p.on axis).stop ∧
        t.Decides axis (p.on axis)) ∧
    (∀ (t t' : PlacementText) (p p' : Placement) (axis : Axis), t.parse = .ok (some p) →
      t'.parse = .ok (some p') → t.along axis = t'.along axis →
      (t.along axis = none → t.grid = t'.grid) → p.on axis = p'.on axis) ∧
    (∀ p : Placement, (∀ axis, 1 ≤ (p.on axis).start ∧ (p.on axis).start < (p.on axis).stop) →
      (∀ text, Writes text p → parse { grid := some text } = .ok (some p)) ∧
      ∀ x y grid, WritesSpan x p.x → WritesSpan y p.y → (∀ text ∈ grid, ∃ q, Writes text q) →
        parse { grid, gridx := some x, gridy := some y } = .ok (some p)) ∧
    ∀ ns : List Nat, ns ≠ [] →
      (∀ n ∈ ns, (Decimal.digits n).length ≤ Numeral.maxIntegerDigits) →
      ListsIntegers (spacedDigits ns) (ns.map Int.ofNat) := by
  refine ⟨fun _ => parse_eq_none_iff, fun t p h axis => ?_, fun t t' p p' axis h h' => ?_,
    fun p hp => ⟨fun _ h => parse_of_writes h hp, fun _ _ _ hx hy hgrid =>
      parse_of_writesSpan hx hy hgrid hp⟩, fun _ => listsIntegers_spacedDigits⟩
  · obtain ⟨-, -, hdecides, hvalid⟩ := parse_eq_ok_iff.mp h
    obtain ⟨hstart, hstop⟩ := hvalid axis
    exact ⟨hstart, hstop, hdecides axis⟩
  · obtain ⟨-, -, hdecides, -⟩ := parse_eq_ok_iff.mp h
    obtain ⟨-, -, hdecides', -⟩ := parse_eq_ok_iff.mp h'
    exact (hdecides axis).unique (hdecides' axis)

theorem parse_reads_as_written_row :
    (∃ p, parse { grid := some "2, 3\t5", gridy := some "4 7" } = .ok (some p) ∧
      p.x.start < p.x.stop ∧ WritesSpan "4 7" p.y ∧
      ∃ q, parse { grid := some "2, 3\t5" } = .ok (some q) ∧ q.x = p.x ∧ q.y ≠ p.y) ∧
    spacedDigits [2, 3, 5] = "2 3 5" ∧
    parse { grid := some (spacedDigits [2, 3, 5]) } = .ok (some ⟨⟨2, 5⟩, Span.cell 3⟩) ∧
    parse { gridx := some "2 5", gridy := some "3" } = .ok (some ⟨⟨2, 5⟩, Span.cell 3⟩) := by
  obtain ⟨-, hsound, hsame, hwritten, hdigits⟩ := parse_reads_as_written
  have hp : parse { grid := some "2, 3\t5", gridy := some "4 7" } =
      .ok (some ⟨⟨2, 5⟩, ⟨4, 7⟩⟩) := by rfl
  have hq : parse { grid := some "2, 3\t5" } = .ok (some ⟨⟨2, 5⟩, Span.cell 3⟩) := by rfl
  have hx : WritesSpan "2 5" ⟨2, 5⟩ := (parseSpan_eq_ok_iff .x).mp rfl
  have hy : WritesSpan "3" (Span.cell 3) := (parseSpan_eq_ok_iff .y).mp rfl
  have hvalid : ∀ axis, 1 ≤ ((⟨⟨2, 5⟩, Span.cell 3⟩ : Placement).on axis).start ∧
      ((⟨⟨2, 5⟩, Span.cell 3⟩ : Placement).on axis).start <
        ((⟨⟨2, 5⟩, Span.cell 3⟩ : Placement).on axis).stop := by
    intro axis
    cases axis <;> decide
  have hlines : ListsIntegers (spacedDigits [2, 3, 5]) [2, 3, 5] :=
    hdigits [2, 3, 5] (by decide) (by decide)
  obtain ⟨hwhole, hspans⟩ := hwritten _ hvalid
  exact ⟨⟨_, hp, (hsound _ _ hp .x).2.1, (hsound _ _ hp .y).2.2, _, hq,
    hsame _ _ _ _ .x hq hp rfl fun _ => rfl, by decide⟩, by decide,
    hwhole _ ⟨_, hlines, .row ⟨2, 5⟩ 3⟩, hspans _ _ none hx hy (by simp)⟩

theorem parse_long_line {n : Nat} (hn : Numeral.maxIntegerDigits < (Decimal.digits n).length) :
    parse { grid := some (spacedDigits [n]) } = .error (.notIntegers (spacedDigits [n])) := by
  have hread : Numeral.integer? (String.ofList (Decimal.digits n)) = none := by
    rw [Numeral.integer?_digits, if_neg (by omega)]
  have hitems := Text.lists_iff.mp (lists_spacedDigits [n])
  have hgrid : parseGrid (spacedDigits [n]) = .error (.notIntegers (spacedDigits [n])) := by
    simp [parseGrid, parseIntegers, hitems, hread]
  simp [parse, isEmpty, optional, hgrid]

/-- The line has one digit too many for an integer: its placement is refused as it is written. -/
theorem long_line_refused :
    Spells [10 ^ 4300] ⟨Span.cell (10 ^ 4300), Span.cell (10 ^ 4300)⟩ ∧
    (∀ axis, ((⟨Span.cell (10 ^ 4300), Span.cell (10 ^ 4300)⟩ : Placement).on axis).Valid) ∧
    parse { grid := some (spacedDigits [10 ^ 4300]) } =
      .error (.notIntegers (spacedDigits [10 ^ 4300])) := by
  have hvalid (k : Nat) : (Span.cell (10 ^ k)).Valid :=
    ⟨Int.pow_pos (by decide), Int.lt_succ _⟩
  have hlong (k : Nat) (hk : 0 < k) : k < (Decimal.digits (10 ^ k)).length :=
    Numeral.lt_length_digits_pow hk
  refine ⟨.diagonal _, fun axis => ?_, parse_long_line (hlong 4300 (by decide))⟩
  cases axis <;> exact hvalid 4300

end PlacementText

end GridDiagram
