import GridDiagram.Proofs.Number.Numeral
import GridDiagram.Proofs.Exact
import Mathlib.Data.List.DropRight

/-!
Plain decimal numerals: digits without a superfluous zero in front, and a few decimals that do not
end with one. A magnitude with a fixed count of places is shortened to such a numeral, which is read
as the same number.
-/

namespace GridDiagram

/-- Digits without a superfluous zero in front. -/
structure IsWhole (cs : List Char) : Prop where
  ne_nil : cs ≠ []
  isDigit : ∀ c ∈ cs, c.isDigit = true
  head : cs.head? = some '0' → cs = ['0']

/-- A plain decimal numeral with at most `places` decimals: an optional minus sign, digits without a
superfluous zero in front and, if there are decimals, a point and the decimals, which do not end
with a zero. -/
inductive PlainNumeral (places : Nat) : List Char → Prop
  | whole (negative : Bool) {whole : List Char} (hwhole : IsWhole whole) :
      PlainNumeral places (Decimal.sign negative ++ whole)
  | fraction (negative : Bool) {whole fraction : List Char} (hwhole : IsWhole whole)
      (hne : fraction ≠ []) (hdigits : ∀ c ∈ fraction, c.isDigit = true)
      (hlast : fraction.getLast? ≠ some '0') (hplaces : fraction.length ≤ places) :
      PlainNumeral places (Decimal.sign negative ++ (whole ++ '.' :: fraction))

/-! ### Digits that are written -/

namespace Decimal

theorem digits_of_ten_le {n : Nat} (h : 10 ≤ n) :
    digits n = digits (n / 10) ++ [(n % 10).digitChar] :=
  Nat.toDigits_of_base_le (by decide) h

theorem head?_digits {n : Nat} (hn : n ≠ 0) : (digits n).head? ≠ some '0' := by
  induction n using Nat.strongRecOn with
  | _ n ih =>
    by_cases hsmall : n < 10
    · have hnonzero : ∀ m < 10, m ≠ 0 → (digits m).head? ≠ some '0' := by decide
      exact hnonzero n hsmall hn
    · have hten : 10 ≤ n := Nat.le_of_not_lt hsmall
      rw [digits_of_ten_le hten, List.head?_append_of_ne_nil _ (Numeral.digits_ne_nil _)]
      exact ih (n / 10) (by omega) (by omega)

theorem isWhole_digits (n : Nat) : IsWhole (digits n) where
  ne_nil := Numeral.digits_ne_nil n
  isDigit := fun _ => Numeral.isDigit_of_mem_digits
  head := fun h => by
    by_cases hn : n = 0
    · rw [hn]
      rfl
    · exact absurd h (head?_digits hn)

theorem isDigit_of_mem_padded {width n : Nat} {c : Char} (h : c ∈ padded width n) :
    c.isDigit = true := by
  obtain hzero | hdigit := List.mem_append.mp h
  · rw [List.eq_of_mem_replicate hzero]
    rfl
  · exact Numeral.isDigit_of_mem_digits hdigit

theorem length_padded {width n : Nat} (hwidth : 0 < width) (hn : n < 10 ^ width) :
    (padded width n).length = width := by
  have hlength : (digits n).length ≤ width := (Nat.length_toDigits_le_iff (by decide) hwidth).mpr hn
  simp only [padded, List.length_append, List.length_replicate]
  omega

theorem dropZeros_eq_rdropWhile (cs : List Char) : dropZeros cs = cs.rdropWhile (· == '0') := rfl

/-- The zeros at the end of digits are cut off, and nothing else. -/
theorem exists_dropZeros (cs : List Char) : ∃ k, cs = dropZeros cs ++ List.replicate k '0' := by
  induction cs using List.reverseRecOn with
  | nil => exact ⟨0, rfl⟩
  | append_singleton cs c ih =>
    rw [dropZeros_eq_rdropWhile, List.rdropWhile_concat]
    split_ifs with hzero
    · obtain ⟨k, hk⟩ := ih
      refine ⟨k + 1, ?_⟩
      rw [List.replicate_succ', ← List.append_assoc, ← dropZeros_eq_rdropWhile, ← hk,
        eq_of_beq hzero]
    · exact ⟨0, by simp⟩

theorem getLast?_dropZeros (cs : List Char) : (dropZeros cs).getLast? ≠ some '0' := by
  intro hlast
  rw [dropZeros, List.getLast?_reverse] at hlast
  have hnot := List.head?_dropWhile_not (· == '0') cs.reverse
  rw [hlast] at hnot
  simp at hnot

/-- Zeros are cut off up to the point at most. -/
theorem dropZeros_point (whole fraction : List Char) :
    dropZeros (whole ++ '.' :: fraction) = whole ++ '.' :: dropZeros fraction := by
  induction fraction using List.reverseRecOn with
  | nil => exact List.rdropWhile_concat_neg _ _ _ (by decide)
  | append_singleton cs c ih =>
    rw [← List.cons_append, ← List.append_assoc, dropZeros_eq_rdropWhile, dropZeros_eq_rdropWhile,
      List.rdropWhile_concat, List.rdropWhile_concat]
    split_ifs
    · exact ih
    · simp

theorem isDigit_of_mem_dropZeros {cs : List Char} (h : ∀ c ∈ cs, c.isDigit = true) :
    ∀ c ∈ dropZeros cs, c.isDigit = true :=
  fun c hc => h c ((List.rdropWhile_prefix _ _).subset hc)

/-- A point stays if decimals do. -/
theorem shorten_point {fraction : List Char} (h : ∀ c ∈ fraction, c.isDigit = true)
    (whole : List Char) : shorten (whole ++ '.' :: fraction) =
      if dropZeros fraction = [] then whole else whole ++ '.' :: dropZeros fraction := by
  unfold shorten
  rw [dropZeros_point]
  have hdigits := isDigit_of_mem_dropZeros h
  obtain hnone | ⟨cs, c, hcs⟩ := List.eq_nil_or_concat' (dropZeros fraction)
  · simp [hnone]
  · rw [hcs] at hdigits ⊢
    have hc : c.isDigit = true := hdigits c (by simp)
    rw [if_neg (by simp)]
    split
    · rename_i rest hrest
      have hpoint : c = '.' := by simpa using congrArg List.head? hrest
      rw [hpoint] at hc
      simp at hc
    · rfl

end Decimal

/-! ### Numerals that are read -/

namespace Numeral

theorem ofDigits_append (cs ds : List Char) :
    ofDigits (cs ++ ds) = ofDigits cs * 10 ^ ds.length + ofDigits ds := by
  induction ds using List.reverseRecOn with
  | nil => simp [ofDigits]
  | append_singleton ds d ih =>
    have hstep (es : List Char) :
        ofDigits (es ++ [d]) = 10 * ofDigits es + (d.toNat - '0'.toNat) := by
      simp [ofDigits]
    rw [← List.append_assoc, hstep, hstep, ih, List.length_append, List.length_singleton, pow_succ]
    ring

theorem ofDigits_zeros (k : Nat) : ofDigits (List.replicate k '0') = 0 := by
  induction k with
  | zero => rfl
  | succ k ih =>
    rw [List.replicate_succ', ofDigits_append, ih]
    rfl

/-- Decimals stand for the same fraction without the zeros at their end. -/
theorem ofDigits_dropZeros (cs : List Char) :
    (ofDigits (Decimal.dropZeros cs) : Rat) / 10 ^ (Decimal.dropZeros cs).length =
      ofDigits cs / 10 ^ cs.length := by
  obtain ⟨k, hk⟩ := Decimal.exists_dropZeros cs
  generalize Decimal.dropZeros cs = kept at hk ⊢
  subst hk
  rw [ofDigits_append, ofDigits_zeros, List.length_append, List.length_replicate, pow_add]
  push_cast
  rw [add_zero, mul_div_mul_right _ _ (by positivity)]

theorem ofDigits_padded (width n : Nat) : ofDigits (Decimal.padded width n) = n := by
  rw [Decimal.padded, ofDigits_append, ofDigits_zeros, ofDigits_digits, Nat.zero_mul, Nat.zero_add]

theorem takeSign_sign (negative : Bool) {d : Char} (hd : d.isDigit = true) (body : List Char) :
    takeSign (Decimal.sign negative ++ d :: body) = (negative, d :: body) := by
  cases negative with
  | true => rfl
  | false =>
    have hplus : d ≠ '+' := by
      rintro rfl
      simp at hd
    have hminus : d ≠ '-' := by
      rintro rfl
      simp at hd
    simp [Decimal.sign, takeSign, hplus, hminus]

/-- What starts with a digit is no word. -/
theorem ofList_ne_of_isDigit {d : Char} (hd : d.isDigit = true) (body : List Char) {c : Char}
    (hc : c.isDigit = false) (cs : List Char) :
    String.ofList (d :: body) ≠ String.ofList (c :: cs) := by
  intro h
  have hsame : d = c := (List.cons.inj (String.ofList_injective h)).1
  rw [hsame, hc] at hd
  cases hd

theorem toLower_of_isDigit {d : Char} (hd : d.isDigit = true) : d.toLower = d := by
  obtain ⟨hlow, hhigh⟩ := Char.isDigit_iff_toNat.mp hd
  have hself : ∀ n < 58, 48 ≤ n → (Char.ofNat n).toLower = Char.ofNat n := by decide
  simpa using hself d.toNat (Nat.lt_succ_of_le hhigh) hlow

/-- A numeral in plain characters that starts with a digit, behind a minus sign or not, is a decimal
fraction. -/
theorem parse?_of_isPlain (negative : Bool) {d : Char} {body : List Char} (hd : d.isDigit = true)
    (hbody : ∀ c ∈ body, IsPlain c) :
    parse? (String.ofList (Decimal.sign negative ++ d :: body)) =
      decimal? negative (d :: body) := by
  have hplain : ∀ c ∈ Decimal.sign negative ++ d :: body, IsPlain c := by
    cases negative <;> simp [Decimal.sign, IsPlain, hd] <;> exact hbody
  have hword {c : Char} (hc : c.isDigit = false) (cs : List Char) :
      (String.ofList ((d :: body).map Char.toLower) == String.ofList (c :: cs)) = false := by
    rw [List.map_cons, toLower_of_isDigit hd]
    exact beq_false_of_ne (ofList_ne_of_isDigit hd _ hc cs)
  have hinf := hword (c := 'i') rfl ['n', 'f']
  have hinfinity := hword (c := 'i') rfl ['n', 'f', 'i', 'n', 'i', 't', 'y']
  have hnan := hword (c := 'n') rfl ['a', 'n']
  rw [parse?, plain?_of_isPlain hplain, Option.bind_some, takeSign_sign negative hd]
  simp only [hinf, hinfinity, hnan, Bool.or_self, Bool.false_eq_true, if_false]

theorem decimal?_whole (negative : Bool) {whole : List Char} (hne : whole ≠ [])
    (hwhole : ∀ c ∈ whole, c.isDigit = true) :
    decimal? negative whole = some (.finite negative (ofDigits whole) 0) := by
  have htake : takeFraction whole = (whole, [], []) := by
    unfold takeFraction
    rw [List.takeWhile_eq_self_iff.mpr hwhole, List.dropWhile_eq_nil_iff.mpr hwhole]
  simp [decimal?, htake, hne, exponent?]

theorem decimal?_fraction (negative : Bool) {whole fraction : List Char} (hne : whole ≠ [])
    (hwhole : ∀ c ∈ whole, c.isDigit = true) (hfraction : ∀ c ∈ fraction, c.isDigit = true) :
    decimal? negative (whole ++ '.' :: fraction) =
      some (.finite negative (ofDigits (whole ++ fraction)) (-fraction.length)) := by
  have htake : takeFraction (whole ++ '.' :: fraction) = (whole, fraction, []) := by
    unfold takeFraction
    rw [List.takeWhile_append_of_pos hwhole, List.dropWhile_append_of_pos hwhole,
      List.takeWhile_cons_of_neg (by decide), List.dropWhile_cons_of_neg (by decide)]
    simp [List.takeWhile_eq_self_iff.mpr hfraction, List.dropWhile_eq_nil_iff.mpr hfraction]
  simp [decimal?, htake, hne, exponent?]

end Numeral

/-! ### Numerals that are written and read -/

/-- The number of a sign and a magnitude. -/
def signed (negative : Bool) (magnitude : Rat) : Rat :=
  if negative then -magnitude else magnitude

theorem parse?_eq_signed {s : String} {negative : Bool} {digits : Nat} {exponent : Int}
    (h : Numeral.parse? s = some (.finite negative digits exponent)) :
    (Scalar.parse? s : Option Rat) = some (signed negative ((digits : Rat) * 10 ^ exponent)) := by
  rw [Scalar.parse?, h]
  rfl

namespace Decimal

/-- The digits of a natural number, behind a minus sign or not, are a plain numeral of it. -/
theorem parse?_digits (negative : Bool) (n places : Nat) :
    PlainNumeral places (sign negative ++ digits n) ∧
      (Scalar.parse? (String.ofList (sign negative ++ digits n)) : Option Rat) =
        some (signed negative n) := by
  have hwhole := isWhole_digits n
  refine ⟨.whole negative hwhole, ?_⟩
  have hread : Numeral.parse? (String.ofList (sign negative ++ digits n)) =
      some (.finite negative n 0) := by
    obtain ⟨d, body, hbody⟩ := List.exists_cons_of_ne_nil hwhole.ne_nil
    have hdigits := hwhole.isDigit
    rw [hbody, List.forall_mem_cons] at hdigits
    rw [hbody, Numeral.parse?_of_isPlain negative hdigits.1 fun c hc => .inl (hdigits.2 c hc),
      ← hbody, Numeral.decimal?_whole negative hwhole.ne_nil hwhole.isDigit,
      Numeral.ofDigits_digits]
  rw [parse?_eq_signed hread, zpow_zero, mul_one]

/-- Digits on both sides of a point, behind a minus sign or not, are read as a decimal fraction. -/
theorem parse?_point (negative : Bool) {whole fraction : List Char} (hwhole : IsWhole whole)
    (hfraction : ∀ c ∈ fraction, c.isDigit = true) :
    (Scalar.parse? (String.ofList (sign negative ++ (whole ++ '.' :: fraction))) : Option Rat) =
      some (signed negative (Numeral.ofDigits whole +
        (Numeral.ofDigits fraction : Rat) / 10 ^ fraction.length)) := by
  have hread : Numeral.parse? (String.ofList (sign negative ++ (whole ++ '.' :: fraction))) =
      some (.finite negative (Numeral.ofDigits (whole ++ fraction)) (-fraction.length)) := by
    obtain ⟨d, body, rfl⟩ := List.exists_cons_of_ne_nil hwhole.ne_nil
    obtain ⟨hd, hbody⟩ := List.forall_mem_cons.mp hwhole.isDigit
    have hplain : ∀ c ∈ body ++ '.' :: fraction, Numeral.IsPlain c := by
      rintro c hc
      obtain hc | rfl | hc := by simpa using hc
      · exact .inl (hbody c hc)
      · exact .inr (.inr rfl)
      · exact .inl (hfraction c hc)
    rw [List.cons_append, Numeral.parse?_of_isPlain negative hd hplain, ← List.cons_append,
      Numeral.decimal?_fraction negative hwhole.ne_nil hwhole.isDigit hfraction]
  have hpos : (0 : Rat) < 10 ^ fraction.length := by positivity
  rw [parse?_eq_signed hread, Numeral.ofDigits_append, zpow_neg, zpow_natCast]
  push_cast
  rw [← div_eq_mul_inv, add_div, mul_div_cancel_right₀ _ hpos.ne']

/-- A magnitude that is written with a count of places and shortened is a plain numeral of what it
is rounded to. -/
theorem parse?_shorten_fixed {places : Nat} (hplaces : 0 < places) (negative : Bool)
    (magnitude : Rat) :
    PlainNumeral places (shorten (fixed places negative magnitude)) ∧
      (Scalar.parse? (String.ofList (shorten (fixed places negative magnitude))) : Option Rat) =
        some (signed negative
          ((roundMagnitude (magnitude * 10 ^ places) : Rat) / 10 ^ places)) := by
  have hten : ((Nat.pow 10 places : Nat) : Rat) = 10 ^ places := by
    simp
  have hpos : (0 : Rat) < 10 ^ places := by positivity
  unfold fixed
  rw [hten]
  generalize roundMagnitude (magnitude * 10 ^ places) = scaled
  dsimp only [Nat.pow_eq]
  have hsplit : scaled / 10 ^ places * 10 ^ places + scaled % 10 ^ places = scaled :=
    Nat.div_add_mod' scaled (10 ^ places)
  have hfraction : scaled % 10 ^ places < 10 ^ places := Nat.mod_lt _ (by positivity)
  generalize scaled / 10 ^ places = whole at *
  generalize scaled % 10 ^ places = fraction at *
  subst hsplit
  have hdigits : ∀ c ∈ padded places fraction, c.isDigit = true := fun _ => isDigit_of_mem_padded
  rw [shorten_point hdigits]
  have hlength := length_padded hplaces hfraction
  have hshort : (dropZeros (padded places fraction)).length ≤ places :=
    (List.rdropWhile_prefix _ _).length_le.trans_eq hlength
  have hvalue := Numeral.ofDigits_dropZeros (padded places fraction)
  rw [Numeral.ofDigits_padded, hlength] at hvalue
  push_cast
  rw [add_div, mul_div_cancel_right₀ _ hpos.ne', ← hvalue]
  split_ifs with hnone
  · obtain ⟨hplain, hread⟩ := parse?_digits negative whole places
    refine ⟨hplain, hread.trans ?_⟩
    simp [hnone, Numeral.ofDigits]
  · have hkept := isDigit_of_mem_dropZeros hdigits
    rw [List.append_assoc, parse?_point negative (isWhole_digits whole) hkept,
      Numeral.ofDigits_digits]
    exact ⟨.fraction negative (isWhole_digits whole) hnone hkept (getLast?_dropZeros _) hshort, rfl⟩

end Decimal

end GridDiagram
