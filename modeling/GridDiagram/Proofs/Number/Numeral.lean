import GridDiagram.Number.Decimal
import GridDiagram.Number.Numeral
import GridDiagram.Proofs.Text
import Mathlib.Data.Nat.Digits.Defs

/-!
Decimal digits read back as the number that they were written for.
-/

namespace GridDiagram.Numeral

theorem ofDigits_digits (n : Nat) : ofDigits (Decimal.digits n) = n :=
  Nat.ofDigitChars_toDigits (by decide) (by decide)

theorem isDigit_of_mem_digits {n : Nat} {c : Char} (h : c ∈ Decimal.digits n) :
    c.isDigit = true :=
  Nat.isDigit_of_mem_toDigits (by decide) (by decide) h

theorem digits_ne_nil (n : Nat) : Decimal.digits n ≠ [] :=
  Nat.toDigits_ne_nil

theorem isBlank_of_isDigit {c : Char} (h : c.isDigit = true) : Text.isBlank c = false := by
  obtain ⟨hlow, hhigh⟩ := Char.isDigit_iff_toNat.mp h
  simp only [Char.reduceToNat] at hlow hhigh
  simp [Text.isBlank]
  omega

/-- A power of ten has one digit more than its exponent says. -/
theorem lt_length_digits_pow {k : Nat} (hk : 0 < k) : k < (Decimal.digits (10 ^ k)).length :=
  Nat.lt_of_not_le fun hle => Nat.lt_irrefl _ ((Nat.length_toDigits_le_iff (by decide) hk).mp hle)

/-- Digits do not end an item of a text. -/
theorem uncut_digits (n : Nat) : ∀ c ∈ Decimal.digits n, (Text.isBlank c || c == ',') = false := by
  intro c hc
  have hdigit := isDigit_of_mem_digits hc
  have hcomma : c ≠ ',' := by
    rintro rfl
    simp at hdigit
  simp [isBlank_of_isDigit hdigit, hcomma]

theorem isMargin_of_isDigit {c : Char} (h : c.isDigit = true) : isMargin c = false := by
  rw [isMargin, isBlank_of_isDigit h, Bool.false_and]

theorem plainDigit_of_isDigit {c : Char} (h : c.isDigit = true) : plainDigit c = c := by
  obtain ⟨hlow, hhigh⟩ := Char.isDigit_iff_toNat.mp h
  have hself : ∀ n < 58, 48 ≤ n → plainDigit (Char.ofNat n) = Char.ofNat n := by decide
  simpa using hself c.toNat (Nat.lt_succ_of_le hhigh) hlow

theorem dropUnderscores_of_ne {cs : List Char} (h : ∀ c ∈ cs, c ≠ '_') (afterDigit : Bool) :
    dropUnderscores afterDigit cs = some cs := by
  induction cs generalizing afterDigit with
  | nil => rfl
  | cons c cs ih =>
    obtain ⟨hne, hcs⟩ := List.forall_mem_cons.mp h
    rw [dropUnderscores, ih hcs]
    · rfl
    · exact fun h _ => hne h
    · exact fun _ _ h _ => hne h

theorem takeSign_of_isDigit {cs : List Char} (h : ∀ c ∈ cs, c.isDigit = true) :
    takeSign cs = (false, cs) := by
  unfold takeSign
  split
  · simp at h
  · simp at h
  · rfl

/-- A character of a numeral that is read as it stands. -/
def IsPlain (c : Char) : Prop :=
  c.isDigit = true ∨ c = '-' ∨ c = '.'

theorem IsPlain.kept {c : Char} (h : IsPlain c) :
    isMargin c = false ∧ plainDigit c = c ∧ c ≠ '_' := by
  obtain hdigit | rfl | rfl := h
  · refine ⟨isMargin_of_isDigit hdigit, plainDigit_of_isDigit hdigit, ?_⟩
    rintro rfl
    simp at hdigit
  · decide
  · decide

/-- Plain characters have nothing between them to leave out. -/
theorem plain?_of_isPlain {cs : List Char} (h : ∀ c ∈ cs, IsPlain c) :
    plain? (String.ofList cs) = some cs := by
  have hplain : cs.map plainDigit = cs := by
    rw [List.map_congr_left fun c hc => (h c hc).kept.2.1, List.map_id']
  rw [plain?, String.toList_ofList, Text.trim_eq_self fun c hc => (h c hc).kept.1, hplain,
    dropUnderscores_of_ne fun c hc => (h c hc).kept.2.2]

/-- Decimal digits are read as the number that they are the digits of, unless there are too many. -/
theorem integer?_digits (n : Nat) :
    integer? (String.ofList (Decimal.digits n)) =
      if (Decimal.digits n).length ≤ maxIntegerDigits then some (n : Int) else none := by
  have hdigits : ∀ c ∈ Decimal.digits n, c.isDigit = true := fun _ => isDigit_of_mem_digits
  have hall : (Decimal.digits n).all Char.isDigit = true := List.all_eq_true.mpr hdigits
  have hplain := plain?_of_isPlain fun c hc => .inl (hdigits c hc)
  simp [-List.all_eq_true, integer?, hplain, takeSign_of_isDigit hdigits, digits_ne_nil,
    ofDigits_digits, hall]

end GridDiagram.Numeral
