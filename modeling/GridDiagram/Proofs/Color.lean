import GridDiagram.Color.Parser
import GridDiagram.Proofs.Outcome
import GridDiagram.Proofs.Text

/-!
Colours and their hexadecimal form. A colour whose channels take two digits each is read back from
it; no other colour has such a form.
-/

namespace GridDiagram

namespace Color

/-- The digits of hexadecimal forms. -/
def hexAlphabet : List Char :=
  ['0', '1', '2', '3', '4', '5', '6', '7', '8', '9', 'a', 'b', 'c', 'd', 'e', 'f']

/-- A text is the hexadecimal form of a colour, with two digits for each channel. -/
def IsHexForm (s : String) : Prop :=
  ∃ ds, s = String.ofList ('#' :: ds) ∧ ds.length = 6 ∧ ∀ d ∈ ds, d ∈ hexAlphabet

/-- A channel that two hexadecimal digits are enough for. -/
def FitsByte (n : Int) : Prop :=
  0 ≤ n ∧ n < 256

/-- A colour whose channels are all between 0 and 255. -/
structure Fits (c : Color) : Prop where
  red : FitsByte c.red
  green : FitsByte c.green
  blue : FitsByte c.blue

/-! ### Digits -/

theorem hexValue?_digitChar : ∀ n < 16, hexValue? (Nat.digitChar n) = some n := by
  decide

theorem digitChar_mem_hexAlphabet : ∀ n < 16, Nat.digitChar n ∈ hexAlphabet := by
  decide

theorem hexValue?_lt {c : Char} {n : Nat} (h : hexValue? c = some n) : n < 16 := by
  unfold hexValue? at h
  split at h
  · rename_i hdigit
    obtain rfl := Option.some.inj h
    have hle := (Char.isDigit_iff_toNat.mp hdigit).2
    simp only [Char.reduceToNat] at hle ⊢
    omega
  · split at h
    · rename_i hletter
      obtain rfl := Option.some.inj h
      have hle : c.toNat ≤ 'f'.toNat := hletter.2
      simp only [Char.reduceToNat] at hle ⊢
      omega
    · cases h

/-- The two hexadecimal digits of a channel for which they are enough. -/
def byteDigits (n : Int) : List Char :=
  [Nat.digitChar (n.toNat / 16), Nat.digitChar (n.toNat % 16)]

theorem channelDigits_of_fits {n : Int} (h : FitsByte n) : channelDigits n = byteDigits n := by
  obtain ⟨m, rfl⟩ := Int.eq_ofNat_of_zero_le h.1
  have hlt : m < 256 := by have := h.2; omega
  have hnot : ¬(m : Int) < 0 := by omega
  rw [channelDigits, if_neg hnot, Int.natAbs_natCast, byteDigits, Int.toNat_natCast,
    Text.hexDigits, Nat.toDigits_eq_if (by decide)]
  split
  · rename_i hdigit
    rw [Nat.div_eq_of_lt hdigit, Nat.mod_eq_of_lt hdigit]
    rfl
  · rw [Nat.toDigits_of_lt_base (by omega)]
    rfl

theorem mapM_byteDigits {n : Int} (h : FitsByte n) :
    (byteDigits n).mapM hexValue? = some [n.toNat / 16, n.toNat % 16] := by
  have hlt := h.2
  rw [Option.mapM_eq_some]
  exact .cons (hexValue?_digitChar _ (by omega)) (.cons (hexValue?_digitChar _ (by omega)) .nil)

theorem byteDigits_mem_hexAlphabet {n : Int} (h : FitsByte n) :
    ∀ d ∈ byteDigits n, d ∈ hexAlphabet := by
  have hlt := h.2
  exact List.forall_mem_cons.mpr ⟨digitChar_mem_hexAlphabet _ (by omega),
    List.forall_mem_singleton.mpr (digitChar_mem_hexAlphabet _ (by omega))⟩

/-- The characters of the forms of all colours, with the sign of a channel below zero. -/
def hexCharacters : List Char :=
  '#' :: '-' :: hexAlphabet

-- These two are decided along the list: there are too many characters to go through all of them.

theorem isBlank_of_mem_hexCharacters : ∀ d ∈ hexCharacters, Text.isBlank d = false := by
  have hall : hexCharacters.all (!Text.isBlank ·) = true := by decide
  simpa using hall

theorem isLower_of_mem_hexCharacters : ∀ d ∈ hexCharacters, Text.IsLower d := by
  have hall : hexCharacters.all (Text.IsLower ·) = true := rfl
  simpa using hall

theorem mem_hexAlphabet_of_mem_toDigits (n : Nat) : ∀ d ∈ Nat.toDigits 16 n, d ∈ hexAlphabet := by
  induction n using Nat.strongRecOn with
  | ind n ih =>
    rw [Nat.toDigits_eq_if (by decide)]
    split
    · rename_i hdigit
      exact List.forall_mem_singleton.mpr (digitChar_mem_hexAlphabet n hdigit)
    · exact List.forall_mem_append.mpr ⟨ih (n / 16) (by omega),
        List.forall_mem_singleton.mpr (digitChar_mem_hexAlphabet _ (Nat.mod_lt _ (by decide)))⟩

theorem mem_hexAlphabet_of_mem_hexDigits (width n : Nat) :
    ∀ d ∈ Text.hexDigits width n, d ∈ hexAlphabet := by
  refine List.forall_mem_append.mpr ⟨fun d hd => ?_, mem_hexAlphabet_of_mem_toDigits n⟩
  rw [List.eq_of_mem_replicate hd]
  exact List.mem_cons_self

theorem mem_hexCharacters_of_mem_channelDigits (n : Int) :
    ∀ d ∈ channelDigits n, d ∈ hexCharacters := by
  have digits (width : Nat) : ∀ d ∈ Text.hexDigits width n.natAbs, d ∈ hexCharacters :=
    fun d hd => List.mem_cons_of_mem _ (List.mem_cons_of_mem _
      (mem_hexAlphabet_of_mem_hexDigits width _ d hd))
  unfold channelDigits
  split
  · exact List.forall_mem_cons.mpr ⟨by decide, digits 1⟩
  · exact digits 2

theorem names_ne_hash : ∀ p ∈ colorNames, p.1.toList.head? ≠ some '#' := by
  have hall : colorNames.all (·.1.front? != some '#') = true := by decide +kernel
  simpa [String.front?_eq] using hall

/-- Two digits for each channel are enough only for the channels that fit. -/
theorem fitsByte_of_channelDigits {n : Int} (hlength : (channelDigits n).length ≤ 2)
    (hdigits : ∀ d ∈ channelDigits n, d ∈ hexAlphabet) : FitsByte n := by
  unfold channelDigits at hlength hdigits
  split at hlength
  · rename_i hneg
    rw [if_pos hneg] at hdigits
    exact absurd (hdigits '-' List.mem_cons_self) (by decide)
  · rename_i hpos
    have hle : (Nat.toDigits 16 n.natAbs).length ≤ 2 := by
      simp only [Text.hexDigits, List.length_append, List.length_replicate] at hlength
      omega
    have hlt := (Nat.length_toDigits_le_iff (by decide) (by decide)).mp hle
    constructor <;> omega

theorem two_le_length_channelDigits (n : Int) : 2 ≤ (channelDigits n).length := by
  unfold channelDigits
  split
  · have hpos := Nat.length_toDigits_pos (b := 16) (n := n.natAbs)
    simp only [Text.hexDigits, List.length_cons, List.length_append, List.length_replicate]
    omega
  · simp only [Text.hexDigits, List.length_append, List.length_replicate]
    omega

/-! ### Forms of colours -/

theorem mem_hexCharacters_of_mem_hex (c : Color) :
    ∀ d ∈ '#' :: channelDigits c.red ++ channelDigits c.green ++ channelDigits c.blue,
      d ∈ hexCharacters := by
  simp only [List.cons_append, List.forall_mem_cons, List.forall_mem_append]
  exact ⟨List.mem_cons_self, ⟨mem_hexCharacters_of_mem_channelDigits _,
    mem_hexCharacters_of_mem_channelDigits _⟩, mem_hexCharacters_of_mem_channelDigits _⟩

theorem strip_hex (c : Color) : Text.strip c.hex = c.hex :=
  Text.strip_ofList fun d hd => isBlank_of_mem_hexCharacters d (mem_hexCharacters_of_mem_hex c d hd)

theorem lowercase_hex (c : Color) : Text.lowercase c.hex = c.hex :=
  Text.lowercase_ofList fun d hd =>
    isLower_of_mem_hexCharacters d (mem_hexCharacters_of_mem_hex c d hd)

theorem hex_ne_of_head? (c : Color) {s : String} (h : s.toList.head? ≠ some '#') : c.hex ≠ s := by
  rintro rfl
  exact h (by rw [hex, String.toList_ofList]; rfl)

theorem hex_of_fits {c : Color} (h : c.Fits) : c.hex =
    String.ofList ('#' :: (byteDigits c.red ++ byteDigits c.green ++ byteDigits c.blue)) := by
  rw [hex, channelDigits_of_fits h.red, channelDigits_of_fits h.green, channelDigits_of_fits h.blue]
  rfl

theorem isHexForm_hex_iff {c : Color} : IsHexForm c.hex ↔ c.Fits := by
  constructor
  · rintro ⟨ds, hds, hlength, hmem⟩
    have hcons : '#' :: (channelDigits c.red ++ channelDigits c.green ++ channelDigits c.blue) =
        '#' :: ds := String.ofList_injective hds
    obtain rfl := (List.cons.inj hcons).2
    simp only [List.length_append] at hlength
    have hred := two_le_length_channelDigits c.red
    have hgreen := two_le_length_channelDigits c.green
    have hblue := two_le_length_channelDigits c.blue
    simp only [List.forall_mem_append] at hmem
    exact ⟨fitsByte_of_channelDigits (by omega) hmem.1.1,
      fitsByte_of_channelDigits (by omega) hmem.1.2, fitsByte_of_channelDigits (by omega) hmem.2⟩
  · intro h
    refine ⟨_, hex_of_fits h, rfl, ?_⟩
    simp only [List.forall_mem_append]
    exact ⟨⟨byteDigits_mem_hexAlphabet h.red, byteDigits_mem_hexAlphabet h.green⟩,
      byteDigits_mem_hexAlphabet h.blue⟩

/-! ### Reading -/

theorem ofHex_fits (n : Nat) : (ofHex n).Fits := by
  constructor <;> simp only [ofHex, FitsByte] <;> omega

theorem ofHash?_fits {ds : List Char} {c : Color} (h : ofHash? ds = some c) : c.Fits := by
  obtain ⟨vs, hvs, h⟩ := Option.bind_eq_some_iff.mp h
  have hlt : ∀ v ∈ vs, v < 16 := fun v hv => by
    obtain ⟨d, -, hd⟩ := (Option.mapM_eq_some.mp hvs).exists_left hv
    exact hexValue?_lt hd
  split at h <;> simp only [Option.some.injEq, reduceCtorEq] at h <;> subst h <;>
    simp only [List.forall_mem_cons] at hlt <;>
    constructor <;> simp only [FitsByte] <;> omega

/-- Colours out of the range of two digits are given by the arguments of a colour space. -/
theorem fits_or_ofCall? {s : String} {c : Color} (h : parse? s = some c) :
    c.Fits ∨ ofCall? (Text.lowercase s).toList = some c := by
  unfold parse? at h
  dsimp only at h
  split at h
  · cases h
  · split at h
    · obtain rfl := Option.some.inj h
      exact .inl (ofHex_fits _)
    · split at h
      · exact .inl (ofHash?_fits h)
      · exact .inr h

theorem ofHash?_byteDigits {c : Color} (h : c.Fits) :
    ofHash? (byteDigits c.red ++ byteDigits c.green ++ byteDigits c.blue) = some c := by
  have whole (n : Int) (hn : FitsByte n) :
      16 * ((n.toNat / 16 : Nat) : Int) + (n.toNat % 16 : Nat) = n := by
    have hpos := hn.1
    omega
  have hvalues : (byteDigits c.red ++ byteDigits c.green ++ byteDigits c.blue).mapM hexValue? =
      some ([c.red.toNat / 16, c.red.toNat % 16] ++ [c.green.toNat / 16, c.green.toNat % 16] ++
        [c.blue.toNat / 16, c.blue.toNat % 16]) := by
    simp only [List.mapM_append, mapM_byteDigits h.red, mapM_byteDigits h.green,
      mapM_byteDigits h.blue]
    rfl
  rw [ofHash?, hvalues]
  simp only [List.cons_append, List.nil_append, Option.bind_some, whole _ h.red, whole _ h.green,
    whole _ h.blue]

/-- The form of a colour is read by its digits, if it is not too long. -/
theorem parsePaint?_hex (c : Color) : parsePaint? c.hex =
    if maxLength < c.hex.length then none
    else
      (ofHash? (channelDigits c.red ++ channelDigits c.green ++
        channelDigits c.blue)).map some := by
  have hnone : ¬(c.hex == "none" || c.hex == "transparent") = true := by
    rw [Bool.or_eq_true, beq_iff_eq, beq_iff_eq]
    exact not_or.mpr ⟨hex_ne_of_head? c (by decide), hex_ne_of_head? c (by decide)⟩
  have hlookup : colorNames.lookup c.hex = none := by
    refine List.lookup_eq_none_iff.mpr fun p hp => ?_
    exact bne_iff_ne.mpr (hex_ne_of_head? c (names_ne_hash p hp))
  simp only [parsePaint?, strip_hex, lowercase_hex, if_neg hnone, parse?, String.ofList_toList,
    hlookup]
  split
  · rfl
  · rw [hex, String.toList_ofList]
    rfl

theorem parsePaint?_hex_eq_self_iff {c : Color} : parsePaint? c.hex = some (some c) ↔ c.Fits := by
  rw [parsePaint?_hex]
  constructor
  · intro h
    split at h
    · cases h
    · obtain ⟨c', hc, hsame⟩ := Option.map_eq_some_iff.mp h
      obtain rfl := Option.some.inj hsame
      exact ofHash?_fits hc
  · intro h
    have hshort : ¬maxLength < c.hex.length := by
      rw [hex_of_fits h, String.length_ofList]
      exact (by decide : ¬100 < 7)
    rw [if_neg hshort, channelDigits_of_fits h.red, channelDigits_of_fits h.green,
      channelDigits_of_fits h.blue, ofHash?_byteDigits h]
    rfl

end Color

/-- The form of every paint that can be read is `none` or six hexadecimal digits, and is read as
that paint, exactly if each channel of its colour is between 0 and 255. Only the arguments of a
colour space give other channels. -/
theorem paintText_roundTrip (s : String) (paint : Option Color)
    (h : Color.parsePaint? s = some paint) :
    ((paintText paint = "none" ∨ Color.IsHexForm (paintText paint)) ↔ ∀ c ∈ paint, c.Fits) ∧
    (Color.parsePaint? (paintText paint) = some paint ↔ ∀ c ∈ paint, c.Fits) ∧
    ∀ c ∈ paint, c.Fits ∨ Color.ofCall? (Text.lowercase (Text.strip s)).toList = some c := by
  cases paint with
  | none =>
    have hread : Color.parsePaint? "none" = some none := rfl
    simp [paintText, hread]
  | some c =>
    have hne : paintText (some c) ≠ "none" := Color.hex_ne_of_head? c (by decide)
    have hparse : Color.parse? (Text.strip s) = some c := by
      simp only [Color.parsePaint?] at h
      split at h
      · cases h
      · simpa using h
    refine ⟨?_, ?_, ?_⟩
    · rw [or_iff_right hne]
      simpa [paintText] using Color.isHexForm_hex_iff
    · simpa [paintText] using Color.parsePaint?_hex_eq_self_iff
    · simpa using Color.fits_or_ofCall? hparse

theorem cyan_paintText_roundTrip :
    Color.parsePaint? " RGB(16, 255 ,250) " = some (some ⟨16, 255, 250⟩) ∧
      Color.IsHexForm "#10fffa" ∧ Color.parsePaint? "#10fffa" = some (some ⟨16, 255, 250⟩) := by
  have hread : Color.parsePaint? " RGB(16, 255 ,250) " = some (some ⟨16, 255, 250⟩) := rfl
  have hfits : ∀ c ∈ some (⟨16, 255, 250⟩ : Color), c.Fits := by
    rintro c ⟨⟩
    exact ⟨⟨by decide, by decide⟩, ⟨by decide, by decide⟩, ⟨by decide, by decide⟩⟩
  have htext : paintText (some ⟨16, 255, 250⟩) = "#10fffa" := rfl
  obtain ⟨hform, hparse, -⟩ := paintText_roundTrip _ _ hread
  rw [htext] at hform hparse
  exact ⟨hread, (hform.mpr hfits).resolve_left (by decide), hparse.mpr hfits⟩

/-- A channel of 300 takes three digits, and the form with seven of them is not read. -/
theorem brightRed_not_hexForm :
    Color.parsePaint? "rgb(300,0,0)" = some (some ⟨300, 0, 0⟩) ∧
      ¬(paintText (some ⟨300, 0, 0⟩) = "none" ∨
        Color.IsHexForm (paintText (some ⟨300, 0, 0⟩))) ∧
      Color.parsePaint? (paintText (some ⟨300, 0, 0⟩)) = none := by
  refine ⟨rfl, ?_, ?_⟩
  · rintro (hnone | hform)
    · exact Color.hex_ne_of_head? ⟨300, 0, 0⟩ (by decide) hnone
    · exact absurd (Color.isHexForm_hex_iff.mp hform).red.2 (by decide)
  · rw [paintText, Color.parsePaint?_hex]
    decide

end GridDiagram
