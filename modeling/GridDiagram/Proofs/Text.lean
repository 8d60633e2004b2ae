import GridDiagram.Text.Blank
import GridDiagram.Text.Case
import Mathlib.Data.List.TakeWhile

/-!
Texts that are trimmed, put in lower case and cut into lines or items: texts that stay as they are,
the lines of a text, which keep all of it but blanks, and the items of a text that is put together
from them.
-/

namespace GridDiagram.Text

/-! ### Ends and case -/

theorem dropWhile_eq_self {p : Char → Bool} {cs : List Char} (h : ∀ c ∈ cs, p c = false) :
    cs.dropWhile p = cs := by
  cases cs with
  | nil => rfl
  | cons c cs => simp [h c List.mem_cons_self]

/-- A text without any character that is dropped is trimmed already. -/
theorem trim_eq_self {p : Char → Bool} {cs : List Char} (h : ∀ c ∈ cs, p c = false) :
    trim p cs = cs := by
  rw [trim, dropWhile_eq_self h, trimEnd, dropWhile_eq_self (by simpa using h),
    List.reverse_reverse]

theorem strip_ofList {cs : List Char} (h : ∀ c ∈ cs, isBlank c = false) :
    strip (String.ofList cs) = String.ofList cs := by
  rw [strip, String.toList_ofList, trim_eq_self h]

/-- A character that is in lower case wherever it stands. -/
def IsLower (c : Char) : Prop :=
  c ≠ 'İ' ∧ c ≠ 'Σ' ∧ lowerChar c = c

instance (c : Char) : Decidable (IsLower c) :=
  inferInstanceAs (Decidable (_ ∧ _))

theorem lowerAfter_eq_self {cs : List Char} (h : ∀ c ∈ cs, IsLower c) (before : List Char) :
    lowerAfter before cs = cs := by
  induction cs generalizing before with
  | nil => rfl
  | cons c cs ih =>
    obtain ⟨⟨hdotted, hsigma, hlower⟩, hcs⟩ := List.forall_mem_cons.mp h
    simp [lowerAfter, hdotted, hsigma, hlower, ih hcs]

theorem lowercase_ofList {cs : List Char} (h : ∀ c ∈ cs, IsLower c) :
    lowercase (String.ofList cs) = String.ofList cs := by
  rw [lowercase, String.toList_ofList, lowerAfter_eq_self h]

/-! ### Lines -/

section Lines

variable {p : Char → Bool} {cs : List Char}

theorem filter_dropWhile (p : Char → Bool) (cs : List Char) :
    (cs.dropWhile p).filter (!p ·) = cs.filter (!p ·) := by
  induction cs with
  | nil => rfl
  | cons c cs ih => by_cases hc : p c = true <;> simp [hc, ih]

/-- What is cut off at the ends of a text is all to be dropped. -/
theorem filter_trim (p : Char → Bool) (cs : List Char) :
    (trim p cs).filter (!p ·) = cs.filter (!p ·) := by
  rw [trim, trimEnd, List.filter_reverse, filter_dropWhile, List.filter_reverse,
    List.reverse_reverse, filter_dropWhile]

theorem trim_eq_nil (h : ∀ c ∈ cs, p c = true) : trim p cs = [] := by
  rw [trim, List.dropWhile_eq_nil_iff.mpr h]
  rfl

/-- The pieces of a text together are its characters but those that cut. -/
theorem flatten_pieces (cut : Char → Bool) (cs : List Char) :
    (pieces cut cs).flatten = cs.filter (!cut ·) := by
  induction cs with
  | nil => rfl
  | cons c cs ih =>
    by_cases hc : cut c = true
    · simp [pieces, hc, ih]
    · rw [pieces, if_neg hc, List.filter_cons_of_pos (by simpa using hc), ← ih]
      cases pieces cut cs <;> simp

/-- The lines of a text hold its characters but the blanks, in order. -/
theorem characters_lines (s : String) :
    ((lines s).flatMap String.toList).filter (!isBlank ·) = s.toList.filter (!isBlank ·) := by
  have hnone (css : List (List Char)) : (css.filter (!·.isEmpty)).flatten = css.flatten := by
    induction css with
    | nil => rfl
    | cons cs css ih => cases cs <;> simp [ih]
  have htrim (css : List (List Char)) : (css.map (trim isBlank)).flatten.filter (!isBlank ·) =
      css.flatten.filter (!isBlank ·) := by
    induction css with
    | nil => rfl
    | cons cs css ih => simp [filter_trim, ih]
  have hboundary (c : Char) : (!isBlank c && !isLineBoundary c) = !isBlank c := by
    cases hblank : isLineBoundary c with
    | false => simp
    | true => simp [isBlank_of_isLineBoundary hblank]
  simp only [lines, List.flatMap_map, String.toList_ofList, List.flatMap_id', hnone, htrim,
    flatten_pieces, List.filter_filter, hboundary]

/-- A text has no lines exactly if it has nothing but blanks. -/
theorem lines_eq_nil_iff {s : String} : lines s = [] ↔ ∀ c ∈ s.toList, isBlank c = true := by
  constructor
  · intro h
    have hcharacters := characters_lines s
    rw [h] at hcharacters
    simpa [eq_comm (a := []), List.filter_eq_nil_iff] using hcharacters
  · intro h
    have hpieces : ∀ piece ∈ pieces isLineBoundary s.toList, trim isBlank piece = [] := by
      intro piece hpiece
      refine trim_eq_nil fun c hc => h c ?_
      have hmem := List.mem_flatten_of_mem hpiece hc
      rw [flatten_pieces] at hmem
      exact (List.mem_filter.mp hmem).1
    simpa [lines, List.filter_eq_nil_iff] using hpieces

end Lines

/-! ### Beginnings -/

/-- A text is cut in one way only into characters of a kind and what begins with none of them. -/
theorem append_inj_of_kind {p : Char → Bool} {cs cs' ds ds' : List Char}
    (hcs : ∀ c ∈ cs, p c = true) (hcs' : ∀ c ∈ cs', p c = true) (hds : ∀ d ∈ ds.head?, p d = false)
    (hds' : ∀ d ∈ ds'.head?, p d = false) (h : cs ++ ds = cs' ++ ds') : cs = cs' ∧ ds = ds' := by
  have hnone {ds : List Char} (hds : ∀ d ∈ ds.head?, p d = false) : ds.takeWhile p = [] := by
    cases ds with
    | nil => rfl
    | cons d ds => simp [hds d rfl]
  have htake := congrArg (List.takeWhile p) h
  rw [List.takeWhile_append_of_pos hcs, List.takeWhile_append_of_pos hcs', hnone hds, hnone hds',
    List.append_nil, List.append_nil] at htake
  subst htake
  exact ⟨rfl, List.append_cancel_left h⟩

/-! ### Items -/

section Items

variable {cut : Char → Bool}

/-- A text that lists tokens: each is a run of characters that do not cut, up to a character that
cuts or to the end. -/
inductive Separated (cut : Char → Bool) : List (List Char) → List Char → Prop
  | nil : Separated cut [] []
  | gap {c : Char} {tokens : List (List Char)} {cs : List Char} (hc : cut c = true)
      (h : Separated cut tokens cs) : Separated cut tokens (c :: cs)
  | last {token : List Char} (hne : token ≠ []) (htoken : ∀ c ∈ token, cut c = false) :
      Separated cut [token] token
  | token {token : List Char} {c : Char} {tokens : List (List Char)} {cs : List Char}
      (hne : token ≠ []) (htoken : ∀ c ∈ token, cut c = false) (hc : cut c = true)
      (h : Separated cut tokens cs) : Separated cut (token :: tokens) (token ++ c :: cs)

theorem pieces_of_uncut {token : List Char} (htoken : ∀ c ∈ token, cut c = false) :
    pieces cut token = [token] := by
  induction token with
  | nil => rfl
  | cons c token ih =>
    obtain ⟨hc, htoken⟩ := List.forall_mem_cons.mp htoken
    simp [pieces, hc, ih htoken]

/-- Induction on a text from its last piece up. A step takes a whole piece, so it is one on the
length. -/
@[elab_as_elim]
theorem cutInduction (cut : Char → Bool) {motive : List Char → Prop}
    (uncut : ∀ cs, (∀ c ∈ cs, cut c = false) → motive cs)
    (append : ∀ token c cs, (∀ d ∈ token, cut d = false) → cut c = true → motive cs →
      motive (token ++ c :: cs))
    (cs : List Char) : motive cs := by
  induction hlength : cs.length using Nat.strongRecOn generalizing cs with
  | _ n ih =>
    cases hfind : cs.find? cut with
    | none => exact uncut cs (by simpa using hfind)
    | some c =>
      obtain ⟨hc, token, rest, rfl, huncut⟩ := List.find?_eq_some_iff_append.mp hfind
      have hrest : motive rest := ih rest.length (by simp [← hlength]; omega) rest rfl
      exact append token c rest (by simpa using huncut) hc hrest

theorem pieces_ne_nil (cut : Char → Bool) (cs : List Char) : pieces cut cs ≠ [] := by
  cases cs with
  | nil => simp [pieces]
  | cons c cs =>
    rw [pieces]
    split
    · simp
    · split <;> simp

/-- A character that cuts divides the pieces of a text. -/
theorem pieces_append {c : Char} (hc : cut c = true) (cs ds : List Char) :
    pieces cut (cs ++ c :: ds) = pieces cut cs ++ pieces cut ds := by
  induction cs with
  | nil => simp [pieces, hc]
  | cons d cs ih =>
    obtain ⟨p, ps, hpieces⟩ := List.exists_cons_of_ne_nil (pieces_ne_nil cut cs)
    by_cases hd : cut d = true
    · simp [pieces, hd, ih]
    · simp [pieces, hd, ih, hpieces]

theorem fields_cons_cut {c : Char} (hc : cut c = true) (cs : List Char) :
    fields cut (c :: cs) = fields cut cs := by
  simp [fields, pieces, hc]

theorem fields_of_uncut {token : List Char} (hne : token ≠ [])
    (htoken : ∀ c ∈ token, cut c = false) : fields cut token = [token] := by
  simp [fields, pieces_of_uncut htoken, hne]

theorem fields_append_cut {token : List Char} (hne : token ≠ [])
    (htoken : ∀ c ∈ token, cut c = false) {c : Char} (hc : cut c = true) (cs : List Char) :
    fields cut (token ++ c :: cs) = token :: fields cut cs := by
  simp [fields, pieces_append hc, pieces_of_uncut htoken, hne]

theorem Separated.fields_eq {tokens : List (List Char)} {cs : List Char}
    (h : Separated cut tokens cs) : fields cut cs = tokens := by
  induction h with
  | nil => rfl
  | gap hc _ ih => rw [fields_cons_cut hc, ih]
  | last hne htoken => exact fields_of_uncut hne htoken
  | token hne htoken hc _ ih => rw [fields_append_cut hne htoken hc, ih]

theorem separated_fields (cut : Char → Bool) (cs : List Char) :
    Separated cut (fields cut cs) cs := by
  induction cs using cutInduction cut with
  | uncut cs huncut =>
    by_cases hne : cs = []
    · exact hne ▸ .nil
    · rw [fields_of_uncut hne huncut]
      exact .last hne huncut
  | append token c cs htoken hc ih =>
    by_cases hne : token = []
    · rw [hne, List.nil_append, fields_cons_cut hc]
      exact .gap hc ih
    · rw [fields_append_cut hne htoken hc]
      exact .token hne htoken hc ih

theorem separated_iff {tokens : List (List Char)} {cs : List Char} :
    Separated cut tokens cs ↔ fields cut cs = tokens :=
  ⟨Separated.fields_eq, fun h => h ▸ separated_fields cut cs⟩

/-- Tokens with a character that cuts between each and the next are separated. -/
theorem separated_intercalate {c : Char} (hc : cut c = true) {tokens : List (List Char)}
    (htokens : ∀ token ∈ tokens, token ≠ [] ∧ ∀ d ∈ token, cut d = false) :
    Separated cut tokens ([c].intercalate tokens) := by
  induction tokens with
  | nil => exact .nil
  | cons token tokens ih =>
    obtain ⟨⟨hne, htoken⟩, htokens⟩ := List.forall_mem_cons.mp htokens
    cases tokens with
    | nil => simpa using .last hne htoken
    | cons next tokens => simpa using .token hne htoken hc (ih htokens)

instance (tokens : List (List Char)) (cs : List Char) : Decidable (Separated cut tokens cs) :=
  decidable_of_iff _ separated_iff.symm

/-- A text that lists items between blanks and commas. -/
def Lists (s : String) (tokens : List String) : Prop :=
  Separated (fun c => isBlank c || c == ',') (tokens.map String.toList) s.toList

instance (s : String) (tokens : List String) : Decidable (Lists s tokens) :=
  inferInstanceAs (Decidable (Separated _ _ _))

/-- The items of a text are what it lists, and nothing else. -/
theorem lists_iff {s : String} {tokens : List String} : Lists s tokens ↔ items s = tokens := by
  rw [Lists, separated_iff, items]
  constructor
  · intro h
    simp [h, Function.comp_def]
  · rintro rfl
    simp [Function.comp_def]

end Items

end GridDiagram.Text
