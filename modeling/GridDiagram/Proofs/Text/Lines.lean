import GridDiagram.Proofs.Text
import Mathlib.Data.List.DropRight

/-!
Texts that set out lines one below the other: between two lines stand blanks, one of which at least
ends a line. Every text sets out its lines and no other list of lines, so that the lines of a text
do not change when they are put together again.
-/

namespace GridDiagram.Text

/-! ### Ends -/

section Trim

variable {p : Char → Bool}

theorem trim_append_of_pos {lead : List Char} (hlead : ∀ c ∈ lead, p c = true) (cs : List Char) :
    trim p (lead ++ cs) = trim p cs := by
  rw [trim, List.dropWhile_append_of_pos hlead, trim]

theorem trimEnd_append_of_pos {tail : List Char} (htail : ∀ c ∈ tail, p c = true)
    (cs : List Char) : trimEnd p (cs ++ tail) = trimEnd p cs := by
  rw [trimEnd, List.reverse_append, List.dropWhile_append_of_pos (by simpa using htail), trimEnd]

theorem trim_append_of_pos_right {tail : List Char} (htail : ∀ c ∈ tail, p c = true)
    (cs : List Char) : trim p (cs ++ tail) = trim p cs := by
  by_cases hcs : ∀ c ∈ cs, p c = true
  · have hall : ∀ c ∈ cs ++ tail, p c = true := List.forall_mem_append.mpr ⟨hcs, htail⟩
    rw [trim_eq_nil hall, trim_eq_nil hcs]
  · have hne : (cs.dropWhile p).isEmpty = false := by
      rwa [List.isEmpty_eq_false_iff, ne_eq, List.dropWhile_eq_nil_iff]
    rw [trim, List.dropWhile_append, hne]
    exact trimEnd_append_of_pos htail _

/-- What is cut off from a text stands at its two ends. -/
theorem exists_append_trim_append (p : Char → Bool) (cs : List Char) :
    ∃ lead tail, cs = lead ++ trim p cs ++ tail ∧
      (∀ c ∈ lead, p c = true) ∧ ∀ c ∈ tail, p c = true := by
  refine ⟨cs.takeWhile p, (cs.dropWhile p).rtakeWhile p, ?_,
    fun _ => List.mem_takeWhile_imp, fun _ => List.mem_rtakeWhile_imp⟩
  calc
    cs = cs.takeWhile p ++ cs.dropWhile p := (List.takeWhile_append_dropWhile).symm
    _ = cs.takeWhile p ++ ((cs.dropWhile p).rdropWhile p ++ (cs.dropWhile p).rtakeWhile p) := by
      rw [List.rdropWhile_append_rtakeWhile]
    _ = cs.takeWhile p ++ trim p cs ++ (cs.dropWhile p).rtakeWhile p :=
      (List.append_assoc ..).symm

theorem mem_of_mem_trim {cs : List Char} {c : Char} (hc : c ∈ trim p cs) : c ∈ cs := by
  obtain ⟨lead, tail, hcs, -, -⟩ := exists_append_trim_append p cs
  rw [hcs]
  simp [hc]

@[simp]
theorem trim_trim (p : Char → Bool) (cs : List Char) : trim p (trim p cs) = trim p cs := by
  obtain ⟨lead, tail, hcs, hlead, htail⟩ := exists_append_trim_append p cs
  calc
    trim p (trim p cs) = trim p (lead ++ trim p cs ++ tail) := by
      rw [trim_append_of_pos_right htail, trim_append_of_pos hlead]
    _ = trim p cs := by rw [← hcs]

@[simp]
theorem toList_strip (s : String) : (strip s).toList = trim isBlank s.toList :=
  String.toList_ofList

end Trim

/-! ### The lines of a text that is put together -/

/-- A text that can stand on a line of its own: there is something in it, no blanks at its ends and
nothing that ends a line. -/
structure IsLine (line : String) : Prop where
  ne_empty : line ≠ ""
  strip_eq : strip line = line
  unbroken : ∀ c ∈ line.toList, isLineBoundary c = false

theorem IsLine.trim_eq {line : String} (h : IsLine line) :
    trim isBlank line.toList = line.toList := by
  simpa using congrArg String.toList h.strip_eq

/-- Every line of a text can stand on a line of its own. -/
theorem isLine_of_mem_lines {s line : String} (h : line ∈ lines s) : IsLine line := by
  obtain ⟨cs, hcs, rfl⟩ := List.mem_map.mp h
  obtain ⟨hmem, hne⟩ := List.mem_filter.mp hcs
  obtain ⟨piece, hpiece, rfl⟩ := List.mem_map.mp hmem
  refine ⟨by simpa using hne, by simp [strip], fun c hc => ?_⟩
  rw [String.toList_ofList] at hc
  have hc := List.mem_flatten_of_mem hpiece (mem_of_mem_trim hc)
  rw [flatten_pieces] at hc
  simpa using (List.mem_filter.mp hc).2

/-- A text without an end of a line is one line, or none if it has nothing but blanks. -/
theorem lines_of_unbroken {cs : List Char} (h : ∀ c ∈ cs, isLineBoundary c = false) :
    lines (String.ofList cs) =
      if trim isBlank cs = [] then [] else [String.ofList (trim isBlank cs)] := by
  by_cases hne : trim isBlank cs = [] <;> simp [lines, pieces_of_uncut h, hne]

/-- The lines before an end of a line, then those behind it. -/
theorem lines_append {c : Char} (hc : isLineBoundary c = true) (cs ds : List Char) :
    lines (String.ofList (cs ++ c :: ds)) =
      lines (String.ofList cs) ++ lines (String.ofList ds) := by
  simp [lines, pieces_append hc]

theorem lines_blank_cons {c : Char} (hc : isBlank c = true) (cs : List Char) :
    lines (String.ofList (c :: cs)) = lines (String.ofList cs) := by
  by_cases hboundary : isLineBoundary c = true
  · exact lines_append hboundary [] cs
  · obtain ⟨p, ps, hpieces⟩ := List.exists_cons_of_ne_nil (pieces_ne_nil isLineBoundary cs)
    have htrim : trim isBlank (c :: p) = trim isBlank p := by simp [trim, hc]
    simp [lines, pieces, hboundary, hpieces, htrim]

theorem lines_blanks_append {blanks : List Char} (h : ∀ c ∈ blanks, isBlank c = true)
    (cs : List Char) : lines (String.ofList (blanks ++ cs)) = lines (String.ofList cs) := by
  induction blanks with
  | nil => rfl
  | cons c blanks ih =>
    obtain ⟨hc, hblanks⟩ := List.forall_mem_cons.mp h
    rw [List.cons_append, lines_blank_cons hc, ih hblanks]

/-- Blanks behind a line are neither part of it nor a line of their own. -/
theorem IsLine.lines_append_blanks {line : String} (h : IsLine line) {blanks : List Char}
    (hblanks : ∀ c ∈ blanks, isBlank c = true) :
    lines (String.ofList (line.toList ++ blanks)) = [line] := by
  have hunbroken {tail : List Char} (htail : ∀ c ∈ tail, isBlank c = true)
      (hno : ∀ c ∈ tail, isLineBoundary c = false) :
      lines (String.ofList (line.toList ++ tail)) = [line] := by
    rw [lines_of_unbroken (List.forall_mem_append.mpr ⟨h.unbroken, hno⟩),
      trim_append_of_pos_right htail, h.trim_eq]
    simp [h.ne_empty]
  induction blanks using cutInduction isLineBoundary with
  | uncut blanks hno => exact hunbroken hblanks hno
  | append tail c rest hno hc _ =>
    obtain ⟨htail, hrest⟩ := List.forall_mem_append.mp hblanks
    have hnone : lines (String.ofList rest) = [] :=
      lines_eq_nil_iff.mpr (by simpa using (List.forall_mem_cons.mp hrest).2)
    rw [← List.append_assoc, lines_append hc, hunbroken htail hno, hnone, List.append_nil]

/-! ### Texts that set out lines -/

/-- What stands between two lines: blanks, and among them something that ends a line. -/
structure IsBreak (gap : List Char) : Prop where
  blank : ∀ c ∈ gap, isBlank c = true
  boundary : ∃ c ∈ gap, isLineBoundary c = true

/-- A text that sets out lines one below the other: blanks before the first and after the last, and
a break between any two. -/
inductive SetsOut : List String → List Char → Prop
  | nil : SetsOut [] []
  | blank {c : Char} {ls : List String} {cs : List Char} (hc : isBlank c = true)
      (h : SetsOut ls cs) : SetsOut ls (c :: cs)
  | last (line : String) {blanks : List Char} (hblanks : ∀ c ∈ blanks, isBlank c = true) :
      SetsOut [line] (line.toList ++ blanks)
  | cons (line : String) {gap : List Char} {ls : List String} {cs : List Char}
      (hgap : IsBreak gap) (h : SetsOut ls cs) : SetsOut (line :: ls) (line.toList ++ gap ++ cs)

/-- A text has the lines that it sets out. -/
theorem SetsOut.lines_eq {ls : List String} {cs : List Char} (h : SetsOut ls cs)
    (hls : ∀ line ∈ ls, IsLine line) : lines (String.ofList cs) = ls := by
  induction h with
  | nil => rfl
  | blank hc _ ih => rw [lines_blank_cons hc, ih hls]
  | last line hblanks => exact (hls line List.mem_cons_self).lines_append_blanks hblanks
  | @cons line gap ls cs hgap _ ih =>
    obtain ⟨hline, hls⟩ := List.forall_mem_cons.mp hls
    obtain ⟨c, hmem, hc⟩ := hgap.boundary
    obtain ⟨before, after, rfl⟩ := List.append_of_mem hmem
    obtain ⟨hbefore, hafter⟩ := List.forall_mem_append.mp hgap.blank
    calc
      lines (String.ofList (line.toList ++ (before ++ c :: after) ++ cs))
        = lines (String.ofList ((line.toList ++ before) ++ c :: (after ++ cs))) := by simp
      _ = lines (String.ofList (line.toList ++ before)) ++
          lines (String.ofList (after ++ cs)) := lines_append hc _ _
      _ = line :: ls := by
        rw [hline.lines_append_blanks hbefore,
          lines_blanks_append (List.forall_mem_cons.mp hafter).2, ih hls, List.singleton_append]

theorem SetsOut.blanks_append {ls : List String} {cs blanks : List Char}
    (hblanks : ∀ c ∈ blanks, isBlank c = true) (h : SetsOut ls cs) :
    SetsOut ls (blanks ++ cs) := by
  induction blanks with
  | nil => exact h
  | cons c blanks ih =>
    obtain ⟨hc, hblanks⟩ := List.forall_mem_cons.mp hblanks
    exact .blank hc (ih hblanks)

theorem SetsOut.append_blanks {ls : List String} {cs blanks : List Char} (h : SetsOut ls cs)
    (hblanks : ∀ c ∈ blanks, isBlank c = true) : SetsOut ls (cs ++ blanks) := by
  induction h with
  | nil => simpa using SetsOut.blanks_append hblanks .nil
  | blank hc _ ih => exact .blank hc ih
  | last line htail =>
    rw [List.append_assoc]
    exact .last line (List.forall_mem_append.mpr ⟨htail, hblanks⟩)
  | cons line hgap _ ih =>
    rw [List.append_assoc]
    exact .cons line hgap ih

/-- The lines up to an end of a line, with those behind it. -/
theorem SetsOut.append {ls ls' : List String} {cs ds : List Char} {c : Char} (h : SetsOut ls cs)
    (hc : isLineBoundary c = true) (h' : SetsOut ls' ds) :
    SetsOut (ls ++ ls') (cs ++ c :: ds) := by
  induction h with
  | nil => exact .blank (isBlank_of_isLineBoundary hc) h'
  | blank hd _ ih => exact .blank hd ih
  | @last line blanks hblanks =>
    have hgap : IsBreak (blanks ++ [c]) := {
      blank := List.forall_mem_append.mpr
        ⟨hblanks, by simpa using isBlank_of_isLineBoundary hc⟩
      boundary := ⟨c, by simp, hc⟩ }
    simpa using SetsOut.cons line hgap h'
  | cons line hgap _ ih =>
    rw [List.append_assoc]
    exact .cons line hgap ih

theorem setsOut_of_unbroken {cs : List Char} (h : ∀ c ∈ cs, isLineBoundary c = false) :
    SetsOut (lines (String.ofList cs)) cs := by
  obtain ⟨lead, tail, hcs, hlead, htail⟩ := exists_append_trim_append isBlank cs
  rw [lines_of_unbroken h]
  by_cases hne : trim isBlank cs = []
  · rw [if_pos hne, hcs, hne]
    simpa using SetsOut.blanks_append hlead (.blanks_append htail .nil)
  · rw [if_neg hne]
    have hlast : SetsOut [String.ofList (trim isBlank cs)] (trim isBlank cs ++ tail) := by
      simpa using SetsOut.last (String.ofList (trim isBlank cs)) htail
    have hall := SetsOut.blanks_append hlead hlast
    rwa [← List.append_assoc, ← hcs] at hall

/-- Every text sets out its lines. -/
theorem setsOut_lines (s : String) : SetsOut (lines s) s.toList := by
  suffices h : ∀ cs, SetsOut (lines (String.ofList cs)) cs by simpa using h s.toList
  intro cs
  induction cs using cutInduction isLineBoundary with
  | uncut cs hunbroken => exact setsOut_of_unbroken hunbroken
  | append first c cs hunbroken hc ih =>
    rw [lines_append hc]
    exact (setsOut_of_unbroken hunbroken).append hc ih

/-- The lines of a text are the only ones that it sets out. -/
theorem lines_eq_iff {s : String} {ls : List String} :
    lines s = ls ↔ (∀ line ∈ ls, IsLine line) ∧ SetsOut ls s.toList := by
  constructor
  · rintro rfl
    exact ⟨fun _ => isLine_of_mem_lines, setsOut_lines s⟩
  · rintro ⟨hls, h⟩
    simpa using h.lines_eq hls

/-- Lines with a break between each and the next are set out. -/
theorem setsOut_intercalate {gap : String} (hgap : IsBreak gap.toList) (ls : List String) :
    SetsOut ls (gap.intercalate ls).toList := by
  rw [String.toList_intercalate]
  induction ls with
  | nil => exact .nil
  | cons line ls ih =>
    cases ls with
    | nil => simpa using SetsOut.last line (List.forall_mem_nil _)
    | cons next ls => simpa using SetsOut.cons line hgap ih

theorem isBreak_newline : IsBreak "\n".toList :=
  ⟨by simp [isBlank], by simp [isLineBoundary]⟩

/-! ### Lines with their blanks -/

/-- The lines of a text with all their blanks. Each has an end, but for the last one if the text
goes on behind the last end; a carriage return and a line feed behind it are one end. -/
def rawLines : List Char → List (List Char)
  | [] => []
  | '\r' :: '\n' :: cs => [] :: rawLines cs
  | c :: cs =>
    if isLineBoundary c then [] :: rawLines cs
    else
      match rawLines cs with
      | [] => [[c]]
      | line :: ls => (c :: line) :: ls

/-- The raw lines of a text are its pieces, but for empty ones behind the first. -/
theorem exists_pieces_rawLines (cs : List Char) :
    ∃ p ps, pieces isLineBoundary cs = p :: ps ∧
      ((rawLines cs = [] ∧ p = [] ∧ ps = []) ∨
        ∃ ls, rawLines cs = p :: ls ∧ ls.filter (!·.isEmpty) = ps.filter (!·.isEmpty)) := by
  fun_induction rawLines cs with
  | case1 => exact ⟨[], [], rfl, .inl ⟨rfl, rfl, rfl⟩⟩
  | case2 cs ih =>
    obtain ⟨p, ps, hpieces, ⟨hraw, rfl, rfl⟩ | ⟨ls, hraw, hls⟩⟩ := ih
    · exact ⟨[], [[], []], by simp [pieces, hpieces, isLineBoundary], .inr ⟨[], by simp [hraw]⟩⟩
    · exact ⟨[], [] :: p :: ps, by simp [pieces, hpieces, isLineBoundary],
        .inr ⟨p :: ls, by simp [hraw, List.filter_cons, hls]⟩⟩
  | case3 c cs _ hc ih =>
    obtain ⟨p, ps, hpieces, ⟨hraw, rfl, rfl⟩ | ⟨ls, hraw, hls⟩⟩ := ih
    · exact ⟨[], [[]], by simp [pieces, hpieces, hc], .inr ⟨[], by simp [hraw]⟩⟩
    · exact ⟨[], p :: ps, by simp [pieces, hpieces, hc],
        .inr ⟨p :: ls, by simp [hraw, List.filter_cons, hls]⟩⟩
  | case4 c cs _ hc hraw ih =>
    obtain ⟨p, ps, hpieces, ⟨-, rfl, rfl⟩ | ⟨ls, hraw', -⟩⟩ := ih
    · exact ⟨[c], [], by simp [pieces, hpieces, hc], .inr ⟨[], rfl, rfl⟩⟩
    · simp [hraw] at hraw'
  | case5 c cs _ hc line ls hraw ih =>
    obtain ⟨p, ps, hpieces, ⟨hraw', -, -⟩ | ⟨ls', hraw', hls⟩⟩ := ih
    · simp [hraw] at hraw'
    · obtain ⟨rfl, rfl⟩ := List.cons.inj (hraw.symm.trans hraw')
      exact ⟨c :: line, ps, by simp [pieces, hpieces, hc], .inr ⟨ls, rfl, hls⟩⟩

theorem filter_rawLines (cs : List Char) :
    (rawLines cs).filter (!·.isEmpty) = fields isLineBoundary cs := by
  obtain ⟨p, ps, hpieces, ⟨hraw, rfl, rfl⟩ | ⟨ls, hraw, hls⟩⟩ := exists_pieces_rawLines cs
  · simp [fields, hpieces, hraw]
  · simp [fields, hpieces, hraw, List.filter_cons, hls]

/-- The blanks around a text are no part of its lines. -/
theorem lines_strip (s : String) : lines (strip s) = lines s := by
  obtain ⟨lead, tail, hs, hlead, htail⟩ := exists_append_trim_append isBlank s.toList
  have hset : SetsOut (lines (strip s)) s.toList := by
    rw [hs]
    exact .append_blanks (.blanks_append hlead (by simpa using setsOut_lines (strip s))) htail
  exact (lines_eq_iff.mpr ⟨fun _ => isLine_of_mem_lines, hset⟩).symm

/-- The lines of a text are the raw lines of what is left of it without the blanks around it, each
without the blanks at its ends and those left out in which there is nothing. -/
theorem lines_eq_rawLines (s : String) :
    lines s = (((rawLines (trim isBlank s.toList)).map (trim isBlank)).filter
      (!·.isEmpty)).map String.ofList := by
  have hempty (css : List (List Char)) : (css.map (trim isBlank)).filter (!·.isEmpty) =
      ((css.filter (!·.isEmpty)).map (trim isBlank)).filter (!·.isEmpty) := by
    induction css with
    | nil => rfl
    | cons cs css ih => cases cs <;> simp [ih, List.filter_cons, trim, trimEnd]
  rw [← lines_strip, lines, hempty, hempty (rawLines _), filter_rawLines, toList_strip, fields]

/-! ### Normal form -/

/-- The lines of a text are a normal form: each can stand on a line of its own, together they hold
what the text holds but blanks, they are what any text has that sets them out, and the text that is
put together from them has them again. -/
theorem lines_normalForm (s : String) :
    (∀ line ∈ lines s, IsLine line) ∧
      ((lines s).flatMap String.toList).filter (!isBlank ·) = s.toList.filter (!isBlank ·) ∧
      SetsOut (lines s) s.toList ∧
      (∀ ls, (∀ line ∈ ls, IsLine line) →
        ∀ text : String, SetsOut ls text.toList → lines text = ls) ∧
      lines ("\n".intercalate (lines s)) = lines s := by
  have hlines : ∀ line ∈ lines s, IsLine line := fun _ => isLine_of_mem_lines
  exact ⟨hlines, characters_lines s, setsOut_lines s,
    fun _ hls _ h => lines_eq_iff.mpr ⟨hls, h⟩,
    lines_eq_iff.mpr ⟨hlines, setsOut_intercalate isBreak_newline _⟩⟩

/-- Two lines between indentation, an empty line, and ends of lines of one and of two characters. -/
theorem lines_of_indented :
    (∀ line ∈ ["Hello", "wide world"], IsLine line) ∧
      SetsOut ["Hello", "wide world"] "  Hello\t\r\n\r\n\u2028\u3000wide world\n".toList ∧
      lines "  Hello\t\r\n\r\n\u2028\u3000wide world\n" = ["Hello", "wide world"] := by
  have hhello : IsLine "Hello" := ⟨by decide, by decide +kernel, by simp [isLineBoundary]⟩
  have hworld : IsLine "wide world" := ⟨by decide, by decide +kernel, by simp [isLineBoundary]⟩
  have hls : ∀ line ∈ ["Hello", "wide world"], IsLine line := by simp [hhello, hworld]
  have hgap : IsBreak "\t\r\n\r\n\u2028\u3000".toList :=
    ⟨by simp [isBlank], by simp [isLineBoundary]⟩
  have hend : ∀ c ∈ ['\n'], isBlank c = true := by simp [isBlank]
  have hset : SetsOut ["Hello", "wide world"]
      "  Hello\t\r\n\r\n\u2028\u3000wide world\n".toList :=
    .blank rfl (.blank rfl (.cons "Hello" hgap (.last "wide world" hend)))
  exact ⟨hls, hset, (lines_normalForm "").2.2.2.1 _ hls _ hset⟩

end GridDiagram.Text
