/-!
Blanks and line boundaries of Unicode text, and the operations that cut a text at them.
-/

namespace GridDiagram.Text

/-- White space of Unicode text, the information separators U+001C to U+001F included. -/
def isBlank (c : Char) : Bool :=
  let n := c.toNat
  (9 ≤ n && n ≤ 13) || (0x1c ≤ n && n ≤ 0x20) || n == 0x85 || n == 0xa0 || n == 0x1680 ||
    (0x2000 ≤ n && n ≤ 0x200a) || n == 0x2028 || n == 0x2029 || n == 0x202f || n == 0x205f ||
    n == 0x3000

/-- The characters that end a line. -/
def isLineBoundary (c : Char) : Bool :=
  let n := c.toNat
  (10 ≤ n && n ≤ 13) || (0x1c ≤ n && n ≤ 0x1e) || n == 0x85 || n == 0x2028 || n == 0x2029

theorem isBlank_of_isLineBoundary {c : Char} (h : isLineBoundary c) : isBlank c := by
  simp only [isLineBoundary, isBlank, Bool.or_eq_true, Bool.and_eq_true, decide_eq_true_eq,
    beq_iff_eq] at h ⊢
  omega

/-- `cs` without the characters of `drop` at its end. -/
def trimEnd (drop : Char → Bool) (cs : List Char) : List Char :=
  (cs.reverse.dropWhile drop).reverse

/-- `cs` without the characters of `drop` at its two ends. -/
def trim (drop : Char → Bool) (cs : List Char) : List Char :=
  trimEnd drop (cs.dropWhile drop)

/-- `s` without the blanks at its two ends. -/
def strip (s : String) : String :=
  String.ofList (trim isBlank s.toList)

/-- The pieces of `cs` between the characters of `cut`; two neighbouring cuts leave an empty
piece. -/
def pieces (cut : Char → Bool) : List Char → List (List Char)
  | [] => [[]]
  | c :: cs =>
    if cut c then [] :: pieces cut cs
    else
      match pieces cut cs with
      | [] => [[c]]
      | p :: ps => (c :: p) :: ps

/-- The pieces of `cs` between the characters of `cut`, the empty ones left out. -/
def fields (cut : Char → Bool) (cs : List Char) : List (List Char) :=
  (pieces cut cs).filter (!·.isEmpty)

/-- The words of a text: what stands between its blanks. -/
def words (s : String) : List String :=
  (fields isBlank s.toList).map String.ofList

/-- The items of a text in which blanks and commas separate. -/
def items (s : String) : List String :=
  (fields (fun c => isBlank c || c == ',') s.toList).map String.ofList

/-- The lines of a text, each without the blanks at its ends. A line of blanks alone is left out,
and so is what stands between the two characters of a line end. -/
def lines (s : String) : List String :=
  (((pieces isLineBoundary s.toList).map (trim isBlank)).filter (!·.isEmpty)).map String.ofList

/-- A text of blanks alone. -/
def isBlankText (s : String) : Bool :=
  s.toList.all isBlank

end GridDiagram.Text
