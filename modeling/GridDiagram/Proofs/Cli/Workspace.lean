import GridDiagram.Cli.Workspace
import GridDiagram.Proofs.Outcome

/-!
Files that are written to a host in memory. A write puts its content at the place of its path and
leaves all other files as they are, and what a path has led to it still leads to afterwards.
-/

namespace GridDiagram.Cli.Workspace

variable {w w' : Workspace} {names other : List String} {content : String} {p q : Path}
  {l l' : Location} {name : String}

/-! ### Entries -/

theorem lookup_cons (e : List String × Option String)
    (entries : List (List String × Option String)) :
    (e :: entries).lookup other = if other = e.1 then some e.2 else entries.lookup other := by
  rw [List.lookup_cons]
  by_cases h : other = e.1
  · rw [if_pos h, h, beq_self_eq_true]
  · rw [if_neg h, beq_eq_false_iff_ne.mpr h]

theorem lookup_put (names other : List String) (content : String)
    (entries : List (List String × Option String)) :
    (put names content entries).lookup other =
      if other = names then some (some content) else entries.lookup other := by
  induction entries with
  | nil => exact lookup_cons _ _
  | cons e entries ih =>
    rw [put, lookup_cons]
    split
    · rename_i hhead
      rw [lookup_cons, hhead]
      split_ifs <;> rfl
    · rename_i hhead
      rw [lookup_cons, ih]
      by_cases hother : other = e.1
      · rw [if_pos hother, if_neg (fun h => hhead (hother ▸ h)), if_pos hother]
      · rw [if_neg hother, if_neg hother]

theorem any_put (names : List String) (content : String) (f : List String → Bool)
    (entries : List (List String × Option String)) :
    (put names content entries).any (fun e => f e.1) = (f names || entries.any fun e => f e.1) := by
  induction entries with
  | nil => rfl
  | cons e entries ih =>
    rw [put]
    split
    · rename_i hhead
      simp only [List.any_cons, hhead, Bool.or_self_left]
    · rw [List.any_cons, List.any_cons, ih, Bool.or_left_comm]

/-- A file where there was no directory takes none away. -/
theorem kindOf_put (hfile : w.kindOf names ≠ some .directory)
    (hdirectory : w.kindOf other = some .directory) :
    kindOf { w with entries := put names content w.entries } other = some .directory := by
  have hne : other ≠ names := by
    rintro rfl
    exact hfile hdirectory
  simp only [kindOf, lookup_put, if_neg hne, any_put] at hdirectory ⊢
  split at hdirectory
  · cases hdirectory
  · rfl
  · split at hdirectory
    · rename_i hinside
      rw [if_pos]
      rcases Bool.or_eq_true _ _ ▸ hinside with hempty | hany
      · simp [hempty]
      · simp [hany]
    · cases hdirectory

/-! ### Places -/

theorem enter_put (hfile : w.kindOf names ≠ some .directory) (h : w.enter name l = .ok l') :
    enter { w with entries := put names content w.entries } name l = .ok l' := by
  cases l with
  | outside => exact h
  | inside directory =>
    simp only [enter] at h ⊢
    split at h
    · cases h
    · cases h
    · rename_i hdirectory
      rw [kindOf_put hfile hdirectory]
      exact h

theorem enterAll_put {path : List String} (hfile : w.kindOf names ≠ some .directory)
    (h : w.enterAll l path = .ok l') :
    enterAll { w with entries := put names content w.entries } l path = .ok l' := by
  induction path generalizing l with
  | nil => exact h
  | cons name path ih =>
    simp only [enterAll, Except.bind_eq_ok] at h ⊢
    obtain ⟨l₁, hname, hpath⟩ := h
    exact ⟨l₁, enter_put hfile hname, ih hpath⟩

theorem enterAll_concat (w : Workspace) (l : Location) (path : List String) (name : String) :
    w.enterAll l (path ++ [name]) = (w.enterAll l path).bind (w.enter name) := by
  induction path generalizing l with
  | nil =>
    simp only [List.nil_append, enterAll, Except.bind]
    cases w.enter name l <;> rfl
  | cons first path ih =>
    simp only [List.cons_append, enterAll]
    cases hfirst : w.enter first l with
    | error e => rfl
    | ok l₁ => exact ih l₁

/-! ### Reading and writing -/

theorem read_eq_ok :
    w.read p = .ok content ↔
      ∃ names, w.locate p = .ok (.inside names) ∧ w.entries.lookup names = some (some content) := by
  simp only [read, Except.bind_eq_ok]
  constructor
  · rintro ⟨l, hl, h⟩
    cases l with
    | outside => cases h
    | inside names =>
      refine ⟨names, hl, ?_⟩
      simp only at h
      split at h
      · rename_i hlookup
        rw [hlookup, Except.pure_eq_ok.mp h]
      · split at h <;> cases h
  · rintro ⟨names, hl, hlookup⟩
    refine ⟨_, hl, ?_⟩
    simp only [hlookup]
    rfl

/-- A write that succeeds replaces the file at the place of its path, or that has no place. -/
theorem write_ok (h : w.write p content = .ok w') :
    (∃ names, w.locate p = .ok (.inside names) ∧ w.kindOf names ≠ some .directory ∧
      w' = { w with entries := put names content w.entries }) ∨
    (∀ l, w.locate p ≠ .ok l) ∧ w' = w := by
  unfold write at h
  split at h
  · cases h
  · rename_i name hlast
    have hlocate : w.locate p =
        (w.enterAll (startOf p) p.parts.dropLast).bind (w.enter name) := by
      rw [← enterAll_concat, List.dropLast_append_getLast? name hlast]
      rfl
    obtain ⟨directory, hdirectory, h⟩ := Except.bind_eq_ok.mp h
    rw [hdirectory] at hlocate
    split at h
    · split at h
      · cases h
      · rename_i hname
        have hnowhere : w.locate p = .error .missing := by
          rw [hlocate]
          exact if_neg hname
        refine .inr ⟨fun l hl => ?_, (Except.pure_eq_ok.mp h).symm⟩
        rw [hnowhere] at hl
        cases hl
    · obtain ⟨l, hl, h⟩ := Except.bind_eq_ok.mp h
      split at h
      · cases h
      · rename_i names
        split at h
        · cases h
        · rename_i hkind
          exact .inl ⟨names, hlocate.trans hl, hkind, (Except.pure_eq_ok.mp h).symm⟩

/-- Whatever a path leads to it leads to after a write as well. -/
theorem locate_write (h : w.write p content = .ok w') (hq : w.locate q = .ok l) :
    w'.locate q = .ok l := by
  rcases write_ok h with ⟨names, -, hkind, rfl⟩ | ⟨-, rfl⟩
  · exact enterAll_put hkind hq
  · exact hq

theorem read_write_same (h : w.write p content = .ok w') (hp : w.locate p = .ok l) :
    w'.read p = .ok content := by
  rcases write_ok h with ⟨names, hnames, hkind, rfl⟩ | ⟨hnowhere, -⟩
  · refine read_eq_ok.mpr ⟨names, enterAll_put hkind hnames, ?_⟩
    rw [lookup_put, if_pos rfl]
  · exact absurd hp (hnowhere l)

theorem read_write_other {other : String} (h : w.write p content = .ok w')
    (hq : w.read q = .ok other) (hne : w.locate p ≠ w.locate q) : w'.read q = .ok other := by
  rcases write_ok h with ⟨names, hnames, hkind, rfl⟩ | ⟨-, rfl⟩
  · obtain ⟨found, hfound, hlookup⟩ := read_eq_ok.mp hq
    refine read_eq_ok.mpr ⟨found, enterAll_put hkind hfound, ?_⟩
    rw [lookup_put, if_neg, hlookup]
    rintro rfl
    exact hne (hnames.trans hfound.symm)
  · exact hq

/-- The directory of a file has a place for any name, and so for the file with another
extension. -/
theorem locate_withExtension (h : w.read p = .ok content) (extension : String) :
    ∃ l, w.locate (p.withExtension extension) = .ok l := by
  obtain ⟨names, hnames, -⟩ := read_eq_ok.mp h
  unfold Path.withExtension
  split
  · exact ⟨_, hnames⟩
  · rename_i name hlast
    have hplace : w.locate p = (w.enterAll (startOf p) p.parts.dropLast).bind (w.enter name) := by
      rw [← enterAll_concat, List.dropLast_append_getLast? name hlast]
      rfl
    rw [hplace] at hnames
    obtain ⟨directory, hdirectory, hnames⟩ := Except.bind_eq_ok.mp hnames
    have hbeside (other : String) :
        w.locate { p with parts := p.parts.dropLast ++ [other] } = w.enter other directory := by
      refine (enterAll_concat _ _ _ _).trans ?_
      rw [show startOf { p with parts := p.parts.dropLast ++ [other] } = startOf p from rfl,
        hdirectory]
      rfl
    rw [hbeside]
    cases directory with
    | outside =>
      simp only [enter] at hnames
      split at hnames <;> cases hnames
    | inside directory =>
      simp only [enter] at hnames ⊢
      split at hnames
      · cases hnames
      · cases hnames
      · split_ifs <;> exact ⟨_, rfl⟩

end GridDiagram.Cli.Workspace
