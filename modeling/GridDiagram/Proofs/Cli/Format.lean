import GridDiagram.Cli.Arguments
import GridDiagram.Proofs.Outcome
import Mathlib.Data.List.Infix

/-!
How a command line chooses the form of reports. The option for it may be cut short, and its value
may be attached to it or come behind it; what stands in front of the command counts, and of several
choices the last.
-/

namespace GridDiagram.Cli

/-! ### Command lines -/

/-- A name of the option for the form of reports, of which any part from the first letter on is
enough. -/
def NamesFormat (cs : List Char) : Prop :=
  "--e".toList <+: cs ∧ cs <+: "--error-format".toList

instance (cs : List Char) : Decidable (NamesFormat cs) :=
  inferInstanceAs (Decidable (_ ∧ _))

/-- Arguments that choose a form of reports: the option with the form behind it or attached. -/
inductive Chooses (format : ReportFormat) : List String → Prop
  | apart {name : String} (h : NamesFormat name.toList) : Chooses format [name, format.name]
  | attached {name : String} (h : NamesFormat name.toList) :
      Chooses format [name ++ "=" ++ format.name]

/-- Arguments in front of a command, of which the last that choose a form of reports choose the
second one, if any do; if not, it is the first one. -/
inductive Leading : ReportFormat → List String → ReportFormat → Prop
  | nil (format : ReportFormat) : Leading format [] format
  | choice {before after last : ReportFormat} {spelled args : List String}
      (h : Chooses after spelled) (hargs : Leading after args last) :
      Leading before (spelled ++ args) last
  | other {arg : String} {args : List String} {before last : ReportFormat}
      (hdash : arg.toList.head? = some '-') (hne : arg ≠ "--")
      (hname : ¬NamesFormat (arg.toList.takeWhile (· != '='))) (hargs : Leading before args last) :
      Leading before (arg :: args) last

/-- No option for the form of reports follows: nothing does, or `--`, or what takes the place of the
command. -/
def EndsOptions (args : List String) : Prop :=
  ∀ arg ∈ args.head?, arg = "--" ∨ arg.toList.head? ≠ some '-'

/-- A command line asks for reports in a form in front of its command. -/
def AsksFor (format : ReportFormat) (argv : List String) : Prop :=
  ∃ before rest, argv = before ++ rest ∧ Leading .text before format ∧ EndsOptions rest

/-! ### Arguments in front of the command -/

namespace Grammar

variable {σ : Type} {g : Grammar σ}

theorem of_find?_eq_some {cs : List Char} {o : Switch σ} (h : g.find? cs = some o) :
    o ∈ g.switches ∧ String.ofList cs ∈ o.names :=
  ⟨List.mem_of_find?_eq_some h, by simpa using List.find?_some h⟩

/-- An argument that is an option names it in full, or is the only option that it may stand for. -/
theorem classify_option {written name : String} {o : Switch σ} {value : Option (List Char)}
    (h : g.classify written = .ok (.option o name value)) :
    written.toList.length ≠ 1 ∧ (g.named? written.toList = some (o, name, value) ∨
      g.candidates written.toList = [(o, name, value)]) := by
  simp only [classify] at h
  split at h
  · cases h
  · rename_i hdash
    refine ⟨by simp_all, ?_⟩
    split at h
    · cases h
      exact .inl ‹_›
    · split at h
      · cases h
        exact .inr ‹_›
      · split at h <;> cases h
      · cases h

/-- An option that a long argument may stand for has a name that begins with it. -/
theorem mem_candidates_long {cs : List Char} (h : cs.take 2 = ['-', '-']) {o : Switch σ}
    {name : String} {value : Option (List Char)} :
    (o, name, value) ∈ g.candidates cs ↔ o ∈ g.switches ∧ name ∈ o.names ∧
      cs.takeWhile (· != '=') <+: name.toList ∧ value = (cs.dropWhile (· != '=')).tail? := by
  simp only [candidates, h, beq_self_eq_true, if_true, List.mem_map, List.mem_filter,
    List.mem_flatMap, List.isPrefixOf_iff_prefix, Prod.exists, Prod.mk.injEq]
  grind

/-- An option that a short argument may stand for has a name of two characters that it begins with,
or is cut short to it. -/
theorem of_mem_candidates_short {cs : List Char} (h : cs.take 2 ≠ ['-', '-']) {o : Switch σ}
    {name : String} {value : Option (List Char)} (hmem : (o, name, value) ∈ g.candidates cs) :
    o ∈ g.switches ∧ name ∈ o.names ∧ (name.toList = cs.take 2 ∨ cs <+: name.toList) := by
  simp only [candidates, beq_iff_eq, h, if_false, List.mem_filterMap, List.mem_flatMap,
    List.mem_map, Prod.exists, Prod.mk.injEq] at hmem
  obtain ⟨_, _, ⟨o', ho', name', hname', rfl, rfl⟩, hmem⟩ := hmem
  split at hmem
  · rename_i heq
    cases hmem
    exact ⟨ho', hname', .inl heq⟩
  · split at hmem
    · rename_i hstarts
      cases hmem
      exact ⟨ho', hname', .inr (List.isPrefixOf_iff_prefix.mp hstarts)⟩
    · cases hmem

theorem of_mem_candidates {cs : List Char} {o : Switch σ} {name : String}
    {value : Option (List Char)} (hmem : (o, name, value) ∈ g.candidates cs) :
    o ∈ g.switches ∧ name ∈ o.names := by
  by_cases h : cs.take 2 = ['-', '-']
  · obtain ⟨ho, hname, -⟩ := (mem_candidates_long h).mp hmem
    exact ⟨ho, hname⟩
  · obtain ⟨ho, hname, -⟩ := of_mem_candidates_short h hmem
    exact ⟨ho, hname⟩

theorem classify_ne_separator (g : Grammar σ) (written : String) :
    g.classify written ≠ .ok .separator := by
  intro h
  simp only [classify] at h
  split at h
  · cases h
  · split at h
    · cases h
    · split at h
      · cases h
      · split at h <;> cases h
      · cases h

theorem of_named?_eq_some {cs : List Char} {o : Switch σ} {name : String}
    {value : Option (List Char)} (h : g.named? cs = some (o, name, value)) :
    o ∈ g.switches ∧ name ∈ o.names ∧ ((name.toList = cs ∧ value = none) ∨
      (name.toList = cs.takeWhile (· != '=') ∧ value = (cs.dropWhile (· != '=')).tail?)) := by
  unfold named? at h
  split at h
  · rename_i ho
    cases h
    obtain ⟨hmem, hname⟩ := of_find?_eq_some ho
    exact ⟨hmem, hname, .inl ⟨String.toList_ofList, rfl⟩⟩
  · split at h
    · rename_i hdrop
      obtain ⟨o, ho, h⟩ := Option.map_eq_some_iff.mp h
      cases h
      obtain ⟨hmem, hname⟩ := of_find?_eq_some ho
      exact ⟨hmem, hname, .inr ⟨String.toList_ofList, by rw [hdrop, List.tail?_cons]⟩⟩
    · cases h

theorem spread_eq_ok {o : Switch σ} {name : String} {cs : List Char} {os : List (Switch σ)}
    {value : Option String} (h : g.spread o name cs = .ok (os, value)) :
    ∃ more, os = o :: more := by
  cases cs with
  | nil =>
    simp only [spread] at h
    split at h <;> cases h
    exact ⟨_, rfl⟩
  | cons c cs =>
    simp only [spread] at h
    split at h
    · split at h
      · cases h
      · split at h
        · cases h
        · split at h
          · cases h
            exact ⟨_, rfl⟩
          · simp only [Except.bind_eq_ok, Except.pure_eq_ok, Prod.exists, Prod.mk.injEq] at h
            obtain ⟨more, _, -, rfl, -⟩ := h
            exact ⟨more, rfl⟩
    · cases h
    · cases h
      exact ⟨_, rfl⟩

/-- The first of the options that are stored together stores something. -/
theorem storeAll_cons_ok {o : Switch σ} {more : List (Switch σ)} {values : List String} {s s' : σ}
    (h : storeAll (o :: more) values s = .ok s') : ∃ values s₁, o.store values s = .ok s₁ := by
  cases more with
  | nil => exact ⟨values, s', h⟩
  | cons next more =>
    simp only [storeAll, Except.bind_eq_ok] at h
    obtain ⟨s₁, hs, -⟩ := h
    exact ⟨[], s₁, hs⟩

/-- An option that is read is stored. -/
theorem take_eq_ok {o : Switch σ} {name : String} {value : Option (List Char)}
    {behind : List (String × Argument σ)} {s s' : σ} {n : Nat}
    (h : g.take o name value behind s = .ok (s', n)) : ∃ values s₁, o.store values s = .ok s₁ := by
  obtain ⟨more, values, hs⟩ : ∃ more values, storeAll (o :: more) values s = .ok s' := by
    cases value with
    | none =>
      simp only [take, pure_bind, Except.bind_eq_ok, Except.pure_eq_ok, Prod.mk.injEq] at h
      obtain ⟨_, -, _, hs, rfl, -⟩ := h
      exact ⟨[], _, hs⟩
    | some cs =>
      simp only [take, Except.bind_eq_ok, Prod.exists] at h
      obtain ⟨os, attached, hspread, h⟩ := h
      obtain ⟨more, rfl⟩ := spread_eq_ok hspread
      split at h
      · simp only [Except.bind_eq_ok, Except.pure_eq_ok, Prod.mk.injEq] at h
        obtain ⟨_, hs, rfl, -⟩ := h
        exact ⟨more, _, hs⟩
      · simp only [Except.bind_eq_ok, Except.pure_eq_ok, Prod.mk.injEq] at h
        obtain ⟨_, -, _, hs, rfl, -⟩ := h
        exact ⟨more, _, hs⟩
  exact storeAll_cons_ok hs

end Grammar

namespace Arguments

variable {α : Type}

/-- What is read of a command line: its settings, and the arguments that its command does not
take. -/
abbrev Settings (α : Type) : Type :=
  Arguments α × List String

def formatSwitch : Switch (Settings α) :=
  ⟨["--error-format"], .one, storeFormat⟩

def debugSwitch : Switch (Settings α) :=
  .flag ["--debug"] id

variable [Scalar α]

theorem switches_grammar :
    (grammar (α := α)).switches = [.help, formatSwitch, debugSwitch] :=
  rfl

/-- The first characters of a name that is no beginning of the name of the option for the form of
reports. -/
theorem namesFormat_of_start {start : List Char} (h : start <+: "--error-format".toList)
    (hlong : 2 < start.length) : NamesFormat start :=
  ⟨List.prefix_of_prefix_length_le (by decide) h hlong, h⟩

theorem named_grammar {o : Switch (Settings α)} {name : String}
    (ho : o ∈ (grammar (α := α)).switches) (hname : name ∈ o.names) :
    (o = formatSwitch ∧ name = "--error-format") ∨ (o = debugSwitch ∧ name = "--debug") ∨
      (o = .help ∧ (name = "-h" ∨ name = "--help")) := by
  rw [switches_grammar] at ho
  obtain rfl | rfl | rfl : o = .help ∨ o = formatSwitch ∨ o = debugSwitch := by simpa using ho
  · exact .inr (.inr ⟨rfl, by simpa [Switch.help] using hname⟩)
  · exact .inl ⟨rfl, by simpa [formatSwitch] using hname⟩
  · exact .inr (.inl ⟨rfl, by simpa [debugSwitch, Switch.flag] using hname⟩)

/-- What may stand for the option for the form of reports, and for nothing else, names it: what is
too short for that is as good a beginning of another name. -/
theorem namesFormat_of_candidates {cs : List Char} {value : Option (List Char)}
    (hlong : 2 ≤ cs.length)
    (h : (grammar (α := α)).candidates cs = [(formatSwitch, "--error-format", value)]) :
    NamesFormat (cs.takeWhile (· != '=')) := by
  have hmem : (formatSwitch, "--error-format", value) ∈ (grammar (α := α)).candidates cs := by
    simp [h]
  by_cases hdashes : cs.take 2 = ['-', '-']
  · obtain ⟨-, -, hstarts, hvalue⟩ := (Grammar.mem_candidates_long hdashes).mp hmem
    by_contra hnot
    have hshort : (cs.takeWhile (· != '=')).length ≤ 2 :=
      Nat.le_of_not_lt fun hlong => hnot (namesFormat_of_start hstarts hlong)
    have hdebug : (debugSwitch, "--debug", value) ∈ (grammar (α := α)).candidates cs := by
      refine (Grammar.mem_candidates_long hdashes).mpr ⟨by simp [switches_grammar],
        by simp [debugSwitch, Switch.flag], ?_, hvalue⟩
      have htwo : cs.takeWhile (· != '=') <+: ['-', '-'] :=
        List.prefix_of_prefix_length_le hstarts (by decide) hshort
      exact htwo.trans (by decide)
    rw [h] at hdebug
    simp at hdebug
  · obtain ⟨-, -, heq | hstarts⟩ := Grammar.of_mem_candidates_short hdashes hmem
    · have hlength := congrArg List.length heq
      simp only [List.length_take] at hlength
      have : "--error-format".toList.length = 14 := by decide
      omega
    · refine absurd ?_ hdashes
      obtain ⟨rest, hrest⟩ := hstarts
      have htake := congrArg (List.take 2) hrest
      rwa [List.take_append_of_le_length hlong] at htake

/-- An argument that does not choose the form of reports, in front of the command, is the option for
traces or for help, or no option. -/
theorem classify_other {arg : String} {a : Argument (Settings α)}
    (hdash : arg.toList.head? = some '-')
    (hname : ¬NamesFormat (arg.toList.takeWhile (· != '=')))
    (h : (grammar (α := α)).classify arg = .ok a) :
    a = .word ∨ a = .unknown ∨ ∃ o name value, a = .option o name value ∧
      ((o = debugSwitch ∧ name = "--debug") ∨ (o = .help ∧ (name = "-h" ∨ name = "--help"))) := by
  cases a with
  | word => exact .inl rfl
  | unknown => exact .inr (.inl rfl)
  | separator => exact absurd h (Grammar.classify_ne_separator _ _)
  | option o name value =>
    refine .inr (.inr ⟨o, name, value, rfl, ?_⟩)
    obtain ⟨hlength, hnamed | hcandidates⟩ := Grammar.classify_option h
    · obtain ⟨ho, hmem, hwritten⟩ := Grammar.of_named?_eq_some hnamed
      obtain ⟨rfl, rfl⟩ | hother := named_grammar ho hmem
      · refine absurd ?_ hname
        obtain ⟨hwritten, -⟩ | ⟨hwritten, -⟩ := hwritten
        · rw [← hwritten]
          exact ⟨by decide, by decide⟩
        · rw [← hwritten]
          exact ⟨by decide, by decide⟩
      · exact hother
    · have hmem : (o, name, value) ∈ (grammar (α := α)).candidates arg.toList := by
        simp [hcandidates]
      obtain ⟨ho, hnamed⟩ := Grammar.of_mem_candidates hmem
      obtain ⟨rfl, rfl⟩ | hother := named_grammar ho hnamed
      · have hlong : 2 ≤ arg.toList.length := by
          cases hchars : arg.toList with
          | nil => simp [hchars] at hdash
          | cons c cs =>
            rw [hchars, List.length_cons] at hlength
            rw [List.length_cons]
            omega
        exact absurd (namesFormat_of_candidates hlong hcandidates) hname
      · exact hother

/-- Only one name begins with what names the option for the form of reports. -/
theorem eq_format_of_start {start : List Char} (hstart : NamesFormat start)
    {o : Switch (Settings α)} {name : String} (ho : o ∈ (grammar (α := α)).switches)
    (hname : name ∈ o.names) (hstarts : start <+: name.toList) :
    o = formatSwitch ∧ name = "--error-format" := by
  have he : "--e".toList <+: name.toList := hstart.1.trans hstarts
  obtain h | ⟨-, rfl⟩ | ⟨-, rfl | rfl⟩ := named_grammar ho hname
  · exact h
  all_goals exact absurd he (by decide)

/-- An argument that begins with a name of the option for the form of reports, and has nothing or a
value behind it, is cut behind this name. -/
theorem cut_of_namesFormat {start tail : List Char} (hstart : NamesFormat start)
    (htail : ∀ c ∈ tail.head?, c = '=') :
    (start ++ tail).takeWhile (· != '=') = start ∧
      (start ++ tail).dropWhile (· != '=') = tail := by
  have hall : ∀ c ∈ "--error-format".toList, (c != '=') = true :=
    List.all_eq_true.mp (by decide)
  have huncut : ∀ c ∈ start, (c != '=') = true := fun c hc => hall c (hstart.2.subset hc)
  rw [List.takeWhile_append_of_pos huncut, List.dropWhile_append_of_pos huncut]
  cases tail with
  | nil => exact ⟨start.append_nil, rfl⟩
  | cons c tail => simp [htail c rfl]

theorem named_format {start tail : List Char} (hstart : NamesFormat start)
    (htail : ∀ c ∈ tail.head?, c = '=') {o : Switch (Settings α)} {name : String}
    {value : Option (List Char)}
    (h : (grammar (α := α)).named? (start ++ tail) = some (o, name, value)) :
    o = formatSwitch ∧ name = "--error-format" ∧ value = tail.tail? := by
  obtain ⟨htake, hdrop⟩ := cut_of_namesFormat hstart htail
  obtain ⟨ho, hname, hcase⟩ := Grammar.of_named?_eq_some h
  rw [htake, hdrop] at hcase
  have hstarts : start <+: name.toList := by
    obtain ⟨h, -⟩ | ⟨h, -⟩ := hcase
    · exact h ▸ List.prefix_append _ _
    · rw [h]
  obtain ⟨rfl, rfl⟩ := eq_format_of_start hstart ho hname hstarts
  refine ⟨rfl, rfl, ?_⟩
  obtain ⟨hwritten, rfl⟩ | ⟨-, rfl⟩ := hcase
  · cases tail with
    | nil => rfl
    | cons c tail =>
      have hmem : '=' ∈ "--error-format".toList := by
        rw [hwritten, htail c rfl]
        simp
      exact absurd hmem (by decide)
  · rfl

theorem candidates_format {start tail : List Char} (hstart : NamesFormat start)
    (htail : ∀ c ∈ tail.head?, c = '=') :
    (grammar (α := α)).candidates (start ++ tail) =
      [(formatSwitch, "--error-format", tail.tail?)] := by
  obtain ⟨htake, hdrop⟩ := cut_of_namesFormat hstart htail
  have hdashes : (start ++ tail).take 2 = ['-', '-'] := by
    obtain ⟨more, hmore⟩ := hstart.1
    simp [← hmore]
  have hall : ((grammar (α := α)).switches.flatMap fun o => o.names.map fun name => (o, name)) =
      [(.help, "-h"), (.help, "--help"), (formatSwitch, "--error-format"),
        (debugSwitch, "--debug")] := rfl
  have hself : start.isPrefixOf "--error-format".toList = true :=
    List.isPrefixOf_iff_prefix.mpr hstart.2
  have hother {name : String} (h : ¬"--e".toList <+: name.toList) :
      start.isPrefixOf name.toList = false :=
    Bool.eq_false_iff.mpr fun hstarts =>
      h (hstart.1.trans (List.isPrefixOf_iff_prefix.mp hstarts))
  have hh := hother (show ¬"--e".toList <+: "-h".toList by decide)
  have hhelp := hother (show ¬"--e".toList <+: "--help".toList by decide)
  have hdebug := hother (show ¬"--e".toList <+: "--debug".toList by decide)
  rw [Grammar.candidates, if_pos (by simp [hdashes])]
  simp only [htake, hdrop, hall, List.filter_cons, List.filter_nil, hh, hhelp, hself, hdebug,
    if_true, Bool.false_eq_true, if_false, List.map_cons, List.map_nil]

/-- An argument that begins with a name of the option for the form of reports, and has nothing or a
value behind it, is this option. -/
theorem classify_format {written : String} {start tail : List Char}
    (hwritten : written.toList = start ++ tail) (hstart : NamesFormat start)
    (htail : ∀ c ∈ tail.head?, c = '=') :
    (grammar (α := α)).classify written =
      .ok (.option formatSwitch "--error-format" tail.tail?) := by
  have hoption : ((start ++ tail).head? != some '-' || (start ++ tail).length == 1) = false := by
    obtain ⟨more, hmore⟩ := hstart.1
    simp [← hmore]
  rw [Grammar.classify]
  simp only [hwritten, hoption, Bool.false_eq_true, if_false]
  cases hnamed : (grammar (α := α)).named? (start ++ tail) with
  | some found =>
    obtain ⟨o, name, value⟩ := found
    obtain ⟨rfl, rfl, rfl⟩ := named_format hstart htail hnamed
    rfl
  | none => rw [candidates_format hstart htail]

theorem take_help {name : String} {value : Option (List Char)}
    {behind : List (String × Argument (Settings α))} {s s' : Settings α} {n : Nat} :
    (grammar (α := α)).take .help name value behind s ≠ .ok (s', n) := by
  intro h
  obtain ⟨_, _, hstore⟩ := Grammar.take_eq_ok h
  cases hstore

/-- The option for traces changes nothing that is read, and has no value. -/
theorem take_debug {value : Option (List Char)} {behind : List (String × Argument (Settings α))}
    {s s' : Settings α} {n : Nat}
    (h : (grammar (α := α)).take debugSwitch "--debug" value behind s = .ok (s', n)) :
    s' = s ∧ n = 0 := by
  cases value with
  | none =>
    cases h
    exact ⟨rfl, rfl⟩
  | some cs =>
    cases cs with
    | nil => cases h
    | cons c cs => cases h

theorem take_format_apart (format : ReportFormat) (behind : List (String × Argument (Settings α)))
    (s : Settings α) :
    (grammar (α := α)).take formatSwitch "--error-format" none ((format.name, .word) :: behind) s =
      .ok (({ s.1 with format }, s.2), 1) := by
  cases format <;> rfl

theorem take_format_attached (format : ReportFormat)
    (behind : List (String × Argument (Settings α))) (s : Settings α) :
    (grammar (α := α)).take formatSwitch "--error-format" (some format.name.toList) behind s =
      .ok (({ s.1 with format }, s.2), 0) := by
  cases format <;> rfl

theorem classifyAll_cons_ok {arg : String} {args : List String} (hne : arg ≠ "--")
    {as : List (String × Argument (Settings α))}
    (h : (grammar (α := α)).classifyAll (arg :: args) = .ok as) :
    ∃ a rest, (grammar (α := α)).classify arg = .ok a ∧
      (grammar (α := α)).classifyAll args = .ok rest ∧ as = (arg, a) :: rest := by
  rw [Grammar.classifyAll] at h
  · simp only [Except.bind_eq_ok, Except.pure_eq_ok] at h
    obtain ⟨a, ha, rest, hrest, rfl⟩ := h
    exact ⟨a, rest, ha, hrest, rfl⟩
  · exact hne

theorem read_dash_ne_ok {arg : String} (hdash : arg.toList.head? = some '-') (args : List String)
    (r : Option (Command α) × List String) : Command.read (arg :: args) ≠ .ok r := by
  intro h
  unfold Command.read at h
  split at h
  · cases ‹_ = []›
  · obtain ⟨rfl, -⟩ := List.cons.inj ‹_›
    simp at hdash
  · obtain ⟨rfl, -⟩ := List.cons.inj ‹_›
    simp at hdash
  · obtain ⟨rfl, -⟩ := List.cons.inj ‹_›
    simp at hdash
  · cases h

theorem consume_word {arg : String} {as : List (String × Argument (Settings α))}
    {s s' : Settings α} {extras : List String}
    (h : (grammar (α := α)).consume true s ((arg, .word) :: as) = .ok (s', extras)) :
    ∃ command others, Command.read (arg :: as.map (·.1)) = .ok (command, others) ∧
      s' = ({ s.1 with command }, others) := by
  have hcount : (grammar (α := α)).operands.count (.word :: as.map (·.2)) =
      some (as.length + 1) := by
    simp [grammar, Operands.command]
  simp only [Grammar.consume, if_true, hcount, List.take_length, List.drop_length,
    Except.bind_eq_ok] at h
  obtain ⟨s₁, hstore, h⟩ := h
  simp only [grammar, Operands.command, Except.bind_eq_ok, Except.pure_eq_ok, Prod.exists] at hstore
  obtain ⟨command, others, hread, rfl⟩ := hstore
  cases h
  exact ⟨command, others, hread, rfl⟩

/-- Behind the last choice of a form in front of the command it stays as it is: with something
behind it, `--` is in the place of the command, and is none. -/
theorem consume_ends {rest : List String} (hrest : EndsOptions rest)
    {as : List (String × Argument (Settings α))} {s s' : Settings α}
    (has : (grammar (α := α)).classifyAll rest = .ok as)
    (h : (grammar (α := α)).consume true s as = .ok (s', [])) : s'.1.format = s.1.format := by
  cases rest with
  | nil =>
    cases has
    rw [Grammar.consume] at h
    cases h
    rfl
  | cons arg args =>
    obtain rfl | hword := hrest arg rfl
    · rw [Grammar.classifyAll] at has
      cases has
      cases args with
      | nil =>
        simp [Grammar.consume, grammar, Operands.command] at h
      | cons next args =>
        have hcount : (grammar (α := α)).operands.count (.separator :: .word ::
            (args.map fun arg => (arg, Argument.word)).map (·.2)) = some (args.length + 2) := by
          simp [grammar, Operands.command]
        simp only [List.map_cons, Grammar.consume, if_true, hcount, Except.bind_eq_ok] at h
        obtain ⟨_, hstore, -⟩ := h
        simp only [grammar, Operands.command, Except.bind_eq_ok] at hstore
        obtain ⟨_, hread, -⟩ := hstore
        exact absurd hread (read_dash_ne_ok (by decide) _ _)
    · have hne : arg ≠ "--" := by
        rintro rfl
        simp at hword
      obtain ⟨a, as, ha, -, rfl⟩ := classifyAll_cons_ok hne has
      have hclassify : (grammar (α := α)).classify arg = .ok .word := by
        simp [Grammar.classify, hword]
      obtain rfl := Except.ok.inj (hclassify.symm.trans ha)
      obtain ⟨_, _, -, rfl⟩ := consume_word h
      rfl

theorem ne_separator_of_namesFormat {name : String} (h : NamesFormat name.toList) (tail : String) :
    name ++ tail ≠ "--" := by
  intro heq
  have hstarts := h.1.trans (List.prefix_append name.toList tail.toList)
  rw [← String.toList_append, heq] at hstarts
  exact absurd hstarts (by decide)

/-- Choices of a form in front of everything else are taken over one by one. Each overwrites the one
that is known so far, the `before` of what follows; an option that is not known is left over in the
end, and help stops the reading. -/
theorem consume_leading {before last : ReportFormat} {args rest : List String}
    (hargs : Leading before args last) (hrest : EndsOptions rest)
    {as : List (String × Argument (Settings α))} {s s' : Settings α}
    (has : (grammar (α := α)).classifyAll (args ++ rest) = .ok as) (hs : s.1.format = before)
    (h : (grammar (α := α)).consume true s as = .ok (s', [])) : s'.1.format = last := by
  induction hargs generalizing s as with
  | nil format => exact (consume_ends hrest has h).trans hs
  | @choice _ after _ _ args hchoice _ ih =>
    cases hchoice with
    | @apart name hname =>
      have hne := ne_separator_of_namesFormat hname ""
      rw [String.append_empty] at hne
      have hword : (grammar (α := α)).classify after.name = .ok .word := by
        cases after <;> rfl
      have hvalue : after.name ≠ "--" := by
        cases after <;> decide
      obtain ⟨a, behind, ha, hbehind, rfl⟩ := classifyAll_cons_ok hne has
      obtain ⟨v, behind, hv, hclass, rfl⟩ := classifyAll_cons_ok hvalue hbehind
      have hformat := classify_format (α := α) (List.append_nil name.toList).symm hname (by simp)
      obtain rfl := Except.ok.inj (hformat.symm.trans ha)
      obtain rfl := Except.ok.inj (hword.symm.trans hv)
      rw [Grammar.consume, List.tail?_nil, take_format_apart] at h
      exact ih hclass rfl h
    | @attached name hname =>
      have hne := ne_separator_of_namesFormat hname ("=" ++ after.name)
      rw [← String.append_assoc] at hne
      obtain ⟨a, behind, ha, hclass, rfl⟩ := classifyAll_cons_ok hne has
      have hwritten : (name ++ "=" ++ after.name).toList =
          name.toList ++ '=' :: after.name.toList := by
        simp
      have hformat := classify_format (α := α) hwritten hname (by simp)
      obtain rfl := Except.ok.inj (hformat.symm.trans ha)
      rw [Grammar.consume, List.tail?_cons, take_format_attached] at h
      exact ih hclass rfl h
  | other hdash hne hname _ ih =>
    obtain ⟨a, behind, ha, hclass, rfl⟩ := classifyAll_cons_ok hne has
    obtain rfl | rfl | ⟨o, name, value, rfl, ⟨rfl, rfl⟩ | ⟨rfl, -⟩⟩ :=
      classify_other hdash hname ha
    · obtain ⟨_, _, hread, -⟩ := consume_word h
      exact absurd hread (read_dash_ne_ok hdash _ _)
    · simp only [Grammar.consume, Except.bind_eq_ok, Except.pure_eq_ok, Prod.mk.injEq,
        reduceCtorEq, and_false, exists_false] at h
    · simp only [Grammar.consume, Except.bind_eq_ok] at h
      obtain ⟨⟨_, _⟩, htake, h⟩ := h
      obtain ⟨rfl, rfl⟩ := take_debug htake
      exact ih hclass hs h
    · simp only [Grammar.consume, Except.bind_eq_ok] at h
      obtain ⟨⟨_, _⟩, htake, -⟩ := h
      exact absurd htake take_help

/-- Where a command line that asks for a form of reports is followed, this is the form. -/
theorem read_format {argv : List String} {format : ReportFormat} {line : Arguments α}
    (hasks : AsksFor format argv) (h : Arguments.read argv = .ok line) : line.format = format := by
  obtain ⟨args, rest, rfl, hargs, hrest⟩ := hasks
  simp only [Arguments.read, Grammar.read, Except.bind_eq_ok, Prod.exists] at h
  obtain ⟨s, extras, others, ⟨as, has, hconsume⟩, h⟩ := h
  split at h
  · rename_i hnone
    obtain rfl : others = [] := (List.append_eq_nil_iff.mp (List.isEmpty_iff.mp hnone)).1
    cases h
    exact consume_leading hargs hrest has rfl hconsume
  · cases h

end Arguments

end GridDiagram.Cli
