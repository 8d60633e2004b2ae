import GridDiagram.Proofs.Cli.Format
import GridDiagram.Proofs.Cli.Inputs
import GridDiagram.Proofs.Color

/-!
What a run says on the standard error: reports, warnings and traces, all in the form that its
command line asks for. In the form for programs each report and each warning is one object on a line
of its own. A command line that is wrong, however, is reported in that form only if the option for
it is written in full.
-/

theorem String.intercalate_empty (l : List String) : "".intercalate l = String.join l := by
  induction l with
  | nil => rfl
  | cons s l ih =>
    cases l with
    | nil => simp
    | cons t l => rw [String.intercalate_cons_cons, ih, String.append_empty, ← String.join_cons]

namespace GridDiagram

/-! ### Objects on a line -/

namespace Json

theorem newline_not_mem_escapeChar (c : Char) : '\n' ∉ escapeChar c := by
  have hhex (u : Nat) : '\n' ∉ Text.hexDigits 4 u := fun h =>
    absurd (Color.mem_hexAlphabet_of_mem_hexDigits 4 u _ h) (by decide)
  by_cases hc : c = '\n'
  · subst hc
    decide
  · unfold escapeChar
    split_ifs <;> simp [hhex, Ne.symm hc]

theorem newline_not_mem_quote (s : String) : '\n' ∉ (quote s).toList := by
  simp [quote, newline_not_mem_escapeChar]

theorem newline_not_mem_toString (n : Int) : '\n' ∉ (toString n).toList := by
  have hdigits (n : Nat) : '\n' ∉ Nat.toDigits 10 n := fun h => by
    simpa using Nat.isDigit_of_mem_toDigits (by decide) (by decide) h
  cases n with
  | ofNat n =>
    rw [show toString (Int.ofNat n) = n.repr from rfl, Nat.toList_repr]
    exact hdigits n
  | negSucc n =>
    rw [show toString (Int.negSucc n) = "-" ++ (n + 1).repr from rfl]
    simp [hdigits]

theorem newline_not_mem_intercalate {s : String} {l : List String} (hs : '\n' ∉ s.toList)
    (hl : ∀ t ∈ l, '\n' ∉ t.toList) : '\n' ∉ (s.intercalate l).toList := by
  induction l with
  | nil => simp
  | cons t l ih =>
    obtain ⟨ht, hl⟩ := List.forall_mem_cons.mp hl
    cases l with
    | nil => simpa using ht
    | cons u l => simpa [hs, ht] using ih hl

/-- An object whose fields have no line feed is written on one line. -/
theorem newline_not_mem_object {fields : List (String × Json)}
    (h : ∀ p ∈ fields, '\n' ∉ p.2.compact.toList) : '\n' ∉ (object fields).compact.toList := by
  have hfields : ∀ t ∈ compactFields fields, '\n' ∉ t.toList := by
    induction fields with
    | nil => simp [compactFields]
    | cons p fields ih =>
      obtain ⟨hp, hfields⟩ := List.forall_mem_cons.mp h
      rw [compactFields]
      refine List.forall_mem_cons.mpr ⟨?_, ih hfields⟩
      simp [newline_not_mem_quote, hp]
  simp only [compact, String.toList_append, List.mem_append, not_or]
  exact ⟨⟨by decide, newline_not_mem_intercalate (by decide) hfields⟩, by decide⟩

end Json

namespace Cli

variable {α σ : Type}

/-- A line that holds one object and nothing else. -/
def IsObjectLine (line : String) : Prop :=
  ∃ fields, line = (Json.object fields).compact ++ "\n" ∧
    '\n' ∉ (Json.object fields).compact.toList

theorem isObjectLine_report (r : Report) : IsObjectLine r.json := by
  refine ⟨_, rfl, Json.newline_not_mem_object ?_⟩
  have htext (s : Option String) : '\n' ∉ (Json.ofString? s).compact.toList := by
    cases s with
    | none => decide
    | some s => exact Json.newline_not_mem_quote s
  have hbool (b : Bool) : '\n' ∉ (Json.bool b).compact.toList := by
    cases b <;> decide
  have hplace (n : Option Nat) : '\n' ∉ (Report.placeToJson n).compact.toList := by
    cases n with
    | none => decide
    | some n => exact Json.newline_not_mem_toString n
  simp only [List.forall_mem_cons, List.not_mem_nil, false_implies, implies_true, and_true]
  exact ⟨hbool _, htext (some _), htext (some _), htext _, hplace _, hplace _, htext _, hbool _⟩

theorem isObjectLine_warning [Scalar α] (name : String) (w : LayoutWarning α) :
    IsObjectLine (w.json name) := by
  refine ⟨_, rfl, Json.newline_not_mem_object ?_⟩
  simp only [List.forall_mem_cons, List.not_mem_nil, false_implies, implies_true, and_true]
  exact ⟨by decide, Json.newline_not_mem_quote _, Json.newline_not_mem_quote _,
    Json.newline_not_mem_quote _, Json.newline_not_mem_quote _⟩

/-! ### Messages -/

/-- What a run says on the standard error: a report, a warning about what has been compiled from a
source of a name, or a trace. -/
inductive Message (α : Type) where
  | report (r : Report)
  | warning (name : String) (w : LayoutWarning α)
  | trace

variable [Scalar α]

/-- A message in a form. Traces have only one. -/
def Message.write (format : ReportFormat) : Message α → String
  | .report r => format.write r
  | .warning name w =>
    match format with
    | .text => w.text
    | .json => w.json name
  | .trace => traceLine

theorem Message.isObjectLine {message : Message α} (h : message ≠ .trace) :
    IsObjectLine (message.write .json) := by
  cases message with
  | report r => exact isObjectLine_report r
  | warning name w => exact isObjectLine_warning name w
  | trace => contradiction

/-- Messages are what has been shown on the standard error, with traces only where they are asked
for, and with a report that has the code of the run, if that is not 0. -/
structure Shown.Says (how : Reporting) (messages : List (Message α)) (shown : Shown) : Prop where
  stderr : shown.stderr = String.join (messages.map (Message.write how.format))
  traced : .trace ∈ messages → how.trace = true
  reported : shown.code ≠ 0 → ∃ r, .report r ∈ messages ∧ r.exitCode = shown.code

/-- A report, and its trace. -/
def reportMessages (how : Reporting) (r : Report) : List (Message α) :=
  .report r :: if how.trace then [.trace] else []

namespace Shown

variable {how : Reporting} {shown : Shown} {messages : List (Message α)}

theorem says_empty (how : Reporting) : Says (α := α) how [] {} :=
  ⟨rfl, by simp, fun h => absurd rfl h⟩

theorem Says.print (h : Says how messages shown) (text : String) :
    Says how messages (shown.print text) :=
  ⟨h.stderr, h.traced, h.reported⟩

theorem Says.warn (h : Says how messages shown) (name : String)
    (warnings : List (LayoutWarning α)) :
    Says how (messages ++ warnings.map (.warning name))
      (shown.warn (writeWarnings how.format name warnings)) := by
  have hjoin : writeWarnings how.format name warnings =
      String.join ((warnings.map (.warning name)).map (Message.write how.format)) := by
    rw [writeWarnings, String.intercalate_empty, List.map_map]
    rfl
  refine ⟨?_, fun htrace => ?_, fun hcode => ?_⟩
  · rw [Shown.warn, h.stderr, hjoin, List.map_append, String.join_append]
  · exact h.traced (by simpa using htrace)
  · obtain ⟨r, hr, hexit⟩ := h.reported hcode
    exact ⟨r, List.mem_append_left _ hr, hexit⟩

theorem Says.report (h : Says how messages shown) (r : Report) {code : Nat}
    (hcode : code = r.exitCode ∨ code = shown.code) :
    Says how (messages ++ reportMessages how r) { shown.report how r with code } := by
  refine ⟨?_, fun htrace => ?_, fun hne => ?_⟩
  · have htrace : String.join ((reportMessages how r).map (Message.write (α := α) how.format)) =
        how.format.write r ++ if how.trace then traceLine else "" := by
      unfold reportMessages
      split <;> simp [Message.write]
    rw [List.map_append, String.join_append, htrace, ← h.stderr]
    cases htraced : how.trace <;>
      simp [Shown.report, Shown.note, Shown.warn, htraced, String.append_assoc]
  · obtain htrace | htrace := List.mem_append.mp htrace
    · exact h.traced htrace
    · by_contra hno
      simp [reportMessages, hno] at htrace
  · obtain rfl | rfl := hcode
    · exact ⟨r, by simp [reportMessages], rfl⟩
    · obtain ⟨r', hr', hexit⟩ := h.reported hne
      exact ⟨r', List.mem_append_left _ hr', hexit⟩

theorem Says.fail (h : Says how messages shown) (r : Report) :
    Says how (messages ++ reportMessages how r) (shown.fail how r) :=
  h.report r (.inl rfl)

theorem Says.failInput (h : Says how messages shown) (r : Report) :
    Says how (messages ++ reportMessages how r) (shown.failInput how r) := by
  refine h.report r ?_
  split_ifs
  · exact .inl rfl
  · exact .inr rfl

end Shown

/-! ### Runs -/

section Runs

variable {host : Host (StateM σ)} {how : Reporting}

theorem showDrawings_says (target : Input → Option Path) (attempts : List (Attempt α))
    {shown : Shown} {messages : List (Message α)} (h : shown.Says how messages) (s : σ) :
    ∃ messages : List (Message α),
      ((showDrawings host how target shown attempts).run s).1.Says how messages := by
  induction attempts generalizing shown messages s with
  | nil => exact ⟨messages, h⟩
  | cons attempt attempts ih =>
    obtain ⟨input, e | drawn⟩ := attempt
    · rw [showDrawings]
      exact ih (h.failInput _) s
    · have hwarned := h.warn input.name drawn.warnings
      cases htarget : target input with
      | none =>
        rw [showDrawings, htarget]
        exact ih (hwarned.print _) s
      | some path =>
        rw [showDrawings, htarget, StateT.run_bind]
        rcases (host.write path drawn.svg).run s with ⟨e | ⟨⟩, s'⟩
        · exact ⟨_, hwarned.fail (writeReport path e)⟩
        · exact ih (hwarned.print _) s'

theorem compile_says (world : Surroundings α) (args : CompileArguments α) (s : σ) :
    ∃ messages : List (Message α),
      ((compile world host how args).run s).1.Says how messages := by
  rw [compile, StateT.run_bind]
  rcases (prepareCompile host args).run.run s with ⟨r | ⟨options, inputs, shared⟩, s'⟩
  · exact ⟨_, (Shown.says_empty how).fail r⟩
  · exact showDrawings_says _ _ (Shown.says_empty how) s'

theorem geometry_says (world : Surroundings α) (toJson : Compiled α → Json)
    (args : GeometryArguments α) (s : σ) :
    ∃ messages : List (Message α),
      ((geometry world toJson host how args).run s).1.Says how messages := by
  rw [geometry, StateT.run_bind]
  rcases (prepareGeometry host args).run.run s with ⟨r | ⟨options, input, shared⟩, s'⟩
  · exact ⟨_, (Shown.says_empty how).fail r⟩
  · change ∃ messages, Shown.Says how messages (StateT.run (m := Id) _ s').1
    dsimp only
    cases (Document.ofSource input.source).bind fun d => d.compile world options shared with
    | error e => exact ⟨_, (Shown.says_empty how).fail _⟩
    | ok c => exact ⟨_, ((Shown.says_empty how).warn input.name _).print _⟩

variable (host)

theorem run_says (world : Surroundings α) (toJson : Compiled α → Json) (debug : Bool)
    {argv : List String} (hargv : argv ≠ []) {line : Arguments α}
    (hline : Arguments.read argv = .ok line) (s : σ) :
    ∃ messages : List (Message α), ((run world toJson host debug argv).run s).1.Says
      ⟨line.format, debug || argv.contains "--debug"⟩ messages := by
  rw [run, if_neg (by simpa using hargv), hline]
  dsimp only
  cases hcommand : line.command with
  | none => exact ⟨_, (Shown.says_empty _).fail noCommand⟩
  | some command =>
    cases command with
    | compile args => exact compile_says world args s
    | geometry args => exact geometry_says world toJson args s
    | cheatsheet => exact ⟨_, (Shown.says_empty _).print _⟩

/-- A command line that is wrong is reported in the form that is known before it has been read. -/
theorem run_usage (world : Surroundings α) (toJson : Compiled α → Json) (debug : Bool)
    {argv : List String} (hargv : argv ≠ []) {e : UsageError}
    (hread : (Arguments.read argv : Except Stop (Arguments α)) = .error (.usage e)) (s : σ) :
    ((run world toJson host debug argv).run s).1 =
      Shown.fail {} ⟨earlyFormat argv, false⟩ (usageReport e) := by
  rw [run, if_neg (by simpa using hargv), hread]
  rfl

theorem run_help (world : Surroundings α) (toJson : Compiled α → Json) (debug : Bool)
    {argv : List String} (hargv : argv ≠ [])
    (hread : (Arguments.read argv : Except Stop (Arguments α)) = .error .help) (s : σ) :
    ((run world toJson host debug argv).run s).1 = Shown.print {} usage := by
  rw [run, if_neg (by simpa using hargv), hread]
  rfl

end Runs

/-! ### Command lines that ask for the form for programs -/

/-- The option for the form of reports is written in full where it first is, with the form for
programs behind it. -/
def NamesJsonInFull (argv : List String) : Prop :=
  ∃ before rest, argv = before ++ "--error-format" :: "json" :: rest ∧ "--error-format" ∉ before

theorem earlyFormat_eq_json_iff {argv : List String} :
    earlyFormat argv = .json ↔ NamesJsonInFull argv := by
  have hnone (before : List String) :
      (∀ arg ∈ before, (arg != "--error-format") = true) ↔ "--error-format" ∉ before := by
    simp only [bne_iff_ne]
    exact ⟨fun h hmem => h _ hmem rfl, fun h arg harg heq => h (heq ▸ harg)⟩
  constructor
  · intro h
    unfold earlyFormat at h
    split at h
    · rename_i name rest hdrop
      have hname : name = "--error-format" := by
        have hhead := List.head?_dropWhile_not (· != "--error-format") argv
        rw [hdrop] at hhead
        simpa using hhead
      refine ⟨argv.takeWhile (· != "--error-format"), rest, ?_, ?_⟩
      · rw [hname] at hdrop
        rw [← hdrop, List.takeWhile_append_dropWhile]
      · exact (hnone _).mp fun _ => List.mem_takeWhile_imp (p := (· != "--error-format"))
    · cases h
  · rintro ⟨before, rest, rfl, hbefore⟩
    rw [earlyFormat, List.dropWhile_append_of_pos ((hnone before).mpr hbefore),
      List.dropWhile_cons_of_neg (by simp)]
    rfl

/-- A run says nothing but objects on lines of their own on the standard error, apart from traces
where they are asked for, and among them is a report with its code, if that is not 0. -/
structure Shown.SaysObjects (shown : Shown) (messages : List (Message α)) (trace : Prop) :
    Prop where
  stderr : shown.stderr = String.join (messages.map (Message.write .json))
  lines : ∀ message ∈ messages, message ≠ .trace → IsObjectLine (message.write .json)
  traced : .trace ∈ messages → trace
  reported : shown.code ≠ 0 → ∃ r, .report r ∈ messages ∧ r.exitCode = shown.code

/-- A command line that asks for the form for programs in front of its command, in whatever
spelling, has all that goes wrong reported in objects on lines of their own, unless it is itself
wrong and the option for the form is not written in full. A command line that is wrong is then
reported in the form for people. -/
theorem run_says_objects (world : Surroundings α) (toJson : Compiled α → Json)
    (host : Host (StateM σ)) (debug : Bool) (argv : List String) (s : σ)
    (hasks : AsksFor .json argv) :
    let shown := ((run world toJson host debug argv).run s).1
    ((∀ e, (Arguments.read argv : Except Stop (Arguments α)) ≠ .error (.usage e)) ∨
        NamesJsonInFull argv →
      ∃ messages : List (Message α),
        shown.SaysObjects messages (debug = true ∨ "--debug" ∈ argv)) ∧
    ∀ e, (Arguments.read argv : Except Stop (Arguments α)) = .error (.usage e) →
      ¬NamesJsonInFull argv → shown.code = 2 ∧ shown.stderr = (usageReport e).text := by
  intro shown
  have hargv : argv ≠ [] := by
    rintro rfl
    cases Arguments.read_format (α := α) hasks Arguments.read_nil
  have hobjects {how : Reporting} {messages : List (Message α)} (hjson : how.format = .json)
      (hsaid : shown.Says how messages)
      (htrace : how.trace = true → debug = true ∨ "--debug" ∈ argv) :
      ∃ messages : List (Message α),
        shown.SaysObjects messages (debug = true ∨ "--debug" ∈ argv) :=
    ⟨messages, hjson ▸ hsaid.stderr, fun _ _ => Message.isObjectLine,
      fun hmem => htrace (hsaid.traced hmem), hsaid.reported⟩
  constructor
  · intro hcase
    cases hread : (Arguments.read argv : Except Stop (Arguments α)) with
    | ok line =>
      obtain ⟨messages, hsaid⟩ := run_says host world toJson debug hargv hread s
      exact hobjects (Arguments.read_format hasks hread) hsaid (by simp)
    | error stop =>
      cases stop with
      | help =>
        have hhelp : shown = Shown.print {} usage := run_help host world toJson debug hargv hread s
        have hsaid : shown.Says (α := α) ⟨.json, false⟩ [] :=
          hhelp ▸ (Shown.says_empty _).print usage
        exact hobjects rfl hsaid (by simp)
      | usage e =>
        obtain hnone | hfull := hcase
        · exact absurd hread (hnone e)
        · have hfail := run_usage host world toJson debug hargv hread s
          exact hobjects (earlyFormat_eq_json_iff.mpr hfull)
            (hfail ▸ (Shown.says_empty (α := α) _).fail (usageReport e)) (by simp)
  · intro e hread hnot
    have hearly : earlyFormat argv = .text := by
      cases hearly : earlyFormat argv with
      | text => rfl
      | json => exact absurd (earlyFormat_eq_json_iff.mp hearly) hnot
    have hfail : shown = _ := run_usage host world toJson debug hargv hread s
    rw [hfail, hearly]
    exact ⟨rfl, by simp [Shown.fail, Shown.report, Shown.note, Shown.warn, ReportFormat.write]⟩

/-- An error of an input, after a command line that asks for the form for programs by an option that
is cut short. -/
theorem run_says_objects_cut :
    AsksFor .json ["--error-f", "json", "--debug", "compile", "c.dg"] ∧
    (∀ e, (Arguments.read ["--error-f", "json", "--debug", "compile", "c.dg"] :
      Except Stop (Arguments Rat)) ≠ .error (.usage e)) ∧
    (runOn (sourceWorkspace []) ["--error-f", "json", "--debug", "compile", "c.dg"]).1.code = 3 ∧
    ∃ messages : List (Message Rat),
      (runOn (sourceWorkspace []) ["--error-f", "json", "--debug", "compile", "c.dg"]).1.SaysObjects
        messages
        (false = true ∨ "--debug" ∈ ["--error-f", "json", "--debug", "compile", "c.dg"]) := by
  have hchoice : Chooses .json ["--error-f", "json"] := .apart ⟨by decide, by decide⟩
  have hasks : AsksFor .json ["--error-f", "json", "--debug", "compile", "c.dg"] := by
    refine ⟨["--error-f", "json", "--debug"], ["compile", "c.dg"], rfl, ?_, by simp [EndsOptions]⟩
    exact .choice hchoice (.other (by decide) (by decide) (by decide) (.nil _))
  have hread : (Arguments.read ["--error-f", "json", "--debug", "compile", "c.dg"] :
      Except Stop (Arguments Rat)).isOk = true := by
    decide +kernel
  have hfollowed (e : UsageError) :
      (Arguments.read ["--error-f", "json", "--debug", "compile", "c.dg"] :
        Except Stop (Arguments Rat)) ≠ .error (.usage e) := by
    intro h
    rw [h] at hread
    cases hread
  exact ⟨hasks, hfollowed, by decide +kernel,
    (run_says_objects plainWorld (fun _ => .null) Workspace.host false _ (sourceWorkspace [])
      hasks).1 (.inl hfollowed)⟩

theorem IsObjectLine.head? {line : String} (h : IsObjectLine line) :
    line.toList.head? = some '\x7b' := by
  obtain ⟨fields, rfl, -⟩ := h
  simp [Json.compact]

/-- With the form attached to its option, a command line that is wrong is reported in the form for
people. -/
theorem attached_format_overlooked :
    AsksFor .json ["--error-format=json", "compile", "--nope"] ∧
    (runOn (sourceWorkspace []) ["--error-format=json", "compile", "--nope"]).1.code = 2 ∧
    (runOn (sourceWorkspace []) ["--error-format=json", "compile", "--nope"]).1.stderr =
      "error[E_ARGS]: unrecognized arguments: --nope\n" ++
        "hint: Use subcommands: compile, geometry, cheatsheet.\n" ∧
    ¬∃ messages : List (Message Rat),
      (runOn (sourceWorkspace []) ["--error-format=json", "compile", "--nope"]).1.SaysObjects
        messages False := by
  have hchoice : Chooses .json ["--error-format=json"] :=
    .attached (show NamesFormat "--error-format".toList by decide)
  have hstderr : (runOn (sourceWorkspace [])
      ["--error-format=json", "compile", "--nope"]).1.stderr =
        "error[E_ARGS]: unrecognized arguments: --nope\n" ++
          "hint: Use subcommands: compile, geometry, cheatsheet.\n" := by
    decide +kernel
  refine ⟨⟨["--error-format=json"], ["compile", "--nope"], rfl, .choice hchoice (.nil _),
    by simp [EndsOptions]⟩, by decide +kernel, hstderr, ?_⟩
  rintro ⟨messages, hsaid⟩
  have htext := hsaid.stderr
  rw [hstderr] at htext
  cases messages with
  | nil => exact absurd htext (by decide)
  | cons message messages =>
    have htrace : message ≠ .trace := by
      rintro rfl
      exact hsaid.traced List.mem_cons_self
    have hhead := (hsaid.lines message List.mem_cons_self htrace).head?
    have hchars := congrArg (·.toList.head?) htext
    simp [hhead] at hchars

end Cli

end GridDiagram
