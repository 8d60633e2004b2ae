import GridDiagram.Cli
import GridDiagram.Cli.Workspace
import GridDiagram.Proofs.Layout.Fit

/-!
What a run of `compile` does with its inputs, over any host whose operations change a state. Every
input is drawn for itself, what is shown of them follows their order, and the first failure among
them gives the code. A file that cannot be written, however, ends the run, and the inputs behind it
are left out.
-/

theorem GridDiagram.ErrorKind.exitCode_ne_zero (kind : ErrorKind) : kind.exitCode ≠ 0 := by
  cases kind <;> decide

namespace GridDiagram.Cli

variable {α σ : Type}

/-! ### What is shown of one input -/

/-- An input, and its drawing or why it has none. -/
abbrev Attempt (α : Type) : Type :=
  Input × Except (DiagramError α) (Drawn α)

namespace Attempt

variable [Scalar α]

/-- The exit code of an input that has no drawing. -/
def code? : Attempt α → Option Nat
  | (input, .error e) => some (Report.ofError e input.file).exitCode
  | (_, .ok _) => none

def stdout (target : Input → Option Path) : Attempt α → String
  | (_, .error _) => ""
  | (input, .ok drawn) =>
    match target input with
    | none => drawn.svg ++ "\n"
    | some path => "Wrote " ++ path.text ++ "\n"

def stderr (how : Reporting) : Attempt α → String
  | (input, .error e) =>
    how.format.write (.ofError e input.file) ++ if how.trace then traceLine else ""
  | (input, .ok drawn) => writeWarnings how.format input.name drawn.warnings

/-- What is shown of an input whose drawing is written, if it has one. -/
def shown (how : Reporting) (target : Input → Option Path) (a : Attempt α) : Shown where
  code := a.code?.getD 0
  stdout := a.stdout target
  stderr := a.stderr how

end Attempt

namespace Shown

/-- What is shown by one run after another. The code is that of the first failure. -/
def append (shown next : Shown) : Shown where
  code := if shown.code = 0 then next.code else shown.code
  stdout := shown.stdout ++ next.stdout
  stderr := shown.stderr ++ next.stderr

/-- What is shown of inputs whose drawings are written: all of it in their order, and the code of
the first of them that fails, or 0. -/
def ofAttempts [Scalar α] (how : Reporting) (target : Input → Option Path)
    (attempts : List (Attempt α)) : Shown where
  code := (attempts.findSome? Attempt.code?).getD 0
  stdout := String.join (attempts.map (Attempt.stdout target))
  stderr := String.join (attempts.map (Attempt.stderr how))

theorem append_assoc (a b c : Shown) : (a.append b).append c = a.append (b.append c) := by
  simp only [append, String.append_assoc, Shown.mk.injEq, and_true]
  split_ifs <;> rfl

theorem empty_append (a : Shown) : Shown.append {} a = a := by
  simp [append]

theorem append_empty (a : Shown) : a.append {} = a := by
  obtain ⟨code, stdout, stderr⟩ := a
  simp [append, eq_comm]

end Shown

variable [Scalar α] {how : Reporting} {target : Input → Option Path}

theorem Attempt.code?_ne_zero {a : Attempt α} {code : Nat} (h : a.code? = some code) :
    code ≠ 0 := by
  obtain ⟨input, e | drawn⟩ := a
  · obtain rfl := Option.some.inj h
    exact ErrorKind.exitCode_ne_zero e.kind
  · simp [Attempt.code?] at h

theorem Shown.ofAttempts_cons (a : Attempt α) (attempts : List (Attempt α)) :
    ofAttempts how target (a :: attempts) =
      (a.shown how target).append (ofAttempts how target attempts) := by
  have hcode : ((a :: attempts).findSome? Attempt.code?).getD 0 =
      if a.code?.getD 0 = 0 then (attempts.findSome? Attempt.code?).getD 0
      else a.code?.getD 0 := by
    rw [List.findSome?_cons]
    split
    · rename_i code h
      rw [h, Option.getD_some, if_neg (Attempt.code?_ne_zero h)]
    · rename_i h
      rw [h, Option.getD_none, if_pos rfl]
  rw [ofAttempts, hcode, List.map_cons, List.map_cons, String.join_cons, String.join_cons]
  rfl

theorem Shown.print_warn (shown : Shown) (input : Input) (drawn : Drawn α) :
    (shown.warn (writeWarnings how.format input.name drawn.warnings)).print
        (Attempt.stdout target (input, .ok drawn)) =
      shown.append (Attempt.shown how target (input, .ok drawn)) := by
  simp [warn, print, append, Attempt.shown, Attempt.code?, Attempt.stderr]

theorem Arguments.read_nil : (Arguments.read [] : Except Stop (Arguments α)) = .ok {} := by
  have hconsume : Arguments.grammar.consume true (({}, []) : Arguments α × List String) [] =
      .ok (({}, []), []) := by
    rw [Grammar.consume]
    rfl
  rw [Arguments.read, Grammar.read, Grammar.classifyAll, Except.bind_eq_ok.mpr ⟨_, rfl, hconsume⟩]
  rfl

/-! ### Files that are written -/

section Written

variable {host : Host (StateM σ)} {s s' : σ} {before : List (Attempt α)}

/-- The drawings among `attempts` that go to files are written to them, one after the other. -/
inductive Written (host : Host (StateM σ)) (target : Input → Option Path) :
    List (Attempt α) → σ → σ → Prop where
  | nil (s : σ) : Written host target [] s s
  | failed {input : Input} {e : DiagramError α} {rest : List (Attempt α)} {s s' : σ}
      (hrest : Written host target rest s s') : Written host target ((input, .error e) :: rest) s s'
  | printed {input : Input} {drawn : Drawn α} {rest : List (Attempt α)} {s s' : σ}
      (htarget : target input = none) (hrest : Written host target rest s s') :
      Written host target ((input, .ok drawn) :: rest) s s'
  | written {input : Input} {drawn : Drawn α} {path : Path} {rest : List (Attempt α)}
      {s s₁ s' : σ} (htarget : target input = some path)
      (hwrite : (host.write path drawn.svg).run s = (.ok (), s₁))
      (hrest : Written host target rest s₁ s') :
      Written host target ((input, .ok drawn) :: rest) s s'

theorem showDrawings_failed (shown : Shown) (input : Input) (e : DiagramError α)
    (rest : List (Attempt α)) :
    showDrawings host how target shown ((input, .error e) :: rest) =
      showDrawings host how target
        (shown.append (Attempt.shown how target (input, .error e))) rest := by
  have hshown : shown.failInput how (.ofError e input.file) =
      shown.append (Attempt.shown how target (input, .error e)) := by
    simp only [Shown.failInput, Shown.report, Shown.note, Shown.warn, Shown.append, Attempt.shown,
      Attempt.code?, Attempt.stdout, Attempt.stderr, String.append_empty, Option.getD_some]
    split_ifs <;> simp [String.append_assoc]
  rw [showDrawings, hshown]

theorem showDrawings_printed {input : Input} {drawn : Drawn α}
    (htarget : target input = none) (shown : Shown) (rest : List (Attempt α)) :
    showDrawings host how target shown ((input, .ok drawn) :: rest) =
      showDrawings host how target
        (shown.append (Attempt.shown how target (input, .ok drawn))) rest := by
  have hstdout : Attempt.stdout target (input, .ok drawn) = drawn.svg ++ "\n" := by
    rw [Attempt.stdout, htarget]
  rw [showDrawings, ← Shown.print_warn, hstdout, htarget]

theorem run_showDrawings_written {input : Input} {drawn : Drawn α} {path : Path}
    (htarget : target input = some path)
    (hwrite : (host.write path drawn.svg).run s = (.ok (), s'))
    (shown : Shown) (rest : List (Attempt α)) :
    (showDrawings host how target shown ((input, .ok drawn) :: rest)).run s =
      (showDrawings host how target
        (shown.append (Attempt.shown how target (input, .ok drawn))) rest).run s' := by
  have hstdout : Attempt.stdout target (input, .ok drawn) = "Wrote " ++ path.text ++ "\n" := by
    rw [Attempt.stdout, htarget]
  rw [showDrawings, ← Shown.print_warn, hstdout, htarget, StateT.run_bind, hwrite]
  rfl

theorem run_showDrawings_refused {input : Input} {drawn : Drawn α} {path : Path} {e : FileError}
    (htarget : target input = some path)
    (hwrite : (host.write path drawn.svg).run s = (.error e, s'))
    (shown : Shown) (rest : List (Attempt α)) :
    (showDrawings host how target shown ((input, .ok drawn) :: rest)).run s =
      ((shown.warn (writeWarnings how.format input.name drawn.warnings)).fail how
        (writeReport path e), s') := by
  rw [showDrawings, htarget, StateT.run_bind, hwrite]
  rfl

/-- Inputs whose drawings are written are shown whole, in front of whatever comes behind them, and
what comes behind them is shown whatever fails among them. -/
theorem Written.run_showDrawings (h : Written host target before s s') (shown : Shown)
    (behind : List (Attempt α)) :
    (showDrawings host how target shown (before ++ behind)).run s =
      (showDrawings host how target (shown.append (.ofAttempts how target before)) behind).run
        s' := by
  induction h generalizing shown with
  | nil s =>
    rw [List.nil_append, show Shown.ofAttempts how target ([] : List (Attempt α)) = {} from rfl,
      Shown.append_empty]
  | failed _ ih =>
    rw [List.cons_append, showDrawings_failed, ih, Shown.ofAttempts_cons, Shown.append_assoc]
  | printed htarget _ ih =>
    rw [List.cons_append, showDrawings_printed htarget, ih, Shown.ofAttempts_cons,
      Shown.append_assoc]
  | written htarget hwrite _ ih =>
    rw [List.cons_append, run_showDrawings_written htarget hwrite, ih, Shown.ofAttempts_cons,
      Shown.append_assoc]

omit [Scalar α] in
/-- All drawings are written, or those in front of the first for which that fails. -/
theorem exists_written (host : Host (StateM σ)) (target : Input → Option Path)
    (attempts : List (Attempt α)) (s : σ) :
    ∃ before behind s', attempts = before ++ behind ∧ Written host target before s s' ∧
      (behind = [] ∨ ∃ input drawn path e s'' rest, behind = (input, .ok drawn) :: rest ∧
        target input = some path ∧ (host.write path drawn.svg).run s' = (.error e, s'')) := by
  induction attempts generalizing s with
  | nil => exact ⟨[], [], s, rfl, .nil s, .inl rfl⟩
  | cons a attempts ih =>
    obtain ⟨input, e | drawn⟩ := a
    · obtain ⟨before, behind, s', rfl, hbefore, hbehind⟩ := ih s
      exact ⟨_ :: before, behind, s', rfl, .failed hbefore, hbehind⟩
    · cases htarget : target input with
      | none =>
        obtain ⟨before, behind, s', rfl, hbefore, hbehind⟩ := ih s
        exact ⟨_ :: before, behind, s', rfl, .printed htarget hbefore, hbehind⟩
      | some path =>
        rcases hwrite : (host.write path drawn.svg).run s with ⟨e | ⟨⟩, s₁⟩
        · exact ⟨[], _, s, rfl, .nil s,
            .inr ⟨input, drawn, path, e, s₁, attempts, rfl, htarget, hwrite⟩⟩
        · obtain ⟨before, behind, s', rfl, hbefore, hbehind⟩ := ih s₁
          exact ⟨_ :: before, behind, s', rfl, .written htarget hwrite hbefore, hbehind⟩

end Written

/-! ### Inputs that are read -/

section Reading

variable {ε β γ : Type} {host : Host (StateM σ)} {s s' : σ}

theorem run_bind_eq_ok {x : ExceptT ε (StateM σ) β} {f : β → ExceptT ε (StateM σ) γ} {c : γ} :
    (x >>= f).run.run s = (.ok c, s') ↔
      ∃ b s₁, x.run.run s = (.ok b, s₁) ∧ (f b).run.run s₁ = (.ok c, s') := by
  rw [ExceptT.run_bind, StateT.run_bind]
  rcases x.run.run s with ⟨e | b, s₁⟩
  · constructor
    · intro h
      cases h
    · rintro ⟨_, _, h, -⟩
      cases h
  · constructor
    · exact fun h => ⟨b, s₁, rfl, h⟩
    · rintro ⟨_, _, h, h'⟩
      cases h
      exact h'

theorem readFile_path {path : Path} {input : Input}
    (h : (readFile host path).run.run s = (.ok input, s')) : input.path = some path := by
  obtain ⟨kind, s₁, -, h⟩ := run_bind_eq_ok.mp h
  cases kind with
  | none => cases h
  | some _ =>
    obtain ⟨e | source, s₂, -, h⟩ := run_bind_eq_ok.mp h
    · cases h
    · cases h
      rfl

/-- The inputs of a command are its files, in the order in which they are given. -/
theorem readInputs_paths {paths : List String} {text : Option String} {inputs : List Input}
    (hpaths : paths ≠ []) (h : (readInputs host paths text).run.run s = (.ok inputs, s')) :
    inputs.map (·.path) = paths.map fun p => some (Path.ofString p) := by
  have hread {paths : List String} {inputs : List Input} {s : σ}
      (h : (paths.mapM fun p => readInput host (some p) text).run.run s = (.ok inputs, s')) :
      inputs.map (·.path) = paths.map fun p => some (Path.ofString p) := by
    induction paths generalizing inputs s with
    | nil =>
      cases h
      rfl
    | cons p paths ih =>
      rw [List.mapM_cons] at h
      obtain ⟨input, s₁, hinput, h⟩ := run_bind_eq_ok.mp h
      obtain ⟨rest, s₂, hrest, h⟩ := run_bind_eq_ok.mp h
      cases h
      cases text with
      | none => rw [List.map_cons, List.map_cons, readFile_path hinput, ih hrest]
      | some _ => cases hinput
  cases paths with
  | nil => contradiction
  | cons p paths => exact hread h

theorem prepareCompile_paths {args : CompileArguments α} {options : CompileOptions α}
    {inputs : List Input} {shared : Registry α} (hpaths : args.inputs ≠ [])
    (h : (prepareCompile host args).run.run s = (.ok (options, inputs, shared), s')) :
    inputs.map (·.path) = args.inputs.map fun p => some (Path.ofString p) := by
  obtain ⟨_, s₁, -, h⟩ := run_bind_eq_ok.mp h
  obtain ⟨_, s₂, -, h⟩ := run_bind_eq_ok.mp h
  obtain ⟨_, s₃, hinputs, h⟩ := run_bind_eq_ok.mp h
  obtain ⟨_, s₄, -, h⟩ := run_bind_eq_ok.mp h
  cases h
  exact readInputs_paths hpaths hinputs

end Reading

/-- The inputs of a run, each drawn from its own source with what is shared by all. -/
def attemptsOf (world : Surroundings α) (options : CompileOptions α) (shared : Registry α)
    (inputs : List Input) : List (Attempt α) :=
  inputs.map fun input => (input, draw world options shared input.source)

/-- A run of `compile` whose options, inputs and shared templates are sound. Where all drawings are
written it shows all inputs in the order in which they are given, whichever of them fail, and ends
with the code of the first that fails, or 0. Otherwise the first drawing that cannot be written ends
the run, with a code of its own: what is shown and written of the inputs in front of it is the same,
and those behind it are left out. -/
theorem run_compile_inputs (world : Surroundings α) (toJson : Compiled α → Json)
    (host : Host (StateM σ)) (debug : Bool) (argv : List String) (line : Arguments α)
    (args : CompileArguments α) (options : CompileOptions α) (inputs : List Input)
    (shared : Registry α) (s s₁ : σ) (hline : Arguments.read argv = .ok line)
    (hcommand : line.command = some (.compile args))
    (hprepared : (prepareCompile host args).run.run s = (.ok (options, inputs, shared), s₁)) :
    let how : Reporting := ⟨line.format, debug || argv.contains "--debug"⟩
    let attempts := attemptsOf world options shared inputs
    (args.inputs ≠ [] → inputs.map (·.path) = args.inputs.map fun p => some (Path.ofString p)) ∧
    (∀ s₂, Written host (destination args) attempts s₁ s₂ →
      (run world toJson host debug argv).run s =
        (.ofAttempts how (destination args) attempts, s₂)) ∧
    ((∃ s₂, Written host (destination args) attempts s₁ s₂) ∨
      ∃ before input drawn rest path e s₂ s₃, attempts = before ++ (input, .ok drawn) :: rest ∧
        Written host (destination args) before s₁ s₂ ∧ destination args input = some path ∧
        (host.write path drawn.svg).run s₂ = (.error e, s₃) ∧
        (run world toJson host debug argv).run s =
          (((Shown.ofAttempts how (destination args) before).warn
            (writeWarnings line.format input.name drawn.warnings)).fail how (writeReport path e),
              s₃)) := by
  intro how attempts
  have hargv : argv ≠ [] := by
    rintro rfl
    rw [Arguments.read_nil] at hline
    cases hline
    cases hcommand
  have hrun : (run world toJson host debug argv).run s =
      (showDrawings host how (destination args) {} attempts).run s₁ := by
    rw [run, if_neg (by simpa using hargv), hline]
    dsimp only
    rw [hcommand]
    dsimp only
    rw [compile, StateT.run_bind, hprepared]
    rfl
  have hwritten {before behind : List (Attempt α)} {s₂ : σ} (hsplit : attempts = before ++ behind)
      (h : Written host (destination args) before s₁ s₂) :
      (run world toJson host debug argv).run s =
        (showDrawings host how (destination args) (.ofAttempts how (destination args) before)
          behind).run s₂ := by
    rw [hrun, hsplit, h.run_showDrawings, Shown.empty_append]
  refine ⟨fun hpaths => prepareCompile_paths hpaths hprepared, fun s₂ h => ?_, ?_⟩
  · rw [hwritten (List.append_nil _).symm h]
    rfl
  · obtain ⟨before, behind, s₂, hsplit, hbefore, rfl | hrefused⟩ :=
      exists_written host (destination args) attempts s₁
    · rw [List.append_nil] at hsplit
      exact .inl ⟨s₂, hsplit ▸ hbefore⟩
    · obtain ⟨input, drawn, path, e, s₃, rest, rfl, htarget, hwrite⟩ := hrefused
      refine .inr ⟨before, input, drawn, rest, path, e, s₂, s₃, hsplit, hbefore, htarget, hwrite,
        ?_⟩
      rw [hwritten hsplit hbefore, run_showDrawings_refused htarget hwrite]

/-- The arguments of `compile`, where that is the command of a line. -/
def Arguments.compile? (line : Arguments α) : Option (CompileArguments α) :=
  match line.command with
  | some (.compile args) => some args
  | _ => none

omit [Scalar α] in
theorem Arguments.command_of_compile? {line : Arguments α} {args : CompileArguments α}
    (h : line.compile? = some args) : line.command = some (.compile args) := by
  unfold compile? at h
  split at h
  · rename_i hcommand
    rw [hcommand, Option.some.inj h]
  · cases h

def rectSource : String := "<diagram><rect/></diagram>"

/-- A source whose only use has no template. -/
def straySource : String := "<diagram><use ref=\"nowhere\"/></diagram>"

/-- A working directory with sources, and with `others`. -/
def sourceWorkspace (others : List (List String × Option String)) : Workspace where
  entries := [(["a.dg"], some rectSource), (["b.dg"], some rectSource),
    (["c.dg"], some straySource)] ++ others

def runOn (w : Workspace) (argv : List String) : Shown × Workspace :=
  (run plainWorld (fun _ => .null) Workspace.host false argv).run w

theorem sourceWorkspace_compile_inputs :
    ∃ (line : Arguments Rat) (args : CompileArguments Rat) (options : CompileOptions Rat)
      (inputs : List Input) (shared : Registry Rat) (s₁ s₂ : Workspace),
      Arguments.read ["compile", "c.dg", "b.dg"] = .ok line ∧
      line.command = some (.compile args) ∧
      (prepareCompile Workspace.host args).run.run (sourceWorkspace []) =
        (.ok (options, inputs, shared), s₁) ∧
      inputs.map (·.path) = [some (Path.ofString "c.dg"), some (Path.ofString "b.dg")] ∧
      Written Workspace.host (destination args) (attemptsOf plainWorld options shared inputs)
        s₁ s₂ ∧
      runOn (sourceWorkspace []) ["compile", "c.dg", "b.dg"] =
        (.ofAttempts ⟨line.format, false⟩ (destination args)
          (attemptsOf plainWorld options shared inputs), s₂) ∧
      (runOn (sourceWorkspace []) ["compile", "c.dg", "b.dg"]).1.code = 3 ∧
      (runOn (sourceWorkspace []) ["compile", "c.dg", "b.dg"]).1.stdout = "Wrote b.svg\n" := by
  have hread : ((Arguments.read ["compile", "c.dg", "b.dg"] :
      Except Stop (Arguments Rat)).toOption.bind fun line => line.compile?.bind fun args =>
        ((prepareCompile Workspace.host args).run.run (sourceWorkspace [])).1.toOption.map
          fun _ => args.inputs) = some ["c.dg", "b.dg"] := by
    decide +kernel
  have hshown : (runOn (sourceWorkspace []) ["compile", "c.dg", "b.dg"]).1.code = 3 ∧
      (runOn (sourceWorkspace []) ["compile", "c.dg", "b.dg"]).1.stdout = "Wrote b.svg\n" := by
    decide +kernel
  obtain ⟨line, hline, hread⟩ := Option.bind_eq_some_iff.mp hread
  obtain ⟨args, hargs, hread⟩ := Option.bind_eq_some_iff.mp hread
  obtain ⟨⟨options, inputs, shared⟩, hprepared, hinputs⟩ := Option.map_eq_some_iff.mp hread
  have hline := Except.toOption_eq_some.mp hline
  have hcommand := Arguments.command_of_compile? hargs
  have hprepared : (prepareCompile Workspace.host args).run.run (sourceWorkspace []) =
      (.ok (options, inputs, shared), _) :=
    Prod.ext (Except.toOption_eq_some.mp hprepared) rfl
  obtain ⟨hpaths, hall, ⟨s₂, hwritten⟩ | ⟨_, _, _, _, _, _, _, _, -, -, -, -, hrefused⟩⟩ :=
    run_compile_inputs plainWorld (fun _ => .null) Workspace.host false _ line args options
      inputs shared (sourceWorkspace []) _ hline hcommand hprepared
  · rw [hinputs] at hpaths
    exact ⟨line, args, options, inputs, shared, _, s₂, hline, hcommand, hprepared,
      hpaths (by simp), hwritten, hall s₂ hwritten, hshown⟩
  · rw [runOn, hrefused] at hshown
    exact absurd hshown.1 (by simp [Shown.fail, writeReport])

/-- A drawing whose place is taken by a directory ends the run: the drawing behind it, which could
be written, is not, and the code is not that of the input in front, which has failed first. -/
theorem sourceWorkspace_inputs_left_out :
    ∃ (drawn : Drawn Rat) (w : Workspace),
      draw plainWorld .default [] rectSource = .ok drawn ∧
      (sourceWorkspace [(["a.svg"], none)]).write (.ofString "b.svg") drawn.svg = .ok w ∧
      Attempt.code? (⟨straySource, "c.dg", none⟩, draw plainWorld .default [] straySource) =
        some 3 ∧
      (runOn (sourceWorkspace [(["a.svg"], none)]) ["compile", "c.dg", "a.dg", "b.dg"]).1.code =
        4 ∧
      (runOn (sourceWorkspace [(["a.svg"], none)]) ["compile", "c.dg", "a.dg", "b.dg"]).1.stdout =
        "" ∧
      (runOn (sourceWorkspace [(["a.svg"], none)]) ["compile", "c.dg", "a.dg", "b.dg"]).2 =
        sourceWorkspace [(["a.svg"], none)] := by
  have hwritable : ((draw plainWorld .default [] rectSource).toOption.bind fun drawn =>
      ((sourceWorkspace [(["a.svg"], none)]).write (.ofString "b.svg")
        drawn.svg).toOption).isSome = true := by
    decide +kernel
  obtain ⟨w, hw⟩ := Option.isSome_iff_exists.mp hwritable
  obtain ⟨drawn, hdrawn, hw⟩ := Option.bind_eq_some_iff.mp hw
  exact ⟨drawn, w, Except.toOption_eq_some.mp hdrawn, Except.toOption_eq_some.mp hw,
    by decide +kernel, by decide +kernel, by decide +kernel, by decide +kernel⟩

end GridDiagram.Cli
