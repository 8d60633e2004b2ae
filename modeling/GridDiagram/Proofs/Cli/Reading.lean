import GridDiagram.Proofs.Cli.Inputs

/-!
What a command reads. On a host that changes only by what is written to it, reading the options,
inputs and templates of a run changes nothing, and whatever is wrong with them has an exit code.
-/

namespace GridDiagram.Cli

variable {α β γ σ : Type}

/-! ### Arguments -/

section Arguments

theorem CompileArguments.check_avoids (args : CompileArguments α) :
    args.check.Avoids (·.exitCode = 0) := by
  unfold check
  dsimp only
  split_ifs
  · exact Except.avoids_error (by decide)
  · exact Except.avoids_error (by decide)
  · exact Except.avoids_error (by decide)
  · exact Except.avoids_ok _

variable [Scalar α]

theorem SourceArguments.options_avoids (args : SourceArguments α) :
    args.options.Avoids (·.exitCode = 0) := by
  have hsize : args.size.Avoids (·.exitCode = 0) := by
    unfold SourceArguments.size
    split
    · exact Except.avoids_ok _
    · split_ifs
      · exact Except.avoids_error (by decide)
      · exact Except.avoids_ok _
    · exact Except.avoids_error (by decide)
  refine hsize.bind fun size _ => ?_
  dsimp only
  split
  · exact Except.avoids_pure _
  · split_ifs
    · exact Except.avoids_pure _
    · exact Except.avoids_error (by decide)

end Arguments

/-! ### Reading -/

/-- The computation leaves the state as it is. -/
def Still (x : StateM σ β) : Prop :=
  ∀ s, (x.run s).2 = s

theorem still_pure (b : β) : Still (pure b : StateM σ β) :=
  fun _ => rfl

theorem Still.bind {x : StateM σ β} {f : β → StateM σ γ} (hx : Still x)
    (hf : ∀ b, Still (f b)) : Still (x >>= f) := by
  intro s
  have hstill := hx s
  rw [StateT.run_bind]
  rcases hfirst : x.run s with ⟨b, s₁⟩
  rw [hfirst] at hstill
  obtain rfl : s₁ = s := hstill
  exact hf b s₁

/-- A host that changes only by what is written to it. -/
structure Host.Steady (host : Host (StateM σ)) : Prop where
  input : Still host.input
  kind : ∀ p, Still (host.kind p)
  names : ∀ p, Still (host.names p)
  read : ∀ p, Still (host.read p)

theorem Workspace.host_steady : Workspace.host.Steady where
  input _ := rfl
  kind _ _ := rfl
  names _ _ := rfl
  read _ _ := rfl

/-- The computation leaves the state as it is, and a report that it ends with has a code. -/
structure Harmless (x : ExceptT Report (StateM σ) β) : Prop where
  still : Still x.run
  code : ∀ s s' r, x.run.run s = (.error r, s') → r.exitCode ≠ 0

section Harmless

variable {host : Host (StateM σ)}

theorem harmless_pure (b : β) : Harmless (pure b : ExceptT Report (StateM σ) β) := by
  refine ⟨still_pure _, ?_⟩
  intro s s' r h
  cases h

theorem harmless_throw {r : Report} (h : r.exitCode ≠ 0) :
    Harmless (throw r : ExceptT Report (StateM σ) β) := by
  refine ⟨still_pure _, ?_⟩
  intro s s' r' hr
  cases hr
  exact h

theorem harmless_mk {x : Except Report β} (h : x.Avoids (·.exitCode = 0)) :
    Harmless (ExceptT.mk (pure x : StateM σ (Except Report β))) := by
  refine ⟨still_pure _, ?_⟩
  intro s s' r hr
  cases hr
  exact h r rfl

theorem Still.harmless {x : StateM σ β} (hx : Still x) :
    Harmless (liftM x : ExceptT Report (StateM σ) β) := by
  refine ⟨hx.bind fun _ => still_pure _, ?_⟩
  intro s s' r h
  cases h

theorem Harmless.bind {x : ExceptT Report (StateM σ) β} {f : β → ExceptT Report (StateM σ) γ}
    (hx : Harmless x) (hf : ∀ b, Harmless (f b)) : Harmless (x >>= f) := by
  constructor
  · rw [ExceptT.run_bind]
    refine hx.still.bind fun b => ?_
    cases b with
    | error r => exact still_pure _
    | ok b => exact (hf b).still
  · intro s s' r h
    rw [ExceptT.run_bind, StateT.run_bind] at h
    rcases hfirst : x.run.run s with ⟨e | b, s₁⟩
    · rw [hfirst] at h
      cases h
      exact hx.code s _ r hfirst
    · rw [hfirst] at h
      exact (hf b).code s₁ s' r h

theorem Harmless.mapM {f : β → ExceptT Report (StateM σ) γ} (hf : ∀ b, Harmless (f b))
    (bs : List β) : Harmless (bs.mapM f) := by
  induction bs with
  | nil => exact harmless_pure _
  | cons b bs ih =>
    rw [List.mapM_cons]
    exact (hf b).bind fun _ => ih.bind fun _ => harmless_pure _

end Harmless

namespace Host.Steady

variable {host : Host (StateM σ)}

theorem glob_step (hhost : host.Steady) (part : String) (ps : List Path) :
    Still (Glob.step host part ps) := by
  induction ps with
  | nil => exact still_pure _
  | cons p ps ih =>
    rw [Glob.step]
    split
    · exact (hhost.names p).bind fun _ => (still_pure _).bind fun _ => ih.bind fun _ =>
        still_pure _
    · exact (hhost.kind _).bind fun _ => (still_pure _).bind fun _ => ih.bind fun _ =>
        still_pure _

theorem glob_steps (hhost : host.Steady) (parts : List String) (ps : List Path) :
    Still (Glob.steps host parts ps) := by
  induction parts generalizing ps with
  | nil => exact still_pure _
  | cons part parts ih => exact (hhost.glob_step part ps).bind fun found => ih found

theorem glob_directories (hhost : host.Steady) (ps : List Path) :
    Still (Glob.directories host ps) := by
  induction ps with
  | nil => exact still_pure _
  | cons p ps ih => exact (hhost.kind p).bind fun _ => ih.bind fun _ => still_pure _

theorem glob_expand (hhost : host.Steady) (pattern : String) :
    Still (Glob.expand host pattern) := by
  unfold Glob.expand
  split
  · exact still_pure _
  · refine (hhost.glob_steps _ _).bind fun found => ?_
    dsimp only
    split
    · exact (hhost.glob_directories found).bind fun _ => still_pure _
    · exact still_pure _

theorem readStandardInput (hhost : host.Steady) : Harmless (Cli.readStandardInput host) := by
  refine hhost.input.harmless.bind fun source => ?_
  cases source with
  | none => exact harmless_throw (by decide)
  | some source =>
    dsimp only
    split
    · exact harmless_throw (by decide)
    · exact harmless_pure _

theorem readFile (hhost : host.Steady) (path : Path) : Harmless (Cli.readFile host path) := by
  refine (hhost.kind path).harmless.bind fun kind => ?_
  cases kind with
  | none => exact harmless_throw (Nat.succ_ne_zero 1)
  | some _ =>
    refine (hhost.read path).harmless.bind fun source => ?_
    cases source with
    | error e => exact harmless_throw (Nat.succ_ne_zero 1)
    | ok source => exact harmless_pure _

theorem readInput (hhost : host.Steady) (path text : Option String) :
    Harmless (Cli.readInput host path text) := by
  cases path with
  | none =>
    cases text with
    | none => exact hhost.readStandardInput
    | some source => exact harmless_pure _
  | some path =>
    cases text with
    | none => exact hhost.readFile _
    | some _ => exact harmless_throw (by decide)

theorem readInputs (hhost : host.Steady) (paths : List String) (text : Option String) :
    Harmless (Cli.readInputs host paths text) := by
  cases paths with
  | nil => exact (hhost.readInput none text).bind fun _ => harmless_pure _
  | cons p paths => exact .mapM (fun p => hhost.readInput (some p) text) _

theorem readTemplates (hhost : host.Steady) (patterns : List String) :
    Harmless (Cli.readTemplates host patterns) := by
  refine Harmless.bind (Harmless.bind (.mapM (fun pattern => ?_) patterns)
    fun _ => harmless_pure _) fun paths => .mapM (fun path => ?_) paths
  · refine (hhost.glob_expand pattern).harmless.bind fun found => ?_
    cases found with
    | nil => exact harmless_throw (Nat.succ_ne_zero 2)
    | cons p ps => exact harmless_pure _
  · refine (hhost.read path).harmless.bind fun source => ?_
    cases source with
    | error e => exact harmless_throw (Nat.succ_ne_zero 2)
    | ok source => exact harmless_pure _

variable [Scalar α]

theorem readShared (hhost : host.Steady) (patterns : List String) (maxDepth : Int) :
    Harmless (Cli.readShared host patterns maxDepth : ExceptT Report (StateM σ) (Registry α)) := by
  refine (hhost.readTemplates patterns).bind fun sources => ?_
  split
  · exact harmless_pure _
  · rename_i e _
    exact harmless_throw (ErrorKind.exitCode_ne_zero e.kind)

theorem prepareCompile (hhost : host.Steady) (args : CompileArguments α) :
    Harmless (Cli.prepareCompile host args) := by
  refine (harmless_mk args.check_avoids).bind fun _ => ?_
  refine (harmless_mk args.source.options_avoids).bind fun options => ?_
  exact (hhost.readInputs _ _).bind fun _ => (hhost.readShared _ _).bind fun _ => harmless_pure _

end Host.Steady

/-! ### Sources -/

section Sources

variable {host : Host (StateM σ)} {s s' : σ}

theorem Harmless.state_eq {x : ExceptT Report (StateM σ) β} (hx : Harmless x)
    {outcome : Except Report β} (h : x.run.run s = (outcome, s')) : s' = s := by
  have hstill := hx.still s
  rwa [h] at hstill

theorem readFile_source (hhost : host.Steady) {path : Path} {input : Input}
    (h : (readFile host path).run.run s = (.ok input, s')) :
    ((host.read path).run s).1 = .ok input.source := by
  obtain ⟨kind, s₁, hkind, h⟩ := run_bind_eq_ok.mp h
  obtain rfl := (hhost.kind path).harmless.state_eq hkind
  cases kind with
  | none => cases h
  | some _ =>
    obtain ⟨e | source, s₂, hread, h⟩ := run_bind_eq_ok.mp h
    · cases h
    · cases h
      exact Except.ok.inj (congrArg Prod.fst hread)

/-- The source of an input is the content of its file, if it comes from one. -/
theorem readInput_source (hhost : host.Steady) {path text : Option String} {input : Input}
    (h : (readInput host path text).run.run s = (.ok input, s')) {p : Path}
    (hp : input.path = some p) : ((host.read p).run s).1 = .ok input.source := by
  cases path with
  | some path =>
    cases text with
    | some _ => cases h
    | none =>
      have hpath := readFile_path h
      obtain rfl := Option.some.inj (hpath.symm.trans hp)
      exact readFile_source hhost h
  | none =>
    have hnone : input.path = none := by
      cases text with
      | some source =>
        cases h
        rfl
      | none =>
        obtain ⟨source, s₁, -, h⟩ := run_bind_eq_ok.mp h
        cases source with
        | none => cases h
        | some source =>
          dsimp only at h
          split at h
          · cases h
          · cases h
            rfl
    rw [hnone] at hp
    cases hp

theorem readInputs_sources (hhost : host.Steady) {paths : List String} {text : Option String}
    {inputs : List Input} (h : (readInputs host paths text).run.run s = (.ok inputs, s')) :
    ∀ input ∈ inputs, ∀ p, input.path = some p →
      ((host.read p).run s).1 = .ok input.source := by
  have hread {paths : List String} {inputs : List Input} {s' : σ}
      (h : (paths.mapM fun p => readInput host (some p) text).run.run s = (.ok inputs, s')) :
      ∀ input ∈ inputs, ∀ p, input.path = some p →
        ((host.read p).run s).1 = .ok input.source := by
    induction paths generalizing inputs s' with
    | nil =>
      cases h
      exact List.forall_mem_nil _
    | cons p paths ih =>
      rw [List.mapM_cons] at h
      obtain ⟨input, s₁, hinput, h⟩ := run_bind_eq_ok.mp h
      obtain ⟨rest, s₂, hrest, h⟩ := run_bind_eq_ok.mp h
      cases h
      obtain rfl := (hhost.readInput (some p) text).state_eq hinput
      exact List.forall_mem_cons.mpr ⟨fun _ => readInput_source hhost hinput, ih hrest⟩
  cases paths with
  | nil =>
    obtain ⟨input, s₁, hinput, h⟩ := run_bind_eq_ok.mp h
    cases h
    exact List.forall_mem_singleton.mpr fun _ => readInput_source hhost hinput
  | cons p paths => exact hread h

theorem prepareCompile_sources [Scalar α] (hhost : host.Steady) {args : CompileArguments α}
    {options : CompileOptions α} {inputs : List Input} {shared : Registry α}
    (h : (prepareCompile host args).run.run s = (.ok (options, inputs, shared), s')) :
    ∀ input ∈ inputs, ∀ p, input.path = some p →
      ((host.read p).run s).1 = .ok input.source := by
  obtain ⟨_, s₁, hcheck, h⟩ := run_bind_eq_ok.mp h
  obtain ⟨_, s₂, hoptions, h⟩ := run_bind_eq_ok.mp h
  obtain ⟨_, s₃, hinputs, h⟩ := run_bind_eq_ok.mp h
  obtain ⟨_, s₄, -, h⟩ := run_bind_eq_ok.mp h
  cases h
  obtain rfl := (harmless_mk args.check_avoids).state_eq hcheck
  obtain rfl := (harmless_mk args.source.options_avoids).state_eq hoptions
  exact readInputs_sources hhost hinputs

end Sources

end GridDiagram.Cli
