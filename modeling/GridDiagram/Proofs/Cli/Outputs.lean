import GridDiagram.Proofs.Cli.Reading
import GridDiagram.Proofs.Cli.Workspace

/-!
What a run of `compile` leaves in the files of a host in memory. A run that ends with 0 has drawn
all inputs and written all drawings. The name of a drawing comes from that of its input, so it may
be the name of another drawing or of an input: a file then holds the last drawing that goes to its
place, whatever was there.
-/

namespace GridDiagram.Cli

variable {α σ : Type}

/-! ### Drawings that are written -/

section Written

variable {target : Input → Option Path} {attempts before behind : List (Attempt α)}
  {w w' : Workspace} {p : Path} {content : String}

theorem Written.append {host : Host (StateM σ)} {s s' : σ}
    (h : Written host target (before ++ behind) s s') :
    ∃ s₁, Written host target before s s₁ ∧ Written host target behind s₁ s' := by
  induction before generalizing s with
  | nil => exact ⟨s, .nil s, h⟩
  | cons a before ih =>
    cases h with
    | failed hrest =>
      obtain ⟨s₁, hbefore, hbehind⟩ := ih hrest
      exact ⟨s₁, .failed hbefore, hbehind⟩
    | printed htarget hrest =>
      obtain ⟨s₁, hbefore, hbehind⟩ := ih hrest
      exact ⟨s₁, .printed htarget hbefore, hbehind⟩
    | written htarget hwrite hrest =>
      obtain ⟨s₁, hbefore, hbehind⟩ := ih hrest
      exact ⟨s₁, .written htarget hwrite hbefore, hbehind⟩

theorem Workspace.write_of_run (h : (host.write p content).run w = (.ok (), w')) :
    w.write p content = .ok w' := by
  cases hwrite : w.write p content with
  | error e =>
    have hrun : (host.write p content).run w = (.error e, w) := by
      simp only [host, StateT.run_bind, StateT.run_get, pure_bind, hwrite]
      rfl
    rw [hrun] at h
    cases h
  | ok w₁ =>
    have hrun : (host.write p content).run w = (.ok (), w₁) := by
      simp only [host, StateT.run_bind, StateT.run_get, pure_bind, hwrite]
      rfl
    rw [hrun] at h
    cases h
    rfl

/-- Drawings that go to places leave all places as they are, and all files that are elsewhere. -/
theorem Written.keeps (h : Written Workspace.host target attempts w w')
    (hplaces : ∀ a ∈ attempts, ∀ out, target a.1 = some out → ∃ l, w.locate out = .ok l) :
    (∀ q l, w.locate q = .ok l → w'.locate q = .ok l) ∧
    ∀ q content, w.read q = .ok content →
      (∀ a ∈ attempts, ∀ out, target a.1 = some out → w.locate out ≠ w.locate q) →
      w'.read q = .ok content := by
  generalize hhost : Workspace.host = host at h
  induction h with
  | nil s => exact ⟨fun _ _ h => h, fun _ _ h _ => h⟩
  | failed _ ih =>
    obtain ⟨hlocate, hread⟩ := ih (List.forall_mem_cons.mp hplaces).2
    exact ⟨hlocate, fun q c hq haway => hread q c hq (List.forall_mem_cons.mp haway).2⟩
  | printed _ _ ih =>
    obtain ⟨hlocate, hread⟩ := ih (List.forall_mem_cons.mp hplaces).2
    exact ⟨hlocate, fun q c hq haway => hread q c hq (List.forall_mem_cons.mp haway).2⟩
  | @written input drawn out rest w w₁ w' htarget hwrite hrest ih =>
    subst hhost
    have hwrite := Workspace.write_of_run hwrite
    obtain ⟨-, hbehind⟩ := List.forall_mem_cons.mp hplaces
    obtain ⟨hlocate, hread⟩ := ih fun a ha o ho => by
      obtain ⟨l, hl⟩ := hbehind a ha o ho
      exact ⟨l, Workspace.locate_write hwrite hl⟩
    refine ⟨fun q l hq => hlocate q l (Workspace.locate_write hwrite hq), fun q c hq haway => ?_⟩
    obtain ⟨hout, haway⟩ := List.forall_mem_cons.mp haway
    refine hread q c (Workspace.read_write_other hwrite hq (hout out htarget)) fun a ha o ho => ?_
    obtain ⟨l, hl⟩ := hbehind a ha o ho
    obtain ⟨names, hnames, -⟩ := Workspace.read_eq_ok.mp hq
    rw [Workspace.locate_write hwrite hl, Workspace.locate_write hwrite hnames, ← hl, ← hnames]
    exact haway a ha o ho

/-- A drawing stays in its file if none behind it goes to the same place. -/
theorem Written.read_last {input : Input} {drawn : Drawn α} {out : Path}
    (h : Written Workspace.host target (before ++ (input, .ok drawn) :: behind) w w')
    (hplaces : ∀ a ∈ before ++ (input, .ok drawn) :: behind, ∀ o, target a.1 = some o →
      ∃ l, w.locate o = .ok l)
    (htarget : target input = some out)
    (hlast : ∀ a ∈ behind, ∀ o, target a.1 = some o → w.locate o ≠ w.locate out) :
    w'.read out = .ok drawn.svg := by
  obtain ⟨w₁, hbefore, hrest⟩ := h.append
  obtain ⟨hfront, hback⟩ := List.forall_mem_append.mp hplaces
  obtain ⟨hself, hback⟩ := List.forall_mem_cons.mp hback
  obtain ⟨hlocate, -⟩ := hbefore.keeps hfront
  obtain ⟨l, hl⟩ := hself out htarget
  cases hrest with
  | printed hnone =>
    rw [htarget] at hnone
    cases hnone
  | @written _ _ path _ _ w₂ _ htarget' hwrite hbehind =>
    obtain rfl := Option.some.inj (htarget.symm.trans htarget')
    have hwrite := Workspace.write_of_run hwrite
    have hstays (o : Path) (l : Location) (ho : w.locate o = .ok l) : w₂.locate o = .ok l :=
      Workspace.locate_write hwrite (hlocate o l ho)
    have hread := Workspace.read_write_same hwrite (hlocate out l hl)
    refine (hbehind.keeps fun a ha o ho => ?_).2 out _ hread fun a ha o ho => ?_
    · obtain ⟨l', hl'⟩ := hback a ha o ho
      exact ⟨l', hstays o l' hl'⟩
    · obtain ⟨l', hl'⟩ := hback a ha o ho
      rw [hstays o l' hl', hstays out l hl, ← hl', ← hl]
      exact hlast a ha o ho

end Written

/-! ### Runs that end with 0 -/

section Runs

variable [Scalar α] {host : Host (StateM σ)} {s s' : σ} {line : Arguments α}
  {args : CompileArguments α} {argv : List String} {shown : Shown}

theorem run_eq_compile (hline : Arguments.read argv = .ok line)
    (hcommand : line.command = some (.compile args)) (world : Surroundings α)
    (toJson : Compiled α → Json) (host : Host (StateM σ)) (debug : Bool) :
    run world toJson host debug argv =
      compile world host ⟨line.format, debug || argv.contains "--debug"⟩ args := by
  have hargv : argv ≠ [] := by
    rintro rfl
    rw [Arguments.read_nil] at hline
    cases hline
    cases hcommand
  rw [run, if_neg (by simpa using hargv), hline]
  dsimp only
  rw [hcommand]

/-- No failure among inputs means that all of them have drawings. -/
theorem Shown.exists_drawn_of_code {how : Reporting} {target : Input → Option Path}
    {attempts : List (Attempt α)} (h : (Shown.ofAttempts how target attempts).code = 0) :
    ∀ a ∈ attempts, ∃ drawn, a.2 = .ok drawn := by
  have hnone : attempts.findSome? Attempt.code? = none := by
    cases hfirst : attempts.findSome? Attempt.code? with
    | none => rfl
    | some code =>
      obtain ⟨a, -, ha⟩ := List.exists_of_findSome?_eq_some hfirst
      rw [ofAttempts, hfirst] at h
      exact absurd h (Attempt.code?_ne_zero ha)
  intro a ha
  have hcode := List.findSome?_eq_none_iff.mp hnone a ha
  obtain ⟨input, e | drawn⟩ := a
  · cases hcode
  · exact ⟨drawn, rfl⟩

/-- A run of `compile` that ends with 0 has drawn all its inputs, and written all drawings that go
to files. -/
theorem run_compile_written (hhost : host.Steady) (hline : Arguments.read argv = .ok line)
    (hcommand : line.command = some (.compile args)) {world : Surroundings α}
    {toJson : Compiled α → Json} {debug : Bool}
    (hrun : (run world toJson host debug argv).run s = (shown, s')) (hcode : shown.code = 0) :
    ∃ options inputs shared,
      (prepareCompile host args).run.run s = (.ok (options, inputs, shared), s) ∧
      (∀ input ∈ inputs, ∃ drawn, draw world options shared input.source = .ok drawn) ∧
      Written host (destination args) (attemptsOf world options shared inputs) s s' := by
  rw [run_eq_compile hline hcommand, compile, StateT.run_bind] at hrun
  have hharmless := hhost.prepareCompile args
  rcases hprepared : (prepareCompile host args).run.run s with ⟨r | ⟨options, inputs, shared⟩, s₁⟩
  · rw [hprepared] at hrun
    cases hrun
    exact absurd hcode (hharmless.code s _ r hprepared)
  · obtain rfl := hharmless.state_eq hprepared
    rw [hprepared] at hrun
    change (showDrawings host _ (destination args) {}
      (attemptsOf world options shared inputs)).run s₁ = (shown, s') at hrun
    refine ⟨options, inputs, shared, rfl, ?_⟩
    obtain ⟨before, behind, s₂, hsplit, hwritten, hbehind⟩ :=
      exists_written host (destination args) (attemptsOf world options shared inputs) s₁
    rw [hsplit, hwritten.run_showDrawings, Shown.empty_append] at hrun
    rcases hbehind with rfl | ⟨input, drawn, path, e, s₃, rest, rfl, htarget, hwrite⟩
    · rw [List.append_nil] at hsplit
      cases hrun
      refine ⟨fun input hinput => ?_, hsplit ▸ hwritten⟩
      exact Shown.exists_drawn_of_code hcode _
        (hsplit ▸ List.mem_map_of_mem hinput :
          (input, draw world options shared input.source) ∈ before)
    · rw [run_showDrawings_refused htarget hwrite] at hrun
      cases hrun
      cases hcode

end Runs

/-! ### Files behind a run -/

/-- The file that the drawing of an input goes to where no other is asked for. -/
def Input.output (input : Input) : Option Path :=
  input.path.map (·.withExtension ".svg")

/-- The drawing of an input goes to the place of a path. -/
def Input.GoesTo (w : Workspace) (input : Input) (q : Path) : Prop :=
  ∃ out, input.output = some out ∧ w.locate out = w.locate q

theorem destination_eq_output {args : CompileArguments α} (houtput : args.output = none)
    (hstdout : args.toStdout = false) (input : Input) : destination args input = input.output := by
  unfold destination Input.output
  cases input.path with
  | none => rfl
  | some path =>
    rw [hstdout, houtput]
    rfl

theorem Input.goesTo_iff {w : Workspace} {input : Input} {path q : Path}
    (hpath : input.path = some path) :
    input.GoesTo w q ↔ w.locate (path.withExtension ".svg") = w.locate q := by
  unfold GoesTo output
  rw [hpath]
  constructor
  · rintro ⟨out, hout, hsame⟩
    obtain rfl := Option.some.inj hout
    exact hsame
  · intro hsame
    exact ⟨_, rfl, hsame⟩

theorem Input.exists_place {w : Workspace} {input : Input}
    (hread : ∀ path, input.path = some path → w.read path = .ok input.source) {out : Path}
    (hout : input.output = some out) : ∃ l, w.locate out = .ok l := by
  obtain ⟨path, hpath, rfl⟩ := Option.map_eq_some_iff.mp hout
  exact Workspace.locate_withExtension (hread path hpath) ".svg"

/-- A run of `compile` that ends with 0, and is not told where drawings go, has read all inputs and
has a drawing for each. Afterwards the place of a drawing holds the last drawing that goes there,
and every file at no such place is as it was. So all drawings are in their own files and all inputs
are as they were, if no two drawings go to one place and none goes to the place of an input. -/
theorem run_compile_files [Scalar α] (world : Surroundings α) (toJson : Compiled α → Json)
    (debug : Bool) (argv : List String) (line : Arguments α) (args : CompileArguments α)
    (w w' : Workspace) (shown : Shown) (hline : Arguments.read argv = .ok line)
    (hcommand : line.command = some (.compile args)) (houtput : args.output = none)
    (hstdout : args.toStdout = false)
    (hrun : (run world toJson Workspace.host debug argv).run w = (shown, w'))
    (hcode : shown.code = 0) :
    ∃ options inputs shared,
      (prepareCompile Workspace.host args).run.run w = (.ok (options, inputs, shared), w) ∧
      (args.inputs ≠ [] → inputs.map (·.path) = args.inputs.map fun p => some (Path.ofString p)) ∧
      (∀ input ∈ inputs, (∃ drawn, draw world options shared input.source = .ok drawn) ∧
        ∀ path, input.path = some path → w.read path = .ok input.source) ∧
      (∀ before input behind out drawn, inputs = before ++ input :: behind →
        input.output = some out → draw world options shared input.source = .ok drawn →
        (∀ later ∈ behind, ¬later.GoesTo w out) → w'.read out = .ok drawn.svg) ∧
      (∀ q content, w.read q = .ok content → (∀ input ∈ inputs, ¬input.GoesTo w q) →
        w'.read q = .ok content) ∧
      (inputs.Pairwise (fun a b => ∀ out, a.output = some out → ¬b.GoesTo w out) →
        (∀ a ∈ inputs, ∀ b ∈ inputs, ∀ path, b.path = some path → ¬a.GoesTo w path) →
        ∀ input ∈ inputs, ∀ path, input.path = some path → w'.read path = .ok input.source ∧
          ∃ drawn, draw world options shared input.source = .ok drawn ∧
            w'.read (path.withExtension ".svg") = .ok drawn.svg) := by
  obtain ⟨options, inputs, shared, hprepared, hdrawn, hwritten⟩ :=
    run_compile_written Workspace.host_steady hline hcommand hrun hcode
  have hsources := prepareCompile_sources Workspace.host_steady hprepared
  rw [funext (destination_eq_output houtput hstdout)] at hwritten
  have hplaces : ∀ a ∈ attemptsOf world options shared inputs, ∀ out,
      a.1.output = some out → ∃ l, w.locate out = .ok l := by
    refine List.forall_mem_map.mpr fun input hinput out hout => ?_
    exact input.exists_place (hsources input hinput) hout
  have hlast : ∀ before input behind out drawn, inputs = before ++ input :: behind →
      input.output = some out → draw world options shared input.source = .ok drawn →
      (∀ later ∈ behind, ¬later.GoesTo w out) → w'.read out = .ok drawn.svg := by
    intro before input behind out drawn hsplit hout hdraw hbehind
    have hattempts : attemptsOf world options shared inputs =
        attemptsOf world options shared before ++ (input, .ok drawn) ::
          attemptsOf world options shared behind := by
      rw [hsplit, attemptsOf, List.map_append, List.map_cons, hdraw]
      rfl
    rw [hattempts] at hwritten hplaces
    refine hwritten.read_last hplaces hout (List.forall_mem_map.mpr ?_)
    intro later hlater o ho hsame
    exact hbehind later hlater ⟨o, ho, hsame⟩
  have hothers : ∀ q content, w.read q = .ok content → (∀ input ∈ inputs, ¬input.GoesTo w q) →
      w'.read q = .ok content := by
    intro q content hq haway
    refine (hwritten.keeps hplaces).2 q content hq (List.forall_mem_map.mpr ?_)
    intro input hinput o ho hsame
    exact haway input hinput ⟨o, ho, hsame⟩
  refine ⟨options, inputs, shared, hprepared, fun hpaths => prepareCompile_paths hpaths hprepared,
    fun input hinput => ⟨hdrawn input hinput, hsources input hinput⟩, hlast, hothers, ?_⟩
  intro hapart hspared input hinput path hpath
  obtain ⟨drawn, hdraw⟩ := hdrawn input hinput
  refine ⟨hothers path _ (hsources input hinput path hpath)
    fun a ha => hspared a ha input hinput path hpath, drawn, hdraw, ?_⟩
  obtain ⟨before, behind, hsplit⟩ := List.append_of_mem hinput
  have hout : input.output = some (path.withExtension ".svg") := by
    rw [Input.output, hpath]
    rfl
  rw [hsplit] at hapart
  have hbehind := (List.pairwise_cons.mp (List.pairwise_append.mp hapart).2.1).1
  exact hlast before input behind _ drawn hsplit hout hdraw fun later hlater =>
    hbehind later hlater _ hout

theorem sourceWorkspace_compile_files :
    ∃ (line : Arguments Rat) (args : CompileArguments Rat),
      Arguments.read ["compile", "a.dg", "b.dg"] = .ok line ∧
      line.command = some (.compile args) ∧ args.output = none ∧ args.toStdout = false ∧
      (runOn (sourceWorkspace []) ["compile", "a.dg", "b.dg"]).1.code = 0 ∧
      ∀ p ∈ [Path.ofString "a.dg", Path.ofString "b.dg"],
        (runOn (sourceWorkspace []) ["compile", "a.dg", "b.dg"]).2.read p = .ok rectSource ∧
        ∃ drawn : Drawn Rat, (runOn (sourceWorkspace []) ["compile", "a.dg", "b.dg"]).2.read
          (p.withExtension ".svg") = .ok drawn.svg := by
  have hread : ((Arguments.read ["compile", "a.dg", "b.dg"] :
      Except Stop (Arguments Rat)).toOption.bind fun line => line.compile?.map fun args =>
        (args.inputs, args.output, args.toStdout)) = some (["a.dg", "b.dg"], none, false) := by
    decide +kernel
  have hcode : (runOn (sourceWorkspace []) ["compile", "a.dg", "b.dg"]).1.code = 0 := by
    decide +kernel
  obtain ⟨line, hline, hread⟩ := Option.bind_eq_some_iff.mp hread
  obtain ⟨args, hargs, hread⟩ := Option.map_eq_some_iff.mp hread
  have hline := Except.toOption_eq_some.mp hline
  have hcommand := Arguments.command_of_compile? hargs
  simp only [Prod.mk.injEq] at hread
  obtain ⟨hinputs, houtput, hstdout⟩ := hread
  refine ⟨line, args, hline, hcommand, houtput, hstdout, hcode, ?_⟩
  obtain ⟨options, inputs, shared, -, hpaths, hsources, -, -, hfiles⟩ :=
    run_compile_files plainWorld (fun _ => .null) false _ line args (sourceWorkspace []) _ _ hline
      hcommand houtput hstdout rfl hcode
  have hpaths := hpaths (by rw [hinputs]; decide)
  rw [hinputs] at hpaths
  have hpath {input : Input} (hinput : input ∈ inputs) :
      ∃ p ∈ [Path.ofString "a.dg", Path.ofString "b.dg"], input.path = some p := by
    have hmem := List.mem_map_of_mem (f := Input.path) hinput
    rw [hpaths] at hmem
    obtain ⟨p, hp, hsame⟩ := List.mem_map.mp hmem
    exact ⟨Path.ofString p, List.mem_map_of_mem (f := Path.ofString) hp, hsame.symm⟩
  have hapart : (inputs.map (·.path)).Pairwise fun a b => ∀ p ∈ a, ∀ q ∈ b,
      (sourceWorkspace []).locate (q.withExtension ".svg") ≠
        (sourceWorkspace []).locate (p.withExtension ".svg") := by
    rw [hpaths]
    decide +kernel
  have hspared : ∀ p ∈ [Path.ofString "a.dg", Path.ofString "b.dg"],
      ∀ q ∈ [Path.ofString "a.dg", Path.ofString "b.dg"],
      (sourceWorkspace []).locate (p.withExtension ".svg") ≠ (sourceWorkspace []).locate q := by
    decide +kernel
  have hrect : ∀ p ∈ [Path.ofString "a.dg", Path.ofString "b.dg"],
      (sourceWorkspace []).read p = .ok rectSource := by
    decide +kernel
  have hkept := hfiles ?_ ?_
  · intro p hp
    have hmem : some p ∈ inputs.map (·.path) := by
      rw [hpaths]
      exact List.mem_map_of_mem (f := some) hp
    obtain ⟨input, hinput, hsome⟩ := List.mem_map.mp hmem
    obtain ⟨hsource, drawn, -, hsvg⟩ := hkept input hinput p hsome
    have hread := (hsources input hinput).2 p hsome
    rw [hrect p hp] at hread
    exact ⟨hsource.trans hread.symm, drawn, hsvg⟩
  · refine (List.pairwise_map.mp hapart).imp_of_mem fun ha hb hne out hout hgoes => ?_
    obtain ⟨q, -, hq⟩ := hpath hb
    obtain ⟨p, hp, rfl⟩ := Option.map_eq_some_iff.mp hout
    exact hne p hp q hq ((Input.goesTo_iff hq).mp hgoes)
  · intro a ha b hb q hq hgoes
    obtain ⟨p, hp, hpath'⟩ := hpath ha
    obtain ⟨q', hq', hsame⟩ := hpath hb
    obtain rfl := Option.some.inj (hq.symm.trans hsame)
    exact hspared p hp q hq' ((Input.goesTo_iff hpath').mp hgoes)

def wideSource : String := "<diagram><rect width=\"20\"/></diagram>"

/-- Two inputs with the same name but for its extension lose the drawing of the first, and an input
with the extension of drawings loses itself. -/
theorem sourceWorkspace_files_lost :
    ∃ first second : Drawn Rat,
      draw plainWorld .default [] rectSource = .ok first ∧
      draw plainWorld .default [] wideSource = .ok second ∧ first.svg ≠ second.svg ∧
      (runOn (sourceWorkspace [(["a.xml"], some wideSource)]) ["compile", "a.dg", "a.xml"]).1.code =
        0 ∧
      (runOn (sourceWorkspace [(["a.xml"], some wideSource)]) ["compile", "a.dg", "a.xml"]).2.read
        (.ofString "a.svg") = .ok second.svg ∧
      (runOn (sourceWorkspace [(["a.svg"], some rectSource)]) ["compile", "a.svg"]).1.code = 0 ∧
      (runOn (sourceWorkspace [(["a.svg"], some rectSource)]) ["compile", "a.svg"]).2.read
        (.ofString "a.svg") = .ok first.svg ∧ first.svg ≠ rectSource := by
  have hlost : ((draw plainWorld .default [] rectSource).toOption.bind fun first =>
      (draw plainWorld .default [] wideSource).toOption.map fun second => decide
        (first.svg ≠ second.svg ∧ first.svg ≠ rectSource ∧
        (runOn (sourceWorkspace [(["a.xml"], some wideSource)])
          ["compile", "a.dg", "a.xml"]).2.read (.ofString "a.svg") = .ok second.svg ∧
        (runOn (sourceWorkspace [(["a.svg"], some rectSource)])
          ["compile", "a.svg"]).2.read (.ofString "a.svg") = .ok first.svg)) = some true := by
    decide +kernel
  obtain ⟨first, hfirst, hlost⟩ := Option.bind_eq_some_iff.mp hlost
  obtain ⟨second, hsecond, hlost⟩ := Option.map_eq_some_iff.mp hlost
  obtain ⟨hne, hsource, hxml, hsvg⟩ := of_decide_eq_true hlost
  exact ⟨first, second, Except.toOption_eq_some.mp hfirst, Except.toOption_eq_some.mp hsecond, hne,
    by decide +kernel, hxml, by decide +kernel, hsvg, hsource⟩

end GridDiagram.Cli
