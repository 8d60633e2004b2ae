import GridDiagram.Proofs.Template.Scope

/-!
What the scopes of a chain hold after any calls that define templates in them, refused ones among
them. A scope keeps what it has accepted, in order, and nothing else; so what is found from it, and
the names that it knows, can be told from what has been accepted alone.
-/

namespace GridDiagram

variable {α : Type}

/-! ### Calls and what they accept -/

/-- What a scope is asked to define: a tree under a name, or each of several trees under its id. -/
inductive Definition (α : Type) where
  | one (name : String) (t : DiagramTree α)
  | all (ts : List (DiagramTree α))

/-- The names and trees of a definition, in order. -/
def Definition.entries : Definition α → List (String × DiagramTree α)
  | one name t => [(name, t)]
  | all ts => ts.map fun t => (t.name, t)

/-- A call on one scope of a chain, counted from the innermost. -/
structure DefinitionCall (α : Type) where
  scope : Nat
  definition : Definition α

/-- A template that a scope has accepted under a name. -/
structure Acceptance (α : Type) where
  scope : Nat
  name : String
  template : DiagramTree α

namespace Scope

/-- The scope after it was asked for a definition. What was defined before an error stays. -/
def carryOut (s : Scope α) : Definition α → Scope α
  | .one name t =>
    match s.define name t with
    | .ok s' => s'
    | .error _ => s
  | .all ts => (s.defineAll ts).1

/-- The first of several definitions, up to the one that the scope refuses. -/
def accepts (s : Scope α) : List (String × DiagramTree α) → List (String × DiagramTree α)
  | [] => []
  | (name, t) :: ds =>
    match s.define name t with
    | .ok s' => (name, t) :: s'.accepts ds
    | .error _ => []

theorem define_eq_ok {s s' : Scope α} {name : String} {t : DiagramTree α} :
    s.define name t = .ok s' ↔
      s.lookup name = none ∧ s' = { s with templates := s.templates ++ [(name, t)] } := by
  unfold define
  cases s.lookup name <;> simp [eq_comm]

theorem define_eq_error {s : Scope α} {name : String} {t : DiagramTree α} {e : TemplateError} :
    s.define name t = .error e ↔ s.lookup name ≠ none ∧ e = .duplicate name := by
  unfold define
  cases s.lookup name <;> simp [eq_comm]

theorem defineAll_templates (s : Scope α) (ts : List (DiagramTree α)) :
    (s.defineAll ts).1.templates =
      s.templates ++ s.accepts (ts.map fun t => (t.name, t)) := by
  induction ts generalizing s with
  | nil => simp [defineAll, accepts]
  | cons t ts ih =>
    rw [defineAll, ← DiagramTree.name, List.map_cons, accepts]
    cases h : s.define t.name t with
    | error e => simp
    | ok s' =>
      obtain ⟨-, rfl⟩ := define_eq_ok.mp h
      simp [ih]

/-- A scope keeps what it has accepted, and adds what it accepts behind that. -/
theorem carryOut_templates (s : Scope α) (d : Definition α) :
    (s.carryOut d).templates = s.templates ++ s.accepts d.entries := by
  cases d with
  | one name t =>
    rw [carryOut, Definition.entries, accepts]
    cases h : s.define name t with
    | error e => simp
    | ok s' =>
      obtain ⟨-, rfl⟩ := define_eq_ok.mp h
      simp [accepts]
  | all ts => exact defineAll_templates s ts

/-- Definitions that are refused stop at a name that is taken by then, and what stands in front of
it is defined as if the rest were not there. -/
theorem exists_refused {s : Scope α} {ts : List (DiagramTree α)} {e : TemplateError}
    (h : (s.defineAll ts).2 = .error e) : ∃ front t back, ts = front ++ t :: back ∧
      s.defineAll front = ((s.defineAll ts).1, .ok ()) ∧
      (s.defineAll ts).1.define t.name t = .error e := by
  induction ts generalizing s with
  | nil => simp [defineAll] at h
  | cons t ts ih =>
    rw [defineAll, ← DiagramTree.name] at h ⊢
    cases hdefine : s.define t.name t with
    | error e' =>
      rw [hdefine] at h
      obtain rfl := Except.error.inj h
      exact ⟨[], t, ts, rfl, rfl, hdefine⟩
    | ok s' =>
      rw [hdefine] at h
      obtain ⟨front, u, back, rfl, hfront, hrefused⟩ := ih h
      refine ⟨t :: front, u, back, rfl, ?_, hrefused⟩
      rw [defineAll, ← DiagramTree.name, hdefine]
      exact hfront

end Scope

/-! ### Runs -/

/-- The first template that a scope has accepted under a name, of all that have been accepted. -/
def firstAccepted (log : List (Acceptance α)) (scope : Nat) (name : String) :
    Option (DiagramTree α) :=
  (log.find? fun a => a.scope = scope ∧ a.name = name).map (·.template)

/-- The first template accepted under a name in the nearest scope, from the scope `i` outwards, that
has accepted one. -/
def IsNearest (log : List (Acceptance α)) (i : Nat) (name : String) (t : DiagramTree α) : Prop :=
  ∃ j, i ≤ j ∧ firstAccepted log j name = some t ∧
    ∀ k, i ≤ k → k < j → firstAccepted log k name = none

namespace Registry

/-- A chain of empty scopes with these depths. -/
def fresh (depths : List Int) : Registry α :=
  depths.map fun maxDepth => { maxDepth }

/-- The chain after a call. A number without a scope changes nothing. -/
def call (r : Registry α) (c : DefinitionCall α) : Registry α :=
  r.modify c.scope fun s => s.carryOut c.definition

/-- The chain after several calls. -/
def run (r : Registry α) (calls : List (DefinitionCall α)) : Registry α :=
  calls.foldl call r

/-- What a call makes its scope accept. -/
def acceptedBy (r : Registry α) (c : DefinitionCall α) : List (Acceptance α) :=
  match r[c.scope]? with
  | some s => (s.accepts c.definition.entries).map fun d => ⟨c.scope, d.1, d.2⟩
  | none => []

/-- What several calls make the scopes of a chain accept, in order. -/
def accepted (r : Registry α) : List (DefinitionCall α) → List (Acceptance α)
  | [] => []
  | c :: calls => r.acceptedBy c ++ (r.call c).accepted calls

/-- The templates of a scope of the chain. -/
def templatesAt (r : Registry α) (i : Nat) : List (String × DiagramTree α) :=
  match r[i]? with
  | some s => s.templates
  | none => []

/-- What a scope has accepted, of all that has been accepted. -/
def acceptedAt (log : List (Acceptance α)) (i : Nat) : List (String × DiagramTree α) :=
  log.filterMap fun a => if a.scope = i then some (a.name, a.template) else none

/-! ### What a scope holds -/

theorem fresh_templatesAt (depths : List Int) (i : Nat) :
    (fresh depths : Registry α).templatesAt i = [] := by
  rw [templatesAt, fresh, List.getElem?_map]
  cases depths[i]? <;> rfl

theorem call_templatesAt (r : Registry α) (c : DefinitionCall α) (i : Nat) :
    (r.call c).templatesAt i = r.templatesAt i ++ acceptedAt (r.acceptedBy c) i := by
  have hlog (ds : List (String × DiagramTree α)) :
      acceptedAt (ds.map fun d => ⟨c.scope, d.1, d.2⟩) i = if c.scope = i then ds else [] := by
    unfold acceptedAt
    split <;> simp_all [List.filterMap_map]
  simp only [templatesAt, call, acceptedBy, List.getElem?_modify]
  by_cases hscope : c.scope = i
  · subst hscope
    cases r[c.scope]? with
    | none => rfl
    | some s => simp [hlog, s.carryOut_templates]
  · cases r[c.scope]? <;> cases r[i]? <;> simp [hscope, acceptedAt]

/-- Scopes hold what they held at first, and behind that what they have accepted. -/
theorem run_templatesAt (r : Registry α) (calls : List (DefinitionCall α)) (i : Nat) :
    (r.run calls).templatesAt i = r.templatesAt i ++ acceptedAt (r.accepted calls) i := by
  induction calls generalizing r with
  | nil => simp [run, accepted, acceptedAt]
  | cons c calls ih =>
    have hrest := ih (r.call c)
    rw [call_templatesAt] at hrest
    simpa [run, accepted, acceptedAt] using hrest

theorem acceptedAt_lookup (log : List (Acceptance α)) (i : Nat) (name : String) :
    (acceptedAt log i).lookup name = firstAccepted log i name := by
  unfold acceptedAt firstAccepted
  induction log with
  | nil => rfl
  | cons a log ih =>
    by_cases hscope : a.scope = i
    · by_cases hname : a.name = name
      · simp [hscope, hname]
      · simpa [hscope, hname, List.lookup_cons, beq_false_of_ne (Ne.symm hname)] using ih
    · simpa [hscope] using ih

/-- A scope finds the first template that it has accepted under a name. -/
theorem run_templatesAt_lookup (depths : List Int) (calls : List (DefinitionCall α)) (i : Nat)
    (name : String) : (((fresh depths).run calls).templatesAt i).lookup name =
      firstAccepted ((fresh depths).accepted calls) i name := by
  rw [run_templatesAt, fresh_templatesAt, List.nil_append, acceptedAt_lookup]

/-! ### What is found along a chain -/

/-- The chain of a scope: that and those around it. -/
def startingAt (r : Registry α) (i : Nat) : Registry α :=
  r.drop i

theorem startingAt_templatesAt (r : Registry α) (i j : Nat) :
    (r.startingAt i).templatesAt j = r.templatesAt (i + j) := by
  rw [templatesAt, templatesAt, startingAt, List.getElem?_drop]

/-- A name stands for its template in the nearest scope that has one for it. -/
theorem lookup_eq_some_iff {r : Registry α} {name : String} {t : DiagramTree α} :
    r.lookup name = some t ↔ ∃ j, (r.templatesAt j).lookup name = some t ∧
      ∀ k < j, (r.templatesAt k).lookup name = none := by
  induction r with
  | nil => simp [lookup, templatesAt]
  | cons s r ih =>
    have hbehind (k : Nat) : templatesAt (s :: r) (k + 1) = templatesAt r k := rfl
    have hfirst : (templatesAt (s :: r) 0).lookup name = s.lookup name := rfl
    rw [lookup]
    cases hs : s.lookup name with
    | some u =>
      constructor
      · rintro ⟨⟩
        exact ⟨0, hfirst.trans hs, by simp⟩
      · rintro ⟨j, hj, hbefore⟩
        cases j with
        | zero => exact (hfirst.trans hs).symm.trans hj
        | succ j =>
          have hnone := hbefore 0 (Nat.succ_pos j)
          rw [hfirst, hs] at hnone
          cases hnone
    | none =>
      rw [ih]
      constructor
      · rintro ⟨j, hj, hbefore⟩
        refine ⟨j + 1, hj, fun k hk => ?_⟩
        cases k with
        | zero => exact hfirst.trans hs
        | succ k => exact hbefore k (Nat.lt_of_succ_lt_succ hk)
      · rintro ⟨j, hj, hbefore⟩
        cases j with
        | zero =>
          rw [hfirst, hs] at hj
          cases hj
        | succ j => exact ⟨j, hj, fun k hk => hbefore (k + 1) (Nat.succ_lt_succ hk)⟩

theorem lookup_eq_none_iff {r : Registry α} {name : String} :
    r.lookup name = none ↔ ∀ s ∈ r, s.lookup name = none := by
  induction r with
  | nil => simp [lookup]
  | cons s r ih =>
    rw [lookup, List.forall_mem_cons]
    cases s.lookup name with
    | some t => simp
    | none => simpa using ih

theorem lookup_eq_none_iff_templatesAt {r : Registry α} {name : String} :
    r.lookup name = none ↔ ∀ j, (r.templatesAt j).lookup name = none := by
  rw [lookup_eq_none_iff]
  constructor
  · intro h j
    unfold templatesAt
    split
    · rename_i s hs
      exact h s (List.mem_of_getElem? hs)
    · rfl
  · intro h s hs
    obtain ⟨j, hj⟩ := List.mem_iff_getElem?.mp hs
    have hnone := h j
    rwa [templatesAt, hj] at hnone

/-! ### Names -/

end Registry

theorem mem_insertName {name n : String} {ns : List String} :
    n ∈ insertName name ns ↔ n = name ∨ n ∈ ns := by
  induction ns with
  | nil => simp [insertName]
  | cons m ns ih =>
    rw [insertName]
    split_ifs with hsame hbefore
    · simp [hsame]
    · simp
    · simp [ih, or_left_comm]

/-- A name put in its place leaves the names strictly ascending. -/
theorem pairwise_insertName {ns : List String} (h : ns.Pairwise (· < ·)) (name : String) :
    (insertName name ns).Pairwise (· < ·) := by
  induction ns with
  | nil => simp [insertName]
  | cons m ns ih =>
    obtain ⟨hm, hns⟩ := List.pairwise_cons.mp h
    rw [insertName]
    split_ifs with hsame hbefore
    · exact h
    · refine List.pairwise_cons.mpr ⟨fun n hn => ?_, h⟩
      obtain rfl | hn := List.mem_cons.mp hn
      · exact hbefore
      · exact String.lt_trans hbefore (hm n hn)
    · have hle : m ≤ name := String.not_lt.mp hbefore
      have hbehind : m < name :=
        String.not_le.mp fun hle' => hsame (String.le_antisymm hle' hle)
      refine List.pairwise_cons.mpr ⟨fun n hn => ?_, ih hns⟩
      obtain rfl | hn := mem_insertName.mp hn
      · exact hbehind
      · exact hm n hn

namespace Registry

theorem names_pairwise (r : Registry α) : r.names.Pairwise (· < ·) := by
  unfold names
  induction r.flatMap fun s => s.templates.map (·.1) with
  | nil => exact .nil
  | cons name ns ih => exact pairwise_insertName ih name

/-- The names of a chain are those under which something is found in it. -/
theorem mem_names {r : Registry α} {name : String} : name ∈ r.names ↔ r.lookup name ≠ none := by
  have hmem (ns : List String) : name ∈ ns.foldr insertName [] ↔ name ∈ ns := by
    induction ns with
    | nil => simp
    | cons n ns ih => rw [List.foldr_cons, mem_insertName, ih, List.mem_cons]
  rw [names, hmem, Ne, lookup_eq_none_iff]
  simp [Scope.lookup, List.lookup_eq_none_iff]

/-! ### The contents of a chain -/

/-- From every scope of a chain one finds the first template ever accepted under a name in the
nearest scope that has accepted one, and nothing where none has; the names that it knows are those
under which something is found, each once, in ascending order. -/
structure Holds (r : Registry α) (log : List (Acceptance α)) : Prop where
  found : ∀ i name t, (r.startingAt i).lookup name = some t ↔ IsNearest log i name t
  missing : ∀ i name, (r.startingAt i).lookup name = none ↔
    ∀ j, i ≤ j → firstAccepted log j name = none
  ascending : ∀ i, (r.startingAt i).names.Pairwise (· < ·)
  known : ∀ i name, name ∈ (r.startingAt i).names ↔ (r.startingAt i).lookup name ≠ none

theorem run_concat (r : Registry α) (calls : List (DefinitionCall α)) (c : DefinitionCall α) :
    r.run (calls ++ [c]) = (r.run calls).call c :=
  List.foldl_concat ..

theorem call_eq_set {r : Registry α} {i : Nat} {s : Scope α} (hs : r[i]? = some s)
    (d : Definition α) : r.call ⟨i, d⟩ = r.set i (s.carryOut d) := by
  simp [call, List.modify_eq_set_getElem?, hs]

theorem run_holds (depths : List Int) (calls : List (DefinitionCall α)) :
    ((fresh depths).run calls).Holds ((fresh depths).accepted calls) := by
  have hat (i j : Nat) (name : String) :
      ((((fresh depths).run calls).startingAt i).templatesAt j).lookup name =
        firstAccepted ((fresh depths).accepted calls) (i + j) name := by
    rw [startingAt_templatesAt, run_templatesAt_lookup]
  refine ⟨fun i name t => ?_, fun i name => ?_, fun i => names_pairwise _, fun i name => mem_names⟩
  · simp only [lookup_eq_some_iff, hat]
    constructor
    · rintro ⟨j, hj, hbefore⟩
      refine ⟨i + j, Nat.le_add_right i j, hj, fun k hik hkj => ?_⟩
      obtain ⟨k, rfl⟩ := Nat.exists_eq_add_of_le hik
      exact hbefore k (Nat.lt_of_add_lt_add_left hkj)
    · rintro ⟨j, hij, hj, hbefore⟩
      obtain ⟨j, rfl⟩ := Nat.exists_eq_add_of_le hij
      exact ⟨j, hj, fun k hk => hbefore (i + k) (Nat.le_add_right i k) (Nat.add_lt_add_left hk i)⟩
  · simp only [lookup_eq_none_iff_templatesAt, hat]
    constructor
    · intro h j hij
      obtain ⟨j, rfl⟩ := Nat.exists_eq_add_of_le hij
      exact h j
    · exact fun h j => h (i + j) (Nat.le_add_right i j)

/-- Whatever calls define templates in the scopes of a chain, it holds the first template that each
scope has ever accepted under a name. A scope accepts a name exactly if it has not accepted it
before; a definition that is refused changes nothing in the chain, and several do no more than those
in front of the refused one alone. -/
theorem run_contents (depths : List Int) (calls : List (DefinitionCall α)) :
    ((fresh depths).run calls).Holds ((fresh depths).accepted calls) ∧
    ∀ i s, ((fresh depths).run calls)[i]? = some s →
      (∀ name t, (∃ s', s.define name t = .ok s') ↔
        firstAccepted ((fresh depths).accepted calls) i name = none) ∧
      (∀ name t e, s.define name t = .error e → e = .duplicate name ∧
        (fresh depths).run (calls ++ [⟨i, .one name t⟩]) = (fresh depths).run calls) ∧
      ∀ ts e, (s.defineAll ts).2 = .error e → ∃ front t back, ts = front ++ t :: back ∧
        e = .duplicate t.name ∧ (s.defineAll front).2 = .ok () ∧
        (fresh depths).run (calls ++ [⟨i, .all ts⟩]) =
          (fresh depths).run (calls ++ [⟨i, .all front⟩]) := by
  refine ⟨run_holds depths calls, fun i s hs => ⟨fun name t => ?_, fun name t e he => ?_,
    fun ts e he => ?_⟩⟩
  · have hlookup : s.lookup name = firstAccepted ((fresh depths).accepted calls) i name := by
      rw [← run_templatesAt_lookup, templatesAt, hs, Scope.lookup]
    simp [Scope.define_eq_ok, hlookup]
  · have hsame : s.carryOut (.one name t) = s := by
      simp only [Scope.carryOut, he]
    obtain ⟨hi, rfl⟩ := List.getElem?_eq_some_iff.mp hs
    rw [run_concat, call_eq_set hs, hsame, List.set_getElem_self]
    exact ⟨(Scope.define_eq_error.mp he).2, rfl⟩
  · obtain ⟨front, t, back, rfl, hfront, hrefused⟩ := Scope.exists_refused he
    have hsame : s.carryOut (.all (front ++ t :: back)) = s.carryOut (.all front) :=
      (congrArg Prod.fst hfront).symm
    refine ⟨front, t, back, rfl, (Scope.define_eq_error.mp hrefused).2, congrArg Prod.snd hfront,
      ?_⟩
    rw [run_concat, run_concat, call_eq_set hs, call_eq_set hs, hsame]

end Registry

/-- A leaf with an id. -/
def namedLeaf (tag : Tag) (id : String) : DiagramTree Rat :=
  .node { tag, id := some id } []

/-- Calls by which an inner scope hides a template of the outer one, with definitions that stop
half-way and one that is refused. -/
def shadowingCalls : List (DefinitionCall Rat) :=
  [⟨1, .one "badge" (namedLeaf .circle "badge")⟩,
    ⟨0, .all [namedLeaf .rect "mark", namedLeaf .rect "badge", namedLeaf .circle "mark",
      namedLeaf .circle "frame"]⟩,
    ⟨1, .one "badge" (namedLeaf .rect "badge")⟩]

theorem shadowingCalls_contents :
    let r := (Registry.fresh [50, 50]).run shadowingCalls
    (r.startingAt 0).lookup "badge" = some (namedLeaf .rect "badge") ∧
    (r.startingAt 1).lookup "badge" = some (namedLeaf .circle "badge") ∧
    (r.startingAt 0).lookup "frame" = none ∧ (r.startingAt 0).names = ["badge", "mark"] ∧
    (Registry.fresh [50, 50]).run (shadowingCalls ++ [⟨0, .one "mark" (namedLeaf .circle "")⟩]) =
      r := by
  obtain ⟨hholds, hcalls⟩ := Registry.run_contents [50, 50] shadowingCalls
  obtain ⟨-, hrefused, -⟩ := hcalls 0 _ rfl
  have hnames : (((Registry.fresh [50, 50]).run shadowingCalls).startingAt 0).names =
      ["badge", "mark"] := rfl
  refine ⟨(hholds.found 0 _ _).mpr ⟨0, Nat.le_refl 0, rfl, by omega⟩,
    (hholds.found 1 _ _).mpr ⟨1, Nat.le_refl 1, rfl, by omega⟩, ?_, hnames,
    (hrefused "mark" _ _ rfl).2⟩
  by_contra hfound
  have hmem := (hholds.known 0 "frame").mpr hfound
  simp [hnames] at hmem

end GridDiagram
