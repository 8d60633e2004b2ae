import GridDiagram.Proofs.Template.Reference

/-!
When an expansion succeeds and why it fails. The names around a use never repeat, and the depth that
is left is what the bound leaves beside them, so both come to an end together with the chains of
references.
-/

namespace GridDiagram

variable {α : Type} [Scalar α]

/-- The templates of a registry, of all scopes, are well-formed within their vocabulary. -/
def Registry.WellFormed (r : Registry α) : Prop :=
  ∀ scope ∈ r, ∀ p ∈ scope.templates, p.2.WellFormed ∧ p.2.InVocabulary

omit [Scalar α] in
theorem Scope.mem_of_lookup_eq_some {s : Scope α} {n : String} {t : DiagramTree α}
    (h : s.lookup n = some t) : (n, t) ∈ s.templates := by
  rw [Scope.lookup, List.lookup_eq_some_iff] at h
  obtain ⟨before, behind, htemplates, -⟩ := h
  simp [htemplates]

namespace Registry

variable {r : Registry α} {t s : DiagramTree α} {u : Element α}

omit [Scalar α] in
theorem mem_of_lookup_eq_some {n : String} (h : r.lookup n = some s) :
    ∃ scope ∈ r, (n, s) ∈ scope.templates := by
  induction r with
  | nil => simp [lookup] at h
  | cons scope outer ih =>
    rw [lookup] at h
    split at h
    · rename_i t ht
      obtain rfl := Option.some.inj h
      exact ⟨scope, List.mem_cons_self, Scope.mem_of_lookup_eq_some ht⟩
    · obtain ⟨scope', hscope, h⟩ := ih h
      exact ⟨scope', List.mem_cons_of_mem _ hscope, h⟩

theorem WellFormed.lookup (hr : r.WellFormed) {n : String} (h : r.lookup n = some s) :
    s.WellFormed ∧ s.InVocabulary := by
  obtain ⟨scope, hscope, h⟩ := mem_of_lookup_eq_some h
  exact hr scope hscope _ h

/-! ### The uses that an expansion comes to -/

/-- A use that refers to a template, within its vocabulary. -/
structure SoundUse (u : Element α) : Prop where
  kind : u.kind = .use
  wellFormed : u.WellFormed
  inVocabulary : u.InVocabulary

theorem SoundUse.exists_reference (hu : SoundUse u) : ∃ n, u.reference? = some n :=
  Option.isSome_iff_exists.mp (hu.wellFormed.reference hu.kind)

theorem SoundUse.of_mem_uses (ht : t.WellFormed) (hv : t.InVocabulary) (hu : u ∈ t.uses) :
    SoundUse u :=
  have ⟨hmem, hkind⟩ := DiagramTree.mem_uses.mp hu
  ⟨hkind, ht.of_mem_preorder hmem, hv u hmem⟩

theorem SoundUse.of_mem_uses_instantiatedBy {v : Element α} (hu : SoundUse u)
    (hs : s.WellFormed) (hvs : s.InVocabulary) (hv : v ∈ (s.instantiatedBy u).uses) :
    SoundUse v :=
  have ⟨hmem, hkind⟩ := DiagramTree.mem_uses.mp hv
  ⟨hkind, (hs.instantiatedBy hu.wellFormed).of_mem_preorder hmem,
    hvs.of_mem_uses_instantiatedBy hu.inVocabulary hu.kind hv⟩

theorem Instantiated.soundUse (hr : r.WellFormed) (ht : t.WellFormed) (hv : t.InVocabulary)
    (h : r.Instantiated t u) : SoundUse u := by
  induction h with
  | direct hu => exact .of_mem_uses ht hv hu
  | nested _ _ hs hv ih =>
    obtain ⟨hwell, hvocabulary⟩ := hr.lookup hs
    exact ih.of_mem_uses_instantiatedBy hwell hvocabulary hv

/-! ### One instance -/

omit [Scalar α] in
theorem checkVocabulary_eq_ok {e : Element α} {x : Unit} :
    e.checkVocabulary = .ok x ↔ e.InVocabulary := by
  unfold Element.checkVocabulary
  split
  · rename_i a ha
    have hmem := List.mem_of_find?_eq_some ha
    have hallows := List.find?_some ha
    simp only [Properties.attributes, List.mem_map] at hmem
    obtain ⟨p, hp, rfl⟩ := hmem
    simp only [reduceCtorEq, false_iff]
    intro h
    simp [h p hp] at hallows
  · rename_i h
    simp only [true_iff]
    intro p hp
    simpa using List.find?_eq_none.mp h p.1 (List.mem_map_of_mem hp)

omit [Scalar α] in
theorem checkVocabulary_eq_error {e : Element α} {error : TemplateError}
    (h : e.checkVocabulary = .error error) :
    ¬e.InVocabulary ∧ ∃ cause, error = .structural cause := by
  constructor
  · intro hv
    rw [checkVocabulary_eq_ok.mpr hv] at h
    · simp at h
    · exact ()
  · unfold Element.checkVocabulary at h
    split at h
    · exact ⟨_, (Except.error.inj h).symm⟩
    · simp at h

omit [Scalar α] in
/-- Where an instance is made, the use refers to a template, which is not one of those around it;
depth is left; the uses inside the instance have theirs; and the root keeps to its vocabulary. -/
theorem instantiate_ok {depth : Nat} {chain : List String} {x : DiagramTree α}
    (h : r.instantiate depth chain u = .ok x) :
    ∃ n d s, u.reference? = some n ∧ n ∉ chain ∧ depth = d + 1 ∧ r.lookup n = some s ∧
      (s.instantiatedBy u).replaceUses (r.instantiate d (chain ++ [n])) = .ok x ∧
      x.value.InVocabulary := by
  rw [instantiate.eq_def] at h
  split at h
  · simp at h
  · rename_i n hn
    split at h
    · simp at h
    · rename_i hchain
      split at h
      · simp at h
      · rename_i d
        split at h
        · simp at h
        · rename_i s hs
          simp only [Except.bind_eq_ok, Except.pure_eq_ok, checkVocabulary_eq_ok,
            exists_and_left, exists_const] at h
          obtain ⟨y, hy, hvocabulary, rfl⟩ := h
          exact ⟨n, d, s, hn, by simpa using hchain, rfl, hs, hy, hvocabulary⟩

/-- Why an instance of the template `n` is not made at a use: the template is around it already, no
depth is left, there is no such template, a use inside the instance has none, or the root does not
keep to its vocabulary. -/
inductive Failure (r : Registry α) (depth : Nat) (chain : List String) (u : Element α)
    (n : String) : TemplateError → Prop where
  | cycle (h : n ∈ chain) : Failure r depth chain u n (.cycle (chain ++ [n]) u.label)
  | tooDeep (h : depth = 0) : Failure r depth chain u n (.tooDeep r.maxDepth u.label)
  | unresolved (h : r.lookup n = none) : Failure r depth chain u n (.unresolved n u.label)
  | inside {d : Nat} {s : DiagramTree α} {v : Element α} {error : TemplateError}
      (hd : depth = d + 1) (hs : r.lookup n = some s) (hv : v ∈ (s.instantiatedBy u).uses)
      (h : r.instantiate d (chain ++ [n]) v = .error error) : Failure r depth chain u n error
  | structural {d : Nat} {s x : DiagramTree α} {cause : StructuralError} (hd : depth = d + 1)
      (hs : r.lookup n = some s)
      (hx : (s.instantiatedBy u).replaceUses (r.instantiate d (chain ++ [n])) = .ok x)
      (hvocabulary : ¬x.value.InVocabulary) : Failure r depth chain u n (.structural cause)

omit [Scalar α] in
theorem instantiate_error {depth : Nat} {chain : List String} {n : String} {error : TemplateError}
    (hn : u.reference? = some n) (h : r.instantiate depth chain u = .error error) :
    Failure r depth chain u n error := by
  rw [instantiate.eq_def, show u.attributes.get? .ref = some n from hn] at h
  dsimp only at h
  split at h
  · rename_i hchain
    obtain rfl := Except.error.inj h
    exact .cycle (by simpa using hchain)
  · split at h
    · obtain rfl := Except.error.inj h
      exact .tooDeep rfl
    · rename_i d
      split at h
      · rename_i hnone
        obtain rfl := Except.error.inj h
        exact .unresolved hnone
      · rename_i s hs
        simp only [Except.bind_eq_error, Except.pure_eq_error, and_false, exists_false,
          or_false] at h
        obtain h | ⟨x, hx, h⟩ := h
        · obtain ⟨v, hv, h⟩ := DiagramTree.replaceUses_error h
          exact .inside rfl hs hv h
        · obtain ⟨hvocabulary, cause, rfl⟩ := checkVocabulary_eq_error h
          exact .structural rfl hs hx hvocabulary

omit [Scalar α] in
/-- The root of an instance either stays or is itself the root of an instance, so that the check of
the root that comes of it says the same as one of the merged attributes. -/
theorem inVocabulary_of_replaceUses {d : Nat} {chain : List String} {i x : DiagramTree α}
    (hx : i.replaceUses (r.instantiate d chain) = .ok x) (huse : i.value.kind = .use →
      i.value.InVocabulary) :
    x.value.InVocabulary ↔ i.value.InVocabulary := by
  by_cases hkind : i.value.kind = .use
  · obtain ⟨e, ts⟩ := i
    rw [Tree.value_node] at hkind
    rw [DiagramTree.replaceUses_of_use hkind] at hx
    obtain ⟨_, _, _, -, -, -, -, -, hvocabulary⟩ := instantiate_ok hx
    exact iff_of_true hvocabulary (huse hkind)
  · rw [DiagramTree.replaceUses_value hx hkind]

theorem SoundUse.root_inVocabulary (hu : SoundUse u) (hs : s.WellFormed) (hv : s.InVocabulary)
    (hkind : (s.instantiatedBy u).value.kind = .use) :
    (s.instantiatedBy u).value.InVocabulary := by
  refine (hu.of_mem_uses_instantiatedBy hs hv ?_).inVocabulary
  exact DiagramTree.mem_uses.mpr ⟨Tree.value_mem_preorder _, hkind⟩

/-! ### Why an expansion fails -/

/-- What a failing expansion says of the templates. -/
inductive Blames (r : Registry α) (t : DiagramTree α) : TemplateError → Prop where
  | cycle {chain : List String} {path : String} (h : ¬r.Acyclic t) : Blames r t (.cycle chain path)
  | tooDeep {depth : Int} {path : String} (h : ¬r.Shallow t) : Blames r t (.tooDeep depth path)
  | unresolved {name path : String} (h : ¬r.Defined t) : Blames r t (.unresolved name path)
  | structural {cause : StructuralError} (h : ¬r.KeepsVocabulary t) :
      Blames r t (.structural cause)

/-- The names around a use lead to it from the tree, and leave the depth that is left. -/
structure Around (r : Registry α) (t : DiagramTree α) (depth : Nat) (chain : List String)
    (u : Element α) : Prop where
  instantiated : r.Instantiated t u
  nested : ∀ n, u.reference? = some n → r.Nested t (chain ++ [n])
  depth : depth + chain.length = r.maxDepth.toNat

omit [Scalar α] in
theorem Around.direct (hu : u ∈ t.uses) : r.Around t r.maxDepth.toNat [] u :=
  ⟨.direct hu, fun _ hn => .singleton (DiagramTree.mem_references.mpr ⟨u, hu, hn⟩), by simp⟩

omit [Scalar α] in
theorem Around.inside {d : Nat} {chain : List String} {n : String} {v : Element α}
    (h : r.Around t (d + 1) chain u) (hn : u.reference? = some n) (hs : r.lookup n = some s)
    (hv : v ∈ (s.instantiatedBy u).uses) : r.Around t d (chain ++ [n]) v := by
  refine ⟨.nested h.instantiated hn hs hv, fun m hm => ?_, ?_⟩
  · have hmem := DiagramTree.mem_references.mpr ⟨v, hv, hm⟩
    exact (h.nested n hn).concat ⟨s, hs, DiagramTree.mem_references_instantiatedBy.mp hmem⟩
  · have hdepth := h.depth
    simp only [List.length_append, List.length_singleton]
    omega

theorem Around.blames {depth : Nat} {chain : List String} {error : TemplateError}
    (hr : r.WellFormed) (ht : t.WellFormed) (hv : t.InVocabulary)
    (haround : r.Around t depth chain u) (h : r.instantiate depth chain u = .error error) :
    r.Blames t error := by
  induction depth using Nat.strong_induction_on generalizing chain u error with
  | _ depth ih =>
    have hu : SoundUse u := haround.instantiated.soundUse hr ht hv
    obtain ⟨n, hn⟩ := hu.exists_reference
    have hnested := haround.nested n hn
    have hdepth := haround.depth
    cases instantiate_error hn h with
    | cycle hchain =>
      exact .cycle fun hacyclic => hacyclic n hnested.reaches (hnested.transGen hchain)
    | tooDeep hzero =>
      refine .tooDeep fun hshallow => ?_
      have hlength := hshallow _ (by simp) hnested
      simp only [List.length_append, List.length_singleton] at hlength
      omega
    | unresolved hnone =>
      exact .unresolved fun hdefined => by simpa [hnone] using hdefined n hnested.reaches
    | inside hd hs hv herror =>
      subst hd
      exact ih _ (Nat.lt_succ_self _) (haround.inside hn hs hv) herror
    | structural hd hs hx hvocabulary =>
      refine .structural fun hkeeps => hvocabulary ?_
      have hroot := hkeeps u n _ haround.instantiated hn hs
      exact (inVocabulary_of_replaceUses hx fun _ => hroot).mpr hroot

theorem blames_of_expand (hr : r.WellFormed) (ht : t.WellFormed) (hv : t.InVocabulary)
    {error : TemplateError} (h : r.expand t = .error error) : r.Blames t error := by
  obtain ⟨u, hu, h⟩ := DiagramTree.replaceUses_error h
  exact (Around.direct hu).blames hr ht hv h

/-! ### What a successful expansion needs -/

/-- An instance is made at a use that the names of `chain` lead to. -/
def Succeeds (r : Registry α) (t : DiagramTree α) (chain : List String) (u : Element α) : Prop :=
  ∃ depth x, r.Around t depth chain u ∧ r.instantiate depth chain u = .ok x

/-- Where an expansion succeeds, so does it at every use of the tree. -/
theorem Succeeds.direct (ht : t.WellFormed) {x : DiagramTree α} (h : r.expand t = .ok x)
    (hu : u ∈ t.uses) : r.Succeeds t [] u :=
  have ⟨y, hy⟩ := DiagramTree.replaceUses_ok ht h u hu
  ⟨_, y, .direct hu, hy⟩

/-- Where an instance is made, one is at every use inside it. -/
theorem Succeeds.inside (hr : r.WellFormed) (hu : u.WellFormed) {chain : List String} {n : String}
    {v : Element α} (h : r.Succeeds t chain u) (hn : u.reference? = some n)
    (hs : r.lookup n = some s) (hv : v ∈ (s.instantiatedBy u).uses) :
    r.Succeeds t (chain ++ [n]) v := by
  obtain ⟨depth, x, haround, h⟩ := h
  obtain ⟨n', d, s', hn', -, rfl, hs', hx, -⟩ := instantiate_ok h
  obtain rfl := Option.some.inj (hn.symm.trans hn')
  obtain rfl := Option.some.inj (hs.symm.trans hs')
  obtain ⟨y, hy⟩ := DiagramTree.replaceUses_ok ((hr.lookup hs).1.instantiatedBy hu) hx v hv
  exact ⟨d, y, haround.inside hn hs hv, hy⟩

variable {x : DiagramTree α}

theorem Instantiated.succeeds (hr : r.WellFormed) (ht : t.WellFormed) (hv : t.InVocabulary)
    (h : r.expand t = .ok x) (hu : r.Instantiated t u) : ∃ chain, r.Succeeds t chain u := by
  induction hu with
  | direct hu => exact ⟨[], .direct ht h hu⟩
  | nested hu hn hs hmem ih =>
    obtain ⟨chain, ih⟩ := ih
    exact ⟨_, ih.inside hr (hu.soundUse hr ht hv).wellFormed hn hs hmem⟩

/-- Every chain of references is that around some use, at which an instance is made. -/
theorem Nested.succeeds (hr : r.WellFormed) (ht : t.WellFormed) (hv : t.InVocabulary)
    (h : r.expand t = .ok x) {names : List String} {n : String}
    (hnested : r.Nested t (names ++ [n])) :
    ∃ u, u.reference? = some n ∧ r.Succeeds t names u := by
  induction names using List.reverseRecOn generalizing n with
  | nil =>
    obtain ⟨u, hu, hn⟩ := DiagramTree.mem_references.mp (hnested.head n rfl)
    exact ⟨u, hn, .direct ht h hu⟩
  | append_singleton names m ih =>
    obtain ⟨hm, s, hs, hmem⟩ := hnested.of_concat
    obtain ⟨u, hu, hsucceeds⟩ := ih hm
    have hwell : u.WellFormed := by
      obtain ⟨_, _, haround, -⟩ := hsucceeds
      exact (haround.instantiated.soundUse hr ht hv).wellFormed
    have hmem := DiagramTree.mem_references_instantiatedBy (u := u).mpr hmem
    obtain ⟨v, hv, hn⟩ := DiagramTree.mem_references.mp hmem
    exact ⟨v, hn, hsucceeds.inside hr hwell hu hs hv⟩

theorem defined_of_expand (hr : r.WellFormed) (ht : t.WellFormed) (hv : t.InVocabulary)
    (h : r.expand t = .ok x) : r.Defined t := by
  intro n hn
  obtain ⟨names, hnested⟩ := hn.nested
  obtain ⟨u, hu, _, _, _, hok⟩ := hnested.succeeds hr ht hv h
  obtain ⟨n', _, s, hn', -, -, hs, -⟩ := instantiate_ok hok
  obtain rfl := Option.some.inj (hu.symm.trans hn')
  simp [hs]

theorem acyclic_of_expand (hr : r.WellFormed) (ht : t.WellFormed) (hv : t.InVocabulary)
    (h : r.expand t = .ok x) : r.Acyclic t := by
  intro n hn hcycle
  obtain ⟨names, hnested⟩ := hn.nested
  obtain ⟨between, hnested⟩ := hnested.extend hcycle
  obtain ⟨u, hu, _, _, _, hok⟩ := hnested.succeeds hr ht hv h
  obtain ⟨n', _, _, hn', hchain, -⟩ := instantiate_ok hok
  obtain rfl := Option.some.inj (hu.symm.trans hn')
  simp at hchain

theorem shallow_of_expand (hr : r.WellFormed) (ht : t.WellFormed) (hv : t.InVocabulary)
    (h : r.expand t = .ok x) : r.Shallow t := by
  intro names hne hnested
  obtain ⟨names, n, rfl⟩ : ∃ l n, names = l ++ [n] :=
    ⟨_, _, (List.dropLast_concat_getLast hne).symm⟩
  obtain ⟨u, -, _, _, haround, hok⟩ := hnested.succeeds hr ht hv h
  obtain ⟨_, _, _, -, -, rfl, -⟩ := instantiate_ok hok
  have hdepth := haround.depth
  simp only [List.length_append, List.length_singleton]
  omega

theorem keepsVocabulary_of_expand (hr : r.WellFormed) (ht : t.WellFormed) (hv : t.InVocabulary)
    (h : r.expand t = .ok x) : r.KeepsVocabulary t := by
  intro u n s hu hn hs
  obtain ⟨_, _, _, _, hok⟩ := hu.succeeds hr ht hv h
  obtain ⟨n', _, s', hn', -, -, hs', hx, hvocabulary⟩ := instantiate_ok hok
  obtain rfl := Option.some.inj (hn.symm.trans hn')
  obtain rfl := Option.some.inj (hs.symm.trans hs')
  have hsound := hu.soundUse hr ht hv
  obtain ⟨hwell, hvs⟩ := hr.lookup hs
  exact (inVocabulary_of_replaceUses hx (hsound.root_inVocabulary hwell hvs)).mp hvocabulary

/-! ### The recursion by itself -/

omit [Scalar α] in
/-- One step of an expansion that keeps no account of depth: it compares the number of names around
a use with the bound, and leaves the uses inside the instance to `f`. -/
def unfolding (r : Registry α) (f : List String → Element α → Except TemplateError (DiagramTree α))
    (chain : List String) (u : Element α) : Except TemplateError (DiagramTree α) :=
  match u.reference? with
  | none => .error (.noReference u.label)
  | some name =>
    if chain.contains name then .error (.cycle (chain ++ [name]) u.label)
    else if r.maxDepth ≤ chain.length then .error (.tooDeep r.maxDepth u.label)
    else
      match r.lookup name with
      | none => .error (.unresolved name u.label)
      | some template => do
        let expanded ← (template.instantiatedBy u).replaceUses (f (chain ++ [name]))
        expanded.value.checkVocabulary
        return expanded

omit [Scalar α] in
/-- With the depth that the bound leaves beside the names around it, an instance is what one step
makes of the instances inside it. -/
theorem instantiate_eq_unfolding (chain : List String) :
    r.instantiate (r.maxDepth.toNat - chain.length) chain u =
      r.unfolding (fun chain => r.instantiate (r.maxDepth.toNat - chain.length) chain) chain u := by
  rw [instantiate.eq_def, unfolding, Element.reference?]
  cases u.attributes.get? .ref with
  | none => rfl
  | some name =>
    dsimp only
    split
    · rfl
    · rename_i hchain
      by_cases hbound : r.maxDepth ≤ chain.length
      · rw [if_pos hbound, show r.maxDepth.toNat - chain.length = 0 by omega]
      · obtain ⟨d, hd⟩ : ∃ d, r.maxDepth.toNat - chain.length = d + 1 :=
          ⟨r.maxDepth.toNat - chain.length - 1, by omega⟩
        have hinside : r.maxDepth.toNat - (chain ++ [name]).length = d := by
          simp only [List.length_append, List.length_singleton]
          omega
        rw [if_neg hbound, hd]
        cases r.lookup name with
        | none => rfl
        | some template => simp only [hinside]

omit [Scalar α] in
/-- The steps of an expansion come to an end: they determine every instance. -/
theorem eq_instantiate_of_unfolding
    {f : List String → Element α → Except TemplateError (DiagramTree α)}
    (hf : ∀ chain u, f chain u = r.unfolding f chain u) (chain : List String) :
    f chain = r.instantiate (r.maxDepth.toNat - chain.length) chain := by
  induction hdepth : r.maxDepth.toNat - chain.length using Nat.strong_induction_on
    generalizing chain with
  | _ depth ih =>
    funext u
    rw [hf, ← hdepth, instantiate_eq_unfolding, unfolding, unfolding]
    split
    · rfl
    · rename_i name _
      split
      · rfl
      · split
        · rfl
        · rename_i hbound
          have hless : r.maxDepth.toNat - (chain ++ [name]).length < depth := by
            simp only [List.length_append, List.length_singleton]
            omega
          rw [ih _ hless _ rfl]

end Registry

/-- A tree that markup was read to, on its own or as the root of a document. -/
def DiagramTree.Read (t : DiagramTree α) : Prop :=
  (∃ m, DiagramTree.ofMarkup m = .ok t) ∨ ∃ m d, Document.ofMarkup m = .ok d ∧ d.root = t

/-- Every template of a registry was read from markup. -/
def Registry.Read (r : Registry α) : Prop :=
  ∀ scope ∈ r, ∀ p ∈ scope.templates, ∃ m, DiagramTree.ofMarkup m = .ok p.2

theorem DiagramTree.Read.wellFormed {t : DiagramTree α} (h : t.Read) :
    t.WellFormed ∧ t.InVocabulary := by
  obtain ⟨m, hm⟩ | ⟨m, d, hd, rfl⟩ := h
  · exact ofMarkup_wellFormed hm
  · have hroot := (Document.ofMarkup_wellFormed hd).root
    exact ⟨hroot.wellFormed, hroot.inVocabulary⟩

theorem Registry.Read.wellFormed {r : Registry α} (h : r.Read) : r.WellFormed := by
  intro scope hscope p hp
  obtain ⟨m, hm⟩ := h scope hscope p hp
  exact DiagramTree.ofMarkup_wellFormed hm

/-- The steps of an expansion determine it. It succeeds exactly where every name that is reached has
a template, no template that is reached reaches itself, no chain of references is longer than the
bound, and every instance keeps to the vocabulary of its root; and its error says which of these
fails. -/
theorem Registry.expand_outcome (r : Registry α) (t : DiagramTree α) (hr : r.Read) (ht : t.Read) :
    (∃! f, (∀ chain u, f chain u = r.unfolding f chain u)) ∧
    (∀ f, (∀ chain u, f chain u = r.unfolding f chain u) → r.expand t = t.replaceUses (f [])) ∧
    ((∃ x, r.expand t = .ok x) ↔
      r.Defined t ∧ r.Acyclic t ∧ r.Shallow t ∧ r.KeepsVocabulary t) ∧
    ∀ error, r.expand t = .error error → r.Blames t error := by
  have hr := hr.wellFormed
  obtain ⟨hwell, hvocabulary⟩ := ht.wellFormed
  refine ⟨⟨_, fun chain u => instantiate_eq_unfolding chain, fun f hf => ?_⟩, ?_, ⟨?_, ?_⟩, ?_⟩
  · exact funext (eq_instantiate_of_unfolding hf)
  · intro f hf
    rw [eq_instantiate_of_unfolding hf]
    rfl
  · rintro ⟨x, hx⟩
    exact ⟨defined_of_expand hr hwell hvocabulary hx, acyclic_of_expand hr hwell hvocabulary hx,
      shallow_of_expand hr hwell hvocabulary hx, keepsVocabulary_of_expand hr hwell hvocabulary hx⟩
  · rintro ⟨hdefined, hacyclic, hshallow, hkeeps⟩
    cases hx : r.expand t with
    | ok x => exact ⟨x, rfl⟩
    | error e => cases blames_of_expand hr hwell hvocabulary hx <;> contradiction
  · exact fun error => blames_of_expand hr hwell hvocabulary

def cardUse : DiagramTree Rat :=
  .node { tag := .use, attributes := [⟨.ref, "card"⟩] } []

/-- A registry whose only template, `card`, is a rectangle. -/
def cardTemplates : Registry Rat :=
  [{ templates := [("card", .node { tag := .rect, id := some "card" } [])] }]

theorem cardTemplates_expand_outcome :
    cardTemplates.Read ∧ cardUse.Read ∧ cardTemplates.Defined cardUse ∧
      cardTemplates.Acyclic cardUse ∧ cardTemplates.Shallow cardUse ∧
      cardTemplates.KeepsVocabulary cardUse := by
  have hr : cardTemplates.Read := by
    intro scope hscope p hp
    obtain rfl := List.mem_singleton.mp hscope
    obtain rfl := List.mem_singleton.mp hp
    exact ⟨.node { tag := "rect", id := some "card" } [], rfl⟩
  have ht : cardUse.Read :=
    .inl ⟨.node { tag := "use", attributes := [("ref", "card")] } [], rfl⟩
  exact ⟨hr, ht, (Registry.expand_outcome cardTemplates cardUse hr ht).2.2.1.mp ⟨_, rfl⟩⟩

end GridDiagram
