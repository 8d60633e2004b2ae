import Mathlib.Data.List.Forall2

/-!
How a computation that may fail comes to a value or to an error: what that says of its steps.
-/

namespace List.Forall₂

variable {α β : Type} {R : α → β → Prop} {xs : List α} {ys : List β}

theorem exists_left (h : Forall₂ R xs ys) {y : β} (hy : y ∈ ys) : ∃ x ∈ xs, R x y := by
  induction h with
  | nil => simp at hy
  | @cons x y' xs ys hxy _ ih =>
    obtain rfl | hy := mem_cons.mp hy
    · exact ⟨x, mem_cons_self, hxy⟩
    · obtain ⟨x', hx', h⟩ := ih hy
      exact ⟨x', mem_cons_of_mem x hx', h⟩

theorem exists_right (h : Forall₂ R xs ys) {x : α} (hx : x ∈ xs) : ∃ y ∈ ys, R x y :=
  exists_left (R := fun y x => R x y) h.flip hx

theorem imp_of_mem {S : α → β → Prop} (h : Forall₂ R xs ys) (hRS : ∀ x ∈ xs, ∀ y, R x y → S x y) :
    Forall₂ S xs ys :=
  ((forall₂_and_left xs ys).mpr ⟨hRS, h⟩).imp fun _ y ⟨hx, hxy⟩ => hx y hxy

theorem trans_of {γ : Type} {S : β → γ → Prop} {T : α → γ → Prop} {zs : List γ}
    (hRS : ∀ x y z, R x y → S y z → T x z) (h : Forall₂ R xs ys) (h' : Forall₂ S ys zs) :
    Forall₂ T xs zs := by
  induction h generalizing zs with
  | nil =>
    cases h'
    exact .nil
  | cons hxy _ ih =>
    cases h' with
    | cons hyz hrest => exact .cons (hRS _ _ _ hxy hyz) (ih hrest)

theorem modify {R : α → α → Prop} {f : α → α} (hrefl : ∀ x, R x x) (hf : ∀ x, R x (f x))
    (xs : List α) (n : Nat) : Forall₂ R xs (xs.modify n f) := by
  induction xs generalizing n with
  | nil => simp
  | cons x xs ih =>
    cases n with
    | zero =>
      rw [modify_zero_cons]
      exact .cons (hf x) (forall₂_same.mpr fun y _ => hrefl y)
    | succ n =>
      rw [modify_succ_cons]
      exact .cons (hrefl x) (ih n)

theorem map_eq {γ : Type} {f : α → γ} {g : β → γ} (h : Forall₂ R xs ys)
    (hfg : ∀ x y, R x y → f x = g y) : xs.map f = ys.map g := by
  rw [← forall₂_eq_eq_eq, forall₂_map_left_iff, forall₂_map_right_iff]
  exact h.imp hfg

theorem filterMap_eq {γ : Type} {f : α → Option γ} {g : β → Option γ} (h : Forall₂ R xs ys)
    (hfg : ∀ x y, R x y → f x = g y) : xs.filterMap f = ys.filterMap g := by
  simpa [List.filterMap_map] using congrArg (List.filterMap id) (h.map_eq hfg)

theorem flatMap {γ : Type} {l : List γ} {f : γ → List α} {g : γ → List β}
    (h : ∀ z ∈ l, Forall₂ R (f z) (g z)) : Forall₂ R (l.flatMap f) (l.flatMap g) := by
  induction l with
  | nil => exact .nil
  | cons z l ih =>
    obtain ⟨hz, hl⟩ := forall_mem_cons.mp h
    exact rel_append hz (ih hl)

end List.Forall₂

theorem Option.mapM_eq_some {α β : Type} {f : α → Option β} {xs : List α} {ys : List β} :
    xs.mapM f = some ys ↔ List.Forall₂ (fun x y => f x = some y) xs ys := by
  induction xs generalizing ys with
  | nil => simp [eq_comm]
  | cons x xs ih =>
    simp only [List.mapM_cons, Option.bind_eq_bind, Option.bind_eq_some_iff, Option.pure_def,
      Option.some.injEq, List.forall₂_cons_left_iff, ih]
    constructor
    · rintro ⟨y, hy, ys, hys, rfl⟩
      exact ⟨y, ys, hy, hys, rfl⟩
    · rintro ⟨y, ys, hy, hys, rfl⟩
      exact ⟨y, hy, ys, hys, rfl⟩

namespace Except

variable {ε ε' α β : Type}

@[simp] theorem bind_eq_ok {x : Except ε α} {f : α → Except ε β} {b : β} :
    x >>= f = .ok b ↔ ∃ a, x = .ok a ∧ f a = .ok b := by
  cases x <;> simp [bind, Except.bind]

@[simp] theorem bind_eq_error {x : Except ε α} {f : α → Except ε β} {e : ε} :
    x >>= f = .error e ↔ x = .error e ∨ ∃ a, x = .ok a ∧ f a = .error e := by
  cases x <;> simp [bind, Except.bind]

@[simp] theorem pure_eq_ok {a b : α} : (pure a : Except ε α) = .ok b ↔ a = b := by
  simp [pure, Except.pure]

@[simp] theorem pure_eq_error {a : α} {e : ε} : (pure a : Except ε α) = .error e ↔ False := by
  simp [pure, Except.pure]

@[simp] theorem guard_eq_ok {c : Prop} [Decidable c] {e : ε} {f : α → Except ε β}
    {x : Except ε β} {b : β} :
    (if c then throw e >>= f else x) = .ok b ↔ ¬c ∧ x = .ok b := by
  split <;> simp_all

@[simp] theorem mapError_eq_ok {f : ε → ε'} {x : Except ε α} {a : α} :
    x.mapError f = .ok a ↔ x = .ok a := by
  cases x <;> simp [Except.mapError]

@[simp] theorem mapError_eq_error {f : ε → ε'} {x : Except ε α} {e : ε'} :
    x.mapError f = .error e ↔ ∃ e', x = .error e' ∧ f e' = e := by
  cases x <;> simp [Except.mapError]

@[simp] theorem map_eq_ok {f : α → β} {x : Except ε α} {b : β} :
    x.map f = .ok b ↔ ∃ a, x = .ok a ∧ f a = b := by
  cases x <;> simp [Except.map]

@[simp] theorem map_eq_error {f : α → β} {x : Except ε α} {e : ε} :
    x.map f = .error e ↔ x = .error e := by
  cases x <;> simp [Except.map]

@[simp] theorem toOption_eq_some {x : Except ε α} {a : α} : x.toOption = some a ↔ x = .ok a := by
  cases x <;> simp [Except.toOption]

theorem exists_of_isOk {x : Except ε α} (h : x.isOk = true) : ∃ a, x = .ok a := by
  cases x with
  | ok a => exact ⟨a, rfl⟩
  | error e => simp [Except.isOk, Except.toBool] at h

theorem exists_ok_of_any {x : Except ε α} {P : α → Prop} [DecidablePred P]
    (h : x.toOption.any (fun a => decide (P a)) = true) : ∃ a, x = .ok a ∧ P a := by
  cases x with
  | ok a => exact ⟨a, rfl, of_decide_eq_true h⟩
  | error e => cases h

theorem mapM_eq_ok {f : α → Except ε β} {xs : List α} {ys : List β} :
    xs.mapM f = .ok ys ↔ List.Forall₂ (fun x y => f x = .ok y) xs ys := by
  induction xs generalizing ys with
  | nil => simp [List.mapM_nil, pure, Except.pure, eq_comm]
  | cons x xs ih =>
    simp only [List.mapM_cons, bind_eq_ok, pure_eq_ok, List.forall₂_cons_left_iff, ih]
    constructor
    · rintro ⟨y, hy, ys, hys, rfl⟩
      exact ⟨y, ys, hy, hys, rfl⟩
    · rintro ⟨y, ys, hy, hys, rfl⟩
      exact ⟨y, hy, ys, hys, rfl⟩

theorem mapM_eq_error {f : α → Except ε β} {xs : List α} {e : ε} (h : xs.mapM f = .error e) :
    ∃ x ∈ xs, f x = .error e := by
  induction xs with
  | nil => simp at h
  | cons x xs ih =>
    simp only [List.mapM_cons, bind_eq_error, pure_eq_error, and_false, exists_false,
      or_false] at h
    obtain h | ⟨_, _, h⟩ := h
    · exact ⟨x, List.mem_cons_self, h⟩
    · obtain ⟨x', hx, h'⟩ := ih h
      exact ⟨x', List.mem_cons_of_mem x hx, h'⟩

theorem mapM_congr {f g : α → Except ε β} {xs : List α} (h : ∀ x ∈ xs, f x = g x) :
    xs.mapM f = xs.mapM g := by
  induction xs with
  | nil => rfl
  | cons x xs ih =>
    obtain ⟨hx, hxs⟩ := List.forall_mem_cons.mp h
    rw [List.mapM_cons, List.mapM_cons, hx, ih hxs]

/-- What holds at the start of a run over a list, and which every step keeps, holds at its end. -/
theorem foldlM_ok {P : β → Prop} {f : β → α → Except ε β} {xs : List α} {b r : β}
    (h : xs.foldlM f b = .ok r) (start : P b)
    (step : ∀ x ∈ xs, ∀ b b', P b → f b x = .ok b' → P b') : P r := by
  induction xs generalizing b with
  | nil => simp_all
  | cons x xs ih =>
    simp only [List.foldlM_cons, bind_eq_ok] at h
    obtain ⟨b', hb, h⟩ := h
    exact ih h (step x List.mem_cons_self b b' start hb)
      fun y hy => step y (List.mem_cons_of_mem x hy)

/-- A run over a list fails in one of its steps, up to which every step has kept `P`. -/
theorem foldlM_error {P : β → Prop} {f : β → α → Except ε β} {xs : List α} {b : β} {e : ε}
    (h : xs.foldlM f b = .error e) (start : P b)
    (step : ∀ x ∈ xs, ∀ b b', P b → f b x = .ok b' → P b') :
    ∃ x ∈ xs, ∃ b, P b ∧ f b x = .error e := by
  induction xs generalizing b with
  | nil => simp at h
  | cons x xs ih =>
    simp only [List.foldlM_cons, bind_eq_error] at h
    obtain h | ⟨b', hb, h⟩ := h
    · exact ⟨x, List.mem_cons_self, b, start, h⟩
    · obtain ⟨y, hy, hP⟩ := ih h (step x List.mem_cons_self b b' start hb)
        fun y hy => step y (List.mem_cons_of_mem x hy)
      exact ⟨y, List.mem_cons_of_mem x hy, hP⟩

/-- What holds of nothing at the start of a run over a list, and with every step goes on to hold of
one element more, holds of the whole list at its end. -/
theorem foldlM_read {P : List α → β → Prop} {f : β → α → Except ε β} {before xs : List α} {b r : β}
    (h : xs.foldlM f b = .ok r) (start : P before b)
    (step : ∀ before, ∀ x ∈ xs, ∀ b b', P before b → f b x = .ok b' → P (before ++ [x]) b') :
    P (before ++ xs) r := by
  induction xs generalizing before b with
  | nil => simp_all
  | cons x xs ih =>
    simp only [List.foldlM_cons, bind_eq_ok] at h
    obtain ⟨b', hb, h⟩ := h
    rw [List.append_cons]
    exact ih h (step before x List.mem_cons_self b b' start hb)
      fun before y hy => step before y (List.mem_cons_of_mem x hy)

/-- A run over a list whose steps keep `I`, go on in the order `R` and bring about `Q` for their
element, which later steps keep, has `Q` for all elements in the end. -/
theorem foldlM_forall {I : β → Prop} {R : β → β → Prop} {Q : α → β → Prop}
    {f : β → α → Except ε β} {xs : List α} {b r : β} (h : xs.foldlM f b = .ok r) (start : I b)
    (refl : ∀ b, R b b) (trans : ∀ {a b c}, R a b → R b c → R a c)
    (step : ∀ x ∈ xs, ∀ b b', I b → f b x = .ok b' → I b' ∧ R b b' ∧ Q x b')
    (keep : ∀ x ∈ xs, ∀ b b', Q x b → R b b' → Q x b') : I r ∧ R b r ∧ ∀ x ∈ xs, Q x r := by
  induction xs generalizing b with
  | nil =>
    obtain rfl := pure_eq_ok.mp h
    exact ⟨start, refl b, by simp⟩
  | cons x xs ih =>
    simp only [List.foldlM_cons, bind_eq_ok] at h
    obtain ⟨b', hb, h⟩ := h
    obtain ⟨hI, hR, hQ⟩ := step x List.mem_cons_self b b' start hb
    obtain ⟨hI', hR', hQ'⟩ := ih h hI (fun y hy => step y (List.mem_cons_of_mem x hy))
      fun y hy => keep y (List.mem_cons_of_mem x hy)
    refine ⟨hI', trans hR hR', List.forall_mem_cons.mpr ⟨?_, hQ'⟩⟩
    exact keep x List.mem_cons_self b' r hQ hR'

/-- A run whose every step puts behind a list what corresponds to its element does so for all
elements together. -/
theorem foldlM_append {γ : Type} {R : α → β → Prop} {f : List β → γ → Except ε (List β)}
    {g : γ → List α} {zs : List γ} {before rs : List β} (h : zs.foldlM f before = .ok rs)
    (step : ∀ z ∈ zs, ∀ before after, f before z = .ok after →
      ∃ added, after = before ++ added ∧ List.Forall₂ R (g z) added) :
    ∃ added, rs = before ++ added ∧ List.Forall₂ R (zs.flatMap g) added := by
  induction zs generalizing before with
  | nil =>
    obtain rfl := pure_eq_ok.mp h
    exact ⟨[], by simp, .nil⟩
  | cons z zs ih =>
    simp only [List.foldlM_cons, bind_eq_ok] at h
    obtain ⟨after, hafter, h⟩ := h
    obtain ⟨added, rfl, hadded⟩ := step z List.mem_cons_self _ _ hafter
    obtain ⟨rest, rfl, hrest⟩ := ih h fun y hy => step y (List.mem_cons_of_mem z hy)
    exact ⟨added ++ rest, List.append_assoc .., List.rel_append hadded hrest⟩

/-- A run whose steps all succeed, whatever was before them, succeeds. -/
theorem exists_foldlM {f : β → α → Except ε β} {xs : List α}
    (step : ∀ x ∈ xs, ∀ b, ∃ b', f b x = .ok b') (b : β) : ∃ r, xs.foldlM f b = .ok r := by
  induction xs generalizing b with
  | nil => exact ⟨b, rfl⟩
  | cons x xs ih =>
    obtain ⟨b', hb⟩ := step x List.mem_cons_self b
    simp only [List.foldlM_cons, bind_eq_ok]
    obtain ⟨r, hr⟩ := ih (fun y hy => step y (List.mem_cons_of_mem x hy)) b'
    exact ⟨r, b', hb, hr⟩

/-! ### Errors that do not arise -/

/-- A computation does not fail with an error that is `bad`. -/
def Avoids (bad : ε → Prop) (x : Except ε α) : Prop :=
  ∀ e, x = .error e → ¬bad e

variable {bad : ε → Prop} {x : Except ε α}

theorem avoids_ok (a : α) : (.ok a : Except ε α).Avoids bad :=
  nofun

theorem avoids_error {e : ε} (h : ¬bad e) : (.error e : Except ε α).Avoids bad :=
  fun _ h' => Except.error.inj h' ▸ h

theorem avoids_pure (a : α) : (pure a : Except ε α).Avoids bad :=
  nofun

theorem Avoids.bind {f : α → Except ε β} (hx : x.Avoids bad)
    (hf : ∀ a, x = .ok a → (f a).Avoids bad) : (x >>= f).Avoids bad := by
  intro e h
  rw [bind_eq_error] at h
  obtain h | ⟨a, ha, h⟩ := h
  · exact hx e h
  · exact hf a ha e h

theorem Avoids.map (hx : x.Avoids bad) (f : α → β) : (x.map f).Avoids bad :=
  fun e h => hx e (map_eq_error.mp h)

theorem Avoids.mapError {bad' : ε' → Prop} {f : ε → ε'} (hx : x.Avoids bad)
    (hf : ∀ e, bad' (f e) → bad e) : (x.mapError f).Avoids bad' := by
  intro e h
  obtain ⟨e', he, rfl⟩ := mapError_eq_error.mp h
  exact fun hbad => hx e' he (hf e' hbad)

theorem Avoids.mapM {f : α → Except ε β} {xs : List α} (hf : ∀ x ∈ xs, (f x).Avoids bad) :
    (xs.mapM f).Avoids bad := by
  intro e h
  obtain ⟨x, hx, h⟩ := mapM_eq_error h
  exact hf x hx e h

theorem Avoids.foldlM {f : β → α → Except ε β} {xs : List α}
    (hf : ∀ x ∈ xs, ∀ b, (f b x).Avoids bad) (b : β) : (xs.foldlM f b).Avoids bad := by
  intro e h
  obtain ⟨x, hx, b, -, h⟩ := foldlM_error h trivial fun _ _ _ _ _ _ => trivial
  exact hf x hx b e h

/-- An error of which nothing is said is made one that is not `bad`. -/
theorem avoids_mapError {bad : ε' → Prop} {f : ε → ε'} (hf : ∀ e, ¬bad (f e)) (x : Except ε α) :
    (x.mapError f).Avoids bad := by
  intro e h
  obtain ⟨e', -, rfl⟩ := mapError_eq_error.mp h
  exact hf e'

/-! ### Values of a kind -/

/-- The value of a computation, where it comes to one, satisfies `P`. -/
def Yields (P : α → Prop) (x : Except ε α) : Prop :=
  ∀ a, x = .ok a → P a

variable {P : α → Prop} {Q : β → Prop}

theorem Yields.bind {f : α → Except ε β} (hx : x.Yields P) (hf : ∀ a, P a → (f a).Yields Q) :
    (x >>= f).Yields Q := by
  intro b h
  obtain ⟨a, ha, h⟩ := bind_eq_ok.mp h
  exact hf a (hx a ha) b h

theorem Yields.map {f : α → β} (hx : x.Yields P) (hf : ∀ a, P a → Q (f a)) :
    (x.map f).Yields Q := by
  intro b h
  obtain ⟨a, ha, rfl⟩ := map_eq_ok.mp h
  exact hf a (hx a ha)

theorem Yields.mapError (hx : x.Yields P) (f : ε → ε') : (x.mapError f).Yields P :=
  fun a h => hx a (mapError_eq_ok.mp h)

theorem Yields.mapM {f : α → Except ε β} {xs : List α} (hf : ∀ x ∈ xs, (f x).Yields Q) :
    (xs.mapM f).Yields fun ys => ∀ y ∈ ys, Q y := by
  intro ys h y hy
  obtain ⟨x, hx, hxy⟩ := (mapM_eq_ok.mp h).exists_left hy
  exact hf x hx y hxy

end Except
