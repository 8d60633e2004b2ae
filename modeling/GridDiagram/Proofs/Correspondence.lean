import GridDiagram.Proofs.Outcome
import GridDiagram.Proofs.Tree

/-!
Two computations side by side, and two trees of one shape: what one relation between the parts says
of the whole. A second run that keeps up with the first step by step ends where it does.
-/

theorem List.Forall₂.filter {α β : Type} {R : α → β → Prop} {p : α → Bool} {q : β → Bool}
    {xs : List α} {ys : List β} (h : List.Forall₂ R xs ys) (hpq : ∀ {a b}, R a b → p a = q b) :
    List.Forall₂ R (xs.filter p) (ys.filter q) :=
  List.rel_filter (fun _ _ hab => iff_of_eq (congrArg (· = true) (hpq hab))) h

/-- Related lists stay related when they are sorted alike: the list of their pairs, sorted by either
half, is one list. -/
theorem List.Forall₂.mergeSort {α β : Type} {R : α → β → Prop} {le : α → α → Bool}
    {le' : β → β → Bool} {xs : List α} {ys : List β} (h : List.Forall₂ R xs ys)
    (hle : ∀ {a b c d}, R a b → R c d → le a c = le' b d) :
    List.Forall₂ R (xs.mergeSort le) (ys.mergeSort le') := by
  let pairs := xs.zip ys
  have hpairs : ∀ p ∈ pairs, R p.1 p.2 := fun p hp => (List.forall₂_iff_zip.mp h).2 hp
  have hfst : pairs.map Prod.fst = xs := List.map_fst_zip (Nat.le_of_eq h.length_eq)
  have hsnd : pairs.map Prod.snd = ys := List.map_snd_zip (Nat.le_of_eq h.length_eq.symm)
  have hleft : (pairs.mergeSort fun p q => le p.1 q.1).map Prod.fst = xs.mergeSort le := by
    rw [List.map_mergeSort (f := Prod.fst) (s := le) fun _ _ _ _ => rfl, hfst]
  have hright : (pairs.mergeSort fun p q => le p.1 q.1).map Prod.snd = ys.mergeSort le' := by
    rw [List.map_mergeSort (s := le') fun p hp q hq => hle (hpairs p hp) (hpairs q hq), hsnd]
  rw [← hleft, ← hright, List.forall₂_map_left_iff, List.forall₂_map_right_iff, List.forall₂_same]
  intro p hp
  exact hpairs p (List.mem_mergeSort.mp hp)

theorem List.Forall₂.foldl_eq {α β γ : Type} {R : α → β → Prop} {f : γ → α → γ} {g : γ → β → γ}
    {xs : List α} {ys : List β} (h : List.Forall₂ R xs ys)
    (step : ∀ c a b, R a b → f c a = g c b) (c : γ) : xs.foldl f c = ys.foldl g c := by
  induction h generalizing c with
  | nil => rfl
  | cons hab _ ih => rw [List.foldl_cons, List.foldl_cons, step _ _ _ hab, ih]

theorem List.forall₂_mapIdx {α β : Type} {R : α → β → Prop} {xs : List α} {f : Nat → α → β}
    (h : ∀ i x, x ∈ xs → R x (f i x)) : List.Forall₂ R xs (xs.mapIdx f) := by
  induction xs generalizing f with
  | nil => exact .nil
  | cons x xs ih =>
    rw [List.mapIdx_cons]
    exact .cons (h 0 x List.mem_cons_self) (ih fun i y hy => h _ y (List.mem_cons_of_mem x hy))

namespace Except

variable {ε ε' ε₁ ε₁' α β γ δ : Type}

/-- Two computations come to values that `R` relates, or both fail, with errors that `E` relates. -/
def Related (E : ε → ε' → Prop) (R : α → β → Prop) : Except ε α → Except ε' β → Prop
  | .ok a, .ok b => R a b
  | .error e, .error e' => E e e'
  | _, _ => False

variable {E : ε → ε' → Prop} {R : α → β → Prop} {S : γ → δ → Prop} {x : Except ε α}
  {y : Except ε' β}

@[simp] theorem related_ok {a : α} {b : β} :
    Related E R (.ok a) (.ok b) ↔ R a b := Iff.rfl

@[simp] theorem related_error {e : ε} {e' : ε'} :
    Related E R (.error e) (.error e') ↔ E e e' := Iff.rfl

theorem related_pure {a : α} {b : β} (h : R a b) : Related E R (pure a) (pure b) := h

theorem related_self {E : ε → ε → Prop} {R : α → α → Prop} (hE : ∀ e, E e e) (hR : ∀ a, R a a)
    (x : Except ε α) : Related E R x x := by
  cases x with
  | ok a => exact hR a
  | error e => exact hE e

theorem related_eq_self (x : Except ε α) : Related Eq Eq x x :=
  related_self (fun _ => rfl) (fun _ => rfl) x

theorem Related.ok_left (h : Related E R x y) {a : α} (hx : x = .ok a) :
    ∃ b, y = .ok b ∧ R a b := by
  subst hx
  cases y with
  | ok b => exact ⟨b, rfl, h⟩
  | error e => exact h.elim

theorem Related.error_iff {E : ε → ε → Prop} {y : Except ε β} (h : Related E R x y)
    (hE : ∀ e e', E e e' → e = e') (e : ε) : x = .error e ↔ y = .error e := by
  cases x <;> cases y
  · rw [hE _ _ h]
    exact ⟨fun h => congrArg Except.error (Except.error.inj h),
      fun h => congrArg Except.error (Except.error.inj h)⟩
  · exact h.elim
  · exact h.elim
  · simp

theorem Related.isOk_eq (h : Related E R x y) : x.isOk = y.isOk := by
  cases x <;> cases y <;> first | rfl | exact h.elim

theorem Related.imp_error {E' : ε → ε' → Prop} (h : Related E R x y)
    (hE : ∀ e e', E e e' → E' e e') : Related E' R x y := by
  cases x <;> cases y
  · exact hE _ _ h
  · exact h.elim
  · exact h.elim
  · exact h

theorem Related.bind_of_ok {f : α → Except ε γ} {g : β → Except ε' δ} (h : Related E R x y)
    (hfg : ∀ a b, x = .ok a → R a b → Related E S (f a) (g b)) :
    Related E S (x >>= f) (y >>= g) := by
  cases x <;> cases y
  · exact h
  · exact h.elim
  · exact h.elim
  · exact hfg _ _ rfl h

theorem Related.bind {f : α → Except ε γ} {g : β → Except ε' δ} (h : Related E R x y)
    (hfg : ∀ a b, R a b → Related E S (f a) (g b)) : Related E S (x >>= f) (y >>= g) :=
  h.bind_of_ok fun a b _ => hfg a b

/-- Two computations that are run in either order, where it does not matter which of them fails. -/
theorem Related.bind_comm {σ σ' : Type} {T : σ → σ' → Prop}
    {z : Except ε γ} {w : Except ε' δ} {f : α → γ → Except ε σ} {g : δ → β → Except ε' σ'}
    (hE : ∀ e e', E e e') (h : Related E R x y) (h' : Related E S z w)
    (hfg : ∀ a b c d, R a b → S c d → Related E T (f a c) (g d b)) :
    Related E T (x >>= fun a => z >>= f a) (w >>= fun d => y >>= g d) := by
  cases x <;> cases y <;> cases z <;> cases w <;>
    first | exact h.elim | exact h'.elim | exact hE _ _ | exact hfg _ _ _ _ h h'

theorem Related.mapError {E' : ε₁ → ε₁' → Prop} {f : ε → ε₁} {g : ε' → ε₁'} (h : Related E R x y)
    (hfg : ∀ e e', E e e' → E' (f e) (g e')) : Related E' R (x.mapError f) (y.mapError g) := by
  cases x <;> cases y
  · exact hfg _ _ h
  · exact h.elim
  · exact h.elim
  · exact h

/-- Two runs over lists keep up with each other if each step does. -/
theorem Related.foldlM {xs : List γ} {ys : List δ} {f : α → γ → Except ε α}
    {g : β → δ → Except ε' β} (h : List.Forall₂ S xs ys)
    (step : ∀ a b c d, R a b → S c d → Related E R (f a c) (g b d)) {a : α} {b : β}
    (hab : R a b) : Related E R (xs.foldlM f a) (ys.foldlM g b) := by
  induction h generalizing a b with
  | nil => exact hab
  | cons hcd _ ih =>
    rw [List.foldlM_cons, List.foldlM_cons]
    exact (step _ _ _ _ hab hcd).bind fun _ _ => ih

end Except

namespace GridDiagram.Tree

variable {β γ : Type} {R : β → γ → Prop}

mutual

/-- Two trees have one shape, and `R` relates the values that stand in the same place. -/
def Related (R : β → γ → Prop) : Tree β → Tree γ → Prop
  | node v ts, node w us => R v w ∧ RelatedAll R ts us

/-- `Related` for several trees, each with the one in its place. -/
def RelatedAll (R : β → γ → Prop) : List (Tree β) → List (Tree γ) → Prop
  | [], [] => True
  | t :: ts, u :: us => Related R t u ∧ RelatedAll R ts us
  | _, _ => False

end

theorem relatedAll_iff_forall₂ {ts : List (Tree β)} {us : List (Tree γ)} :
    RelatedAll R ts us ↔ List.Forall₂ (Related R) ts us := by
  induction ts generalizing us with
  | nil => cases us <;> simp [RelatedAll]
  | cons t ts ih => cases us <;> simp [RelatedAll, ih]

@[simp] theorem related_node {v : β} {w : γ} {ts : List (Tree β)} {us : List (Tree γ)} :
    Related R (node v ts) (node w us) ↔ R v w ∧ List.Forall₂ (Related R) ts us := by
  rw [Related, relatedAll_iff_forall₂]

theorem Related.value {t : Tree β} {u : Tree γ} (h : Related R t u) : R t.value u.value := by
  cases t
  cases u
  exact (related_node.mp h).1

theorem Related.preorder {t : Tree β} {u : Tree γ} (h : Related R t u) :
    List.Forall₂ R t.preorder u.preorder := by
  induction t using Tree.induct generalizing u with
  | step v ts ih =>
    obtain ⟨w, us⟩ := u
    obtain ⟨hvw, hall⟩ := related_node.mp h
    simp only [preorder_node, preorderAll_eq_flatMap]
    have hbelow : List.Forall₂ (fun t u => List.Forall₂ R t.preorder u.preorder) ts us :=
      hall.imp_of_mem fun t ht u htu => ih t ht htu
    exact .cons hvw (List.rel_flatMap hbelow fun _ _ h => h)

theorem related_map {f : β → γ} {P : β → Prop} {t : Tree β} (h : ∀ v ∈ t.preorder, P v)
    (hf : ∀ v, P v → R v (f v)) : Related R t (t.map f) := by
  induction t using Tree.induct with
  | step v ts ih =>
    obtain ⟨hv, hts⟩ := forall_preorder_node.mp h
    rw [map_node, mapAll_eq_map, related_node, List.forall₂_map_right_iff, List.forall₂_same]
    exact ⟨hf v hv, fun t ht => ih t ht (hts t ht)⟩

end GridDiagram.Tree
