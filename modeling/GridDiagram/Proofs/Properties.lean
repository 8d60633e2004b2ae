import GridDiagram.Properties
import Mathlib.Data.List.Sigma

/-!
What a list of attributes holds after values are set, merged, filtered and erased.
-/

namespace GridDiagram.Properties

variable {α : Type} {ps later : Properties α} {a b : Attribute} {p : Property α}

theorem mem_of_get?_eq_some {v : a.Value α} (h : ps.get? a = some v) : ⟨a, v⟩ ∈ ps := by
  induction ps with
  | nil => simp at h
  | cons q ps ih =>
    obtain ⟨b, w⟩ := q
    by_cases hb : b = a
    · subst hb
      rw [get?_cons_self] at h
      simp_all
    · rw [get?_cons_of_ne hb] at h
      exact List.mem_cons_of_mem _ (ih h)

theorem get?_eq_none : ps.get? a = none ↔ ∀ p ∈ ps, p.1 ≠ a := by
  induction ps with
  | nil => simp
  | cons q ps ih =>
    obtain ⟨b, w⟩ := q
    by_cases hb : b = a
    · subst hb
      simp [get?_cons_self]
    · simp [get?_cons_of_ne hb, ih, hb]

theorem mem_set {v : a.Value α} (h : p ∈ ps.set a v) : p = ⟨a, v⟩ ∨ p ∈ ps := by
  induction ps with
  | nil => simpa [set] using h
  | cons q ps ih =>
    obtain ⟨b, w⟩ := q
    by_cases hb : b = a
    · simp only [set, hb, if_true, List.mem_cons] at h
      exact h.imp_right (List.mem_cons_of_mem _)
    · simp only [set, hb, if_false, List.mem_cons] at h ⊢
      obtain h | h := h
      · exact .inr (.inl h)
      · exact (ih h).imp_right .inr

theorem merge_cons (v : a.Value α) : ps.merge (⟨a, v⟩ :: later) = (ps.set a v).merge later := rfl

theorem mem_merge (h : p ∈ ps.merge later) : p ∈ ps ∨ p ∈ later := by
  induction later generalizing ps with
  | nil => exact .inl h
  | cons q later ih =>
    obtain h | h := ih (merge_cons q.2 ▸ h)
    · obtain rfl | h := mem_set h
      · exact .inr List.mem_cons_self
      · exact .inl h
    · exact .inr (List.mem_cons_of_mem _ h)

theorem get?_merge_of_none (h : later.get? a = none) : (ps.merge later).get? a = ps.get? a := by
  induction later generalizing ps with
  | nil => rfl
  | cons q later ih =>
    rw [get?_eq_none] at h
    have hq : q.1 ≠ a := h q List.mem_cons_self
    rw [merge_cons q.2, ih (get?_eq_none.mpr fun p hp => h p (List.mem_cons_of_mem _ hp)),
      get?_set_of_ne hq]

theorem get?_merge_isSome (h : (ps.get? a).isSome) : ((ps.merge later).get? a).isSome := by
  induction later generalizing ps with
  | nil => exact h
  | cons q later ih =>
    rw [merge_cons q.2]
    apply ih
    by_cases hq : q.1 = a
    · subst hq
      simp
    · rwa [get?_set_of_ne hq]

theorem get?_merge_isSome_of_later (h : (later.get? a).isSome) :
    ((ps.merge later).get? a).isSome := by
  induction later generalizing ps with
  | nil => simp at h
  | cons q later ih =>
    obtain ⟨b, w⟩ := q
    rw [merge_cons]
    by_cases hb : b = a
    · subst hb
      exact get?_merge_isSome (by simp)
    · rw [get?_cons_of_ne hb] at h
      exact ih h

theorem get?_merge_eq_none (h : ps.get? a = none) (hl : later.get? a = none) :
    (ps.merge later).get? a = none := by
  rw [get?_merge_of_none hl, h]

theorem merge_append (behind : Properties α) :
    ps.merge (later ++ behind) = (ps.merge later).merge behind :=
  List.foldl_append

theorem mem_keys_set {v : a.Value α} : b ∈ List.keys (ps.set a v) ↔ b = a ∨ b ∈ ps.keys := by
  induction ps with
  | nil => simp [set]
  | cons q ps ih =>
    obtain ⟨c, w⟩ := q
    by_cases hc : c = a
    · simp [set, hc]
    · rw [set, if_neg hc, List.keys_cons, List.mem_cons, ih, List.keys_cons, List.mem_cons]
      exact or_left_comm

theorem nodupKeys_set (h : ps.NodupKeys) (v : a.Value α) : List.NodupKeys (ps.set a v) := by
  induction ps with
  | nil => simp [set]
  | cons q ps ih =>
    obtain ⟨c, w⟩ := q
    rw [List.nodupKeys_cons] at h
    by_cases hc : c = a
    · subst hc
      rw [set, if_pos rfl, List.nodupKeys_cons]
      exact h
    · rw [set, if_neg hc, List.nodupKeys_cons, mem_keys_set]
      exact ⟨not_or.mpr ⟨hc, h.1⟩, ih h.2⟩

theorem nodupKeys_merge (h : ps.NodupKeys) : List.NodupKeys (ps.merge later) := by
  induction later generalizing ps with
  | nil => exact h
  | cons q later ih => exact ih (nodupKeys_set h q.2)

theorem nodupKeys_only (h : ps.NodupKeys) (keep : Attribute → Bool) :
    List.NodupKeys (ps.only keep) :=
  h.sublist List.filter_sublist

/-- What is merged in has its say first, where it gives every attribute once. -/
theorem get?_merge (h : later.NodupKeys) :
    (ps.merge later).get? a = (later.get? a).or (ps.get? a) := by
  induction later generalizing ps with
  | nil => rfl
  | cons q later ih =>
    obtain ⟨b, w⟩ := q
    rw [List.nodupKeys_cons] at h
    rw [merge_cons, ih h.2]
    by_cases hb : b = a
    · subst hb
      have hnone : get? later b = none :=
        get?_eq_none.mpr fun p hp hpb => h.1 (by simpa [hpb] using List.mem_keys_of_mem hp)
      rw [hnone, get?_cons_self, get?_set_self]
      rfl
    · rw [get?_cons_of_ne hb, get?_set_of_ne hb]

theorem mem_only {keep : Attribute → Bool} : p ∈ ps.only keep ↔ p ∈ ps ∧ keep p.1 = true := by
  simp [only]

theorem get?_only {keep : Attribute → Bool} (h : keep a = true) :
    (ps.only keep).get? a = ps.get? a := by
  induction ps with
  | nil => rfl
  | cons q ps ih =>
    obtain ⟨b, w⟩ := q
    by_cases hb : b = a
    · subst hb
      simp [only, h, get?_cons_self]
    · rw [get?_cons_of_ne hb, ← ih]
      simp only [only, List.filter_cons]
      split
      · exact get?_cons_of_ne hb _ _
      · rfl

theorem get?_only_of_not {keep : Attribute → Bool} (h : keep a = false) :
    (ps.only keep).get? a = none := by
  rw [get?_eq_none]
  intro p hp hpa
  simp [← hpa, (mem_only.mp hp).2] at h

/-- A merge decides on an attribute without regard to the others. -/
theorem get?_merge_congr {qs : Properties α} (h : ps.get? a = qs.get? a) :
    (ps.merge later).get? a = (qs.merge later).get? a := by
  induction later generalizing ps qs with
  | nil => exact h
  | cons q later ih =>
    rw [merge_cons q.2, merge_cons q.2]
    apply ih
    by_cases hq : q.1 = a
    · subst hq
      rw [get?_set_self, get?_set_self]
    · rw [get?_set_of_ne hq, get?_set_of_ne hq, h]

theorem get?_merge_only (keep : Attribute → Bool) :
    (ps.merge (later.only keep)).get? a =
      if keep a then (ps.merge later).get? a else ps.get? a := by
  split
  · rename_i ha
    induction later generalizing ps with
    | nil => rfl
    | cons q later ih =>
      simp only [only, List.filter_cons]
      split
      · exact ih
      · rename_i hq
        have hqa : q.1 ≠ a := fun h => hq (h ▸ ha)
        exact ih.trans (get?_merge_congr (get?_set_of_ne hqa ps q.2).symm)
  · rename_i ha
    exact get?_merge_of_none (get?_only_of_not (by simpa using ha))

theorem mem_erase : p ∈ ps.erase a ↔ p ∈ ps ∧ p.1 ≠ a := by
  simp [erase]

@[simp] theorem get?_erase_self : (ps.erase a).get? a = none :=
  get?_eq_none.mpr fun _ hp => (mem_erase.mp hp).2

theorem erase_eq_only : ps.erase a = ps.only (· != a) := rfl

theorem get?_erase_of_ne (h : a ≠ b) : (ps.erase b).get? a = ps.get? a := by
  rw [erase_eq_only, get?_only (by simp [h])]

/-- Every property has a value that `P` allows its attribute. -/
def All (P : (a : Attribute) → a.Value α → Prop) (ps : Properties α) : Prop :=
  ∀ p ∈ ps, P p.1 p.2

variable {P Q : (a : Attribute) → a.Value α → Prop}

theorem All.imp (h : ps.All P) (hPQ : ∀ a v, P a v → Q a v) : ps.All Q :=
  fun p hp => hPQ p.1 p.2 (h p hp)

theorem All.get? {v : a.Value α} (h : ps.All P) (hv : ps.get? a = some v) : P a v :=
  h _ (mem_of_get?_eq_some hv)

theorem All.merge (h : ps.All P) (hl : later.All P) : (ps.merge later).All P :=
  fun p hp => (mem_merge hp).elim (h p) (hl p)

theorem All.only (h : ps.All P) (keep : Attribute → Bool) : (ps.only keep).All P :=
  fun p hp => h p (mem_only.mp hp).1

theorem All.append (h : ps.All P) (hl : later.All P) : All P (ps ++ later) :=
  fun p hp => (List.mem_append.mp hp).elim (h p) (hl p)

end GridDiagram.Properties
