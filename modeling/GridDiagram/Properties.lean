import GridDiagram.Attribute

/-!
Lists of attributes with their values, in the order in which they were given: the attributes of an
element, the declarations of a rule, and the style that comes of both.
-/

namespace GridDiagram

/-- An attribute with a value of its type. -/
abbrev Property (α : Type) : Type :=
  (a : Attribute) × a.Value α

/-- Attributes with their values, in order. -/
abbrev Properties (α : Type) : Type :=
  List (Property α)

namespace Properties

variable {α : Type}

/-- The value of an attribute: that of its first entry. -/
def get? : Properties α → (a : Attribute) → Option (a.Value α)
  | [], _ => none
  | ⟨b, v⟩ :: rest, a => if h : b = a then some (h ▸ v) else get? rest a

/-- The list has an entry for the attribute. -/
def has (ps : Properties α) (a : Attribute) : Bool :=
  ps.any (·.1 == a)

/-- Gives an attribute a value: in its place if the list has an entry for it, at the end if not. -/
def set : Properties α → (a : Attribute) → a.Value α → Properties α
  | [], a, v => [⟨a, v⟩]
  | ⟨b, w⟩ :: rest, a, v => if b = a then ⟨a, v⟩ :: rest else ⟨b, w⟩ :: set rest a v

/-- Removes the entries of an attribute. -/
def erase (ps : Properties α) (a : Attribute) : Properties α :=
  ps.filter (·.1 != a)

/-- Sets every entry of `later` in turn. -/
def merge (ps later : Properties α) : Properties α :=
  later.foldl (fun acc p => acc.set p.1 p.2) ps

/-- The entries of the attributes that `keep` accepts. -/
def only (keep : Attribute → Bool) (ps : Properties α) : Properties α :=
  ps.filter (keep ·.1)

/-- The attributes in order. -/
def attributes (ps : Properties α) : List Attribute :=
  ps.map (·.1)

@[simp] theorem get?_nil (a : Attribute) : get? ([] : Properties α) a = none := rfl

theorem get?_cons_self (a : Attribute) (v : a.Value α) (ps : Properties α) :
    get? (⟨a, v⟩ :: ps) a = some v := by
  simp [get?]

theorem get?_cons_of_ne {a b : Attribute} (h : b ≠ a) (v : b.Value α) (ps : Properties α) :
    get? (⟨b, v⟩ :: ps) a = get? ps a := by
  simp [get?, h]

@[simp] theorem get?_set_self (ps : Properties α) (a : Attribute) (v : a.Value α) :
    (set ps a v).get? a = some v := by
  induction ps with
  | nil => simp [set, get?]
  | cons p ps ih =>
    obtain ⟨b, w⟩ := p
    by_cases h : b = a
    · simp [set, h, get?]
    · simp [set, h, get?, ih]

theorem get?_set_of_ne {a b : Attribute} (h : b ≠ a) (ps : Properties α) (v : b.Value α) :
    (set ps b v).get? a = ps.get? a := by
  induction ps with
  | nil => simp [set, get?, h]
  | cons p ps ih =>
    obtain ⟨c, w⟩ := p
    by_cases hc : c = b
    · subst hc; simp [set, get?, h]
    · by_cases hca : c = a
      · subst hca; simp [set, get?, hc]
      · simp [set, get?, hc, hca, ih]

end Properties

end GridDiagram
