/-!
Finite trees with a value at each node and the children in order: the shape that a diagram keeps
from its source to its geometry.
-/

namespace GridDiagram

/-- A value with an ordered list of subtrees. -/
inductive Tree (β : Type) where
  | node (value : β) (children : List (Tree β))

namespace Tree

variable {β γ : Type}

/-- The value at the root. -/
def value : Tree β → β
  | node v _ => v

/-- The subtrees below the root. -/
def children : Tree β → List (Tree β)
  | node _ ts => ts

@[simp] theorem value_node (v : β) (ts : List (Tree β)) : (node v ts).value = v := rfl

@[simp] theorem children_node (v : β) (ts : List (Tree β)) : (node v ts).children = ts := rfl

mutual

/-- The values of a tree, each before those below it and children in order. -/
def preorder : Tree β → List β
  | node v ts => v :: preorderAll ts

/-- The values of several trees, one tree after the other. -/
def preorderAll : List (Tree β) → List β
  | [] => []
  | t :: ts => preorder t ++ preorderAll ts

end

mutual

/-- The tree of the same shape with `f` applied to every value. -/
def map (f : β → γ) : Tree β → Tree γ
  | node v ts => node (f v) (mapAll f ts)

/-- `map` on several trees. -/
def mapAll (f : β → γ) : List (Tree β) → List (Tree γ)
  | [] => []
  | t :: ts => map f t :: mapAll f ts

end

@[simp] theorem preorder_node (v : β) (ts : List (Tree β)) :
    (node v ts).preorder = v :: preorderAll ts := by
  simp only [preorder]

@[simp] theorem map_node (f : β → γ) (v : β) (ts : List (Tree β)) :
    (node v ts).map f = node (f v) (mapAll f ts) := by
  simp only [map]

theorem preorderAll_eq_flatMap (ts : List (Tree β)) :
    preorderAll ts = ts.flatMap preorder := by
  induction ts with
  | nil => simp [preorderAll]
  | cons t ts ih => simp [preorderAll, ih]

theorem mapAll_eq_map (f : β → γ) (ts : List (Tree β)) : mapAll f ts = ts.map (map f) := by
  induction ts with
  | nil => simp [mapAll]
  | cons t ts ih => simp [mapAll, ih]

end Tree

end GridDiagram
