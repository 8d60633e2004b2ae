import GridDiagram.Proofs.Layout.Shape
import GridDiagram.Proofs.Number.Numeral
import GridDiagram.Proofs.Template.Identifier

/-!
The paths of nodes. A child has the path of its parent with a step of its own, which says its id or
else its number, so that no two children of a node have one step. Where no id and no class has a
slash, a step has none, and the paths of a tree in which no id stands twice differ.
-/

namespace GridDiagram

variable {α : Type}

/-! ### Steps -/

namespace Element

/-- No slash stands in the id or in a class of an element. -/
structure Slashless (e : Element α) : Prop where
  id : ∀ id ∈ e.id, '/' ∉ id.toList
  classes : ∀ c ∈ e.classes, '/' ∉ c.toList

/-- What the path of a child says of it: its label, with its number where it has no id. -/
def step (number : Nat) (e : Element α) : String :=
  match e.id with
  | some _ => e.label
  | none => e.label ++ "[" ++ toString number ++ "]"

end Element

theorem childPath_eq_step (path : String) (number : Nat) (e : Element α) :
    childPath path number e = path ++ "/" ++ e.step number := by
  unfold childPath Element.step
  cases e.id with
  | some _ => rfl
  | none => simp only [String.append_assoc]

theorem Tag.isLower_of_mem_name (tag : Tag) : ∀ c ∈ tag.name.toList, c.isLower = true :=
  List.all_eq_true.mp (by cases tag <;> decide)

namespace Element

variable {e e' : Element α} {i j : Nat}

theorem toList_step_of_some {id : String} (hid : e.id = some id) :
    (e.step i).toList = e.tag.name.toList ++ '#' :: id.toList := by
  simp [step, label, hid]

theorem toList_step_of_none (hid : e.id = none) :
    (e.step i).toList = e.label.toList ++ '[' :: (Decimal.digits i ++ [']']) := by
  simp [step, hid, Decimal.digits]

/-- Behind the tag there is something else than behind that of an element with an id. -/
theorem exists_label_of_none (hid : e.id = none) :
    ∃ d ds, d ≠ '#' ∧ d.isLower = false ∧
      e.label.toList ++ '[' :: (Decimal.digits i ++ [']']) = e.tag.name.toList ++ d :: ds := by
  cases hclasses : e.classes with
  | nil =>
    exact ⟨'[', Decimal.digits i ++ [']'], by decide, by decide, by simp [label, hid, hclasses]⟩
  | cons c cs =>
    exact ⟨'.', c.toList ++ '[' :: (Decimal.digits i ++ [']']), by decide, by decide,
      by simp [label, hid, hclasses]⟩

/-- The number at the end is told by the text that it ends: read from behind, it is what comes
before the first character that is no digit. -/
theorem number_inj {cs cs' : List Char}
    (h : cs ++ '[' :: (Decimal.digits i ++ [']']) = cs' ++ '[' :: (Decimal.digits j ++ [']'])) :
    i = j := by
  have hdigits (n : Nat) : ∀ c ∈ (Decimal.digits n).reverse, c.isDigit = true :=
    fun c hc => Numeral.isDigit_of_mem_digits (List.mem_reverse.mp hc)
  have hreverse := congrArg List.reverse h
  simp only [List.reverse_append, List.reverse_cons, List.reverse_nil, List.nil_append,
    List.append_assoc, List.cons_append, List.cons.injEq, true_and] at hreverse
  obtain ⟨hnumber, -⟩ := Text.append_inj_of_kind (hdigits i) (hdigits j) (by simp) (by simp)
    hreverse
  rw [← Numeral.ofDigits_digits i, List.reverse_inj.mp hnumber, Numeral.ofDigits_digits]

/-- Two children with one step have one id, or none and one number: a tag has small letters only,
and what follows it says whether there is an id. -/
theorem step_inj (h : e.step i = e'.step j) : e.id = e'.id ∧ (e.id = none → i = j) := by
  have hchars := congrArg String.toList h
  have hname := e.tag.isLower_of_mem_name
  have hname' := e'.tag.isLower_of_mem_name
  cases hid : e.id with
  | some id =>
    rw [toList_step_of_some hid] at hchars
    cases hid' : e'.id with
    | some id' =>
      rw [toList_step_of_some hid'] at hchars
      obtain ⟨-, hids⟩ := Text.append_inj_of_kind hname hname' (by simp) (by simp) hchars
      have hids := String.toList_inj.mp (List.cons.inj hids).2
      simp [hids]
    | none =>
      obtain ⟨d, ds, hd, hlower, heq⟩ := exists_label_of_none (i := j) hid'
      rw [toList_step_of_none hid', heq] at hchars
      obtain ⟨-, hds⟩ := Text.append_inj_of_kind hname hname' (by simp)
        (by simpa using hlower) hchars
      exact absurd (List.cons.inj hds).1.symm hd
  | none =>
    cases hid' : e'.id with
    | some id' =>
      obtain ⟨d, ds, hd, hlower, heq⟩ := exists_label_of_none (i := i) hid
      rw [toList_step_of_none hid, heq, toList_step_of_some hid'] at hchars
      obtain ⟨-, hds⟩ := Text.append_inj_of_kind hname hname' (by simpa using hlower)
        (by simp) hchars
      exact absurd (List.cons.inj hds).1 hd
    | none =>
      rw [toList_step_of_none hid, toList_step_of_none hid'] at hchars
      exact ⟨rfl, fun _ => number_inj hchars⟩

theorem Slashless.step (he : e.Slashless) (number : Nat) : '/' ∉ (e.step number).toList := by
  have hname : '/' ∉ e.tag.name.toList := by
    cases e.tag <;> decide
  have hnumber : '/' ∉ (Decimal.digits number) := fun h => by
    simpa using Numeral.isDigit_of_mem_digits h
  cases hid : e.id with
  | some id =>
    rw [toList_step_of_some hid]
    simpa [hname] using he.id id hid
  | none =>
    rw [toList_step_of_none hid]
    cases hclasses : e.classes with
    | nil => simp [label, hid, hclasses, hname, hnumber]
    | cons c cs =>
      have hc := he.classes c (by simp [hclasses])
      simp [label, hid, hclasses, hname, hnumber, hc]

end Element

/-! ### Paths -/

/-- The second path is the first one or goes on from it. -/
def Continues (path q : String) : Prop :=
  ∃ rest, (∀ c ∈ rest.head?, c = '/') ∧ q.toList = path.toList ++ rest

theorem Continues.refl (path : String) : Continues path path :=
  ⟨[], by simp, by simp⟩

theorem Continues.of_child {path q : String} {number : Nat} {e : Element α}
    (h : Continues (childPath path number e) q) : Continues path q ∧ q ≠ path := by
  obtain ⟨rest, -, hq⟩ := h
  have hpath : q.toList = path.toList ++ '/' :: ((e.step number).toList ++ rest) := by
    simpa [childPath_eq_step] using hq
  refine ⟨⟨_, by simp, hpath⟩, ?_⟩
  rintro rfl
  simp at hpath

/-- What goes on from the paths of two children of one node tells their steps. -/
theorem Continues.step_eq {path q : String} {i j : Nat} {e e' : Element α} (he : e.Slashless)
    (he' : e'.Slashless) (h : Continues (childPath path i e) q)
    (h' : Continues (childPath path j e') q) : e.step i = e'.step j := by
  obtain ⟨rest, hrest, hq⟩ := h
  obtain ⟨rest', hrest', hq'⟩ := h'
  have hboth : (e.step i).toList ++ rest = (e'.step j).toList ++ rest' := by
    simpa [childPath_eq_step] using hq.symm.trans hq'
  have hslash {cs : List Char} (h : '/' ∉ cs) : ∀ c ∈ cs, (c != '/') = true := by
    intro c hc
    exact bne_iff_ne.mpr fun hslash => h (hslash ▸ hc)
  obtain ⟨hsteps, -⟩ := Text.append_inj_of_kind (p := (· != '/')) (hslash (he.step i))
    (hslash (he'.step j)) (by simpa using hrest) (by simpa using hrest') hboth
  exact String.toList_inj.mp hsteps

namespace DiagramTree

mutual

/-- The paths of the nodes of a tree, of which the root has `path`. -/
def paths (path : String) : DiagramTree α → List String
  | .node _ ts => path :: pathsBelow path 1 ts

/-- The paths in the children of a node, of which the first has the number `number`. -/
def pathsBelow (path : String) (number : Nat) : List (DiagramTree α) → List String
  | [] => []
  | t :: ts => paths (childPath path number t.value) t ++ pathsBelow path (number + 1) ts

end

theorem exists_of_mem_pathsBelow {path q : String} {number : Nat} {ts : List (DiagramTree α)}
    (h : q ∈ pathsBelow path number ts) :
    ∃ t ∈ ts, ∃ i, number ≤ i ∧ q ∈ paths (childPath path i t.value) t := by
  induction ts generalizing number with
  | nil => simp [pathsBelow] at h
  | cons t ts ih =>
    rw [pathsBelow] at h
    obtain h | h := List.mem_append.mp h
    · exact ⟨t, List.mem_cons_self, number, Nat.le_refl _, h⟩
    · obtain ⟨s, hs, i, hi, h⟩ := ih h
      exact ⟨s, List.mem_cons_of_mem t hs, i, Nat.le_of_succ_le hi, h⟩

theorem continues_of_mem_paths {path q : String} {t : DiagramTree α} (h : q ∈ t.paths path) :
    Continues path q := by
  induction t using Tree.induct generalizing path with
  | step e ts ih =>
    rw [paths] at h
    obtain rfl | h := List.mem_cons.mp h
    · exact .refl _
    · obtain ⟨t, ht, i, -, h⟩ := exists_of_mem_pathsBelow h
      exact (ih t ht h).of_child.1

/-- The paths below children with ids of their own are apart. One in a child and in a later one
would go on from both, so that they had one step. -/
theorem pathsBelow_nodup {path : String} {ts : List (DiagramTree α)}
    (hts : ∀ t ∈ ts, ∀ path, (t.paths path).Nodup)
    (hslash : ∀ t ∈ ts, t.value.Slashless) (hids : (ts.flatMap ids).Nodup) (number : Nat) :
    (pathsBelow path number ts).Nodup := by
  induction ts generalizing number with
  | nil => exact List.nodup_nil
  | cons t ts ih =>
    obtain ⟨ht, hts⟩ := List.forall_mem_cons.mp hts
    obtain ⟨hroot, hslash⟩ := List.forall_mem_cons.mp hslash
    rw [List.flatMap_cons, List.nodup_append] at hids
    obtain ⟨-, hids, hdisjoint⟩ := hids
    rw [pathsBelow, List.nodup_append]
    refine ⟨ht _, ih hts hslash hids (number + 1), ?_⟩
    rintro q hq _ hq' rfl
    obtain ⟨s, hs, i, hi, hq'⟩ := exists_of_mem_pathsBelow hq'
    obtain ⟨hid, hnumber⟩ := Element.step_inj <| (continues_of_mem_paths hq).step_eq hroot
      (hslash s hs) (continues_of_mem_paths hq')
    cases hvalue : t.value.id with
    | none =>
      have := hnumber hvalue
      omega
    | some id =>
      refine hdisjoint id ?_ id (List.mem_flatMap.mpr ⟨s, hs, ?_⟩) rfl
      · simp [ids_eq, hvalue]
      · simp [ids_eq, ← hid, hvalue]

/-- The paths of a tree differ, if no id or class in it has a slash and no id stands twice. -/
theorem paths_nodup {path : String} {t : DiagramTree α} (hslash : ∀ e ∈ t.preorder, e.Slashless)
    (hids : t.ids.Nodup) : (t.paths path).Nodup := by
  induction t using Tree.induct generalizing path with
  | step e ts ih =>
    obtain ⟨-, hslash⟩ := Tree.forall_preorder_node.mp hslash
    rw [ids_node] at hids
    have hbelow := (List.nodup_append.mp hids).2.1
    have hts : ∀ t ∈ ts, ∀ path, (paths path t).Nodup := fun t ht path =>
      ih t ht (hslash t ht) ((List.nodup_flatMap.mp hbelow).1 t ht)
    rw [paths, List.nodup_cons]
    refine ⟨fun hmem => ?_, pathsBelow_nodup hts
      (fun t ht => hslash t ht _ t.value_mem_preorder) hbelow 1⟩
    obtain ⟨t, -, i, -, hmem⟩ := exists_of_mem_pathsBelow hmem
    exact (continues_of_mem_paths hmem).of_child.2 rfl

end DiagramTree

/-! ### Layouts -/

variable [Scalar α] {settings : LayoutSettings α}

theorem measureTrees_paths {path : String} {number : Nat} {ts : List (DiagramTree α)}
    {ms : List (Tree (Measured α))}
    (hts : ∀ t ∈ ts, ∀ {path m}, measureTree settings path t = .ok m →
      m.preorder.map (·.path) = DiagramTree.paths path t)
    (h : measureTrees settings path number ts = .ok ms) :
    (ms.flatMap Tree.preorder).map (·.path) = DiagramTree.pathsBelow path number ts := by
  induction ts generalizing number ms with
  | nil =>
    obtain rfl := Except.ok.inj (measureTrees.eq_1 settings path number ▸ h)
    rfl
  | cons t ts ih =>
    obtain ⟨ht, hts⟩ := List.forall_mem_cons.mp hts
    simp only [measureTrees, Except.bind_eq_ok, Except.pure_eq_ok] at h
    obtain ⟨m, hm, ms, hms, rfl⟩ := h
    rw [List.flatMap_cons, List.map_append, ht hm, ih hts hms, DiagramTree.pathsBelow]

theorem measureTree_paths {path : String} {t : DiagramTree α} {m : Tree (Measured α)}
    (h : measureTree settings path t = .ok m) : m.preorder.map (·.path) = t.paths path := by
  induction t using Tree.induct generalizing path m with
  | step e ts ih =>
    simp only [measureTree, Except.bind_eq_ok, Except.pure_eq_ok] at h
    obtain ⟨ms, hms, m₀, hm₀, m₁, hm₁, rfl⟩ := h
    obtain ⟨-, rfl, -⟩ := Measured.ofElement_ok hm₀
    obtain rfl := Measured.finish_ok hm₁
    rw [Tree.preorder_node, Tree.preorderAll_eq_flatMap, List.map_cons, measureTrees_paths ih hms,
      DiagramTree.paths]

theorem layout_paths {t : DiagramTree α} {size : Option (Pair α)} {l : Layout α}
    (h : layout settings t size = .ok l) :
    l.tree.preorder.map (·.path) = t.paths t.value.label := by
  obtain ⟨m, hm, htree⟩ := layout_map (f := (·.path)) (g := (·.path)) (fun _ _ => rfl) h
  rw [← Tree.preorder_map, htree, Tree.preorder_map, measureTree_paths hm]

end GridDiagram
