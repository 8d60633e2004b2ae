import GridDiagram.Layout.Stage
import GridDiagram.Proofs.Outcome

/-!
The stages of the nodes of a tree over any sequence of calls on any of them. Every step looks at the
nodes next to one node only; what it sees there is enough to keep all nodes in order.
-/

namespace GridDiagram

/-! ### One step -/

theorem Progress.advance_eq_ok {p q : Progress} {parent : Option Progress}
    {children : List Progress} {target : Stage} :
    p.advance parent children target = .ok q ↔
      target.rank = p.stage.rank + 1 ∧ blocking parent children target = [] ∧
        q = { p with stage := target } := by
  unfold advance
  split
  · simp_all
  · rename_i hnext
    rw [not_not] at hnext
    cases blocking parent children target <;> simp [hnext, eq_comm]

theorem Progress.blocking_eq_nil {parent : Option Progress} {children : List Progress}
    {target : Stage} :
    blocking parent children target = [] ↔
      (target = .measured → ∀ c ∈ children, Stage.measured.rank ≤ c.stage.rank) ∧
      (target = .boxed → ∀ p ∈ parent, Stage.boxed.rank ≤ p.stage.rank) ∧
      (target = .positioned → ∀ c ∈ children, Stage.boxed.rank ≤ c.stage.rank) := by
  cases target <;> simp [blocking]

namespace Stage

/-- How far a node and a child of it have come: the node is not measured before the child, the child
has no box before the node has one, and the node is not finished before the child has one. -/
structure Fits (parent child : Stage) : Prop where
  childMeasured : measured.rank ≤ parent.rank → measured.rank ≤ child.rank
  parentBoxed : boxed.rank ≤ child.rank → boxed.rank ≤ parent.rank
  childBoxed : parent = .positioned → boxed.rank ≤ child.rank

variable {parent child target : Stage}

theorem Fits.refl (stage : Stage) : stage.Fits stage :=
  ⟨id, id, fun h => h ▸ by decide⟩

theorem Fits.child_next (h : parent.Fits child) (hnext : target.rank = child.rank + 1)
    (hboxed : target = .boxed → boxed.rank ≤ parent.rank) : parent.Fits target where
  childMeasured := fun hp => Nat.le_trans (h.childMeasured hp) (by omega)
  parentBoxed := fun ht => by
    by_cases hc : boxed.rank ≤ child.rank
    · exact h.parentBoxed hc
    · refine hboxed ?_
      cases target <;> simp_all [rank]
  childBoxed := fun hp => Nat.le_trans (h.childBoxed hp) (by omega)

theorem Fits.parent_next (h : parent.Fits child) (hnext : target.rank = parent.rank + 1)
    (hmeasured : target = .measured → measured.rank ≤ child.rank)
    (hpositioned : target = .positioned → boxed.rank ≤ child.rank) : target.Fits child where
  childMeasured := fun ht => by
    by_cases hp : measured.rank ≤ parent.rank
    · exact h.childMeasured hp
    · refine hmeasured ?_
      cases target <;> simp_all [rank]
  parentBoxed := fun hc => Nat.le_trans (h.parentBoxed hc) (by omega)
  childBoxed := hpositioned

end Stage

namespace StageRecords

variable {rs rs' : StageRecords} {i : Nat} {target : Stage}

/-- Record `c` is that of a child of the node of record `p`. -/
structure Link (rs : StageRecords) (p c : StageRecord) : Prop where
  child : c ∈ rs
  parent : ∃ k, c.parent = some k ∧ rs[k]? = some p

/-- Every node is as far as it may be beside its children. -/
def Ordered (rs : StageRecords) : Prop :=
  ∀ p c, rs.Link p c → p.stage.Fits c.stage

theorem advance_ok (h : rs.advance i target = .ok rs') :
    (rs[i]? = none ∧ rs' = rs) ∨
      ∃ r, rs[i]? = some r ∧ target.rank = r.stage.rank + 1 ∧
        Progress.blocking (rs.parentOf r) (rs.childrenOf i) target = [] ∧
        rs' = rs.set i { r with stage := target } := by
  unfold advance at h
  cases hr : rs[i]? with
  | none =>
    rw [hr] at h
    exact .inl ⟨rfl, (Except.ok.inj h).symm⟩
  | some r =>
    simp only [hr, Except.bind_eq_ok, Progress.advance_eq_ok, Except.pure_eq_ok] at h
    obtain ⟨_, ⟨hnext, hblocking, rfl⟩, rfl⟩ := h
    exact .inr ⟨r, rfl, hnext, hblocking, rfl⟩

/-- A move keeps records ordered, be it that of the child, of the parent, or of another record. -/
theorem Ordered.advance (hrs : rs.Ordered) (h : rs.advance i target = .ok rs') : rs'.Ordered := by
  obtain ⟨-, rfl⟩ | ⟨r, hr, hnext, hblocking, rfl⟩ := advance_ok h
  · exact hrs
  obtain ⟨hmeasured, hboxed, hpositioned⟩ := Progress.blocking_eq_nil.mp hblocking
  have entry {j : Nat} {x : StageRecord}
      (hx : (rs.set i { r with stage := target })[j]? = some x) :
      (j = i ∧ x = { r with stage := target }) ∨ rs[j]? = some x := by
    rw [List.getElem?_set] at hx
    grind
  rintro p c ⟨hc, k, hk, hp⟩
  obtain ⟨j, hj⟩ := List.mem_iff_getElem?.mp hc
  obtain ⟨rfl, rfl⟩ | hj := entry hj
  · obtain ⟨rfl, rfl⟩ | hp := entry hp
    · exact .refl target
    · refine (hrs p r ⟨List.mem_of_getElem? hr, k, hk, hp⟩).child_next hnext fun ht => ?_
      have hparent : rs.parentOf r = some p.toProgress := by
        rw [parentOf, show r.parent = some k from hk, Option.bind_some, hp, Option.map_some]
      exact hboxed ht p.toProgress hparent
  · have hmem := List.mem_of_getElem? hj
    obtain ⟨rfl, rfl⟩ | hp := entry hp
    · have hchild : c.toProgress ∈ rs.childrenOf k :=
        List.mem_map_of_mem (List.mem_filter.mpr ⟨hmem, by simp [hk]⟩)
      exact (hrs r c ⟨hmem, k, hk, hr⟩).parent_next hnext
        (fun ht => hmeasured ht _ hchild) fun ht => hpositioned ht _ hchild
    · exact hrs p c ⟨hmem, k, hk, hp⟩

end StageRecords

/-! ### Runs -/

/-- A call on a record to move on to a stage. -/
structure StageCall where
  record : Nat
  target : Stage

/-- The record stays as it is, or moves on to the stage next to its own. -/
def StageRecord.MovesOn (r r' : StageRecord) : Prop :=
  r' = r ∨ ∃ stage : Stage, stage.rank = r.stage.rank + 1 ∧ r' = { r with stage }

namespace StageRecords

variable {rs rs' : StageRecords}

/-- The records after a call, which leaves them as they are where it is rejected. -/
def attempt (rs : StageRecords) (call : StageCall) : StageRecords :=
  match rs.advance call.record call.target with
  | .ok rs' => rs'
  | .error _ => rs

/-- The records after several calls. -/
def run (rs : StageRecords) (calls : List StageCall) : StageRecords :=
  calls.foldl attempt rs

theorem attempt_movesOn (rs : StageRecords) (call : StageCall) :
    List.Forall₂ StageRecord.MovesOn rs (rs.attempt call) := by
  have hsame : List.Forall₂ StageRecord.MovesOn rs rs := List.forall₂_same.mpr fun _ _ => .inl rfl
  unfold attempt
  split
  · rename_i rs' h
    obtain ⟨-, rfl⟩ | ⟨r, hr, hnext, -, rfl⟩ := advance_ok h
    · exact hsame
    · refine List.forall₂_iff_get.mpr ⟨List.length_set.symm, fun j hj _ => ?_⟩
      rw [List.get_eq_getElem, List.get_eq_getElem, List.getElem_set]
      split
      · rename_i hij
        subst hij
        obtain rfl := Option.some.inj ((List.getElem?_eq_getElem hj).symm.trans hr)
        exact .inr ⟨call.target, hnext, rfl⟩
      · exact .inl rfl
  · exact hsame

theorem Ordered.attempt (hrs : rs.Ordered) (call : StageCall) : (rs.attempt call).Ordered := by
  unfold StageRecords.attempt
  split
  · rename_i rs' h
    exact hrs.advance h
  · exact hrs

theorem Ordered.run (hrs : rs.Ordered) (calls : List StageCall) : (rs.run calls).Ordered := by
  induction calls generalizing rs with
  | nil => exact hrs
  | cons call calls ih => exact ih (hrs.attempt call)

theorem ordered_of_unresolved (h : ∀ r ∈ rs, r.stage = .unresolved) : rs.Ordered := by
  rintro p c ⟨hc, k, -, hp⟩
  rw [h p (List.mem_of_getElem? hp), h c hc]
  exact .refl _

/-- Whatever calls are made on the records of a tree, accepted or rejected, every node is as far as
it may be beside its children after each of them: none is measured before a child, none has a box
before its parent, and none is finished before its children have boxes. A call that is rejected
changes nothing, and one that is accepted moves one record to its next stage at most. -/
theorem run_ordered (start : StageRecords) (hstart : ∀ r ∈ start, r.stage = .unresolved)
    (calls : List StageCall) :
    (start.run calls).Ordered ∧
    ∀ call,
      (∀ e, (start.run calls).advance call.record call.target = .error e →
        start.run (calls ++ [call]) = start.run calls) ∧
      (∀ rs, (start.run calls).advance call.record call.target = .ok rs →
        start.run (calls ++ [call]) = rs ∧
        ∀ i, i ≠ call.record → rs[i]? = (start.run calls)[i]?) ∧
      List.Forall₂ StageRecord.MovesOn (start.run calls) (start.run (calls ++ [call])) := by
  refine ⟨(ordered_of_unresolved hstart).run calls, fun call => ?_⟩
  have hrun : start.run (calls ++ [call]) = (start.run calls).attempt call :=
    List.foldl_concat ..
  rw [hrun]
  refine ⟨fun e he => ?_, fun rs hrs => ⟨?_, fun i hi => ?_⟩, attempt_movesOn _ call⟩
  · rw [attempt, he]
  · rw [attempt, hrs]
  · obtain ⟨-, rfl⟩ | ⟨r, -, -, -, rfl⟩ := advance_ok hrs
    · rfl
    · exact List.getElem?_set_ne hi.symm

end StageRecords

/-- The records of a layout with a group in it, and a rectangle in the group. -/
def nestedRecords : StageRecords :=
  [⟨⟨"layout", .unresolved⟩, none⟩, ⟨⟨"layout/group", .unresolved⟩, some 0⟩,
    ⟨⟨"layout/group/rect", .unresolved⟩, some 1⟩]

/-- Calls by which the layout and the group are finished, and two that come too soon. -/
def nestedCalls : List StageCall :=
  [⟨0, .measured⟩, ⟨2, .measured⟩, ⟨1, .measured⟩, ⟨0, .measured⟩, ⟨1, .boxed⟩, ⟨0, .boxed⟩,
    ⟨1, .boxed⟩, ⟨2, .boxed⟩, ⟨1, .positioned⟩, ⟨0, .positioned⟩]

theorem nestedRecords_run_ordered :
    (∀ r ∈ nestedRecords, r.stage = .unresolved) ∧
      (nestedRecords.run nestedCalls).map (·.stage) = [.positioned, .positioned, .boxed] ∧
      (nestedRecords.run nestedCalls).Ordered ∧
      nestedRecords.run (nestedCalls ++ [⟨2, .measured⟩]) = nestedRecords.run nestedCalls := by
  have hstart : ∀ r ∈ nestedRecords, r.stage = .unresolved := by decide
  obtain ⟨hordered, hcalls⟩ := StageRecords.run_ordered nestedRecords hstart nestedCalls
  exact ⟨hstart, by decide, hordered, (hcalls ⟨2, .measured⟩).1 _ rfl⟩

end GridDiagram
