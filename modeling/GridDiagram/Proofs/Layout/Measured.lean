import GridDiagram.Proofs.Layout.Lines
import GridDiagram.Proofs.Layout.Stages
import GridDiagram.Proofs.Surroundings

/-!
Trees as the first pass of a layout leaves them. Every node has been measured behind its children,
and the pass fails only for contradicting sizes and where a text or a turned box cannot be measured.
-/

namespace GridDiagram

open Except

variable {α : Type} {P : (a : Attribute) → a.Value α → Prop}

/-- An error that no diagram should lead to: a list without the entry that is looked up, a node that
nothing is known about, a stage out of turn, or a division by zero. -/
def LayoutError.IsInternal : LayoutError α → Prop
  | .overconstrained _ _ _ _ _ _ => False
  | .number cause => cause = .divisionByZero
  | _ => True

variable [Scalar α]

/-! ### One node -/

theorem PointBounds.of?_isSome {ps : List (Pair α)} (h : ps ≠ []) :
    ∃ bounds, of? ps = some bounds := by
  cases ps with
  | nil => contradiction
  | cons p ps => exact ⟨_, rfl⟩

namespace Measured

variable {settings : LayoutSettings α}

/-- A node as the first pass leaves it: styled, with nothing inside it unless it is a group, and
with the sizes that come of its children. -/
structure Done (settings : LayoutSettings α) (P : (a : Attribute) → a.Value α → Prop)
    (m : Measured α) (children : List (Measured α)) : Prop where
  styled : m.element.Styled P
  leaf : m.element.kind ≠ .group → children = []
  sizes : ofElement settings m.element m.path children = .ok { m with stage := .unresolved }
  stage : m.stage = .measured

theorem ofElement_ok {e : Element α} {path : String} {children : List (Measured α)}
    {m : Measured α} (h : ofElement settings e path children = .ok m) :
    m.element = e ∧ m.path = path ∧ m.stage = .unresolved := by
  unfold ofElement at h
  split at h
  · simp only [Except.bind_eq_ok, Except.pure_eq_ok] at h
    obtain ⟨_, -, _, -, rfl⟩ := h
    exact ⟨rfl, rfl, rfl⟩
  · simp only [Except.bind_eq_ok, Except.pure_eq_ok] at h
    obtain ⟨_, -, _, -, rfl⟩ := h
    exact ⟨rfl, rfl, rfl⟩

theorem leafContent_avoids (hsettings : settings.Safe) {e : Element α} (path : String)
    (he : e.Styled Attribute.Counts) (hgroup : e.kind ≠ .group) :
    (leafContent settings e path).Avoids LayoutError.IsInternal := by
  unfold leafContent
  split
  · exact avoids_pure _
  · exact (hsettings.measurer.textSize _ _ _).mapError fun _ h => h
  · rename_i hpath
    obtain ⟨points, hpoints⟩ := Option.isSome_iff_exists.mp (he.coords hpath)
    obtain ⟨bounds, hbounds⟩ := PointBounds.of?_isSome (he.get? hpoints)
    simp only [hpoints, Option.getD_some, hbounds]
    exact avoids_pure _
  · obtain ⟨hstyle, hrule, huse⟩ := he.kind
    cases hkind : e.kind <;> contradiction

theorem ofElement_avoids (hsettings : settings.Safe) {e : Element α} (path : String)
    {children : List (Measured α)} (he : e.Styled Attribute.Counts)
    (hchildren : ∀ c ∈ children, ∀ axis, (c.element.placement.on axis).Valid) :
    (ofElement settings e path children).Avoids LayoutError.IsInternal := by
  unfold ofElement
  split
  · have axes (axis : Axis) :
        (AxisMeasure.ofChildren e.effective children axis).Avoids LayoutError.IsInternal := by
      intro error h
      obtain ⟨_, _, _, _, _, rfl⟩ :=
        AxisMeasure.ofChildren_error he.properties (fun c hc => hchildren c hc axis) h
      exact not_false
    exact (axes .x).bind fun _ _ => (axes .y).bind fun _ _ => avoids_pure _
  · rename_i hgroup
    refine (leafContent_avoids hsettings path he hgroup).bind fun _ _ => ?_
    exact ((hsettings.trigonometry.drawnSize _ _ _).mapError fun _ h => h).bind fun _ _ =>
      avoids_pure _

omit [Scalar α] in
theorem finish_ok {m m' : Measured α} {children : List (Measured α)}
    (h : m.finish children = .ok m') : m' = { m with stage := .measured } := by
  simp only [finish, Except.bind_eq_ok, Except.mapError_eq_ok, Except.pure_eq_ok] at h
  obtain ⟨p, hp, rfl⟩ := h
  rw [(Progress.advance_eq_ok.mp hp).2.2]

omit [Scalar α] in
theorem finish_eq_ok {m : Measured α} {children : List (Measured α)} (hm : m.stage = .unresolved)
    (hchildren : ∀ c ∈ children, c.stage = .measured) :
    m.finish children = .ok { m with stage := .measured } := by
  have hblocking : Progress.blocking none (children.map progress) .measured = [] := by
    simp only [Progress.blocking, List.filter_eq_nil_iff, List.forall_mem_map]
    intro c hc
    simp [progress, hchildren c hc]
  simp [finish, Progress.advance, hblocking, progress, hm, Stage.rank, Except.mapError, bind,
    Except.bind, pure, Except.pure]

end Measured

/-! ### Trees -/

variable {settings : LayoutSettings α}

theorem measureTrees_ok {path : String} {number : Nat} {ts : List (DiagramTree α)}
    {ms : List (Tree (Measured α))} (h : measureTrees settings path number ts = .ok ms) :
    List.Forall₂ (fun t m => ∃ path, measureTree settings path t = .ok m) ts ms := by
  induction ts generalizing number ms with
  | nil =>
    obtain rfl := Except.ok.inj (measureTrees.eq_1 settings path number ▸ h)
    exact .nil
  | cons t ts ih =>
    simp only [measureTrees, Except.bind_eq_ok, Except.pure_eq_ok] at h
    obtain ⟨m, hm, rest, hrest, rfl⟩ := h
    exact .cons ⟨_, hm⟩ (ih hrest)

theorem measureTrees_avoids {bad : LayoutError α → Prop} {ts : List (DiagramTree α)}
    (hts : ∀ t ∈ ts, ∀ path, (measureTree settings path t).Avoids bad) (path : String)
    (number : Nat) : (measureTrees settings path number ts).Avoids bad := by
  induction ts generalizing number with
  | nil =>
    rw [measureTrees]
    exact avoids_ok _
  | cons t ts ih =>
    obtain ⟨ht, hts⟩ := List.forall_mem_cons.mp hts
    rw [measureTrees]
    exact (ht _).bind fun _ _ => (ih hts (number + 1)).bind fun _ _ => avoids_pure _

/-- The first pass leaves every node of a styled tree done. -/
theorem measureTree_done {path : String} {t : DiagramTree α} {m : Tree (Measured α)}
    (ht : t.Styled P) (h : measureTree settings path t = .ok m) :
    m.Local (Measured.Done settings P) := by
  induction t using Tree.induct generalizing path m with
  | step e ts ih =>
    obtain ⟨⟨he, hleaf⟩, hts⟩ := DiagramTree.styled_node.mp ht
    simp only [measureTree, Except.bind_eq_ok, Except.pure_eq_ok] at h
    obtain ⟨ms, hms, m₀, hm₀, m₁, hm₁, rfl⟩ := h
    have hall := measureTrees_ok hms
    have hchildren : ∀ m ∈ ms, m.Local (Measured.Done settings P) := by
      intro m hm
      obtain ⟨t, ht, _, htm⟩ := hall.exists_left hm
      exact ih t ht (hts t ht) htm
    obtain ⟨rfl, rfl, hstage⟩ := Measured.ofElement_ok hm₀
    obtain rfl := Measured.finish_ok hm₁
    refine Tree.local_node.mpr ⟨⟨he, fun hgroup => ?_, ?_, rfl⟩, hchildren⟩
    · obtain rfl := hleaf hgroup
      rw [List.forall₂_nil_left_iff.mp hall, List.map_nil]
    · rw [hm₀, ← hstage]

/-- The first pass fails on a styled tree only where sizes contradict each other, or where there is
no measure of a text or a turned box. -/
theorem measureTree_avoids (hsettings : settings.Safe) {t : DiagramTree α}
    (ht : t.Styled Attribute.Counts) (path : String) :
    (measureTree settings path t).Avoids LayoutError.IsInternal := by
  induction t using Tree.induct generalizing path with
  | step e ts ih =>
    obtain ⟨⟨he, hleaf⟩, hts⟩ := DiagramTree.styled_node.mp ht
    rw [measureTree]
    refine (measureTrees_avoids (fun t ht => ih t ht (hts t ht)) path 1).bind fun ms hms => ?_
    have hchildren : ∀ c ∈ ms.map Tree.value, c.element.Styled Attribute.Counts ∧
        c.stage = .measured := by
      intro c hc
      obtain ⟨m, hm, rfl⟩ := List.mem_map.mp hc
      obtain ⟨t, ht, _, htm⟩ := (measureTrees_ok hms).exists_left hm
      have hdone := (measureTree_done (hts t ht) htm).self
      exact ⟨hdone.styled, hdone.stage⟩
    have hplacement := fun c hc => (hchildren c hc).1.placement
    refine (Measured.ofElement_avoids hsettings path he hplacement).bind fun m hm => ?_
    obtain ⟨-, -, hstage⟩ := Measured.ofElement_ok hm
    rw [Measured.finish_eq_ok hstage fun c hc => (hchildren c hc).2]
    exact avoids_pure _

end GridDiagram
