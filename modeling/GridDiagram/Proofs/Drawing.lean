import GridDiagram.Drawing.Svg
import GridDiagram.Proofs.Layout.Positioned

/-!
Drawings of laid-out trees. Every node has a primitive, and every primitive a figure; a polygon has
corners, so that it has an outline; and nothing is divided by a number of corners that is zero.
-/

namespace GridDiagram

variable {α : Type}

/-- An error that no laid-out diagram should lead to: something that cannot be drawn, an outline
without corners, or a division by zero. -/
def DrawingError.IsInternal : DrawingError → Prop
  | .number cause => cause = .divisionByZero
  | _ => True

namespace Primitive

/-- A primitive that can be drawn: its kind is known, and its counts make sense. -/
structure Drawable (p : Primitive α) : Prop where
  kind : ∀ name, p.kind ≠ .other name
  properties : p.attributes.All Attribute.Counts

theorem exists_kindOf? {tag : Tag} (hstyle : tag.kind ≠ .style) (hrule : tag.kind ≠ .rule)
    (huse : tag.kind ≠ .use) :
    ∃ kind, kindOf? tag.kind tag.name = some kind ∧ ∀ name, kind ≠ .other name := by
  cases tag
  case style | rule | use => contradiction
  all_goals exact ⟨_, rfl, nofun⟩

theorem ofResolved_drawable {r : Resolved α} (h : r.element.Styled Attribute.Counts) :
    ∃ p, ofResolved r = .ok p ∧ p.Drawable := by
  obtain ⟨hstyle, hrule, huse⟩ := h.kind
  obtain ⟨kind, hkind, hother⟩ := exists_kindOf? hstyle hrule huse
  simp only [ofResolved, Element.kind, hkind]
  exact ⟨_, rfl, hother, h.properties⟩

end Primitive

variable [Scalar α]

omit [Scalar α] in
theorem ofTree_drawable {t : Tree (Resolved α)}
    (ht : ∀ r ∈ t.preorder, r.element.Styled Attribute.Counts) :
    ∃ ps, Primitive.ofTree t = .ok ps ∧ ∀ p ∈ ps, p.Drawable := by
  have each (rs : List (Resolved α)) (hrs : ∀ r ∈ rs, r.element.Styled Attribute.Counts) :
      ∃ ps, rs.mapM Primitive.ofResolved = .ok ps ∧ ∀ p ∈ ps, p.Drawable := by
    induction rs with
    | nil => exact ⟨[], rfl, by simp⟩
    | cons r rs ih =>
      obtain ⟨hr, hrs⟩ := List.forall_mem_cons.mp hrs
      obtain ⟨p, hp, hdrawable⟩ := Primitive.ofResolved_drawable hr
      obtain ⟨ps, hps, hall⟩ := ih hrs
      refine ⟨p :: ps, ?_, List.forall_mem_cons.mpr ⟨hdrawable, hall⟩⟩
      simp [List.mapM_cons, hp, hps, bind, Except.bind, pure, Except.pure]
  exact each t.preorder ht

namespace Drawing

open Except

/-! ### Coordinates -/

theorem coordinate_avoids (x : α) : (coordinate x).Avoids (· = .divisionByZero) := by
  unfold coordinate
  refine (Scalar.round_avoids x).bind fun n _ => ?_
  split
  · exact avoids_pure _
  · split <;> exact avoids_pure _

theorem coordinateText_avoids (x : α) : (coordinateText x).Avoids DrawingError.IsInternal :=
  (coordinate_avoids x).mapError fun _ h => h

theorem pointText_avoids (between : String) (p : Pair α) :
    (pointText between p).Avoids DrawingError.IsInternal :=
  (coordinateText_avoids p.x).bind fun _ _ => (coordinateText_avoids p.y).bind fun _ _ =>
    avoids_pure _

theorem coordinateAttributes_avoids (pairs : List (String × α)) :
    (coordinateAttributes pairs).Avoids DrawingError.IsInternal :=
  Avoids.mapM fun _ _ => (coordinateText_avoids _).bind fun _ _ => avoids_pure _

theorem paintAttributes_avoids (paint : Paint α) :
    (paintAttributes paint).Avoids DrawingError.IsInternal :=
  (coordinateAttributes_avoids _).bind fun _ _ => avoids_pure _

theorem decorationElement_avoids (r : Rectangle α) (paint : Paint α) :
    (decorationElement r paint).Avoids DrawingError.IsInternal := by
  refine (coordinateAttributes_avoids _).bind fun _ _ => ?_
  refine (coordinateAttributes_avoids _).bind fun _ _ => ?_
  cases paint.stroke with
  | none => exact avoids_pure _
  | some s => exact (coordinateAttributes_avoids _).bind fun _ _ => avoids_pure _

/-! ### Polygons -/

theorem pointAt_avoids {t : Trigonometry α} (ht : t.Safe) (center radii : Pair α) (angle : α) :
    (pointAt t center radii angle).Avoids (· = .divisionByZero) :=
  (ht angle).bind fun _ _ => avoids_pure _

/-- The corner of a polygon is followed by at most one more point. -/
theorem cornerPoints_avoids {t : Trigonometry α} (ht : t.Safe) (e : Ellipse α)
    (sides offset stellate : α) (k : Nat) :
    (cornerPoints t e sides offset stellate k).Avoids (· = .divisionByZero) := by
  refine (pointAt_avoids ht _ _ _).bind fun _ _ => ?_
  split
  · exact avoids_pure _
  · exact (pointAt_avoids ht _ _ _).bind fun _ _ => avoids_pure _

theorem cornerPoints_ne_nil {t : Trigonometry α} {e : Ellipse α} {sides offset stellate : α}
    {k : Nat} {points : List (Pair α)}
    (h : cornerPoints t e sides offset stellate k = .ok points) : points ≠ [] := by
  simp only [cornerPoints, Except.bind_eq_ok] at h
  obtain ⟨_, -, h⟩ := h
  split at h
  · obtain rfl := Except.pure_eq_ok.mp h
    simp
  · simp only [Except.bind_eq_ok, Except.pure_eq_ok] at h
    obtain ⟨_, -, rfl⟩ := h
    simp

/-- A polygon with three corners or more is drawn without a division by zero. -/
theorem polygonPoints_avoids {t : Trigonometry α} (ht : t.Safe) (e : Ellipse α) {vertices : Int}
    (hvertices : 3 ≤ vertices) (stellate : α) :
    (polygonPoints t e vertices stellate).Avoids (· = .divisionByZero) := by
  unfold polygonPoints
  rw [if_neg (by omega), if_neg (by omega)]
  refine Avoids.bind ?_ fun _ _ =>
    (Avoids.mapM fun k _ => cornerPoints_avoids ht _ _ _ _ k).bind fun _ _ => avoids_pure _
  intro e h
  simp only [Scalar.ofBoundedInt] at h
  split at h
  · simp at h
  · obtain rfl := Except.error.inj h
    simp

theorem polygonPoints_ne_nil {t : Trigonometry α} {e : Ellipse α} {vertices : Int}
    (hvertices : 3 ≤ vertices) {stellate : α} {points : List (Pair α)}
    (h : polygonPoints t e vertices stellate = .ok points) : points ≠ [] := by
  unfold polygonPoints at h
  rw [if_neg (by omega), if_neg (by omega)] at h
  simp only [Except.bind_eq_ok, Except.pure_eq_ok, Except.mapM_eq_ok] at h
  obtain ⟨sides, -, corners, hcorners, rfl⟩ := h
  obtain ⟨n, hn⟩ : ∃ n, vertices.toNat = n + 1 := ⟨vertices.toNat - 1, by omega⟩
  have hmem : 0 ∈ List.range vertices.toNat := List.mem_range.mpr (by omega)
  obtain ⟨first, hfirst, hcorner⟩ := hcorners.exists_right hmem
  intro hnil
  exact cornerPoints_ne_nil hcorner (List.flatten_eq_nil_iff.mp hnil first hfirst)

theorem length_roundedCorners (length : Pair α → Pair α → α) (corners : List (Pair α))
    (radius : α) :
    (roundedCorners length corners radius).length = corners.length := by
  have hright : (corners.rotateRight 1).length = corners.length := by
    simp only [List.rotateRight]
    split
    · rfl
    · simp only [List.length_append, List.length_drop, List.length_take]
      omega
  have hleft : (corners.rotateLeft 1).length = corners.length := by
    simp only [List.rotateLeft]
    split
    · rfl
    · simp only [List.length_append, List.length_drop, List.length_take]
      omega
  simp [roundedCorners, hright, hleft]

theorem RoundedOutline.through?_isSome (length : Pair α → Pair α → α) {corners : List (Pair α)}
    (h : corners ≠ []) (radius : α) : ∃ o, through? length corners radius = some o := by
  have hlength := length_roundedCorners length corners radius
  unfold through?
  split
  · rename_i hnil
    rw [hnil] at hlength
    exact absurd (List.length_eq_zero_iff.mp hlength.symm) h
  · exact ⟨_, rfl⟩

theorem outlineText_avoids (o : RoundedOutline α) :
    (outlineText o).Avoids DrawingError.IsInternal := by
  refine (pointText_avoids _ _).bind fun _ _ => ?_
  refine (Avoids.mapM fun c _ => ?_).bind fun _ _ => avoids_pure _
  exact (pointText_avoids _ _).bind fun _ _ => (pointText_avoids _ _).bind fun _ _ =>
    (pointText_avoids _ _).bind fun _ _ => avoids_pure _

theorem pathText_avoids (points : List (Pair α)) (closed : Bool) :
    (pathText points closed).Avoids DrawingError.IsInternal :=
  (Avoids.mapM fun _ _ => pointText_avoids _ _).bind fun _ _ => avoids_pure _

theorem polygonForm_avoids {t : Trigonometry α} (ht : t.Safe) {shape : RegularPolygon α}
    (hvertices : 3 ≤ shape.vertices) :
    (polygonForm t shape).Avoids DrawingError.IsInternal := by
  have hpoints := polygonPoints_avoids ht shape.ellipse hvertices shape.stellate
  refine (hpoints.mapError fun _ h => h).bind fun corners hcorners => ?_
  have hne : corners ≠ [] := polygonPoints_ne_nil hvertices (Except.mapError_eq_ok.mp hcorners)
  split
  · exact (Avoids.mapM fun _ _ => pointText_avoids _ _).bind fun _ _ => avoids_pure _
  · rename_i radius _
    obtain ⟨o, ho⟩ := RoundedOutline.through?_isSome _ hne radius
    rw [RoundedOutline.of?, ho]
    exact (outlineText_avoids o).bind fun _ _ => avoids_pure _

/-! ### Figures -/

theorem lineElements_avoids (x : String) (height : α) (first : Bool) (lines : List String) :
    (lineElements x height first lines).Avoids DrawingError.IsInternal := by
  induction lines generalizing first with
  | nil => exact avoids_ok _
  | cons line lines ih =>
    cases first
    · exact (coordinateText_avoids _).bind fun _ _ => (ih false).bind fun _ _ => avoids_pure _
    · exact (ih false).bind fun _ _ => avoids_pure _

theorem textElement_avoids (b : TextBlock α) :
    (textElement b).Avoids DrawingError.IsInternal :=
  (coordinateText_avoids _).bind fun _ _ => (coordinateText_avoids _).bind fun _ _ =>
    (coordinateText_avoids _).bind fun _ _ => (lineElements_avoids _ _ _ _).bind fun _ _ =>
      avoids_pure _

/-- A polygon has three corners or more. -/
def Figure.Sound : Figure α → Prop
  | .polygon shape _ => 3 ≤ shape.vertices
  | _ => True

theorem Figure.element_avoids {t : Trigonometry α} (ht : t.Safe) {f : Figure α} (hf : f.Sound) :
    (f.element t).Avoids DrawingError.IsInternal := by
  cases f with
  | rectangle shape paint =>
    exact (paintAttributes_avoids _).bind fun _ _ => (coordinateAttributes_avoids _).bind
      fun _ _ => (coordinateAttributes_avoids _).bind fun _ _ => avoids_pure _
  | ellipse shape paint =>
    exact (paintAttributes_avoids _).bind fun _ _ => (coordinateAttributes_avoids _).bind
      fun _ _ => avoids_pure _
  | polygon shape paint =>
    exact (paintAttributes_avoids _).bind fun _ _ => (polygonForm_avoids ht hf).bind
      fun _ _ => avoids_pure _
  | text block => exact textElement_avoids block
  | path points closed paint =>
    exact (pathText_avoids _ _).bind fun _ _ => (paintAttributes_avoids _).bind
      fun _ _ => avoids_pure _

theorem transformAttribute_avoids (steps : List (TransformStep α)) :
    (transformAttribute steps).Avoids DrawingError.IsInternal := by
  unfold transformAttribute
  split
  · exact avoids_pure _
  · refine (Avoids.mapM fun step _ => ?_).bind fun _ _ => avoids_pure _
    cases step with
    | translate offset => exact (pointText_avoids _ _).bind fun _ _ => avoids_pure _
    | rotate degrees => exact (coordinateText_avoids _).bind fun _ _ => avoids_pure _
    | rotateAbout degrees center =>
      exact (coordinateText_avoids _).bind fun _ _ => (pointText_avoids _ _).bind fun _ _ =>
        avoids_pure _
    | scale factor => exact (coordinateText_avoids _).bind fun _ _ => avoids_pure _

/-- What a drawing is made with divides by nothing that may be zero. -/
structure DrawingSettings.Safe (settings : DrawingSettings α) : Prop where
  measurer : settings.measurer.Safe
  trigonometry : settings.trigonometry.Safe

theorem Figure.of?_avoids {m : Measurer α} (hm : m.Safe) (family : Option String)
    {p : Primitive α} (hp : p.Drawable) :
    (Figure.of? m family p).Avoids DrawingError.IsInternal := by
  cases hkind : p.kind with
  | text =>
    have hblock : (textBlock m family p).Avoids (· = .divisionByZero) :=
      (hm.metrics _ _).bind fun _ _ => avoids_pure _
    simp only [of?, hkind]
    exact (hblock.map _).mapError fun _ h => h
  | other name => exact absurd hkind (hp.kind name)
  | _ =>
    simp only [of?, hkind]
    exact avoids_ok _

theorem Figure.of?_sound {m : Measurer α} {family : Option String} {p : Primitive α}
    (hp : p.Drawable) {f : Figure α} (h : Figure.of? m family p = .ok (some f)) : f.Sound := by
  unfold Figure.of? at h
  split at h
  case h_4 =>
    obtain rfl := Option.some.inj (Except.ok.inj h)
    have hvertices : 3 ≤ (p.attributes.get? .vertices).getD 4 := by
      cases hv : p.attributes.get? .vertices with
      | none => simp
      | some n => exact hp.properties.get? hv
    exact hvertices
  case h_5 =>
    simp only [Except.mapError_eq_ok, Except.map_eq_ok, Option.some.injEq] at h
    obtain ⟨block, -, rfl⟩ := h
    trivial
  case h_1 | h_7 => simp at h
  all_goals
    obtain rfl := Option.some.inj (Except.ok.inj h)
    trivial

theorem primitiveElements_avoids {settings : DrawingSettings α} (hsettings : settings.Safe)
    {p : Primitive α} (hp : p.Drawable) :
    (primitiveElements settings.trigonometry settings.measurer settings.fontFamily p).Avoids
      DrawingError.IsInternal := by
  unfold primitiveElements
  refine Avoids.bind ?_ fun _ _ => ?_
  · cases decoration? p with
    | none => exact avoids_pure _
    | some d => exact (decorationElement_avoids _ _).map _
  · refine (Figure.of?_avoids hsettings.measurer _ hp).bind fun figure hfigure => ?_
    cases figure with
    | none => exact avoids_pure _
    | some f =>
      have hsound := Figure.of?_sound hp hfigure
      exact (Figure.element_avoids hsettings.trigonometry hsound).bind fun _ _ =>
        (transformAttribute_avoids _).bind fun _ _ => avoids_pure _

/-- The drawing of primitives that can be drawn fails only where a number has no text or a text no
measure. -/
theorem svg_avoids {settings : DrawingSettings α} (hsettings : settings.Safe)
    {ps : List (Primitive α)} (hps : ∀ p ∈ ps, p.Drawable) (size : Pair α) :
    (svg settings ps size).Avoids DrawingError.IsInternal := by
  refine Avoids.map ?_ _
  exact (coordinateText_avoids _).bind fun _ _ => (coordinateText_avoids _).bind fun _ _ =>
    (Avoids.mapM fun p hp => primitiveElements_avoids hsettings (hps p hp)).bind fun _ _ =>
      avoids_pure _

end Drawing

end GridDiagram
