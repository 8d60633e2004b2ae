import GridDiagram.Proofs.Drawing
import GridDiagram.Proofs.Number.Finite

/-!
Drawings in which every number is finite: those that are written, and the angles of polygons. No
operation on numbers fails, so that a drawing fails with numbers only if one of these is not finite.
-/

namespace GridDiagram

open Except

variable {α : Type}

/-- An operation on numbers had no result. -/
def DrawingError.IsNumber : DrawingError → Prop
  | .number _ => True
  | _ => False

theorem Primitive.ofTree_avoids_number (t : Tree (Resolved α)) :
    (Primitive.ofTree t).Avoids DrawingError.IsNumber := by
  refine Avoids.mapM fun r _ => ?_
  simp only [ofResolved]
  split
  · exact avoids_error not_false
  · exact avoids_ok _

variable [Scalar α]

/-! ### Numbers -/

def Pair.numbers (p : Pair α) : List α :=
  [p.x, p.y]

def Box.numbers (b : Box α) : List α :=
  [b.x, b.y, b.width, b.height]

namespace Drawing

def Paint.numbers (paint : Paint α) : List α :=
  paint.stroke.toList.map (·.width)

def Rectangle.numbers (r : Rectangle α) : List α :=
  r.box.numbers ++ r.radius.toList

def Ellipse.numbers (e : Ellipse α) : List α :=
  e.center.numbers ++ e.radii.numbers

def RoundedOutline.points (o : RoundedOutline α) : List (Pair α) :=
  o.start :: o.corners.flatMap fun c => [c.before, c.corner, c.after]

/-- The angles at which the points of a polygon lie: its corners, and the inner points of a star. -/
def RegularPolygon.angles (t : Trigonometry α) (s : RegularPolygon α) : List α :=
  let sides : α := Scalar.ofInt s.vertices
  let offset := if s.vertices % 2 = 0 then t.pi / sides else 0.0
  (List.range s.vertices.toNat).flatMap fun (k : Nat) =>
    let angle := -t.pi / 2.0 + offset + 2.0 * t.pi * Scalar.ofInt k / sides
    if s.stellate == 0.0 then [angle] else [angle, angle + t.pi / sides]

/-- The points that are written for a polygon: its corners, or its outline where they are round. -/
def RegularPolygon.outline (t : Trigonometry α) (s : RegularPolygon α) : List (Pair α) :=
  match s.points t with
  | .error _ => []
  | .ok corners =>
    match s.radius with
    | none => corners
    | some radius =>
      ((RoundedOutline.of? t.hypotenuse corners radius).map RoundedOutline.points).getD []

/-- The numbers of a figure: how many sides a polygon has and the angles of its points, and all that
is written. -/
def Figure.numbers (t : Trigonometry α) : Figure α → List α
  | .rectangle shape paint => shape.numbers ++ paint.numbers
  | .ellipse shape paint => shape.numbers ++ paint.numbers
  | .polygon shape paint =>
    Scalar.ofInt shape.vertices :: shape.angles t ++ (shape.outline t).flatMap Pair.numbers ++
      paint.numbers
  | .text block =>
    block.baseline.numbers ++ [block.fontSize] ++ block.lines.tail.map fun _ => block.lineHeight
  | .path points _ paint => points.flatMap Pair.numbers ++ paint.numbers

def TransformStep.numbers : TransformStep α → List α
  | .translate offset => offset.numbers
  | .rotate degrees => [degrees]
  | .rotateAbout degrees center => degrees :: center.numbers
  | .scale factor => [factor]

/-- The numbers of a drawing of a primitive. A text whose font has no measures has only the size of
that. -/
def numbersOf (settings : DrawingSettings α) (p : Primitive α) : List α :=
  ((decoration? p).toList.flatMap fun (r, paint) => r.numbers ++ paint.numbers) ++
    match Figure.of? settings.measurer settings.fontFamily p with
    | .error _ => [p.attributes.fontSize]
    | .ok none => []
    | .ok (some figure) =>
      figure.numbers settings.trigonometry ++ (transformSteps p).flatMap TransformStep.numbers

/-! ### Texts -/

theorem coordinateText_avoids_number {x : α} (h : Scalar.Finite x) :
    (coordinateText x).Avoids DrawingError.IsNumber := by
  have hcoordinate : (coordinate x).Avoids fun _ => True := by
    refine h.round.bind fun n _ => ?_
    split
    · exact avoids_pure _
    · split <;> exact avoids_pure _
  exact hcoordinate.mapError fun _ _ => trivial

theorem pointText_avoids_number (between : String) {p : Pair α}
    (h : ∀ x ∈ p.numbers, Scalar.Finite x) :
    (pointText between p).Avoids DrawingError.IsNumber := by
  simp only [Pair.numbers, List.forall_mem_cons] at h
  exact (coordinateText_avoids_number h.1).bind fun _ _ =>
    (coordinateText_avoids_number h.2.1).bind fun _ _ => avoids_pure _

theorem coordinateAttributes_avoids_number {pairs : List (String × α)}
    (h : ∀ p ∈ pairs, Scalar.Finite p.2) :
    (coordinateAttributes pairs).Avoids DrawingError.IsNumber :=
  Avoids.mapM fun p hp => (coordinateText_avoids_number (h p hp)).bind fun _ _ => avoids_pure _

theorem pointTexts_avoids_number (between : String) {points : List (Pair α)}
    (h : ∀ p ∈ points, ∀ x ∈ p.numbers, Scalar.Finite x) :
    (points.mapM (pointText between)).Avoids DrawingError.IsNumber :=
  Avoids.mapM fun p hp => pointText_avoids_number between (h p hp)

theorem paintAttributes_avoids_number {paint : Paint α}
    (h : ∀ x ∈ paint.numbers, Scalar.Finite x) :
    (paintAttributes paint).Avoids DrawingError.IsNumber := by
  refine (coordinateAttributes_avoids_number ?_).bind fun _ _ => avoids_pure _
  rw [List.forall_mem_map]
  exact List.forall_mem_map.mp h

theorem boxAttributes_avoids_number {b : Box α} (h : ∀ x ∈ b.numbers, Scalar.Finite x) :
    (boxAttributes b).Avoids DrawingError.IsNumber := by
  refine coordinateAttributes_avoids_number ?_
  simpa [Box.numbers] using h

theorem radiusAttribute_avoids_number {radius : Option α}
    (h : ∀ x ∈ radius.toList, Scalar.Finite x) :
    (radiusAttribute radius).Avoids DrawingError.IsNumber := by
  refine coordinateAttributes_avoids_number ?_
  rwa [List.forall_mem_map]

theorem decorationElement_avoids_number {r : Rectangle α} {paint : Paint α}
    (h : ∀ x ∈ r.numbers ++ paint.numbers, Scalar.Finite x) :
    (decorationElement r paint).Avoids DrawingError.IsNumber := by
  simp only [Rectangle.numbers, List.forall_mem_append] at h
  obtain ⟨⟨hbox, hradius⟩, hpaint⟩ := h
  refine (boxAttributes_avoids_number hbox).bind fun _ _ => ?_
  refine (radiusAttribute_avoids_number hradius).bind fun _ _ => ?_
  cases hstroke : paint.stroke with
  | none => exact avoids_pure _
  | some s =>
    have hwidth : Scalar.Finite s.width := hpaint s.width (by simp [Paint.numbers, hstroke])
    exact (coordinateAttributes_avoids_number (by simpa using hwidth)).bind fun _ _ => avoids_pure _

/-! ### Polygons -/

theorem pointAt_avoids_number {t : Trigonometry α} (ht : t.Defined) (center radii : Pair α)
    {angle : α} (h : Scalar.Finite angle) :
    (pointAt t center radii angle).Avoids fun _ => True :=
  (ht angle h).bind fun _ _ => avoids_pure _

theorem polygonPoints_avoids_number {t : Trigonometry α} (ht : t.Defined) {s : RegularPolygon α}
    (hvertices : 3 ≤ s.vertices) (hsides : Scalar.Finite (Scalar.ofInt s.vertices : α))
    (hangles : ∀ x ∈ s.angles t, Scalar.Finite x) : (s.points t).Avoids fun _ => True := by
  have hbounded : Scalar.ofBoundedInt s.vertices = .ok (Scalar.ofInt s.vertices : α) := by
    obtain ⟨negative, magnitude, hexact⟩ := hsides
    simp only [Scalar.ofBoundedInt, hexact]
  unfold RegularPolygon.points polygonPoints
  rw [if_neg (by omega), if_neg (by omega), hbounded]
  refine Avoids.bind (avoids_ok _) fun _ hsides => ?_
  obtain rfl := Except.ok.inj hsides
  refine (Avoids.mapM fun k hk => ?_).bind fun _ _ => avoids_pure _
  have hcorner := fun x hx => hangles x (List.mem_flatMap.mpr ⟨k, hk, hx⟩)
  unfold cornerPoints
  by_cases hstar : (s.stellate == 0.0) = true
  · simp only [if_pos hstar, List.forall_mem_singleton] at hcorner ⊢
    exact (pointAt_avoids_number ht _ _ hcorner).bind fun _ _ => avoids_pure _
  · simp only [if_neg hstar, List.forall_mem_cons] at hcorner ⊢
    exact (pointAt_avoids_number ht _ _ hcorner.1).bind fun _ _ =>
      (pointAt_avoids_number ht _ _ hcorner.2.1).bind fun _ _ => avoids_pure _

theorem outlineText_avoids_number {o : RoundedOutline α}
    (h : ∀ p ∈ o.points, ∀ x ∈ p.numbers, Scalar.Finite x) :
    (outlineText o).Avoids DrawingError.IsNumber := by
  obtain ⟨hstart, hcorners⟩ := List.forall_mem_cons.mp h
  refine (pointText_avoids_number _ hstart).bind fun _ _ => ?_
  refine (Avoids.mapM fun c hc => ?_).bind fun _ _ => avoids_pure _
  have hcorner := fun p hp => hcorners p (List.mem_flatMap.mpr ⟨c, hc, hp⟩)
  simp only [List.forall_mem_cons] at hcorner
  obtain ⟨hbefore, hat, hafter, -⟩ := hcorner
  exact (pointText_avoids_number _ hbefore).bind fun _ _ =>
    (pointText_avoids_number _ hat).bind fun _ _ =>
      (pointText_avoids_number _ hafter).bind fun _ _ => avoids_pure _

theorem polygonForm_avoids_number {t : Trigonometry α} (ht : t.Defined) {s : RegularPolygon α}
    (hvertices : 3 ≤ s.vertices) (hsides : Scalar.Finite (Scalar.ofInt s.vertices : α))
    (hangles : ∀ x ∈ s.angles t, Scalar.Finite x)
    (houtline : ∀ p ∈ s.outline t, ∀ x ∈ p.numbers, Scalar.Finite x) :
    (polygonForm t s).Avoids DrawingError.IsNumber := by
  have hpoints := polygonPoints_avoids_number ht hvertices hsides hangles
  refine (hpoints.mapError fun _ _ => trivial).bind fun corners hcorners => ?_
  simp only [RegularPolygon.outline, Except.mapError_eq_ok.mp hcorners] at houtline
  split
  · rename_i hradius
    simp only [hradius] at houtline
    exact (pointTexts_avoids_number _ houtline).bind fun _ _ => avoids_pure _
  · rename_i radius hradius
    simp only [hradius] at houtline
    split
    · exact avoids_error not_false
    · rename_i outline hof
      rw [hof] at houtline
      exact (outlineText_avoids_number houtline).bind fun _ _ => avoids_pure _

/-! ### Figures -/

theorem lineElements_avoids_number (x : String) {height : α} (first : Bool) {lines : List String}
    (h : (if first then lines.tail else lines) ≠ [] → Scalar.Finite height) :
    (lineElements x height first lines).Avoids DrawingError.IsNumber := by
  induction lines generalizing first with
  | nil => exact avoids_ok _
  | cons line lines ih =>
    cases first with
    | false =>
      have hheight := h (List.cons_ne_nil line lines)
      exact (coordinateText_avoids_number hheight).bind fun _ _ =>
        (ih false fun _ => hheight).bind fun _ _ => avoids_pure _
    | true => exact (ih false h).bind fun _ _ => avoids_pure _

theorem textElement_avoids_number {t : Trigonometry α} {b : TextBlock α}
    (h : ∀ x ∈ (Figure.text b).numbers t, Scalar.Finite x) :
    (textElement b).Avoids DrawingError.IsNumber := by
  simp only [Figure.numbers, Pair.numbers, List.forall_mem_append, List.forall_mem_cons,
    List.forall_mem_map] at h
  obtain ⟨⟨⟨hx, hy, -⟩, hsize, -⟩, hlines⟩ := h
  have hheight (hrest : b.lines.tail ≠ []) : Scalar.Finite b.lineHeight := by
    obtain ⟨line, hline⟩ := List.exists_mem_of_ne_nil _ hrest
    exact hlines line hline
  exact (coordinateText_avoids_number hx).bind fun _ _ =>
    (coordinateText_avoids_number hy).bind fun _ _ =>
      (coordinateText_avoids_number hsize).bind fun _ _ =>
        (lineElements_avoids_number _ true hheight).bind fun _ _ => avoids_pure _

theorem Figure.element_avoids_number {t : Trigonometry α} (ht : t.Defined) {f : Figure α}
    (hf : f.Sound) (h : ∀ x ∈ f.numbers t, Scalar.Finite x) :
    (f.element t).Avoids DrawingError.IsNumber := by
  cases f with
  | rectangle shape paint =>
    simp only [numbers, Rectangle.numbers, List.forall_mem_append] at h
    obtain ⟨⟨hbox, hradius⟩, hpaint⟩ := h
    exact (paintAttributes_avoids_number hpaint).bind fun _ _ =>
      (boxAttributes_avoids_number hbox).bind fun _ _ =>
        (radiusAttribute_avoids_number hradius).bind fun _ _ => avoids_pure _
  | ellipse shape paint =>
    simp only [numbers, List.forall_mem_append] at h
    obtain ⟨hshape, hpaint⟩ := h
    refine (paintAttributes_avoids_number hpaint).bind fun _ _ => ?_
    refine (coordinateAttributes_avoids_number ?_).bind fun _ _ => avoids_pure _
    simpa [Ellipse.numbers, Pair.numbers] using hshape
  | polygon shape paint =>
    simp only [numbers, List.cons_append, List.forall_mem_cons, List.forall_mem_append,
      List.forall_mem_flatMap] at h
    obtain ⟨hsides, ⟨hangles, houtline⟩, hpaint⟩ := h
    exact (paintAttributes_avoids_number hpaint).bind fun _ _ =>
      (polygonForm_avoids_number ht hf hsides hangles houtline).bind fun _ _ => avoids_pure _
  | text block => exact textElement_avoids_number h
  | path points closed paint =>
    simp only [numbers, List.forall_mem_append, List.forall_mem_flatMap] at h
    obtain ⟨hpoints, hpaint⟩ := h
    refine Avoids.bind ?_ fun _ _ =>
      (paintAttributes_avoids_number hpaint).bind fun _ _ => avoids_pure _
    exact (pointTexts_avoids_number _ hpoints).bind fun _ _ => avoids_pure _

theorem TransformStep.text_avoids_number {step : TransformStep α}
    (h : ∀ x ∈ step.numbers, Scalar.Finite x) : step.text.Avoids DrawingError.IsNumber := by
  cases step with
  | translate offset => exact (pointText_avoids_number _ h).bind fun _ _ => avoids_pure _
  | rotate degrees =>
    exact (coordinateText_avoids_number (h _ List.mem_cons_self)).bind fun _ _ => avoids_pure _
  | rotateAbout degrees center =>
    obtain ⟨hdegrees, hcenter⟩ := List.forall_mem_cons.mp h
    exact (coordinateText_avoids_number hdegrees).bind fun _ _ =>
      (pointText_avoids_number _ hcenter).bind fun _ _ => avoids_pure _
  | scale factor =>
    exact (coordinateText_avoids_number (h _ List.mem_cons_self)).bind fun _ _ => avoids_pure _

theorem transformAttribute_avoids_number {steps : List (TransformStep α)}
    (h : ∀ step ∈ steps, ∀ x ∈ step.numbers, Scalar.Finite x) :
    (transformAttribute steps).Avoids DrawingError.IsNumber := by
  unfold transformAttribute
  split
  · exact avoids_pure _
  · exact (Avoids.mapM fun step hstep => TransformStep.text_avoids_number (h step hstep)).bind
      fun _ _ => avoids_pure _

/-! ### Primitives -/

/-- What a drawing is made with is defined for finite numbers. -/
structure DrawingSettings.Defined (settings : DrawingSettings α) : Prop where
  measurer : settings.measurer.Defined
  trigonometry : settings.trigonometry.Defined

theorem Figure.of?_avoids_number {m : Measurer α} (hm : m.Defined) (family : Option String)
    {p : Primitive α} (h : Scalar.Finite p.attributes.fontSize) :
    (Figure.of? m family p).Avoids DrawingError.IsNumber := by
  unfold Figure.of?
  split
  case h_5 =>
    have hblock : (textBlock m family p).Avoids fun _ => True :=
      (hm.metrics _ _ h).bind fun _ _ => avoids_pure _
    exact (hblock.map _).mapError fun _ _ => trivial
  case h_7 => exact avoids_error not_false
  all_goals exact avoids_ok _

theorem primitiveElements_avoids_number {settings : DrawingSettings α}
    (hsettings : settings.Defined) {p : Primitive α} (hp : p.Drawable)
    (h : ∀ x ∈ numbersOf settings p, Scalar.Finite x) :
    (primitiveElements settings.trigonometry settings.measurer settings.fontFamily p).Avoids
      DrawingError.IsNumber := by
  obtain ⟨hdecoration, hfigure⟩ := List.forall_mem_append.mp h
  unfold primitiveElements
  refine Avoids.bind ?_ fun _ _ => ?_
  · cases hd : decoration? p with
    | none => exact avoids_pure _
    | some d =>
      refine (decorationElement_avoids_number fun x hx => hdecoration x ?_).map _
      rw [hd]
      exact List.mem_flatMap.mpr ⟨d, List.mem_singleton.mpr rfl, hx⟩
  · cases hof : Figure.of? settings.measurer settings.fontFamily p with
    | error e =>
      simp only [hof, List.forall_mem_singleton] at hfigure
      have he := Figure.of?_avoids_number hsettings.measurer settings.fontFamily hfigure
      exact avoids_error (he e hof)
    | ok figure =>
      refine Avoids.bind (avoids_ok _) fun _ hok => ?_
      obtain rfl := Except.ok.inj hok
      cases figure with
      | none => exact avoids_pure _
      | some f =>
        simp only [hof, List.forall_mem_append, List.forall_mem_flatMap] at hfigure
        obtain ⟨hnumbers, hsteps⟩ := hfigure
        have hsound := Figure.of?_sound hp hof
        exact (Figure.element_avoids_number hsettings.trigonometry hsound hnumbers).bind
          fun _ _ => (transformAttribute_avoids_number hsteps).bind fun _ _ => avoids_pure _

/-- The drawing of primitives that can be drawn fails with numbers only if one of its numbers is not
finite. -/
theorem svg_avoids_number {settings : DrawingSettings α} (hsettings : settings.Defined)
    {ps : List (Primitive α)} (hps : ∀ p ∈ ps, p.Drawable) {size : Pair α}
    (h : ∀ x ∈ size.numbers ++ ps.flatMap (numbersOf settings), Scalar.Finite x) :
    (svg settings ps size).Avoids DrawingError.IsNumber := by
  simp only [Pair.numbers, List.forall_mem_append, List.forall_mem_cons,
    List.forall_mem_flatMap] at h
  obtain ⟨⟨hwidth, hheight, -⟩, hnumbers⟩ := h
  refine Avoids.map ?_ _
  refine (coordinateText_avoids_number hwidth).bind fun _ _ => ?_
  refine (coordinateText_avoids_number hheight).bind fun _ _ => ?_
  have heach : (ps.mapM (primitiveElements settings.trigonometry settings.measurer
      settings.fontFamily)).Avoids DrawingError.IsNumber :=
    Avoids.mapM fun p hp => primitiveElements_avoids_number hsettings (hps p hp) (hnumbers p hp)
  exact heach.bind fun _ _ => avoids_pure _

end Drawing

end GridDiagram
