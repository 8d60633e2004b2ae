import GridDiagram.Proofs.Drawing.Bounds
import GridDiagram.Proofs.Drawing.Reserved
import Mathlib.Tactic.FieldSimp

/-!
Where the points of polygons and stars are. The corners lie on the ellipse that fills the box
without the line around it, and the inner points of a star on an ellipse of their own, which lies in
that box only if it is no higher.
-/

namespace GridDiagram

variable {α : Type} [ExactScalar α]

/-- The cosine and the sine of an angle have squares that sum to one. -/
def Trigonometry.OnCircle (t : Trigonometry α) : Prop :=
  ∀ angle u, t.circle angle = .ok u → u.x * u.x + u.y * u.y = 1

theorem Trigonometry.OnCircle.abs_le_one {t : Trigonometry α} (ht : t.OnCircle) {angle : α}
    {u : Pair α} (h : t.circle angle = .ok u) (axis : Axis) : |u.on axis| ≤ 1 := by
  have hsum := ht angle u h
  have hx := mul_self_nonneg u.x
  have hy := mul_self_nonneg u.y
  rw [abs_le_one_iff_mul_self_le_one]
  cases axis
  · show u.x * u.x ≤ 1
    linarith
  · show u.y * u.y ≤ 1
    linarith

namespace Drawing

variable {t : Trigonometry α}

/-! ### Points of ellipses -/

theorem pointAt_on {center radii q : Pair α} {angle : α}
    (h : pointAt t center radii angle = .ok q) :
    ∃ u, t.circle angle = .ok u ∧
      ∀ axis, q.on axis - center.on axis = radii.on axis * u.on axis := by
  simp only [pointAt, Except.bind_eq_ok, Except.pure_eq_ok] at h
  obtain ⟨u, hu, rfl⟩ := h
  refine ⟨u, hu, fun axis => ?_⟩
  cases axis <;> exact add_sub_cancel_left ..

/-- An ellipse lies in a box around its middle that is as wide and as high, or more so. -/
theorem holds_of_pointAt (ht : t.OnCircle) {b : Box α} {radii q : Pair α} {angle : α}
    (hradii : ∀ axis, |radii.on axis| ≤ b.extent axis / 2)
    (h : pointAt t b.center radii angle = .ok q) : b.Holds q := by
  obtain ⟨u, hu, hon⟩ := pointAt_on h
  refine Box.holds_iff.mpr fun axis => ?_
  rw [hon, abs_mul]
  calc |radii.on axis| * |u.on axis| ≤ |radii.on axis| * 1 := by
        gcongr
        exact ht.abs_le_one hu axis
    _ ≤ b.extent axis / 2 := by
        rw [mul_one]
        exact hradii axis

/-- The inner points of a star that are no further up and down than its corners are no further to
either side, not even where the corners are all on one level. -/
theorem abs_innerRadii_le {radii : Pair α} {stellate : α} (hradii : ∀ axis, 0 ≤ radii.on axis)
    (hstellate : 0 ≤ stellate) (hle : stellate ≤ radii.y) (axis : Axis) :
    |(innerRadii radii stellate).on axis| ≤ radii.on axis := by
  have hx : 0 ≤ radii.x := hradii .x
  have hy : 0 ≤ radii.y := hradii .y
  cases axis
  · simp only [innerRadii, Pair.on]
    split
    · rename_i hzero
      have hflat : radii.y = 0 := by simpa using hzero
      have hnone : stellate = 0 := le_antisymm (hflat ▸ hle) hstellate
      rwa [hnone, abs_zero]
    · rename_i hhigh
      have hpos : 0 < radii.y := hy.lt_of_ne' (by simpa using hhigh)
      rw [abs_of_nonneg (div_nonneg (mul_nonneg hstellate hx) hy), div_le_iff₀ hpos, mul_comm]
      exact mul_le_mul_of_nonneg_left hle hx
  · rwa [innerRadii, Pair.on, abs_of_nonneg hstellate]

/-! ### The points of a polygon -/

/-- The angle by which a polygon is turned so that it has a flat side at the bottom. -/
def flatOffset (pi : α) (vertices : Int) : α :=
  if vertices % 2 = 0 then pi / vertices else 0

theorem polygonPoints_ok {e : Ellipse α} {vertices : Int} {stellate : α} {points : List (Pair α)}
    (hvertices : 3 ≤ vertices) (h : polygonPoints t e vertices stellate = .ok points) :
    ∃ parts, points = parts.flatten ∧
      List.Forall₂ (fun k part => cornerPoints t e vertices (flatOffset t.pi vertices) stellate k =
        .ok part) (List.range vertices.toNat) parts := by
  unfold polygonPoints at h
  rw [if_neg (by omega), if_neg (by omega)] at h
  simp only [Except.bind_eq_ok, Except.pure_eq_ok, Except.mapM_eq_ok] at h
  obtain ⟨sides, hsides, parts, hparts, rfl⟩ := h
  have hcount : sides = vertices := by
    simp only [Scalar.ofBoundedInt] at hsides
    split at hsides
    · rw [← Except.ok.inj hsides, ExactScalar.ofInt_eq]
    · simp at hsides
  rw [hcount, ExactScalar.zero_eq] at hparts
  exact ⟨parts, rfl, hparts⟩

section Star

variable {e : Ellipse α} {sides offset stellate : α} {k : Nat} {part : List (Pair α)}
  (h : cornerPoints t e sides offset stellate k = .ok part)

include h

/-- Every point is a corner, or an inner point of a star. -/
theorem pointAt_of_mem {q : Pair α} (hq : q ∈ part) :
    ∃ angle, pointAt t e.center e.radii angle = .ok q ∨
      pointAt t e.center (innerRadii e.radii stellate) angle = .ok q := by
  simp only [cornerPoints, Except.bind_eq_ok] at h
  obtain ⟨corner, hcorner, h⟩ := h
  split at h
  · obtain rfl := Except.pure_eq_ok.mp h
    obtain rfl := List.mem_singleton.mp hq
    exact ⟨_, .inl hcorner⟩
  · simp only [Except.bind_eq_ok, Except.pure_eq_ok] at h
    obtain ⟨inner, hinner, rfl⟩ := h
    obtain rfl | hq := List.mem_cons.mp hq
    · exact ⟨_, .inl hcorner⟩
    · obtain rfl := List.mem_singleton.mp hq
      exact ⟨_, .inr hinner⟩

/-- A star has an inner point behind each corner, half the way to the next one. -/
theorem exists_inner (hstellate : stellate ≠ 0) :
    ∃ q ∈ part, pointAt t e.center (innerRadii e.radii stellate)
      (-t.pi / 2 + offset + 2 * t.pi * k / sides + t.pi / sides) = .ok q := by
  simp only [cornerPoints, Except.bind_eq_ok] at h
  obtain ⟨corner, -, h⟩ := h
  rw [if_neg (by simpa using hstellate)] at h
  simp only [Except.bind_eq_ok, Except.pure_eq_ok, ExactScalar.two_eq, ExactScalar.ofInt_eq,
    Int.cast_natCast] at h
  obtain ⟨inner, hinner, rfl⟩ := h
  exact ⟨inner, by simp, hinner⟩

end Star

/-- One of the inner points of a star is straight down: that behind the corner half the way round,
whose number is rounded down. -/
theorem exists_quarter (pi : α) {vertices : Int} (hvertices : 3 ≤ vertices) :
    ∃ k < vertices.toNat,
      -pi / 2 + flatOffset pi vertices + 2 * pi * (k : α) / vertices + pi / vertices = pi / 2 := by
  have hne : (vertices : α) ≠ 0 := by
    rw [Int.cast_ne_zero]
    omega
  unfold flatOffset
  split
  · rename_i heven
    obtain ⟨m, hm⟩ : ∃ m : Nat, vertices = 2 * (m + 1) := ⟨(vertices / 2 - 1).toNat, by omega⟩
    refine ⟨m, by omega, ?_⟩
    have hcast : (vertices : α) = 2 * (m + 1) := by
      rw [hm]
      push_cast
      ring
    rw [hcast] at hne ⊢
    field_simp
    ring
  · rename_i hodd
    obtain ⟨m, hm⟩ : ∃ m : Nat, vertices = 2 * m + 1 := ⟨(vertices / 2).toNat, by omega⟩
    refine ⟨m, by omega, ?_⟩
    have hcast : (vertices : α) = 2 * m + 1 := by
      rw [hm]
      push_cast
      ring
    rw [hcast] at hne ⊢
    field_simp
    ring

/-! ### Polygons in boxes -/

theorem Ellipse.inside_radii (b : Box α) (axis : Axis) :
    (Ellipse.inside b).radii.on axis = b.extent axis / 2 := by
  cases axis <;> simp [Ellipse.inside, Pair.on, Box.extent]

section Inside

variable {b : Box α} {vertices : Int} {stellate : α} {points : List (Pair α)}
  (hvertices : 3 ≤ vertices) (hstellate : 0 ≤ stellate)
  (h : polygonPoints t (Ellipse.inside b) vertices stellate = .ok points)

include hvertices hstellate h

/-- A polygon lies in its box if its inner points are no further up and down than its corners. -/
theorem holds_polygonPoints (ht : t.OnCircle) (hb : ∀ axis, 0 ≤ b.extent axis)
    (hle : stellate ≤ b.height / 2) : ∀ q ∈ points, b.Holds q := by
  have hradii : ∀ axis, 0 ≤ (Ellipse.inside b).radii.on axis := fun axis => by
    rw [Ellipse.inside_radii]
    exact div_nonneg (hb axis) zero_le_two
  obtain ⟨parts, rfl, hparts⟩ := polygonPoints_ok hvertices h
  intro q hq
  obtain ⟨part, hpart, hq⟩ := List.mem_flatten.mp hq
  obtain ⟨k, -, hk⟩ := hparts.exists_left hpart
  obtain ⟨angle, hcorner | hinner⟩ := pointAt_of_mem hk hq
  · refine holds_of_pointAt ht (fun axis => ?_) hcorner
    rw [abs_of_nonneg (hradii axis), Ellipse.inside_radii]
  · refine holds_of_pointAt ht (fun axis => ?_) hinner
    rw [← Ellipse.inside_radii]
    exact abs_innerRadii_le hradii hstellate (hle.trans_eq (Ellipse.inside_radii b .y).symm) axis

/-- A polygon with inner points further down than its corners does not lie in its box: the inner
point that is straight down is below it. -/
theorem stellate_le_of_holds (hquarter : t.circle (t.pi / 2) = .ok ⟨0, 1⟩)
    (hb : 0 ≤ b.height) (hholds : ∀ q ∈ points, b.Holds q) : stellate ≤ b.height / 2 := by
  rcases hstellate.eq_or_lt with rfl | hpos
  · exact div_nonneg hb zero_le_two
  obtain ⟨parts, rfl, hparts⟩ := polygonPoints_ok hvertices h
  obtain ⟨k, hk, hangle⟩ := exists_quarter t.pi hvertices
  obtain ⟨part, hpart, hpoints⟩ := hparts.exists_right (List.mem_range.mpr hk)
  obtain ⟨q, hq, hinner⟩ := exists_inner hpoints hpos.ne'
  rw [hangle] at hinner
  obtain ⟨u, hu, hon⟩ := pointAt_on hinner
  obtain rfl := Except.ok.inj (hquarter.symm.trans hu)
  have hlow := Box.holds_iff.mp (hholds q (List.mem_flatten.mpr ⟨part, hpart, hq⟩)) .y
  have hdown : q.on .y - b.center.on .y = stellate := (hon .y).trans (mul_one _)
  rw [hdown, abs_of_pos hpos] at hlow
  exact hlow

end Inside

/-! ### Polygons of a layout -/

section Leaf

variable {settings : LayoutSettings α} {e : Element α} {center content drawn : Pair α}
  {p : Primitive α}

theorem vertices_of_leaf (h : p.Leaf settings e center content drawn) :
    3 ≤ (RegularPolygon.of p).vertices := by
  rw [RegularPolygon.of, h.attributes]
  exact h.styled.getD (a := .vertices) (Q := fun n : Int => 3 ≤ n) (fun _ hv => hv (by decide))
    (show (3 : Int) ≤ 4 by decide)

theorem stellate_of_leaf (h : p.Leaf settings e center content drawn) :
    0 ≤ (RegularPolygon.of p).stellate := by
  rw [RegularPolygon.of, h.attributes]
  exact h.styled.getD (a := .stellate) (Q := fun x : α => 0 ≤ x)
    (fun _ hv => Scalar.nonneg_of_not_lt (hv (by decide))) (by simp)

/-- The inside of a shape lies in the box of its primitive. -/
theorem holds_of_innerBox (h : p.Leaf settings e center content drawn) (hkind : e.kind = .shape)
    {q : Pair α} (hq : (innerBox p).Holds q) : p.box.Holds q := by
  rw [← (fillsShape h hkind).box]
  refine hq.widened (div_nonneg ?_ zero_le_two)
  rw [Paint.lineWidth_of, h.attributes]
  exact h.styled.strokeExtent_nonneg

end Leaf

/-- The points of every polygon in a layout lie in its box without half the line around it, and its
bounds cover them where they are drawn, if the inner points are at most half the height of that box
above and below its middle. The layout has no room for inner points further out, and one of those is
straight down. -/
theorem layout_polygons_inside (settings : LayoutSettings α) (t : DiagramTree α)
    (ht : t.Styled Attribute.Ranged) (hcircle : settings.trigonometry.OnCircle)
    (size : Option (Pair α)) (l : Layout α) (h : layout settings t size = .ok l) :
    ∃ ps, Primitive.ofTree l.tree = .ok ps ∧ ∀ p ∈ ps, p.kind = .polygon →
      ∀ points, (RegularPolygon.of p).points settings.trigonometry = .ok points →
      ((RegularPolygon.of p).stellate ≤ (innerBox p).height / 2 →
        (∀ q ∈ points, (innerBox p).Holds q) ∧
        ∀ q ∈ points, ∃ q', applySteps settings.trigonometry (transformSteps p) q = .ok q' ∧
          p.bounds.Holds q') ∧
      (settings.trigonometry.circle (settings.trigonometry.pi / 2) = .ok ⟨0, 1⟩ →
        (∀ q ∈ points, (innerBox p).Holds q) →
        (RegularPolygon.of p).stellate ≤ (innerBox p).height / 2) := by
  obtain ⟨ps, hps, hleaves⟩ := layout_leaves ht h
  refine ⟨ps, hps, fun p hp hkind points hpoints => ?_⟩
  obtain ⟨e, center, content, drawn, hleaf⟩ := hleaves p hp (by simp [hkind])
  have hshape : e.kind = .shape := by
    obtain ⟨hshape, -⟩ | ⟨-, htext⟩ | ⟨-, hpath⟩ := leaf_kinds hleaf (by simp [hkind])
    · exact hshape
    · simp [hkind] at htext
    · simp [hkind] at hpath
  have hextent : ∀ axis, 0 ≤ (innerBox p).extent axis := fun axis => by
    rw [innerBox, Box.extent_shrink]
    exact le_max_right ..
  refine ⟨fun hle => ?_, fun hquarter hholds => ?_⟩
  · have hholds := holds_polygonPoints (vertices_of_leaf hleaf) (stellate_of_leaf hleaf) hpoints
      hcircle hextent hle
    exact ⟨hholds, fun q hq =>
      exists_applySteps hleaf (holds_of_innerBox hleaf hshape (hholds q hq))⟩
  · exact stellate_le_of_holds (vertices_of_leaf hleaf) (stellate_of_leaf hleaf) hpoints hquarter
      (hextent .y) hholds

/-- The source of a star in a square of width 10. -/
def starMarkup (stellate : String) : MarkupTree :=
  .node { tag := "diagram" }
    [.node { tag := "polygon", attributes :=
      [("width", "10"), ("stroke", "none"), ("stellate", stellate)] } []]

theorem eighthTurn_onCircle : eighthWorld.trigonometry.OnCircle := by
  intro angle u h
  obtain rfl := Except.ok.inj h
  unfold eighthTurn
  split_ifs <;> norm_num

theorem starMarkup_polygons_inside : ∃ t l ps, preparedTree (starMarkup "3") = .ok t ∧
    layout (rowOptions.layoutSettings eighthWorld) t none = .ok l ∧
    Primitive.ofTree l.tree = .ok ps ∧ ∃ p ∈ ps, p.kind = .polygon ∧
      (RegularPolygon.of p).stellate = 3 ∧ innerBox p = ⟨0, 0, 10, 10⟩ ∧
      ∃ points, (RegularPolygon.of p).points eighthWorld.trigonometry = .ok points ∧
        points.length = 8 ∧ ∀ q ∈ points, (innerBox p).Holds q := by
  have hany : (drawnPrimitives (starMarkup "3")).toOption.any (fun ps =>
      decide (∃ p ∈ ps, p.kind = .polygon ∧ (RegularPolygon.of p).stellate = 3 ∧
        innerBox p = ⟨0, 0, 10, 10⟩ ∧
        ((RegularPolygon.of p).points eighthWorld.trigonometry).toOption.any fun points =>
          decide (points.length = 8))) = true := by
    decide +kernel
  obtain ⟨ps, hps, p, hp, hkind, hstellate, hbox, hpoints⟩ := Except.exists_ok_of_any hany
  obtain ⟨points, hpoints, hlength⟩ := Except.exists_ok_of_any hpoints
  obtain ⟨t, l, ht, hl, hps⟩ := drawnPrimitives_ok hps
  obtain ⟨ps', hps', hall⟩ := layout_polygons_inside _ t (preparedTree_prepared ht).ranged
    eighthTurn_onCircle none l hl
  obtain rfl := Except.ok.inj (hps.symm.trans hps')
  have hinside := (hall p hp hkind points hpoints).1 (by rw [hstellate, hbox]; norm_num)
  exact ⟨t, l, ps, ht, hl, hps, p, hp, hkind, hstellate, hbox, points, hpoints, hlength, hinside.1⟩

/-- With inner points 20 above and below its middle the star leaves its box and its bounds. -/
theorem starMarkup_not_inside : eighthWorld.trigonometry.OnCircle ∧
    ∃ t l ps, preparedTree (starMarkup "20") = .ok t ∧
      layout (rowOptions.layoutSettings eighthWorld) t none = .ok l ∧
      Primitive.ofTree l.tree = .ok ps ∧
      ∃ p ∈ ps, p.kind = .polygon ∧ p.rotation = 0 ∧ p.scale = 1 ∧
        ∃ points, (RegularPolygon.of p).points eighthWorld.trigonometry = .ok points ∧
          ∃ q ∈ points, ¬(innerBox p).Holds q ∧ ¬p.bounds.Holds q := by
  have hany : (drawnPrimitives (starMarkup "20")).toOption.any (fun ps =>
      decide (∃ p ∈ ps, p.kind = .polygon ∧ p.rotation = 0 ∧ p.scale = 1 ∧
        innerBox p = ⟨0, 0, 10, 10⟩ ∧ p.bounds = ⟨0, 0, 10, 10⟩ ∧
        ((RegularPolygon.of p).points eighthWorld.trigonometry).toOption.any fun points =>
          decide (⟨5, 25⟩ ∈ points))) = true := by
    decide +kernel
  obtain ⟨ps, hps, p, hp, hkind, hrotation, hscale, hbox, hbounds, hpoints⟩ :=
    Except.exists_ok_of_any hany
  obtain ⟨points, hpoints, hq⟩ := Except.exists_ok_of_any hpoints
  obtain ⟨t, l, ht, hl, hps⟩ := drawnPrimitives_ok hps
  have hout : ¬(⟨0, 0, 10, 10⟩ : Box Rat).Holds ⟨5, 25⟩ := by
    intro hholds
    have hlow : (25 : Rat) ≤ 0 + 10 := (hholds .y).2
    norm_num at hlow
  refine ⟨eighthTurn_onCircle, t, l, ps, ht, hl, hps, p, hp, hkind, hrotation, hscale, points,
    hpoints, _, hq, ?_, ?_⟩
  · rwa [hbox]
  · rwa [hbounds]

end Drawing

end GridDiagram
