import GridDiagram.Proofs.Correspondence
import GridDiagram.Proofs.Document.WellFormed
import GridDiagram.Proofs.Text
import GridDiagram.Source

/-!
What becomes of the character data of a source. What stands in an element in front of its first
child is kept in the lines of a text, and refused in any other element that is part of a document.
What stands directly in the root or in a list of templates, or behind the end of any element, makes
no difference to the document.
-/

namespace GridDiagram

variable {α : Type} [Scalar α]

/-! ### Elements -/

namespace Markup

theorem addXmlAttribute_keeps (m : Markup) (name value : String) :
    (m.addXmlAttribute name value).tag = m.tag ∧
      (m.addXmlAttribute name value).lines = m.lines := by
  unfold addXmlAttribute
  split <;> exact ⟨rfl, rfl⟩

theorem ofXml_keeps (x : XmlElement) :
    (ofXml x).tag = x.name ∧ (ofXml x).lines = Text.lines x.text := by
  refine List.foldlRecOn (motive := fun m : Markup => m.tag = x.name ∧ m.lines = Text.lines x.text)
    x.attributes _ ⟨rfl, rfl⟩ fun m hm a _ => ?_
  obtain ⟨htag, hlines⟩ := m.addXmlAttribute_keeps a.1 a.2
  exact ⟨htag.trans hm.1, hlines.trans hm.2⟩

/-- The element without any text of its own. -/
def withoutLines (m : Markup) : Markup :=
  { m with lines := [] }

@[simp] theorem tag_withoutLines (m : Markup) : m.withoutLines.tag = m.tag := rfl

theorem addXmlAttribute_withoutLines (m : Markup) (name value : String) :
    m.withoutLines.addXmlAttribute name value = (m.addXmlAttribute name value).withoutLines := by
  unfold addXmlAttribute
  split <;> rfl

end Markup

/-- An element stands for an XML element of its name, whose text it has in its lines: all characters
but blanks, in order. Only a text has any. -/
structure Element.Keeps (x : XmlElement) (e : Element α) : Prop where
  name : e.tag.name = x.name
  lines : e.lines = Text.lines x.text
  characters : (e.lines.flatMap String.toList).filter (!Text.isBlank ·) =
    x.text.toList.filter (!Text.isBlank ·)
  silent : x.name ≠ "text" → Text.isBlankText x.text = true

omit [Scalar α] in
theorem Tag.name_of_ofName? {s : String} {tag : Tag} (h : ofName? s = some tag) :
    tag.name = s := by
  simpa using List.find?_some h

theorem Element.ofMarkup_keeps {x : XmlElement} {children : List Markup} {e : Element α}
    (h : ofMarkup (.ofXml x) children = .ok e) : Element.Keeps x e := by
  obtain ⟨htag, hlines⟩ := Markup.ofXml_keeps x
  simp only [ofMarkup] at h
  split at h
  · rename_i tag hname
    simp only [Except.bind_eq_ok, refuse_eq_ok, Except.mapError_eq_ok, Except.pure_eq_ok,
      exists_and_left, exists_const] at h
    obtain ⟨placement, -, -, ps, -, _, hcheck, rfl⟩ := h
    obtain ⟨-, -, -, -, htext⟩ := check_eq_ok hcheck
    rw [htag] at hname
    have hnamed := Tag.name_of_ofName? hname
    refine ⟨hnamed, hlines, ?_, fun hother => ?_⟩
    · rw [show _ = Text.lines x.text from hlines, Text.characters_lines]
    · have hkind : tag.kind ≠ .text := by
        intro hkind
        apply hother
        rw [← hnamed]
        cases tag <;> first | rfl | cases hkind
      have hnone : Text.lines x.text = [] := by
        rw [← hlines]
        simpa [Element.kind, hkind] using htext
      exact List.all_eq_true.mpr (Text.lines_eq_nil_iff.mp hnone)
  · simp at h

theorem DiagramTree.ofMarkup_keeps {x : XmlTree} {t : DiagramTree α}
    (h : ofMarkup (.ofXml x) = .ok t) : Tree.Related Element.Keeps x t := by
  induction x using Tree.induct generalizing t with
  | step x xs ih =>
    rw [MarkupTree.ofXml, Tree.map_node, Tree.mapAll_eq_map] at h
    obtain ⟨e, trees, rfl, he, htrees⟩ := ofMarkup_node h
    rw [Tree.related_node]
    refine ⟨Element.ofMarkup_keeps he, ?_⟩
    exact (List.forall₂_map_left_iff.mp htrees).imp_of_mem fun x hx t ht => ih x hx ht.1

/-! ### Documents -/

/-- The documents that elements directly below the root make: with their trees in order, each where
its name says. -/
structure Document.ReadFrom (xs : List XmlTree) (d : Document α) : Prop where
  nodes : List.Forall₂ (Tree.Related Element.Keeps)
    (xs.filter (·.value.name ∉ ["defs", "style", "rule"])) d.root.children
  templates : List.Forall₂ (Tree.Related Element.Keeps)
    ((xs.filter (·.value.name = "defs")).flatMap Tree.children) d.templates
  styles : List.Forall₂ (Tree.Related Element.Keeps) (xs.filter (·.value.name = "style")) d.styles
  rules : List.Forall₂ (Tree.Related Element.Keeps) (xs.filter (·.value.name = "rule")) d.rules

omit [Scalar α] in
theorem Tag.kind_eq_style_iff {tag : Tag} : tag.kind = .style ↔ tag.name = "style" := by
  cases tag <;> decide

omit [Scalar α] in
theorem Tag.kind_eq_rule_iff {tag : Tag} : tag.kind = .rule ↔ tag.name = "rule" := by
  cases tag <;> decide

namespace Document

theorem readTemplate_keeps {x : XmlTree} {t : DiagramTree α} (h : readTemplate (.ofXml x) = .ok t) :
    Tree.Related Element.Keeps x t := by
  simp only [readTemplate, Except.bind_eq_ok, Except.pure_eq_ok, refuse_eq_ok, exists_and_left,
    exists_const] at h
  obtain ⟨t, ht, -, -, rfl⟩ := h
  exact DiagramTree.ofMarkup_keeps ht

/-- A style, a rule, and a part of the diagram come behind what is in their own list each. -/
theorem ReadFrom.add {xs : List XmlTree} {x : XmlTree} {d d' : Document α} (hd : d.ReadFrom xs)
    (h : d.add (.ofXml x) = .ok d') : d'.ReadFrom (xs ++ [x]) := by
  have hname : (MarkupTree.ofXml x).value.tag = x.value.name := by
    obtain ⟨x, xs⟩ := x
    rw [MarkupTree.ofXml, Tree.map_node]
    exact (Markup.ofXml_keeps x).1
  rw [Document.add, hname] at h
  split at h
  · rename_i hdefs
    simp only [Except.bind_eq_ok, Except.pure_eq_ok, Except.mapM_eq_ok] at h
    obtain ⟨ts, hts, rfl⟩ := h
    have hchildren : (MarkupTree.ofXml x).children = x.children.map MarkupTree.ofXml := by
      obtain ⟨x, xs⟩ := x
      rw [MarkupTree.ofXml, Tree.map_node, Tree.mapAll_eq_map]
      rfl
    rw [hchildren, List.forall₂_map_left_iff] at hts
    have hread := hts.imp fun _ _ => readTemplate_keeps
    constructor <;> simp only [List.filter_append, List.filter_cons, List.filter_nil, hdefs]
    · simpa using hd.nodes
    · simpa using List.rel_append hd.templates hread
    · simpa using hd.styles
    · simpa using hd.rules
  · rename_i hdefs
    simp only [Except.bind_eq_ok] at h
    obtain ⟨t, ht, h⟩ := h
    have hread := DiagramTree.ofMarkup_keeps ht
    have hstyle : t.value.kind = .style ↔ x.value.name = "style" := by
      rw [← hread.value.name]
      exact Tag.kind_eq_style_iff
    have hrule : t.value.kind = .rule ↔ x.value.name = "rule" := by
      rw [← hread.value.name]
      exact Tag.kind_eq_rule_iff
    have hone : List.Forall₂ (Tree.Related Element.Keeps) [x] [t] := .cons hread .nil
    split at h <;> obtain rfl := Except.pure_eq_ok.mp h
    · rename_i hkind
      have hnamed := hstyle.mp hkind
      constructor <;> simp only [List.filter_append, List.filter_cons, List.filter_nil, hnamed]
      · simpa using hd.nodes
      · simpa using hd.templates
      · simpa using List.rel_append hd.styles hone
      · simpa using hd.rules
    · rename_i hkind
      have hnamed := hrule.mp hkind
      constructor <;> simp only [List.filter_append, List.filter_cons, List.filter_nil, hnamed]
      · simpa using hd.nodes
      · simpa using hd.templates
      · simpa using hd.styles
      · simpa using List.rel_append hd.rules hone
    · rename_i hnostyle hnorule
      have hother := mt hstyle.mpr hnostyle
      have hother' := mt hrule.mpr hnorule
      constructor <;> simp only [List.filter_append, List.filter_cons, List.filter_nil]
      · simpa [hdefs, hother, hother'] using List.rel_append hd.nodes hone
      · simpa [hdefs] using hd.templates
      · simpa [hother] using hd.styles
      · simpa [hother'] using hd.rules

theorem readFrom_ofMarkup {x : XmlTree} {d : Document α} (h : ofMarkup (.ofXml x) = .ok d) :
    d.ReadFrom x.children := by
  obtain ⟨x, xs⟩ := x
  simp only [MarkupTree.ofXml, Tree.map_node, Tree.mapAll_eq_map, ofMarkup, Except.bind_eq_ok,
    refuse_eq_ok, exists_and_left, exists_const, Tree.children_node, List.foldlM_map] at h
  obtain ⟨-, -, -, ps, -, h⟩ := h
  have start : ∀ e : Element α, ReadFrom [] { root := .node e [] } :=
    fun e => by constructor <;> exact .nil
  exact Except.foldlM_read (P := ReadFrom) h (start _) fun before x _ d d' hd hadd => hd.add hadd

end Document

/-! ### Character data that is dropped -/

namespace XmlElement

/-- The element without the character data behind its end. -/
def withoutTail (x : XmlElement) : XmlElement :=
  { x with tail := "" }

/-- The element without the character data directly in it and behind its end. -/
def silent (x : XmlElement) : XmlElement :=
  { x with text := "", tail := "" }

end XmlElement

namespace XmlTree

/-- A tree below the root without the character data behind the end of any element, and, if it is a
list of templates, without that in front of the first of them. -/
def mutePart : XmlTree → XmlTree
  | .node x xs =>
    .node (if x.name = "defs" then x.silent else x.withoutTail)
      (xs.map (Tree.map XmlElement.withoutTail))

/-- A source without the character data for which a document has no place and no error. -/
def mute : XmlTree → XmlTree
  | .node x xs => .node x.silent (xs.map mutePart)

/-- What stands directly below the root or in a list of templates there. -/
def parts (t : XmlTree) : List XmlTree :=
  t.children.flatMap fun x => if x.value.name = "defs" then x.children else [x]

end XmlTree

theorem Markup.ofXml_silent (x : XmlElement) : ofXml x.silent = (ofXml x).withoutLines := by
  let add (m : Markup) (a : String × String) : Markup := m.addXmlAttribute a.1 a.2
  have hadd (m : Markup) (a : String × String) : add m.withoutLines a = (add m a).withoutLines :=
    m.addXmlAttribute_withoutLines a.1 a.2
  have hfold (m : Markup) : x.attributes.foldl add m.withoutLines =
      (x.attributes.foldl add m).withoutLines :=
    List.foldl_hom withoutLines hadd
  exact hfold { tag := x.name, lines := Text.lines x.text }

theorem MarkupTree.ofXml_withoutTail (t : XmlTree) :
    ofXml (t.map XmlElement.withoutTail) = ofXml t :=
  Tree.map_map ..

namespace Document

theorem add_mutePart (d : Document α) (x : XmlTree) :
    d.add (.ofXml x.mutePart) = d.add (.ofXml x) := by
  obtain ⟨x, xs⟩ := x
  have hbelow : (xs.map (Tree.map XmlElement.withoutTail)).map (Tree.map Markup.ofXml) =
      xs.map (Tree.map Markup.ofXml) := by
    rw [List.map_map]
    exact List.map_congr_left fun x _ => MarkupTree.ofXml_withoutTail x
  simp only [XmlTree.mutePart, MarkupTree.ofXml, Tree.map_node, Tree.mapAll_eq_map, hbelow]
  split
  · rename_i hdefs
    have htag : (Markup.ofXml x).tag = "defs" := (Markup.ofXml_keeps x).1.trans hdefs
    simp only [Markup.ofXml_silent, add, Tree.value_node, Markup.tag_withoutLines, htag, if_true,
      Tree.children_node]
  · rfl

theorem ofMarkup_mute (t : XmlTree) :
    ofMarkup (α := α) (.ofXml t.mute) = ofMarkup (.ofXml t) := by
  obtain ⟨x, xs⟩ := t
  simp only [XmlTree.mute, MarkupTree.ofXml, Tree.map_node, Tree.mapAll_eq_map, ofMarkup,
    Markup.ofXml_silent, Tree.value_node, Tree.children_node, List.foldlM_map]
  have hadd : (fun (d : Document α) x => d.add (Tree.map Markup.ofXml (XmlTree.mutePart x))) =
      fun d x => d.add (Tree.map Markup.ofXml x) :=
    funext fun d => funext fun x => add_mutePart d x
  rw [hadd]
  rfl

omit [Scalar α] in
/-- Each part of a source is one of the trees that its document is read from. -/
theorem ReadFrom.exists_related {t p : XmlTree} {d : Document α} (h : d.ReadFrom t.children)
    (hp : p ∈ t.parts) : ∃ u : DiagramTree α, Tree.Related Element.Keeps p u := by
  obtain ⟨x, hx, hp⟩ := List.mem_flatMap.mp hp
  split at hp
  · rename_i hdefs
    have hmem : p ∈ (t.children.filter (·.value.name = "defs")).flatMap Tree.children :=
      List.mem_flatMap.mpr ⟨x, List.mem_filter.mpr ⟨hx, by simpa using hdefs⟩, hp⟩
    obtain ⟨u, -, hu⟩ := h.templates.exists_right hmem
    exact ⟨u, hu⟩
  · rename_i hdefs
    obtain rfl := List.mem_singleton.mp hp
    by_cases hstyle : p.value.name = "style"
    · obtain ⟨u, -, hu⟩ := h.styles.exists_right (List.mem_filter.mpr ⟨hx, by simpa using hstyle⟩)
      exact ⟨u, hu⟩
    · by_cases hrule : p.value.name = "rule"
      · obtain ⟨u, -, hu⟩ := h.rules.exists_right (List.mem_filter.mpr ⟨hx, by simpa using hrule⟩)
        exact ⟨u, hu⟩
      · obtain ⟨u, -, hu⟩ := h.nodes.exists_right
          (List.mem_filter.mpr ⟨hx, by simp [hdefs, hstyle, hrule]⟩)
        exact ⟨u, hu⟩

/-- Character data in front of the children of an element is refused in whatever is part of a
document, unless the element is a text, which keeps it. All other character data is dropped: the
document, or the error, is that of the source without it. -/
theorem ofMarkup_text (t : XmlTree) :
    ((∃ p ∈ t.parts, ∃ x ∈ p.preorder, x.name ≠ "text" ∧ Text.isBlankText x.text = false) →
      ∃ e, ofMarkup (α := α) (.ofXml t) = .error e) ∧
    (∀ d : Document α, ofMarkup (.ofXml t) = .ok d → d.ReadFrom t.children) ∧
    ofMarkup (α := α) (.ofXml t.mute) = ofMarkup (.ofXml t) := by
  refine ⟨?_, fun d hd => readFrom_ofMarkup hd, ofMarkup_mute t⟩
  rintro ⟨p, hp, x, hx, hname, htext⟩
  cases hread : ofMarkup (α := α) (.ofXml t) with
  | error e => exact ⟨e, rfl⟩
  | ok d =>
    obtain ⟨u, hu⟩ := (readFrom_ofMarkup hread).exists_related hp
    obtain ⟨e, -, hkeeps⟩ := hu.preorder.exists_right hx
    rw [hkeeps.silent hname] at htext
    cases htext

/-- A diagram of one element with character data in and behind it. -/
def captioned (name : String) : XmlTree :=
  .node { name := "diagram" } [.node { name, text := " one\n\n two ", tail := "stray" } []]

theorem captioned_text :
    (∃ e, ofMarkup (α := Float) (.ofXml (captioned "rect")) = .error e) ∧
    (∃ d : Document Float, ofMarkup (.ofXml (captioned "text")) = .ok d ∧
      d.root.children.flatMap (·.preorder.map (·.lines)) = [["one", "two"]] ∧
      d.ReadFrom (captioned "text").children) ∧
    ofMarkup (α := Float) (.ofXml (captioned "text").mute) =
      ofMarkup (.ofXml (captioned "text")) := by
  refine ⟨(ofMarkup_text (captioned "rect")).1 ?_, ?_, (ofMarkup_text (captioned "text")).2.2⟩
  · exact ⟨_, List.mem_singleton_self _, _, List.mem_singleton_self _, by decide, by decide⟩
  · have hany : (ofMarkup (α := Float) (.ofXml (captioned "text"))).toOption.any (fun d => decide
        (d.root.children.flatMap (·.preorder.map (·.lines)) = [["one", "two"]])) = true := by
      decide +kernel
    obtain ⟨d, hd, hlines⟩ := Except.exists_ok_of_any hany
    exact ⟨d, hd, hlines, (ofMarkup_text (captioned "text")).2.1 d hd⟩

/-- A diagram with character data behind its only element. -/
def strayTree : XmlTree :=
  .node { name := "diagram" } [.node { name := "rect", tail := "stray" } []]

theorem strayTree_dropped :
    (Xml.parse "<diagram><rect/>stray</diagram>").toOption.map Tree.preorder =
      some strayTree.preorder ∧
    (∃ x ∈ strayTree.preorder, Text.isBlankText x.tail = false) ∧
    ∃ d : Document Float, ofMarkup (.ofXml strayTree) = .ok d := by
  refine ⟨by decide +kernel, by decide +kernel, Except.exists_of_isOk (by decide +kernel)⟩

end Document

end GridDiagram
