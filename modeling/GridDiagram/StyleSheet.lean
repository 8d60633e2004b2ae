import GridDiagram.Document

/-!
Style sheets: rules that give declarations to the elements they choose, and the cascade, in which
an element's own attributes win over rules with an id, those over the other rules, those over what
is inherited, and that over the defaults.
-/

namespace GridDiagram

/-- Why styles and rules make no style sheet. -/
inductive StyleError where
  | undefinedStyle (rule name : String)
  | structural (error : StructuralError)
  deriving DecidableEq, Repr

/-- A rule: what it asks of an element, what it asks of the element's ancestors (of the enclosing
rules, the innermost first), and what it declares. `position` counts the rules in the order of
their declaration, and `parent` is the position of the enclosing rule. -/
structure StyleRule (α : Type) where
  criteria : Criteria
  enclosing : List Criteria
  declarations : Properties α
  position : Nat
  parent : Option Nat

variable {α : Type}

/-- Some of the ancestors, which are given from the nearest to the root, fulfil the criteria one
after the other. -/
def enclosedBy : List Criteria → List (Element α) → Bool
  | [], _ => true
  | _ :: _, [] => false
  | c :: cs, a :: ancestors =>
    if c.admits a then enclosedBy cs ancestors else enclosedBy (c :: cs) ancestors

/-- A rule chooses an element below `ancestors`, which are given from the nearest to the root. -/
def StyleRule.chooses (r : StyleRule α) (e : Element α) (ancestors : List (Element α)) : Bool :=
  r.criteria.admits e && enclosedBy r.enclosing ancestors

/-- Styles by name, rules, and what holds for the elements of a tag where nothing else does. The
rules without an id come first; within both parts the order is that of the declaration. -/
structure StyleSheet (α : Type) where
  styles : List (String × Properties α)
  rules : List (StyleRule α)
  defaults : Tag → Properties α

namespace StyleSheet

/-- Reads the styles, each name once. -/
def readStyles : List (DiagramTree α) → Except StyleError (List (String × Properties α))
  | ts => ts.foldlM (fun styles t => do
      let style := t.value
      if style.kind ≠ .style then throw (.structural (.notStyle style.tag.name))
      let id := style.id.getD ""
      if (styles.lookup id).isSome then throw (.structural (.duplicateStyle id))
      return styles ++ [(id, style.attributes)]) []

/-- The declarations of a rule: those of the style that it refers to, overlaid with its own. -/
def readDeclarations (styles : List (String × Properties α)) (rule : Element α) :
    Except StyleError (Properties α) := do
  let own := rule.attributes.only fun a => a != .select && a != .style
  match rule.attributes.get? .style with
  | none => return own
  | some name =>
    match styles.lookup name with
    | none => throw (.undefinedStyle rule.label name)
    | some declarations => return declarations.merge own

/-- The rule that enclosing rules have on the way down: its position, and the criteria from its own
outwards. -/
structure Enclosure where
  parent : Option Nat
  criteria : List Criteria

mutual

/-- Reads a rule and those inside it, behind the rules `before`. -/
def readRule (styles : List (String × Properties α)) (outer : Enclosure)
    (before : List (StyleRule α)) : DiagramTree α → Except StyleError (List (StyleRule α))
  | .node e ts => do
    if e.kind ≠ .rule then throw (.structural (.notRule e.tag.name))
    let criteria ← (Criteria.ofRule e).mapError .structural
    let declarations ← readDeclarations styles e
    let rule : StyleRule α :=
      ⟨criteria, outer.criteria, declarations, before.length, outer.parent⟩
    readRules styles ⟨some before.length, criteria :: outer.criteria⟩ (before ++ [rule]) ts

/-- Reads rules in order, behind the rules `before`. -/
def readRules (styles : List (String × Properties α)) (outer : Enclosure)
    (before : List (StyleRule α)) : List (DiagramTree α) → Except StyleError (List (StyleRule α))
  | [] => .ok before
  | t :: ts => do
    let before ← readRule styles outer before t
    readRules styles outer before ts

end

/-- The style sheet of declared styles and rules. `defaults` overrides what holds for the elements
of a tag. -/
def ofDeclarations [Scalar α] (styles rules : List (DiagramTree α))
    (defaults : Tag → Properties α) : Except StyleError (StyleSheet α) := do
  let styles ← readStyles styles
  let rules ← readRules styles ⟨none, []⟩ [] rules
  return {
    styles
    rules := rules.filter (·.criteria.id.isNone) ++ rules.filter (·.criteria.id.isSome)
    defaults := fun tag => tag.defaults.merge (defaults tag) }

/-- The style of an element below `ancestors`, which are given from the nearest to the root. -/
def resolve (sheet : StyleSheet α) (e : Element α) (ancestors : List (Element α))
    (inherited : Properties α) : Properties α :=
  let declared := (sheet.rules.filter (·.chooses e ancestors)).flatMap (·.declarations)
  let styled := (sheet.defaults e.tag).merge ((inherited ++ declared).only e.tag.allows)
  styled.merge e.attributes

/-- What an element with a style passes on to the elements inside it. -/
def passedOn (style : Properties α) : Properties α :=
  Attribute.inherited.filterMap fun a => (style.get? a).map fun v => ⟨a, v⟩

mutual

def apply (sheet : StyleSheet α) (ancestors : List (Element α)) (inherited : Properties α) :
    DiagramTree α → DiagramTree α
  | .node e ts =>
    let style := sheet.resolve e ancestors inherited
    .node { e with style } (applyAll sheet (e :: ancestors) (passedOn style) ts)

/-- `apply` on several trees below one element. -/
def applyAll (sheet : StyleSheet α) (ancestors : List (Element α)) (inherited : Properties α) :
    List (DiagramTree α) → List (DiagramTree α)
  | [] => []
  | t :: ts => apply sheet ancestors inherited t :: applyAll sheet ancestors inherited ts

end

/-- The whole of a tree with its style at every element. -/
def styled (sheet : StyleSheet α) (t : DiagramTree α) : DiagramTree α :=
  sheet.apply [] [] t

end StyleSheet

namespace StyleError

/-- The wording of an error, without the place where it arose. -/
def reason : StyleError → String
  | undefinedStyle rule name =>
    "rule " ++ rule ++ " references undefined style \"" ++ name ++ "\""
  | structural error => error.reason

/-- The place where an error arose, if it is known. -/
def path? : StyleError → Option String
  | undefinedStyle _ _ => none
  | structural error => error.path?

end StyleError

end GridDiagram
