/-
  Selectors: where the style of a class applies.

  A modifier gives one part of a selector (`ModifierKind.part?`).  `Selector.compose` puts the parts
  together level by level: rules go around the selector, states of other elements before the class,
  conditions and parts of the element after it, and the arbitrary selectors take the result in the
  place of their marks.
-/
import UtilityStyle.Modifier.Reader

namespace UtilityStyle

open Text

/-- A selector with the rules around it. -/
structure Selector where
  /-- The outermost first. -/
  atRules : List String
  body : String
deriving DecidableEq

/-- A part of a selector. -/
inductive SelectorPart where
  /-- A rule around the selector. -/
  | atRule (text : String)
  /-- A state of an enclosing element, with the space after it. -/
  | ancestor (text : String)
  /-- A state of an earlier sibling, with the combinator after it. -/
  | sibling (text : String)
  /-- A condition on the element. -/
  | condition (text : String)
  | pseudoElement (text : String)
  /-- A selector with marks for the element's own. -/
  | template (text : String)
deriving DecidableEq

namespace SelectorPart

/-- The text of a rule. -/
def atRule? : SelectorPart → Option String
  | atRule text => some text
  | _ => none

/-- The text of a state of an enclosing element. -/
def ancestor? : SelectorPart → Option String
  | ancestor text => some text
  | _ => none

/-- The text of a state of an earlier sibling. -/
def sibling? : SelectorPart → Option String
  | sibling text => some text
  | _ => none

/-- The text of a condition. -/
def condition? : SelectorPart → Option String
  | condition text => some text
  | _ => none

/-- The text of a pseudo-element. -/
def pseudoElement? : SelectorPart → Option String
  | pseudoElement text => some text
  | _ => none

/-- The text of a template. -/
def template? : SelectorPart → Option String
  | template text => some text
  | _ => none

end SelectorPart

/-- The class that marks the other element of a relation. -/
def Relation.marker (relation : Relation) (name : Option String) : String :=
  let kind := match relation with
    | .group => "group"
    | .peer => "peer"
  match name with
  | some name => "." ++ Css.escapeIdentifier (kind ++ "/" ++ name)
  | none => "." ++ kind

/-- The part of a selector that a modifier gives. -/
def ModifierKind.part? (kind : ModifierKind) : Option SelectorPart :=
  match kind.atRule? with
  | some rule => some (.atRule rule)
  | none =>
    match kind with
    | related .group asked name =>
      (stateSelector? asked).map fun s => .ancestor (Relation.group.marker name ++ s ++ " ")
    | related .peer asked name =>
      (stateSelector? asked).map fun s => .sibling (Relation.peer.marker name ++ s ++ " ~ ")
    | arbitrary selector => some (.template selector)
    | pseudoElement _ => kind.suffix?.map .pseudoElement
    | _ => kind.suffix?.map .condition

namespace Selector

/-- The selector of a class alone. -/
def ofClass (className : String) : Selector := ⟨[], "." ++ Css.escapeIdentifier className⟩

/-- The selector of a class under some modifiers. -/
def compose (className : String) (ms : List Modifier) : Selector :=
  let parts := (Modifier.sorted ms).filterMap (·.kind.part?)
  let body :=
    String.join (parts.filterMap (·.ancestor?)) ++ String.join (parts.filterMap (·.sibling?)) ++
      (ofClass className).body ++
      String.join (parts.filterMap (·.condition?)) ++
      String.join (parts.filterMap (·.pseudoElement?))
  { atRules := parts.filterMap (·.atRule?)
    body := (parts.filterMap (·.template?)).foldl (fun s t => substitute '&' s t) body }

/-- CSS text: the rules with their braces around the selector. -/
def toCss (s : Selector) : String :=
  String.join (s.atRules.map (· ++ " \x7b ")) ++ s.body ++
    String.join (s.atRules.map fun _ => " \x7d")

end Selector

end UtilityStyle
