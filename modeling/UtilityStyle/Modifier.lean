/-
  Modifiers: the conditions under which a utility applies.

  * `ModifierKind`: what a modifier asks for, and `Modifier`: a kind with the text it was read
    from;
  * `Level`: the place of a modifier in a selector, and `Modifier.sorted`: modifiers by level;
  * `ModifierKind.atRule?` and `ModifierKind.suffix?`: the CSS of a modifier, as a rule around the
    selector or as a suffix to it.
-/
import UtilityStyle.Css.Identifier
import UtilityStyle.Utility.Scale

namespace UtilityStyle

open Text

/-! ## Kinds -/

/-- The other elements whose state a modifier may ask for. -/
inductive Relation where
  /-- An enclosing element. -/
  | group
  /-- An earlier sibling. -/
  | peer
deriving DecidableEq, Repr

/-- What the position of an element is counted among. -/
inductive Counting where
  /-- All children. -/
  | child
  /-- The children of one type. -/
  | ofType
  /-- The children of one type, from the last. -/
  | lastOfType
deriving DecidableEq, Repr

/-- The groups of attributes with a name of their own. -/
inductive AttributeGroup where
  | data
  | aria
deriving DecidableEq, Repr

/-- What a modifier asks for. -/
inductive ModifierKind where
  /-- A screen from a named width on, or below it. -/
  | screen (width : String) (below : Bool)
  /-- A screen from a width on, or below it. -/
  | viewport (width : String) (below : Bool)
  /-- A container from a width on. -/
  | container (width : String) (name : Option String)
  /-- A feature of the medium or of the browser. -/
  | media (name query : String)
  | dark
  /-- Reduced motion, or motion that is not reduced. -/
  | motion (reduced : Bool)
  /-- A state of another element, which may be marked by a name. -/
  | related (relation : Relation) (state : String) (name : Option String)
  /-- An interaction with the element. -/
  | pseudoClass (name : String)
  /-- A state of the element. -/
  | state (name : String)
  /-- A place of the element among its siblings. -/
  | place (name : String)
  /-- A counted place of the element among its siblings. -/
  | nth (counting : Counting) (formula : String)
  /-- An attribute of a group, which may be asked to have a value. -/
  | grouped (group : AttributeGroup) (name : String) (value : Option String)
  /-- Any condition on the element as a selector. -/
  | condition (selector : String)
  | pseudoElement (name : String)
  /-- A selector with a mark for the element's own, or a whole at-rule. -/
  | arbitrary (selector : String)
  | unknown
deriving DecidableEq

/-- A modifier. -/
structure Modifier where
  /-- The modifier as it was written, without the colon. -/
  raw : String
  kind : ModifierKind
deriving DecidableEq

/-! ## Levels -/

/-- The levels of modifiers, from the outermost part of a selector to the innermost. -/
inductive Level where
  | screen
  | medium
  | relation
  | element
  | pseudoElement
  | arbitrary
  | unknown
deriving DecidableEq, Repr

namespace Level

/-- The levels in their order. -/
def all : List Level := [screen, medium, relation, element, pseudoElement, arbitrary, unknown]

/-- The number of a level. -/
def priority : Level → Nat
  | screen => 1
  | medium => 2
  | relation => 3
  | element => 4
  | pseudoElement => 5
  | arbitrary => 6
  | unknown => 99

end Level

/-- The level of a kind. -/
def ModifierKind.level : ModifierKind → Level
  | screen .. | viewport .. | container .. => .screen
  | media .. | dark | motion .. => .medium
  | related .. => .relation
  | pseudoClass .. | state .. | place .. | nth .. | grouped .. | condition .. => .element
  | pseudoElement .. => .pseudoElement
  | arbitrary .. => .arbitrary
  | unknown => .unknown

namespace Modifier

/-- The level of a modifier. -/
def level (m : Modifier) : Level := m.kind.level

/-- The modifiers level by level, those of one level in the order in which they were written. -/
def sorted (ms : List Modifier) : List Modifier :=
  Level.all.flatMap fun level => ms.filter (·.level = level)

end Modifier

/-! ## Tables -/

/-- The interactions. -/
def pseudoClasses : List String := [
  "hover", "focus", "focus-visible", "focus-within", "active", "visited", "target"]

/-- The states of elements, with their selectors. -/
def elementStates : List (String × String) := [
  ("disabled", ":disabled"),
  ("enabled", ":enabled"),
  ("checked", ":checked"),
  ("indeterminate", ":indeterminate"),
  ("default", ":default"),
  ("required", ":required"),
  ("optional", ":optional"),
  ("valid", ":valid"),
  ("invalid", ":invalid"),
  ("user-valid", ":user-valid"),
  ("user-invalid", ":user-invalid"),
  ("in-range", ":in-range"),
  ("out-of-range", ":out-of-range"),
  ("placeholder-shown", ":placeholder-shown"),
  ("autofill", ":autofill"),
  ("read-only", ":read-only"),
  ("empty", ":empty"),
  ("open", ":is([open], :popover-open)"),
  ("inert", ":is([inert], [inert] *)")]

/-- The places of elements, with their pseudo-classes. -/
def elementPlaces : List (String × String) := [
  ("first", "first-child"),
  ("last", "last-child"),
  ("only", "only-child"),
  ("odd", "nth-child(odd)"),
  ("even", "nth-child(even)"),
  ("first-of-type", "first-of-type"),
  ("last-of-type", "last-of-type"),
  ("only-of-type", "only-of-type")]

/-- The parts of elements, with their CSS names. -/
def pseudoElements : List (String × String) := [
  ("before", "before"),
  ("after", "after"),
  ("placeholder", "placeholder"),
  ("file", "file-selector-button"),
  ("marker", "marker"),
  ("selection", "selection"),
  ("first-line", "first-line"),
  ("first-letter", "first-letter"),
  ("backdrop", "backdrop")]

/-- The features of media, with their queries. -/
def mediaQueries : List (String × String) := [
  ("print", "print"),
  ("portrait", "(orientation: portrait)"),
  ("landscape", "(orientation: landscape)"),
  ("contrast-more", "(prefers-contrast: more)"),
  ("contrast-less", "(prefers-contrast: less)"),
  ("forced-colors", "(forced-colors: active)"),
  ("pointer-fine", "(pointer: fine)"),
  ("pointer-coarse", "(pointer: coarse)")]

/-! ## CSS -/

/-- The condition on a width, for a screen or a container. -/
def widthRule (rule name width : String) (below : Bool) : String :=
  "@" ++ rule ++ " " ++ name ++ "(width " ++ (if below then "<" else ">=") ++ " " ++ width ++ ")"

/-- The name that begins the attributes of a group. -/
def AttributeGroup.name : AttributeGroup → String
  | data => "data"
  | aria => "aria"

/-- The selector of an attribute of a group.  Without a value a data attribute has to be there, and
    the others have to be true. -/
def AttributeGroup.selector (group : AttributeGroup) (name : String) (value : Option String) :
    String :=
  let full := group.name ++ "-" ++ name
  match group, value with
  | _, some value => "[" ++ full ++ "=\"" ++ value ++ "\"]"
  | .aria, none => "[" ++ full ++ "=\"true\"]"
  | .data, none => "[" ++ full ++ "]"

/-- The pseudo-class that counts. -/
def Counting.pseudoClass : Counting → String
  | child => "nth-child"
  | ofType => "nth-of-type"
  | lastOfType => "nth-last-of-type"

namespace ModifierKind

/-- The rule around the selector. -/
def atRule? : ModifierKind → Option String
  | screen width below =>
    (Scale.breakpoints.lookup width).map fun px =>
      widthRule "media" "" (Number.single px ++ "px") below
  | viewport width below => some (widthRule "media" "" width below)
  | container width name =>
    let width := ((Scale.container? width).map Length.toCss).getD width
    some (widthRule "container" ((name.map (· ++ " ")).getD "") width false)
  | media name query =>
    some ((if name = "supports" then "@supports " else "@media ") ++ query)
  | dark => some "@media (prefers-color-scheme: dark)"
  | motion true => some "@media (prefers-reduced-motion: reduce)"
  | motion false => some "@media (prefers-reduced-motion: no-preference)"
  | arbitrary selector => if startsWith "@" selector then some selector else none
  | _ => none

/-- The text that follows the element's own selector. -/
def suffix? : ModifierKind → Option String
  | pseudoClass name => some (":" ++ name)
  | state name => elementStates.lookup name
  | place name => (elementPlaces.lookup name).map (":" ++ ·)
  | nth counting formula => some (":" ++ counting.pseudoClass ++ "(" ++ formula ++ ")")
  | grouped group name value => some (group.selector name value)
  | condition selector => some selector
  | pseudoElement name => (pseudoElements.lookup name).map ("::" ++ ·)
  | _ => none

end ModifierKind

end UtilityStyle
