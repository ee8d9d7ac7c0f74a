/-
  Families: rules that give utilities their meaning.

  A `Family` is a set of stems for one property, with the sources of its values:

  * the theme, under the namespaces of the family, then a scale, which may be one's own, then a
    table of keywords, for keys;
  * custom properties in parentheses;
  * bracketed values, as far as the family's shape takes them.

  `Family.resolve?` reads a utility for a family and gives its declaration.
-/
import UtilityStyle.Utility.Shape
import UtilityStyle.Utility.Token

namespace UtilityStyle

/-- Which references to custom properties a family takes. -/
inductive References where
  | rejected
  /-- Those with a type hint. -/
  | hinted
  | accepted
deriving DecidableEq, Repr

/-- What a suffix after a slash means for a family. -/
inductive Suffix where
  /-- Nothing: a slash belongs to the value. -/
  | absent
  | opacity
  /-- A line height next to a font size. -/
  | leading
deriving DecidableEq, Repr

/-- A set of utilities for one property. -/
structure Family where
  name : String
  property : Property
  /-- The stems, with the side that each one selects. -/
  stems : List (String × Option Side)
  /-- The namespaces of the theme, in the order in which they are tried. -/
  namespaces : List String := []
  scale : Option Scale := none
  /-- A scale of one's own, which is tried after the named one. -/
  ownScale : String → Option Value := fun _ => none
  /-- Keys with the CSS keywords that they stand for. -/
  keywords : List (String × String) := []
  /-- The shape of values from the theme and from brackets; without one there are none. -/
  shape : Option Shape := none
  references : References := .rejected
  suffix : Suffix := .absent
  /-- Whether a minus sign may precede the stem. -/
  signed : Bool := false

namespace Family

/-- The side that a stem selects. -/
def side? (family : Family) (stem : String) : Option Side := (family.stems.lookup stem).join

/-- The utility taken apart for the stems of a family. -/
def read? (family : Family) (raw : String) : Option UtilityToken :=
  UtilityToken.read? (family.stems.map (·.1)) (family.suffix != .absent) raw

/-! ## Sources of values -/

/-- The value that the theme gives to a key: the first one of the family's shape. -/
def themeValue? (family : Family) (theme : Theme) (key : String) : Option Value :=
  family.shape.bind fun shape =>
    family.namespaces.findSome? fun group =>
      (theme.resolve? group key).bind (shape.ofTheme? (if key = "" then defaultKey else key))

/-- The value that the scales or the keyword table give to a key. -/
def builtInValue? (family : Family) (key : String) : Option Value :=
  let key := if key = "" then defaultKey else key
  ((family.scale.bind (·.value? key)).or (family.ownScale key)).or
    ((family.keywords.lookup key).map .keyword)

/-- The keys of a family that has no scale of its own. -/
theorem builtInValue?_of_ownScale {family : Family}
    (hown : ∀ key, family.ownScale key = none) (key : String) :
    family.builtInValue? key =
      (family.scale.bind (·.value? (if key = "" then defaultKey else key))).or
        ((family.keywords.lookup (if key = "" then defaultKey else key)).map .keyword) := by
  dsimp only [builtInValue?]
  rw [hown, Option.or_none]

/-- The value of a key. -/
def presetValue? (family : Family) (theme : Theme) (key : String) : Option Value :=
  (family.themeValue? theme key).or (family.builtInValue? key)

/-- Whether the family takes a custom property with the given hint. -/
def acceptsReference (family : Family) (hint : Option String) : Bool :=
  match family.shape, family.references, hint with
  | none, _, _ | _, .rejected, _ => false
  | some shape, _, some hint => shape.acceptsHint hint
  | some _, references, none => references == .accepted

/-- The value of a bracketed text in a shape. -/
def contentValue? (family : Family) (theme : Theme) (shape : Shape) (hint : Option String)
    (form : Form) (content : String) : Option (Value × Origin) :=
  match form with
  | .var =>
    if family.references = .hinted ∧ hint = none then none
    else some (.variable content, .arbitrary)
  | .calculation =>
    if shape.acceptsCalculation then some (.raw ("calc(" ++ content ++ ")"), .arbitrary)
    else none
  | .theme =>
    (theme.find? content).bind fun found =>
      (shape.ofTheme? content found).map (·, .themeVariable)
  | .hex | .rgb | .rgba =>
    if shape = .color then (Css.color? content).map fun c => (.color none c, .arbitrary)
    else none
  | .url =>
    if shape = .image ∨ shape = .any then some (.raw ("url(" ++ content ++ ")"), .arbitrary)
    else none
  | .plain => (shape.read? content).map (·, .arbitrary)

/-- The value of a utility's value part, with its origin. -/
def value? (family : Family) (theme : Theme) (token : UtilityToken) : Option (Value × Origin) :=
  match token.fragment with
  | .preset _ => (family.presetValue? theme token.value).map (·, .preset)
  | .customProperty hint name =>
    if family.acceptsReference hint then some (.variable name, .customProperty) else none
  | .arbitrary hint form content =>
    family.shape.bind fun shape =>
      if hint.all shape.acceptsHint then family.contentValue? theme shape hint form content
      else none

/-! ## Suffixes -/

/-- The line height that a suffix spells: a spacing, or in brackets a CSS line height. -/
def leadingSuffix? (suffix : String) : Option Leading :=
  match Text.between? "[" "]" suffix with
  | some inner => Leading.ofCss? inner
  | none =>
    ((Number.readSingle? suffix.toList).bind Scale.spacing?).map .length

/-- The value with the line height of a suffix; only font sizes may have one. -/
def withLeading? (value : Value) (suffix : Option String) : Option Value :=
  match suffix, value with
  | none, value => some value
  | some suffix, .font size _ => (leadingSuffix? suffix).map (.font size <| some ·)
  | some _, _ => none

/-! ## Declarations -/

/-- The opacity in percent that the suffix of a utility gives; the outer option is none if the
    suffix has no meaning. -/
def opacity? (family : Family) (token : UtilityToken) : Option (Option Nat) :=
  if family.suffix = .opacity then token.opacity? else some none

/-- The declaration of a utility that was taken apart. -/
def declare? (family : Family) (theme : Theme) (token : UtilityToken) : Option Declaration := do
  if token.negative && !family.signed then none
  let opacity ← family.opacity? token
  let (value, origin) ← family.value? theme token
  if token.negative && !value.isSignable then none
  let value ← if family.suffix = .leading then withLeading? value token.slash else some value
  return {
    property := family.property
    value, origin, opacity
    side := family.side? token.stem
    negative := token.negative
    important := token.important
    raw := token.raw }

/-- The declaration of a utility in a family. -/
def resolve? (family : Family) (theme : Theme) (raw : String) : Option Declaration :=
  (family.read? raw).bind (family.declare? theme)

end Family

end UtilityStyle
