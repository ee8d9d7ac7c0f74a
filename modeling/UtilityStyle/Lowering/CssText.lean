/-
  Declarations as CSS.

  `Declaration.cssProperty` is the name of the CSS property with its side, `Declaration.cssValue?`
  is the text of the value with the keys of scales resolved.
-/
import UtilityStyle.Lowering.Measure

namespace UtilityStyle

open Number

/-! ## Properties -/

/-- The name of a side in CSS. -/
def Side.cssName : Side → String
  | x => "inline"
  | y => "block"
  | side => side.name

/-- The name of the CSS property that a declaration sets. -/
def Declaration.cssProperty (d : Declaration) : String :=
  let name := d.property.name
  match d.property, d.sideOrAll with
  | _, .all => name
  | .borderRadius, side => "border-" ++ side.cssName ++ "-radius"
  | .borderColor, side => "border-" ++ side.cssName ++ "-color"
  | .borderWidth, side => "border-" ++ side.cssName ++ "-width"
  | _, .x => name ++ "-x"
  | _, .y => name ++ "-y"
  | _, side => name ++ "-" ++ side.cssName

/-! ## Values -/

/-- A color expression mixed with transparency for an opacity in percent. -/
def translucent (opacity : Option Nat) (color : String) : String :=
  match opacity with
  | some percent =>
    "color-mix(in srgb, " ++ color ++ " " ++ toString percent ++ "%, transparent)"
  | none => color

/-- A CSS value with the other sign. -/
def negatedCss (text : String) : String :=
  match text.toList with
  | '-' :: r => String.ofList r
  | c :: _ => if c.isDigit ∨ c = '.' then "-" ++ text else "calc(" ++ text ++ " * -1)"
  | [] => "calc(" ++ text ++ " * -1)"

namespace Property

/-- The CSS text of a number for a property. -/
def cssNumber (property : Property) (options : LoweringOptions) (n : Float32) : String :=
  match property with
  | gridTemplateColumns | gridTemplateRows => "repeat(" ++ single n ++ ", minmax(0, 1fr))"
  | gridColumn | gridRow => "span " ++ single n ++ " / span " ++ single n
  | borderWidth | outlineWidth | outlineOffset | ringWidth | ringOffsetWidth | divideWidth
  | textDecorationThickness | textUnderlineOffset => single n ++ "px"
  | margin | padding | gap | spaceBetween | inset | width | height | size | minWidth | minHeight
  | maxWidth | maxHeight | flexBasis | translate => single (n * options.spacingStep) ++ "rem"
  | _ => single n

/-- The CSS text of a keyword that means the same for most properties. -/
def plainKeyword (key : String) : String :=
  match key with
  | "full" => "100%"
  | "px" => "1px"
  | _ => key

/-- The CSS text of a keyword that is the bare key for some property. -/
def bareOr (bare : Float32) (key : String) : String :=
  if key = defaultKey then single bare ++ "px" else plainKeyword key

/-- The CSS text of a keyword for a property.  Keys of a scale that the scale does not have are no
    keywords. -/
def cssKeyword? (property : Property) (options : LoweringOptions) (key : String) :
    Option String :=
  match property with
  | animation => Scale.animations.lookup key
  | transitionProperty => Scale.transitions.lookup key
  | transitionTimingFunction => Scale.easings.lookup key
  | boxShadow => Scale.shadows.lookup key
  | borderRadius => (Scale.radii.lookup key).map Length.toCss
  | blur | backdropBlur =>
    (Scale.blurs.lookup key).map fun radius => "blur(" ++ single radius ++ "px)"
  | borderWidth | divideWidth => some (bareOr options.borderWidth key)
  | ringWidth => some (bareOr options.ringWidth key)
  | outlineWidth => some (bareOr 1 key)
  | gridColumn | gridRow => some (if key = "full" then "1 / -1" else plainKeyword key)
  | width | minWidth => some (if key = "screen" then "100vw" else plainKeyword key)
  | height | minHeight | maxHeight =>
    some (if key = "screen" then "100vh" else plainKeyword key)
  | maxWidth =>
    if key = "screen" then some "100vw"
    else some (((Scale.container? key).map Length.toCss).getD (plainKeyword key))
  | _ => some (plainKeyword key)

end Property

/-- The CSS text of a font family.  Names with a space are quoted. -/
def cssFontFamily (name : String) : String :=
  if name.toList.contains ' ' then "\"" ++ name ++ "\"" else name

namespace Declaration

/-- The color of a declaration with its opacity. -/
def fadedColor? (d : Declaration) : Option Color :=
  d.value.color?.map fun c => match d.opacity with
    | some percent => c.faded percent
    | none => c

/-- The CSS text of the value without the sign. -/
def cssMagnitude? (d : Declaration) (options : LoweringOptions) : Option String :=
  match d.value with
  | .number n => some (d.property.cssNumber options n)
  | .length l => some l.toCss
  | .fraction .. => d.value.percent?.map fun percent => single percent ++ "%"
  | .keyword key => d.property.cssKeyword? options key
  | .color .. => d.fadedColor?.map Color.toHex
  | .font size _ => some size.toCss
  | .families names => some (String.intercalate ", " (names.map cssFontFamily))
  | .variable name => some (translucent d.opacity ("var(" ++ name ++ ")"))
  | .raw text => some (translucent d.opacity text)

/-- The CSS text of the value. -/
def cssValue? (d : Declaration) (options : LoweringOptions) : Option String :=
  (d.cssMagnitude? options).map fun text => if d.negative then negatedCss text else text

end Declaration

end UtilityStyle
