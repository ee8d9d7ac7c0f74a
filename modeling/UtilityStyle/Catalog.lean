/-
  The catalog of utilities.

  * `Catalog.families`: the built-in families, in the order in which they are tried;
  * `Catalog.fixedClasses`: utilities that are whole words;
  * `Catalog`: families of one's own before the fixed classes and other families after them, with
    `Catalog.read?` to read a utility.

  Families that share a stem stand in the order of how narrow their values are.
-/
import UtilityStyle.Catalog.Arrangement
import UtilityStyle.Catalog.Lettering
import UtilityStyle.Catalog.Line
import UtilityStyle.Catalog.Motion
import UtilityStyle.Catalog.Paint

namespace UtilityStyle

/-- Rules for reading utilities. -/
structure Catalog where
  /-- The families that are tried before the fixed classes. -/
  own : List Family
  /-- The families that are tried after the fixed classes. -/
  others : List Family

namespace Catalog

/-- The built-in families. -/
def families : List Family := [
  margin, padding, gap, spaceBetween, inset,
  width, height, size, minWidth, minHeight, maxWidth, maxHeight, flexBasis,
  backgroundColor, backgroundImage, backgroundSize, backgroundPosition, backgroundRepeat,
  fontSize, textAlign, textOverflow, textColor,
  borderWidth, borderStyle, borderColor, borderRadius,
  outlineOffset, outlineWidth, outlineStyle, outlineColor,
  ringOffsetWidth, ringOffsetColor, ringWidth, ringColor,
  divideWidth, divideColor,
  strokeWidth, stroke, fill,
  accentColor, caretColor, placeholderColor,
  boxShadow, shadowColor,
  opacity, blur, backdropBlur, mixBlendMode,
  fontWeight, fontFamily,
  decorationThickness, decorationColor,
  lineHeight, letterSpacing, underlineOffset, whiteSpace, wordBreak, verticalAlign, lineClamp,
  listStyleType,
  flex, flexDirection, flexWrap, flexGrow, flexShrink, order,
  justifyContent, justifyItems, justifySelf, alignItems, alignSelf, alignContent, placeContent,
  gridTemplateColumns, gridTemplateRows, gridColumn, gridRow,
  zIndex, overflow, objectFit, aspectRatio, boxSizing,
  cursor, pointerEvents, userSelect,
  rotate, scale, translate, skew, transformOrigin,
  animation, transitionProperty, transitionDuration, transitionDelay, transitionTimingFunction]

/-- The built-in family of a name. -/
def family? (name : String) : Option Family := families.find? (·.name == name)

/-- The utilities that are whole words, with their properties and keywords. -/
def fixedClasses : List (String × Property × String) := [
  ("block", .display, "block"),
  ("inline-block", .display, "inline-block"),
  ("inline", .display, "inline"),
  ("flex", .display, "flex"),
  ("inline-flex", .display, "inline-flex"),
  ("grid", .display, "grid"),
  ("inline-grid", .display, "inline-grid"),
  ("table", .display, "table"),
  ("contents", .display, "contents"),
  ("flow-root", .display, "flow-root"),
  ("list-item", .display, "list-item"),
  ("hidden", .display, "none"),
  ("static", .position, "static"),
  ("fixed", .position, "fixed"),
  ("absolute", .position, "absolute"),
  ("relative", .position, "relative"),
  ("sticky", .position, "sticky"),
  ("visible", .visibility, "visible"),
  ("invisible", .visibility, "hidden"),
  ("collapse", .visibility, "collapse"),
  ("italic", .fontStyle, "italic"),
  ("not-italic", .fontStyle, "normal"),
  ("underline", .textDecorationLine, "underline"),
  ("overline", .textDecorationLine, "overline"),
  ("line-through", .textDecorationLine, "line-through"),
  ("no-underline", .textDecorationLine, "none"),
  ("uppercase", .textTransform, "uppercase"),
  ("lowercase", .textTransform, "lowercase"),
  ("capitalize", .textTransform, "capitalize"),
  ("normal-case", .textTransform, "none"),
  ("truncate", .textOverflow, "truncate")]

/-- The catalog with the built-in families. -/
def builtIn : Catalog := ⟨[], families⟩

/-- The catalog with the fixed classes alone. -/
def bare : Catalog := ⟨[], []⟩

/-- The catalog with one more family of one's own. -/
def withFamily (catalog : Catalog) (family : Family) : Catalog :=
  { catalog with own := catalog.own ++ [family] }

/-! ## Reading utilities -/

/-- The declaration of a fixed class, with or without a mark of importance. -/
def fixedClass? (raw : String) : Option Declaration :=
  let (body, important) := UtilityToken.takeImportance raw.toList
  (fixedClasses.lookup (String.ofList body)).map fun (property, keyword) =>
    { property, value := .keyword keyword, important, raw }

/-- The declaration of a utility: that of the first rule that takes it. -/
def read? (catalog : Catalog) (theme : Theme) (raw : String) : Option Declaration :=
  ((catalog.own.findSome? (·.resolve? theme raw)).or (fixedClass? raw)).or
    (catalog.others.findSome? (·.resolve? theme raw))

/-- The complaint about a utility that no rule takes. -/
def unknownMessage (raw : String) : String := "unknown utility '" ++ raw ++ "'"

end Catalog

end UtilityStyle
