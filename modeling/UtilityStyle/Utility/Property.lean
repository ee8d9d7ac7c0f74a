/-
  The style properties that utilities set.

  Every property has a canonical name, `Property.name`, by which `Property.ofName?` finds it.
-/

namespace UtilityStyle

/-- A style property. -/
inductive Property where
  | margin
  | padding
  | gap
  | spaceBetween
  | inset
  | width
  | height
  | size
  | minWidth
  | minHeight
  | maxWidth
  | maxHeight
  | flexBasis
  | backgroundColor
  | textColor
  | borderColor
  | outlineColor
  | ringColor
  | ringOffsetColor
  | divideColor
  | fill
  | stroke
  | accentColor
  | caretColor
  | placeholderColor
  | textDecorationColor
  | shadowColor
  | borderWidth
  | borderStyle
  | borderRadius
  | outlineWidth
  | outlineOffset
  | outlineStyle
  | ringWidth
  | ringOffsetWidth
  | divideWidth
  | strokeWidth
  | boxShadow
  | opacity
  | blur
  | backdropBlur
  | mixBlendMode
  | fontSize
  | fontWeight
  | fontFamily
  | lineHeight
  | letterSpacing
  | textAlign
  | textDecorationLine
  | textDecorationThickness
  | textUnderlineOffset
  | textTransform
  | fontStyle
  | whiteSpace
  | wordBreak
  | textOverflow
  | verticalAlign
  | lineClamp
  | listStyleType
  | display
  | position
  | overflow
  | visibility
  | zIndex
  | flexDirection
  | flexWrap
  | flex
  | flexGrow
  | flexShrink
  | order
  | justifyContent
  | justifyItems
  | justifySelf
  | alignItems
  | alignSelf
  | alignContent
  | placeContent
  | gridTemplateColumns
  | gridTemplateRows
  | gridColumn
  | gridRow
  | objectFit
  | aspectRatio
  | boxSizing
  | backgroundSize
  | backgroundPosition
  | backgroundRepeat
  | backgroundImage
  | cursor
  | pointerEvents
  | userSelect
  | rotate
  | scale
  | translate
  | skew
  | transformOrigin
  | animation
  | transitionProperty
  | transitionDuration
  | transitionDelay
  | transitionTimingFunction
deriving DecidableEq, Repr

namespace Property

/-- The canonical name, in the manner of CSS. -/
def name : Property → String
  | margin => "margin"
  | padding => "padding"
  | gap => "gap"
  | spaceBetween => "space-between"
  | inset => "inset"
  | width => "width"
  | height => "height"
  | size => "size"
  | minWidth => "min-width"
  | minHeight => "min-height"
  | maxWidth => "max-width"
  | maxHeight => "max-height"
  | flexBasis => "flex-basis"
  | backgroundColor => "background-color"
  | textColor => "color"
  | borderColor => "border-color"
  | outlineColor => "outline-color"
  | ringColor => "ring-color"
  | ringOffsetColor => "ring-offset-color"
  | divideColor => "divide-color"
  | fill => "fill"
  | stroke => "stroke"
  | accentColor => "accent-color"
  | caretColor => "caret-color"
  | placeholderColor => "placeholder-color"
  | textDecorationColor => "text-decoration-color"
  | shadowColor => "shadow-color"
  | borderWidth => "border-width"
  | borderStyle => "border-style"
  | borderRadius => "border-radius"
  | outlineWidth => "outline-width"
  | outlineOffset => "outline-offset"
  | outlineStyle => "outline-style"
  | ringWidth => "ring-width"
  | ringOffsetWidth => "ring-offset-width"
  | divideWidth => "divide-width"
  | strokeWidth => "stroke-width"
  | boxShadow => "box-shadow"
  | opacity => "opacity"
  | blur => "blur"
  | backdropBlur => "backdrop-blur"
  | mixBlendMode => "mix-blend-mode"
  | fontSize => "font-size"
  | fontWeight => "font-weight"
  | fontFamily => "font-family"
  | lineHeight => "line-height"
  | letterSpacing => "letter-spacing"
  | textAlign => "text-align"
  | textDecorationLine => "text-decoration-line"
  | textDecorationThickness => "text-decoration-thickness"
  | textUnderlineOffset => "text-underline-offset"
  | textTransform => "text-transform"
  | fontStyle => "font-style"
  | whiteSpace => "white-space"
  | wordBreak => "word-break"
  | textOverflow => "text-overflow"
  | verticalAlign => "vertical-align"
  | lineClamp => "line-clamp"
  | listStyleType => "list-style-type"
  | display => "display"
  | position => "position"
  | overflow => "overflow"
  | visibility => "visibility"
  | zIndex => "z-index"
  | flexDirection => "flex-direction"
  | flexWrap => "flex-wrap"
  | flex => "flex"
  | flexGrow => "flex-grow"
  | flexShrink => "flex-shrink"
  | order => "order"
  | justifyContent => "justify-content"
  | justifyItems => "justify-items"
  | justifySelf => "justify-self"
  | alignItems => "align-items"
  | alignSelf => "align-self"
  | alignContent => "align-content"
  | placeContent => "place-content"
  | gridTemplateColumns => "grid-template-columns"
  | gridTemplateRows => "grid-template-rows"
  | gridColumn => "grid-column"
  | gridRow => "grid-row"
  | objectFit => "object-fit"
  | aspectRatio => "aspect-ratio"
  | boxSizing => "box-sizing"
  | backgroundSize => "background-size"
  | backgroundPosition => "background-position"
  | backgroundRepeat => "background-repeat"
  | backgroundImage => "background-image"
  | cursor => "cursor"
  | pointerEvents => "pointer-events"
  | userSelect => "user-select"
  | rotate => "rotate"
  | scale => "scale"
  | translate => "translate"
  | skew => "skew"
  | transformOrigin => "transform-origin"
  | animation => "animation"
  | transitionProperty => "transition-property"
  | transitionDuration => "transition-duration"
  | transitionDelay => "transition-delay"
  | transitionTimingFunction => "transition-timing-function"

/-- All properties: spacing, sizing, colors, borders, effects, text, layout, interaction,
    transforms and motion. -/
def all : List Property := [
  .margin, .padding, .gap, .spaceBetween, .inset, .width, .height, .size, .minWidth, .minHeight,
  .maxWidth, .maxHeight, .flexBasis, .backgroundColor, .textColor, .borderColor, .outlineColor,
  .ringColor, .ringOffsetColor, .divideColor, .fill, .stroke, .accentColor, .caretColor,
  .placeholderColor, .textDecorationColor, .shadowColor, .borderWidth, .borderStyle,
  .borderRadius, .outlineWidth, .outlineOffset, .outlineStyle, .ringWidth, .ringOffsetWidth,
  .divideWidth, .strokeWidth, .boxShadow, .opacity, .blur, .backdropBlur, .mixBlendMode,
  .fontSize, .fontWeight, .fontFamily, .lineHeight, .letterSpacing, .textAlign,
  .textDecorationLine, .textDecorationThickness, .textUnderlineOffset, .textTransform, .fontStyle,
  .whiteSpace, .wordBreak, .textOverflow, .verticalAlign, .lineClamp, .listStyleType, .display,
  .position, .overflow, .visibility, .zIndex, .flexDirection, .flexWrap, .flex, .flexGrow,
  .flexShrink, .order, .justifyContent, .justifyItems, .justifySelf, .alignItems, .alignSelf,
  .alignContent, .placeContent, .gridTemplateColumns, .gridTemplateRows, .gridColumn, .gridRow,
  .objectFit, .aspectRatio, .boxSizing, .backgroundSize, .backgroundPosition, .backgroundRepeat,
  .backgroundImage, .cursor, .pointerEvents, .userSelect, .rotate, .scale, .translate, .skew,
  .transformOrigin, .animation, .transitionProperty, .transitionDuration, .transitionDelay,
  .transitionTimingFunction]

/-- The property of a canonical name. -/
def ofName? (s : String) : Option Property := all.find? (·.name == s)

/-- The list of all properties leaves none out. -/
theorem mem_all (p : Property) : p ∈ all := by cases p <;> decide

end Property

end UtilityStyle
