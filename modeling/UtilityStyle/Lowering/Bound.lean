/-
  Declarations that bind.

  A value that only a browser resolves cannot be written into a layer.  Such a declaration binds
  the parts of the layer that its property stands for: `Declaration.binding?` is the binding, and
  `Declaration.boundParts?` are the names of the parts.
-/
import UtilityStyle.Design.Layer
import UtilityStyle.Lowering.CssText

namespace UtilityStyle

/-! ## Names of parts -/

/-- The names of the edges. -/
def Edges.names : Edges String := ⟨"top", "right", "bottom", "left"⟩

/-- The names of the corners. -/
def Corners.names : Corners String := ⟨"top-left", "top-right", "bottom-right", "bottom-left"⟩

/-- The names that flags select. -/
def selected (flags : List Bool) (names : List String) : List String :=
  (flags.zip names).filterMap fun (on, name) => if on then some name else none

namespace Side

/-- A name for each edge that a side covers. -/
def edgeParts (side : Side) (front back : String) : List String :=
  (selected side.edges.toList Edges.names.toList).map fun edge => front ++ edge ++ back

/-- A name for each corner that a side covers. -/
def cornerParts (side : Side) (back : String) : List String :=
  (selected side.corners.toList Corners.names.toList).map fun corner => corner ++ back

/-- The one or the other of two names for each axis that a side covers. -/
def axisParts (side : Side) (x y : String) : List String := selected side.axes.toList [x, y]

end Side

namespace Declaration

/-- The names of the parts that a declaration binds. -/
def boundParts? (d : Declaration) : Option (List String) :=
  let side := d.sideOrAll
  match d.property with
  | .padding => some (side.edgeParts "padding-" "")
  | .margin => some (side.edgeParts "margin-" "")
  | .inset => some (side.edgeParts "" "")
  | .borderWidth => some (side.edgeParts "stroke-" "-weight")
  | .borderRadius => some (side.cornerParts "-radius")
  | .gap | .spaceBetween => some (side.axisParts "column-gap" "row-gap")
  | .scale => some (side.axisParts "scale-x" "scale-y")
  | .translate => some (side.axisParts "translate-x" "translate-y")
  | .size => some ["width", "height"]
  | .backgroundColor | .backgroundImage => some ["fills"]
  | .textColor => some ["text-fill"]
  | .borderColor => if side = .all then some ["strokes"] else none
  | .rotate => some ["rotation"]
  | .blur => some ["layer-blur"]
  | .backdropBlur => some ["background-blur"]
  | .flexDirection | .display => some ["layout-mode"]
  | .justifyContent => some ["primary-axis-align"]
  | .alignItems => some ["counter-axis-align"]
  | .overflow => some ["clips-content"]
  | .width | .height | .minWidth | .minHeight | .maxWidth | .maxHeight | .flexBasis
  | .aspectRatio | .ringColor | .ringOffsetColor | .ringWidth | .ringOffsetWidth | .shadowColor
  | .boxShadow | .opacity | .fontSize | .fontWeight | .fontFamily | .lineHeight | .letterSpacing
  | .zIndex | .order | .flexGrow | .flexShrink | .lineClamp | .gridTemplateColumns
  | .gridTemplateRows | .gridColumn | .gridRow => some [d.property.name]
  | _ => none

/-! ## Bindings -/

/-- The CSS text with the sign of the declaration, as an expression. -/
def signedExpression (d : Declaration) (text : String) : String :=
  if d.negative then "calc(" ++ text ++ " * -1)" else text

/-- The binding of a value that only a browser resolves, without the opacity. -/
def opaqueBinding? (d : Declaration) : Option Binding :=
  match d.value with
  | .variable name =>
    if d.negative then some (.expression (d.signedExpression (Binding.variable name).toCss))
    else some (.variable name)
  | .raw text =>
    if Css.isPassthrough text then some (.expression (d.signedExpression text)) else none
  | _ => none

/-- The binding of a value that only a browser resolves. -/
def binding? (d : Declaration) : Option Binding :=
  d.opaqueBinding?.map fun binding =>
    if d.opacity.isSome then .expression (translucent d.opacity binding.toCss) else binding

end Declaration

end UtilityStyle
