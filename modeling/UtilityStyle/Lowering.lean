/-
  Lowering: from declarations to layers.

  * `Declaration.lower` carries a declaration out on a layer: it binds parts, writes them, or stops
    with an error;
  * `Layer.style` makes the best of an error.  A declaration that no part of a layer stands for is
    kept as CSS, and one with a faulty value is dropped;
  * `Declaration.layer?` is the layer of one declaration, or the error;
  * `Layer.ofDeclarations` is the layer of a list of declarations, the later ones over the earlier.
-/
import UtilityStyle.Lowering.Bound
import UtilityStyle.Lowering.Frame
import UtilityStyle.Lowering.Lettering
import UtilityStyle.Lowering.Paint

namespace UtilityStyle

namespace Declaration

/-- Lets a binding drive the parts of a layer that a declaration stands for. -/
def lowerBinding (d : Declaration) (binding : Binding) : Lowering Unit := do
  for part in ← d.orUnsupported d.boundParts? do
    modify fun layer => { layer with bindings := layer.bindings.insert part binding }

/-- Lowers a declaration that does not bind. -/
def lowerLiteral (d : Declaration) (options : LoweringOptions) : Lowering Unit :=
  match d.property with
  | .margin | .padding | .gap | .spaceBetween | .inset | .width | .height | .size | .minWidth
  | .minHeight | .maxWidth | .maxHeight | .aspectRatio | .borderWidth | .borderStyle
  | .borderRadius | .rotate | .scale | .translate => d.lowerBox options
  | .display | .position | .overflow | .visibility | .zIndex | .order | .flexDirection | .flexWrap
  | .flex | .flexGrow | .flexShrink | .flexBasis | .justifyContent | .alignItems | .alignSelf
  | .gridTemplateColumns | .gridTemplateRows | .gridColumn | .gridRow => d.lowerLayout options
  | .backgroundColor | .backgroundImage | .textColor | .borderColor | .ringColor
  | .ringOffsetColor | .ringWidth | .ringOffsetWidth | .shadowColor | .boxShadow | .opacity | .blur
  | .backdropBlur | .mixBlendMode => d.lowerPaint options
  | .fontSize | .fontWeight | .fontFamily | .fontStyle | .lineHeight | .letterSpacing | .textAlign
  | .textDecorationLine | .textTransform | .textOverflow | .lineClamp => d.lowerLettering options
  | _ => d.unsupported

/-- Carries a declaration out on a layer. -/
def lower (d : Declaration) (options : LoweringOptions) : Lowering Unit :=
  match d.binding? with
  | some binding => d.lowerBinding binding
  | none => d.lowerLiteral options

/-- The layer of one declaration, or why it cannot be lowered. -/
def layer? (d : Declaration) (options : LoweringOptions) : Except LoweringError Layer :=
  match (d.lower options).run .empty with
  | .ok _ layer => .ok layer
  | .error error _ => .error error

end Declaration

namespace Layer

/-- The layer with one more declaration.  What an error leaves is taken as it is. -/
def style (options : LoweringOptions) (layer : Layer) (d : Declaration) : Layer :=
  match (d.lower options).run layer with
  | .ok _ layer => layer
  | .error (.unsupported ..) layer =>
    if options.keepCss then
      match d.cssValue? options with
      | some text => { layer with css := layer.css.insert d.cssProperty text }
      | none => layer
    else layer
  | .error (.invalidValue ..) layer => layer

/-- The layer of some declarations in their order. -/
def ofDeclarations (options : LoweringOptions) (ds : List Declaration) : Layer :=
  ds.foldl (style options) empty

end Layer

end UtilityStyle
