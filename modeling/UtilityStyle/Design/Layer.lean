/-
  Layers: the partial style of a node of a design.

  A `Layer` holds what a design tool can be told about a node.  Every part of it may be unset.
  Lengths are in pixels.  Parts that a custom property drives are in `bindings`, by name, and CSS
  that no part stands for is in `css`, by property.
-/
import UtilityStyle.Design.Frame
import UtilityStyle.Design.Lettering
import UtilityStyle.Design.Paint
import UtilityStyle.Text.Dictionary

namespace UtilityStyle

/-- What drives a part of a layer in place of a value. -/
inductive Binding where
  /-- The custom property of this name. -/
  | variable (name : String)
  /-- A CSS expression. -/
  | expression (text : String)
deriving DecidableEq

/-- CSS text. -/
def Binding.toCss : Binding → String
  | .variable name => "var(" ++ name ++ ")"
  | .expression text => text

/-- The partial style of a node. -/
structure Layer where
  /-- Width and height. -/
  size : Axes (Option Dimension) := .both none
  sizing : Axes (Option SizingMode) := .both none
  minSize : Axes (Option Dimension) := .both none
  maxSize : Axes (Option Dimension) := .both none
  /-- Width over height. -/
  aspectRatio : Option Float32 := none
  padding : Edges (Option Float32) := .all none
  margin : Edges (Option Dimension) := .all none
  layoutMode : Option LayoutMode := none
  layoutWrap : Option LayoutWrap := none
  /-- Distribution of the children along the layout. -/
  primaryAxisAlign : Option AxisAlign := none
  /-- Alignment of the children across the layout. -/
  counterAxisAlign : Option AxisAlign := none
  /-- Alignment across the layout of the parent. -/
  alignSelf : Option AxisAlign := none
  /-- The gaps between columns and between rows. -/
  gap : Axes (Option Float32) := .both none
  flexGrow : Option Float32 := none
  flexShrink : Option Float32 := none
  flexBasis : Option Dimension := none
  order : Option Int := none
  /-- The numbers of columns and rows. -/
  gridTracks : Axes (Option Nat) := .both none
  /-- The numbers of columns and rows that the node covers. -/
  gridSpan : Axes (Option Nat) := .both none
  positioning : Option Positioning := none
  /-- The distances from the edges of the parent. -/
  inset : Edges (Option Dimension) := .all none
  zIndex : Option Int := none
  /-- Degrees clockwise. -/
  rotation : Option Float32 := none
  scale : Axes (Option Float32) := .both none
  displacement : Axes (Option Dimension) := .both none
  visible : Option Bool := none
  clipsContent : Option Bool := none
  /-- From zero to one. -/
  opacity : Option Float32 := none
  blendMode : Option String := none
  fills : List Paint := []
  strokes : List Paint := []
  strokeWeight : Edges (Option Float32) := .all none
  strokeStyle : Option StrokeStyle := none
  cornerRadii : Option (Corners Float32) := none
  effects : List Effect := []
  /-- The color of all shadows. -/
  shadowColor : Option Color := none
  ring? : Option Ring := none
  textFill : Option Paint := none
  fontSize : Option Float32 := none
  fontWeight : Option Float32 := none
  /-- The preferred family first. -/
  fontFamily : Option (List String) := none
  fontStyle : Option FontStyle := none
  lineHeight : Option LineHeight := none
  letterSpacing : Option LetterSpacing := none
  textAlign : Option TextAlign := none
  textCase : Option TextCase := none
  textDecoration : Option TextDecoration := none
  /-- Whether text that is too long is cut off. -/
  truncates : Option Bool := none
  maxLines : Option Nat := none
  bindings : Text.Dictionary Binding := .empty
  css : Text.Dictionary String := .empty
deriving DecidableEq

namespace Layer

/-- The layer with nothing set. -/
def empty : Layer := {}

/-- Whether nothing is set. -/
def isEmpty (layer : Layer) : Bool := layer == empty

/-- The stroke weight that all edges share. -/
def uniformStrokeWeight? (layer : Layer) : Option Float32 :=
  layer.strokeWeight.top.bind fun weight =>
    if [layer.strokeWeight.right, layer.strokeWeight.bottom, layer.strokeWeight.left].all
        fun other => other.any (· == weight) then some weight
    else none

/-- The ring, with nothing set if there is none. -/
def ring (layer : Layer) : Ring := layer.ring?.getD {}

/-- The effects, followed by the ring. -/
def allEffects (layer : Layer) : List Effect := layer.effects ++ layer.ring.effects

end Layer

end UtilityStyle
