/-
  Paints and effects of a design layer.

  * `Paint`: what fills or strokes a shape; the transparency of a solid paint is in its opacity,
    and its color is opaque;
  * `Effect`: shadows and blurs; `Effect.recolored` changes the color of the shadows only;
  * `Ring`: a focus ring, which `Ring.effects` turns into spread shadows.
-/
import UtilityStyle.Color

namespace UtilityStyle

/-! ## Paints -/

/-- How an image paint fits its frame. -/
inductive ScaleMode where
  | fill
  | fit
  | tile
  | crop
deriving DecidableEq, Repr

/-- The name of a scale mode. -/
def ScaleMode.name : ScaleMode → String
  | fill => "fill"
  | fit => "fit"
  | tile => "tile"
  | crop => "crop"

/-- A fill or stroke paint. -/
inductive Paint where
  | solid (color : Color) (opacity : Float32)
  | image (url : String) (scaleMode : ScaleMode)
deriving DecidableEq

namespace Paint

/-- The solid paint of a color; the alpha of the color becomes the opacity of the paint. -/
def ofColor (c : Color) : Paint := solid (c.withAlpha 1) c.a

/-- The solid paint of a color with one more factor to its opacity. -/
def ofColorWithOpacity (c : Color) (opacity : Float32) : Paint :=
  solid (c.withAlpha 1) (c.a * opacity)

/-- The color of a solid paint. -/
def color? : Paint → Option Color
  | solid color _ => some color
  | image .. => none

/-- The opacity of a paint; images are opaque. -/
def opacity : Paint → Float32
  | solid _ opacity => opacity
  | image .. => 1

/-- Whether the paint is an image. -/
def isImage : Paint → Bool
  | image .. => true
  | solid .. => false

end Paint

/-! ## Effects -/

/-- A shadow, with lengths in pixels. -/
structure Shadow where
  color : Color
  offsetX : Float32
  offsetY : Float32
  blurRadius : Float32
  spreadRadius : Float32
deriving DecidableEq

/-- A visual effect on a layer. -/
inductive Effect where
  | dropShadow (shadow : Shadow)
  | innerShadow (shadow : Shadow)
  | layerBlur (radius : Float32)
  | backgroundBlur (radius : Float32)
deriving DecidableEq

namespace Effect

/-- Whether the effect is a shadow. -/
def isShadow : Effect → Bool
  | dropShadow _ | innerShadow _ => true
  | layerBlur _ | backgroundBlur _ => false

/-- Whether the effect blurs the layer itself. -/
def isLayerBlur : Effect → Bool
  | layerBlur _ => true
  | _ => false

/-- Whether the effect blurs what is behind the layer. -/
def isBackgroundBlur : Effect → Bool
  | backgroundBlur _ => true
  | _ => false

/-- The effect with another shadow color; blurs have none and stay. -/
def recolored (color : Color) : Effect → Effect
  | dropShadow shadow => dropShadow { shadow with color }
  | innerShadow shadow => innerShadow { shadow with color }
  | blur => blur

/-- Effects in the color that was set for all shadows, if one was. -/
def inShadowColor (color : Option Color) (effects : List Effect) : List Effect :=
  match color with
  | some color => effects.map (recolored color)
  | none => effects

end Effect

/-! ## Focus rings -/

/-- A focus ring around a layer, with a gap between the two. -/
structure Ring where
  width : Option Float32 := none
  color : Option Color := none
  offsetWidth : Option Float32 := none
  offsetColor : Option Color := none
deriving DecidableEq

/-- The ring as shadows, the gap before the ring.  Without a width and a color there are none. -/
def Ring.effects (ring : Ring) : List Effect :=
  match ring.width, ring.color with
  | some width, some color =>
    let offset := ring.offsetWidth.getD 0
    let spread (radius : Float32) (color : Color) : Effect :=
      .dropShadow ⟨color, 0, 0, 0, radius⟩
    let gap := if 0 < offset then [spread offset (ring.offsetColor.getD .white)] else []
    gap ++ [spread (offset + width) color]
  | _, _ => []

end UtilityStyle
