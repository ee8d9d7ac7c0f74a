/-
  Lowering of colors, images and effects.

  `Declaration.lowerPaint` lowers the declarations that paint a layer.  The opacity of a declaration
  is folded into the alpha of its color.
-/
import UtilityStyle.Css.Shadow
import UtilityStyle.Lowering.Basic
import UtilityStyle.Lowering.CssText

namespace UtilityStyle

open Text

namespace Declaration

/-- The color of a value that is one. -/
def color (d : Declaration) : Except LoweringError Color := d.orUnsupported d.fadedColor?

/-- The solid paint of a value that is a color. -/
def paint (d : Declaration) : Except LoweringError Paint := d.color.map .ofColor

/-- The address of an image, without quotes, unless it is empty. -/
def imageAddress? (text : String) : Option String := do
  let inner ← between? "url(" ")" text
  match unquoted (trim inner.toList) with
  | [] => none
  | address => return String.ofList address

/-- The address of a background image; the word for none has none. -/
def image (d : Declaration) : Except LoweringError (Option String) :=
  match d.value with
  | .keyword "none" => .ok none
  | .raw text => (d.orUnsupported (imageAddress? text)).map some
  | _ => d.unsupported

/-- The shadows of a CSS text. -/
def shadowsOf (d : Declaration) (options : LoweringOptions) (css : String) :
    Except LoweringError (List Effect) :=
  match Css.shadows? options.rootFontSize css with
  | some shadows => .ok shadows
  | none => d.invalid (.badShadow css)

/-- The shadows of a value. -/
def shadows (d : Declaration) (options : LoweringOptions) : Except LoweringError (List Effect) :=
  match d.value with
  | .keyword key =>
    match Scale.shadows.lookup key with
    | some css => d.shadowsOf options css
    | none => d.unsupported
  | .raw css => d.shadowsOf options css
  | _ => d.unsupported

/-- The radius of a blur in pixels. -/
def blurRadius (d : Declaration) (options : LoweringOptions) : Except LoweringError Float32 :=
  match d.value with
  | .keyword key => d.orUnsupported (Scale.blurs.lookup key)
  | .length l => if l.unit = .percent then d.unsupported else d.px options l
  | _ => d.unsupported

/-- The name that a design tool has for a blend mode. -/
def blendModeName (keyword : String) : String := substitute '-' "_" (upperAscii keyword)

/-- Lowers a declaration that paints. -/
def lowerPaint (d : Declaration) (options : LoweringOptions) : Lowering Unit :=
  match d.property with
  | .backgroundColor => do
    let paint ← d.paint
    modify fun layer => { layer with fills := layer.fills ++ [paint] }
  | .backgroundImage => do
    match ← d.image with
    | none => modify fun layer => { layer with fills := layer.fills.filter (!·.isImage) }
    | some url =>
      modify fun layer => { layer with fills := layer.fills ++ [.image url .fill] }
  | .textColor => do
    let paint ← d.paint
    modify fun layer => { layer with textFill := some paint }
  | .borderColor => do
    if d.sideOrAll ≠ .all then d.unsupported
    else
      let paint ← d.paint
      modify fun layer => { layer with strokes := [paint] }
  | .ringColor => do
    let color ← d.color
    modify fun layer => { layer with ring? := some { layer.ring with color := some color } }
  | .ringOffsetColor => do
    let color ← d.color
    modify fun layer => { layer with ring? := some { layer.ring with offsetColor := some color } }
  | .ringWidth => do
    let px ← d.lineWidth options options.ringWidth
    modify fun layer => { layer with ring? := some { layer.ring with width := some px } }
  | .ringOffsetWidth => do
    let px ← d.lineWidth options 0
    modify fun layer => { layer with ring? := some { layer.ring with offsetWidth := some px } }
  | .shadowColor => do
    let color ← d.color
    modify fun layer => { layer with effects := layer.effects.map (Effect.recolored color) }
    modify fun layer => { layer with shadowColor := some color }
  | .boxShadow => do
    let shadows ← d.shadows options
    if shadows = [] then
      modify fun layer => { layer with effects := layer.effects.filter (!·.isShadow) }
    else
      let shadows := Effect.inShadowColor (← get).shadowColor shadows
      modify fun layer => { layer with effects := layer.effects ++ shadows }
  | .opacity => do
    let factor ← d.plainNumber
    modify fun layer => { layer with opacity := some (Number.clamp 0 1 factor) }
  | .blur => do
    let radius ← d.blurRadius options
    modify fun layer => { layer with effects := layer.effects.filter (!·.isLayerBlur) }
    if radius > 0 then
      modify fun layer => { layer with effects := layer.effects ++ [.layerBlur radius] }
  | .backdropBlur => do
    let radius ← d.blurRadius options
    modify fun layer => { layer with effects := layer.effects.filter (!·.isBackgroundBlur) }
    if radius > 0 then
      modify fun layer => { layer with effects := layer.effects ++ [.backgroundBlur radius] }
  | .mixBlendMode => do
    let keyword ← d.orUnsupported d.value.keyword?
    modify fun layer => { layer with blendMode := some (blendModeName keyword) }
  | _ => d.unsupported

end Declaration

end UtilityStyle
