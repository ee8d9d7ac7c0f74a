/-
  CSS shadow lists.

  `shadows?` reads a `box-shadow` value: `none`, or layers separated by commas.  A layer has two to
  four lengths and may have a color and the word `inset`, in any order; of several colors the last
  one counts.  Lengths resolve to pixels for a given root font size.
-/
import UtilityStyle.Css.Color
import UtilityStyle.Css.Length
import UtilityStyle.Design.Paint

namespace UtilityStyle.Css

/-- The color of shadows that name none. -/
def defaultShadowColor : Color := ⟨0, 0, 0, 0.1⟩

/-- The parts of a shadow layer read so far. -/
structure ShadowParts where
  lengths : List Float32 := []
  color : Option Color := none
  inset : Bool := false

/-- The shadow of its parts.  A missing blur or spread is zero. -/
def ShadowParts.effect? (parts : ShadowParts) : Option Effect :=
  let effect (x y blur spread : Float32) : Effect :=
    let shadow : Shadow := ⟨parts.color.getD defaultShadowColor, x, y, blur, spread⟩
    if parts.inset then .innerShadow shadow else .dropShadow shadow
  match parts.lengths with
  | [x, y] => some (effect x y 0 0)
  | [x, y, blur] => some (effect x y blur 0)
  | [x, y, blur, spread] => some (effect x y blur spread)
  | _ => none

/-- The size in pixels of a length in a shadow layer, which is no percentage. -/
def shadowPx? (root : Float32) : Token → Option Float32
  | .dimension value unit => (LengthUnit.ofCss? unit).bind fun u => Length.toPx? root ⟨value, u⟩
  | .number value => if value == 0 then some 0 else none
  | _ => none

/-- The shadows of the layer that `parts` begins and of the layers after it. -/
def shadowLayers? (root : Float32) (parts : ShadowParts) (ts : List Token) :
    Option (List Effect) :=
  match ts with
  | [] => parts.effect?.map ([·])
  | .symbol ',' :: r => do
    let effect ← parts.effect?
    return effect :: (← shadowLayers? root {} r)
  | t :: r =>
    let isInset := match t with
      | .ident name => Text.lowerAscii name == "inset"
      | _ => false
    if isInset then shadowLayers? root { parts with inset := true } r
    else match _h : colorAt? (t :: r) with
      | some (color, rest) => shadowLayers? root { parts with color } rest
      | none =>
        match shadowPx? root t with
        | some px =>
          if parts.lengths.length < 4 then
            shadowLayers? root { parts with lengths := parts.lengths ++ [px] } r
          else none
        | none => none
termination_by ts.length
decreasing_by
  · simp
  · simp
  · exact length_lt_of_colorAt? _h
  · simp

/-- The shadows of a `box-shadow` value. -/
def shadows? (root : Float32) (text : String) : Option (List Effect) :=
  match tokens text with
  | .ident name :: r =>
    if Text.lowerAscii name = "none" then (if r.isEmpty then some [] else none)
    else shadowLayers? root {} (.ident name :: r)
  | ts => shadowLayers? root {} ts

end UtilityStyle.Css
