/-
  CSS colors.

  `colorAt?` reads a color at the front of a list of tokens: a hash with hexadecimal digits, a
  name, or a call of `rgb` or `hsl`.  The arguments of a call are separated by commas or by white
  space, and may end with an alpha.  A call that the text leaves open ends with the text.

  `color?` reads a text that gives a color and nothing else.
-/
import UtilityStyle.Color.Named
import UtilityStyle.Css.Token

namespace UtilityStyle.Css

open Number

/-- Reads the channels of a call with `component`, which is told the position of a channel.
    Without an alpha the color is opaque. -/
def channels? (component : Nat → Token → Option Float32) (alpha : Token → Option Float32)
    (arguments : List Token) : Option (Float32 × Float32 × Float32 × Float32) :=
  match arguments with
  | [x, .symbol ',', y, .symbol ',', z] | [x, y, z] => do
    return (← component 0 x, ← component 1 y, ← component 2 z, 1)
  | [x, .symbol ',', y, .symbol ',', z, .symbol ',', a] | [x, y, z, .symbol '/', a] => do
    return (← component 0 x, ← component 1 y, ← component 2 z, ← alpha a)
  | _ => none

/-- A channel on the scale to 255, or a percentage of it. -/
def rgbComponent? (_position : Nat) : Token → Option Float32
  | .number value => some value
  | .percentage fraction => some (fraction * 255)
  | _ => none

/-- A hue in degrees at the first position, percentages at the others. -/
def hslComponent? : Nat → Token → Option Float32
  | 0, .number value => some value
  | 0, .dimension value unit => if Text.lowerAscii unit = "deg" then some value else none
  | _ + 1, .percentage fraction => some fraction
  | _, _ => none

/-- An alpha, moved between zero and one. -/
def alphaComponent? : Token → Option Float32
  | .number value => some (clamp 0 1 value)
  | .percentage fraction => some (clamp 0 1 fraction)
  | _ => none

/-- The color of a call of `rgb` or `rgba`. -/
def rgbColor? (arguments : List Token) : Option Color := do
  let (r, g, b, a) ← channels? rgbComponent? alphaComponent? arguments
  (Color.ofChannels r g b a).toOption

/-- The color of a call of `hsl` or `hsla`. -/
def hslColor? (arguments : List Token) : Option Color := do
  let (h, s, l, a) ← channels? hslComponent? alphaComponent? arguments
  if within 0 1 s && within 0 1 l then some (.ofHsl h s l a) else none

/-- The color of a call. -/
def calledColor? (name : String) (arguments : List Token) : Option Color :=
  match Text.lowerAscii name with
  | "rgb" | "rgba" => rgbColor? arguments
  | "hsl" | "hsla" => hslColor? arguments
  | _ => none

/-- The arguments of a call, and what follows its closing parenthesis. -/
def callArguments (ts : List Token) : List Token × List Token :=
  (ts.takeWhile (· ≠ .symbol ')'), (ts.dropWhile (· ≠ .symbol ')')).tail)

/-- The color at the front of the tokens, and what follows it. -/
def colorAt? : List Token → Option (Color × List Token)
  | .hash digits :: r => (Color.ofHex? digits).map (·, r)
  | .ident name :: r => (Color.named? name).map (·, r)
  | .function name :: r =>
    (calledColor? name (callArguments r).1).map (·, (callArguments r).2)
  | _ => none

/-- A color takes at least one token. -/
theorem length_lt_of_colorAt? {ts rest : List Token} {c : Color}
    (h : colorAt? ts = some (c, rest)) : rest.length < ts.length := by
  unfold colorAt? at h
  split at h
  · obtain ⟨_, _, h⟩ := Option.map_eq_some_iff.1 h
    simp_all
  · obtain ⟨_, _, h⟩ := Option.map_eq_some_iff.1 h
    simp_all
  · next r =>
    obtain ⟨_, _, h⟩ := Option.map_eq_some_iff.1 h
    have := (List.dropWhile_sublist (· ≠ Token.symbol ')') (l := r)).length_le
    obtain rfl := (Prod.mk.inj h).2
    simp only [callArguments, List.length_tail, List.length_cons]
    omega
  · cases h

/-- The color that a CSS text gives, if it gives nothing else. -/
def color? (text : String) : Option Color :=
  match colorAt? (tokens text) with
  | some (color, []) => some color
  | _ => none

end UtilityStyle.Css
