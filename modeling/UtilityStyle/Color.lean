/-
  Colors.

  A `Color` has straight alpha and channels between zero and one.  It is read from hexadecimal
  digits (`Color.ofHex`) and from channels on the scale to 255 (`Color.ofChannels`), and written
  in hexadecimal (`Color.toHex`).  Both readers name the fault of a text or number that they
  refuse.
-/
import UtilityStyle.Number.Shortest
import UtilityStyle.Text.Charset

namespace UtilityStyle

open Number Text

/-- A color with straight alpha, every channel between zero and one. -/
structure Color where
  r : Float32
  g : Float32
  b : Float32
  a : Float32
deriving DecidableEq

/-- The channels of a color. -/
inductive Channel where
  | red
  | green
  | blue
  | alpha
deriving DecidableEq, Repr

/-- The letter of a channel. -/
def Channel.letter : Channel → String
  | red => "r"
  | green => "g"
  | blue => "b"
  | alpha => "a"

/-- Why a text or a tuple of numbers is no color. -/
inductive ColorError where
  /-- The wrong number of hexadecimal digits, or something else among them. -/
  | invalidHex (input : String)
  /-- A channel outside its range. -/
  | outOfRange (channel : Channel) (value : Float32)
deriving DecidableEq

/-- What is reported for a fault. -/
def ColorError.message : ColorError → String
  | invalidHex input => "invalid hex color '" ++ input ++ "'"
  | outOfRange channel value =>
    "color channel '" ++ channel.letter ++ "' out of range: " ++ single value

namespace Color

/-- Opaque black. -/
def black : Color := ⟨0, 0, 0, 1⟩

/-- Opaque white. -/
def white : Color := ⟨1, 1, 1, 1⟩

/-- Black without any opacity. -/
def transparent : Color := ⟨0, 0, 0, 0⟩

/-- The color with another alpha. -/
def withAlpha (c : Color) (alpha : Float32) : Color := { c with a := alpha }

/-- The color with an opacity in percent folded into its alpha. -/
def faded (c : Color) (percent : Nat) : Color :=
  c.withAlpha (c.a * Float32.ofNat percent / 100)

/-! ## Hexadecimal text -/

/-- The color of four bytes. -/
def ofBytes (r g b a : Nat) : Color :=
  let channel (n : Nat) : Float32 := Float32.ofNat n / 255
  ⟨channel r, channel g, channel b, channel a⟩

/-- The color of three, four, six or eight hexadecimal digits.  A single digit stands for its
    double, and a missing alpha for an opaque color. -/
def ofHexDigits? : List Nat → Option Color
  | [r, g, b] => some (ofBytes (17 * r) (17 * g) (17 * b) 255)
  | [r, g, b, a] => some (ofBytes (17 * r) (17 * g) (17 * b) (17 * a))
  | [r, r', g, g', b, b'] => some (ofBytes (16 * r + r') (16 * g + g') (16 * b + b') 255)
  | [r, r', g, g', b, b', a, a'] =>
    some (ofBytes (16 * r + r') (16 * g + g') (16 * b + b') (16 * a + a'))
  | _ => none

/-- The color that a text gives in hexadecimal, after any `#` marks. -/
def ofHex? (input : String) : Option Color :=
  ((input.toList.dropWhile (· == '#')).mapM hexValue?).bind ofHexDigits?

/-- The color that a text gives in hexadecimal, or the fault of the text. -/
def ofHex (input : String) : Except ColorError Color :=
  match ofHex? input with
  | some color => .ok color
  | none => .error (.invalidHex input)

/-- The nearest byte to a channel. -/
def byte (channel : Float32) : Nat := roundByte (clamp 0 1 channel * 255)

/-- Two hexadecimal digits for a byte. -/
def hexPair (n : Nat) : List Char := [hexDigit (n / 16), hexDigit (n % 16)]

/-- Lowercase hexadecimal text.  An opaque color is written without its alpha. -/
def toHex (c : Color) : String :=
  String.ofList <| '#' :: (hexPair (byte c.r) ++ hexPair (byte c.g) ++ hexPair (byte c.b) ++
    if byte c.a = 255 then [] else hexPair (byte c.a))

/-! ## Channels -/

/-- The color of three channels between 0 and 255 and an alpha between 0 and 1, or the first
    channel out of its range. -/
def ofChannels (r g b a : Float32) : Except ColorError Color :=
  if !within 0 255 r then .error (.outOfRange .red r)
  else if !within 0 255 g then .error (.outOfRange .green g)
  else if !within 0 255 b then .error (.outOfRange .blue b)
  else if !within 0 1 a then .error (.outOfRange .alpha a)
  else .ok ⟨r / 255, g / 255, b / 255, a⟩

/-- The color of a hue in degrees and of saturation, lightness and alpha between 0 and 1. -/
def ofHsl (hue saturation lightness alpha : Float32) : Color :=
  let h := modulo hue 360 / 360
  if saturation == 0 then ⟨lightness, lightness, lightness, alpha⟩
  else
    let q :=
      if lightness < 0.5 then lightness * (1 + saturation)
      else lightness + saturation - lightness * saturation
    let p := 2 * lightness - q
    let channel (t : Float32) : Float32 :=
      let t := modulo t 1
      if t < 1 / 6 then p + (q - p) * 6 * t
      else if t < 0.5 then q
      else if t < 2 / 3 then p + (q - p) * (2 / 3 - t) * 6
      else p
    ⟨channel (h + 1 / 3), channel h, channel (h - 1 / 3), alpha⟩

end Color

end UtilityStyle
