/-
  Scales: what the preset keys of utilities mean.

  The first part holds the tables, each with a look-up.  They are used twice: a family accepts the
  keys of its scale, and the lowering of a declaration resolves the keys that it finds.

  * `spacing?` and `readNumber?` read keys that are numbers, `fraction?` keys such as `1/2`;
  * `Scale` names the scales that families use, and `Scale.value?` is the value of a key.
-/
import UtilityStyle.Color.Palette
import UtilityStyle.Theme
import UtilityStyle.Utility.Declaration
import UtilityStyle.Utility.Fragment

namespace UtilityStyle

open Number Text

/-- The scales of utilities. -/
inductive Scale where
  | spacing
  | spacingOrFraction
  | fraction
  | container
  | palette
  /-- Numbers, and the bare key. -/
  | width
  | number
  | radius
  | fontSize
  | fontWeight
  | fontFamily
  | leading
  | tracking
  | shadow
  | blur
  /-- Percentages up to one hundred, kept as fractions of one. -/
  | opacity
  | animation
  | transition
  | easing
  | milliseconds
  | degrees
  /-- Percentages, kept as fractions of one. -/
  | percentage
  /-- Numbers, where the bare key is one. -/
  | factor
  | order
  | aspectRatio
  | gradient
deriving DecidableEq, Repr

namespace Scale

/-! ## Numbers -/

/-- The number of a key that is one. -/
def readNumber? (key : String) : Option Float32 :=
  if isNumeric key.toList then readSingle? key.toList else none

/-- One spacing step in root font sizes. -/
def defaultStep : Float32 := 0.25

/-- The length of `n` steps; only multiples of a quarter step are on the scale. -/
def steps? (step n : Float32) : Option Length :=
  if n ≥ 0 && isWhole (n * 4) then some (.rem (n * step)) else none

/-- The length of `n` default steps. -/
def spacing? (n : Float32) : Option Length := steps? defaultStep n

/-- A spacing key: one pixel, or a number on the scale. -/
def spacingKey? (key : String) : Option Value :=
  if key = "px" then some (.keyword "px")
  else do
    let n ← readNumber? key
    let _ ← spacing? n
    return .number n

/-- An unsigned whole number of 32 bits. -/
def readWhole? (s : List Char) : Option Nat :=
  if s.all Char.isDigit then readNat? 32 s else none

/-- A key that is a fraction. -/
def fraction? (key : String) : Option Value := do
  let (numerator, denominator) ← splitFirst? '/' key.toList
  let numerator ← readWhole? numerator
  let denominator ← readWhole? denominator
  if denominator = 0 then none else return .fraction numerator denominator

/-! ## Tables -/

/-- The radii of corners. -/
def radii : List (String × Length) := [
  ("none", .px 0),
  ("full", .px 9999),
  ("sm", .rem 0.125),
  (defaultKey, .rem 0.25),
  ("md", .rem 0.375),
  ("lg", .rem 0.5),
  ("xl", .rem 0.75),
  ("2xl", .rem 1),
  ("3xl", .rem 1.5),
  ("4xl", .rem 2)]

/-- The shadows of boxes, as CSS. -/
def shadows : List (String × String) := [
  ("sm", "0 1px 2px 0 rgb(0 0 0 / 0.05)"),
  (defaultKey, "0 1px 3px 0 rgb(0 0 0 / 0.1), 0 1px 2px -1px rgb(0 0 0 / 0.1)"),
  ("md", "0 4px 6px -1px rgb(0 0 0 / 0.1), 0 2px 4px -2px rgb(0 0 0 / 0.1)"),
  ("lg", "0 10px 15px -3px rgb(0 0 0 / 0.1), 0 4px 6px -4px rgb(0 0 0 / 0.1)"),
  ("xl", "0 20px 25px -5px rgb(0 0 0 / 0.1), 0 8px 10px -6px rgb(0 0 0 / 0.1)"),
  ("2xl", "0 25px 50px -12px rgb(0 0 0 / 0.25)"),
  ("inner", "inset 0 2px 4px 0 rgb(0 0 0 / 0.05)"),
  ("none", "none")]

/-- The radii of blurs in pixels. -/
def blurs : List (String × Float32) := [
  ("none", 0),
  ("sm", 4),
  (defaultKey, 8),
  ("md", 12),
  ("lg", 16),
  ("xl", 24),
  ("2xl", 40),
  ("3xl", 64)]

/-- The font sizes in root font sizes, with their line heights. -/
def fontSizes : List (String × Float32 × Leading) := [
  ("xs", 0.75, .length (.rem 1)),
  ("sm", 0.875, .length (.rem 1.25)),
  ("base", 1, .length (.rem 1.5)),
  ("lg", 1.125, .length (.rem 1.75)),
  ("xl", 1.25, .length (.rem 1.75)),
  ("2xl", 1.5, .length (.rem 2)),
  ("3xl", 1.875, .length (.rem 2.25)),
  ("4xl", 2.25, .length (.rem 2.5)),
  ("5xl", 3, .ratio 1),
  ("6xl", 3.75, .ratio 1),
  ("7xl", 4.5, .ratio 1),
  ("8xl", 6, .ratio 1),
  ("9xl", 8, .ratio 1)]

/-- The weights of fonts. -/
def fontWeights : List (String × Float32) := [
  ("thin", 100),
  ("extralight", 200),
  ("light", 300),
  ("normal", 400),
  ("medium", 500),
  ("semibold", 600),
  ("bold", 700),
  ("extrabold", 800),
  ("black", 900)]

/-- The stacks of font families. -/
def fontFamilies : List (String × List String) := [
  ("sans", [
    "ui-sans-serif", "system-ui", "sans-serif", "Apple Color Emoji", "Segoe UI Emoji"]),
  ("serif", ["ui-serif", "Georgia", "Cambria", "Times New Roman", "Times", "serif"]),
  ("mono", ["ui-monospace", "SFMono-Regular", "Menlo", "Monaco", "Consolas", "monospace"])]

/-- The line heights as multiples of the font size. -/
def leadings : List (String × Float32) := [
  ("none", 1),
  ("tight", 1.25),
  ("snug", 1.375),
  ("normal", 1.5),
  ("relaxed", 1.625),
  ("loose", 2)]

/-- The letter spacings in font sizes. -/
def trackings : List (String × Float32) := [
  ("tighter", -0.05),
  ("tight", -0.025),
  ("normal", 0),
  ("wide", 0.025),
  ("wider", 0.05),
  ("widest", 0.1)]

/-- The least widths of screens in pixels. -/
def breakpoints : List (String × Float32) := [
  ("sm", 640),
  ("md", 768),
  ("lg", 1024),
  ("xl", 1280),
  ("2xl", 1536)]

/-- The widths of containers. -/
def containers : List (String × Length) := [
  ("3xs", .rem 16),
  ("2xs", .rem 18),
  ("xs", .rem 20),
  ("sm", .rem 24),
  ("md", .rem 28),
  ("lg", .rem 32),
  ("xl", .rem 36),
  ("2xl", .rem 42),
  ("3xl", .rem 48),
  ("4xl", .rem 56),
  ("5xl", .rem 64),
  ("6xl", .rem 72),
  ("7xl", .rem 80),
  ("prose", ⟨65, .ch⟩)]

/-- The easing curves, as CSS. -/
def easings : List (String × String) := [
  ("linear", "linear"),
  ("in", "cubic-bezier(0.4, 0, 1, 1)"),
  ("out", "cubic-bezier(0, 0, 0.2, 1)"),
  ("in-out", "cubic-bezier(0.4, 0, 0.2, 1)"),
  ("initial", "initial")]

/-- The animations, as CSS. -/
def animations : List (String × String) := [
  ("none", "none"),
  ("spin", "spin 1s linear infinite"),
  ("ping", "ping 1s cubic-bezier(0, 0, 0.2, 1) infinite"),
  ("pulse", "pulse 2s cubic-bezier(0.4, 0, 0.6, 1) infinite"),
  ("bounce", "bounce 1s infinite")]

/-- The properties that transitions follow, as CSS. -/
def transitions : List (String × String) := [
  (defaultKey,
    "color, background-color, border-color, text-decoration-color, fill, stroke, opacity, " ++
    "box-shadow, transform, filter, backdrop-filter"),
  ("none", "none"),
  ("all", "all"),
  ("colors", "color, background-color, border-color, text-decoration-color, fill, stroke"),
  ("opacity", "opacity"),
  ("shadow", "box-shadow"),
  ("transform", "transform")]

/-- The directions of linear gradients, as CSS. -/
def directions : List (String × String) := [
  ("t", "to top"),
  ("tr", "to top right"),
  ("r", "to right"),
  ("br", "to bottom right"),
  ("b", "to bottom"),
  ("bl", "to bottom left"),
  ("l", "to left"),
  ("tl", "to top left")]

/-- The width of a container, or of a screen after `screen-`. -/
def container? (key : String) : Option Length :=
  match after? "screen-" key with
  | some screen => (breakpoints.lookup screen).map .px
  | none => containers.lookup key

/-! ## Values of keys -/

/-- The key as a keyword, if a table has it. -/
def keywordIn? {α : Type} (table : List (String × α)) (key : String) : Option Value :=
  (table.lookup key).map fun _ => .keyword key

/-- The stacking order of a key. -/
def order? (key : String) : Option Value :=
  match key with
  | "first" => some (.number (-9999))
  | "last" => some (.number 9999)
  | "none" => some (.number 0)
  | _ => (readNumber? key).map .number

/-- The aspect ratio of a key. -/
def aspectRatio? (key : String) : Option Value :=
  match key with
  | "square" => some (.fraction 1 1)
  | "video" => some (.fraction 16 9)
  | _ => fraction? key

/-- The linear gradient of a key, between stops that a custom property holds. -/
def gradient? (key : String) : Option Value := do
  let direction ← directions.lookup (← after? "gradient-to-" key)
  return .raw ("linear-gradient(" ++ direction ++ ", var(--tw-gradient-stops))")

/-- The line height of a key: a name is a multiple of the font size, a number is a spacing. -/
def leading? (key : String) : Option Value :=
  ((leadings.lookup key).map .number).or
    ((readNumber? key).bind fun n => (spacing? n).map .length)

/-- The value of a key on a scale. -/
def value? (scale : Scale) (key : String) : Option Value :=
  match scale with
  | spacing => spacingKey? key
  | spacingOrFraction => (spacingKey? key).or (fraction? key)
  | fraction => fraction? key
  | container => ((container? key).map fun _ => .keyword key).or (spacingKey? key)
  | palette => (Palette.color? key).map (.color (some key))
  | width => if key = defaultKey then some (.keyword key) else (readNumber? key).map .number
  | number => (readNumber? key).map .number
  | radius => keywordIn? radii key
  | fontSize => (fontSizes.lookup key).map fun (size, height) => .font (.rem size) (some height)
  | fontWeight => (fontWeights.lookup key).map .number
  | fontFamily => (fontFamilies.lookup key).map .families
  | leading => leading? key
  | tracking => (trackings.lookup key).map fun gap => .length (.em gap)
  | shadow => keywordIn? shadows key
  | blur => keywordIn? blurs key
  | opacity => (readNumber? key).bind fun n => if n ≤ 100 then some (.number (n / 100)) else none
  | animation => keywordIn? animations key
  | transition => keywordIn? transitions key
  | easing => keywordIn? easings key
  | milliseconds => (readNumber? key).map fun n => .length ⟨n, .ms⟩
  | degrees => (readNumber? key).map fun n => .length ⟨n, .deg⟩
  | percentage => (readNumber? key).map fun n => .number (n / 100)
  | factor => if key = defaultKey then some (.number 1) else (readNumber? key).map .number
  | order => order? key
  | aspectRatio => aspectRatio? key
  | gradient => gradient? key

end Scale

end UtilityStyle
