/-
  CSS lengths.

  A `Length` is a number with one of the units that values are given in.  `Length.ofCss?` reads
  one from CSS text, `Length.toCss` writes it, `Length.toPx?` and `Length.toMs?` resolve it.
  `number?` reads a number without a unit, and `Leading` is a line height, which may be either.
-/
import UtilityStyle.Css.Token
import UtilityStyle.Number.Shortest

namespace UtilityStyle

open Number

/-! ## Units -/

/-- The units of lengths, angles and times. -/
inductive LengthUnit where
  | px
  | rem
  | em
  | percent
  | vw
  | vh
  | ch
  | deg
  | ms
  | s
deriving DecidableEq, Repr

namespace LengthUnit

/-- The unit of a CSS suffix of any case.  The variants of the viewport units count as these. -/
def ofCss? (suffix : String) : Option LengthUnit :=
  match Text.lowerAscii suffix with
  | "px" => some px
  | "rem" => some rem
  | "em" => some em
  | "%" => some percent
  | "vw" | "dvw" | "svw" | "lvw" => some vw
  | "vh" | "dvh" | "svh" | "lvh" => some vh
  | "ch" => some ch
  | "deg" => some deg
  | "ms" => some ms
  | "s" => some s
  | _ => none

/-- The CSS suffix of a unit. -/
def toCss : LengthUnit → String
  | px => "px"
  | rem => "rem"
  | em => "em"
  | percent => "%"
  | vw => "vw"
  | vh => "vh"
  | ch => "ch"
  | deg => "deg"
  | ms => "ms"
  | s => "s"

/-- Whether the unit measures distance. -/
def isLength : LengthUnit → Bool
  | px | rem | em | percent | vw | vh | ch => true
  | deg | ms | s => false

/-- Whether the unit measures time. -/
def isTime : LengthUnit → Bool
  | ms | s => true
  | _ => false

end LengthUnit

/-! ## Lengths -/

/-- A number with a unit. -/
structure Length where
  value : Float32
  unit : LengthUnit
deriving DecidableEq

namespace Length

/-- A length in pixels. -/
def px (value : Float32) : Length := ⟨value, .px⟩

/-- A length in root font sizes. -/
def rem (value : Float32) : Length := ⟨value, .rem⟩

/-- A length in font sizes. -/
def em (value : Float32) : Length := ⟨value, .em⟩

/-- A percentage. -/
def percent (value : Float32) : Length := ⟨value, .percent⟩

/-- The length of a token.  A zero without a unit is a length, another number is not. -/
def ofToken? : Css.Token → Option Length
  | .dimension value unit => (LengthUnit.ofCss? unit).map (⟨value, ·⟩)
  | .percentage fraction => some (percent (fraction * 100))
  | .number value => if value == 0 then some (px 0) else none
  | _ => none

/-- The length that a CSS text gives, if it gives nothing else. -/
def ofCss? (text : String) : Option Length :=
  match Css.tokens text with
  | [token] => ofToken? token
  | _ => none

/-- The length that a CSS text gives, if its unit measures distance. -/
def distance? (text : String) : Option Length :=
  (ofCss? text).filter (·.unit.isLength)

/-- CSS text. -/
def toCss (l : Length) : String := single l.value ++ l.unit.toCss

/-- The size in pixels, for a root font size in pixels.  Lengths that hang on a container, on the
    viewport or on a glyph have none. -/
def toPx? (root : Float32) (l : Length) : Option Float32 :=
  match l.unit with
  | .px => some l.value
  | .rem | .em => some (l.value * root)
  | _ => none

/-- The time in milliseconds. -/
def toMs? (l : Length) : Option Float32 :=
  match l.unit with
  | .ms => some l.value
  | .s => some (l.value * 1000)
  | _ => none

/-- The length with the other sign. -/
def negated (l : Length) : Length := ⟨-l.value, l.unit⟩

/-- Whether the number is zero, whatever its unit. -/
def isZero (l : Length) : Bool := l.value == 0

end Length

/-! ## Numbers and line heights -/

/-- The number that a CSS text gives, if it gives nothing else. -/
def Css.number? (text : String) : Option Float32 :=
  match tokens text with
  | [.number value] => some value
  | _ => none

/-- A line height: a multiple of the font size, or a length. -/
inductive Leading where
  | ratio (value : Float32)
  | length (value : Length)
deriving DecidableEq

/-- The line height that a CSS text gives; a number is a multiple of the font size. -/
def Leading.ofCss? (text : String) : Option Leading :=
  ((Css.number? text).map ratio).or ((Length.distance? text).map length)

end UtilityStyle
