/-
  Declarations: what a utility says.

  * `Value`: the value of a property, before it is resolved for a design layer;
  * `Declaration`: a property with its value, its side, its markers and the text it came from.
-/
import UtilityStyle.Css.Length
import UtilityStyle.Color
import UtilityStyle.Utility.Property
import UtilityStyle.Utility.Side

namespace UtilityStyle

/-! ## Values -/

/-- The value of a declaration. -/
inductive Value where
  /-- A number without a unit: a step of a scale, a stacking position, a weight, a ratio. -/
  | number (n : Float32)
  | length (l : Length)
  /-- A fraction, resolved as a percentage. -/
  | fraction (numerator denominator : Nat)
  | keyword (name : String)
  /-- A color, with the key of the preset that it came from. -/
  | color (preset : Option String) (color : Color)
  /-- A font size, with a line height that belongs to it. -/
  | font (size : Length) (leading : Option Leading)
  /-- A stack of font families, the preferred one first. -/
  | families (names : List String)
  /-- A reference to a custom property. -/
  | variable (name : String)
  /-- CSS text as it stands. -/
  | raw (text : String)
deriving DecidableEq

namespace Value

/-- The number of a number. -/
def number? : Value → Option Float32
  | number n => some n
  | _ => none

/-- The name of a keyword. -/
def keyword? : Value → Option String
  | keyword name => some name
  | _ => none

/-- The color of a color. -/
def color? : Value → Option Color
  | color _ c => some c
  | _ => none

/-- The preset key of a color. -/
def preset? : Value → Option String
  | color preset _ => preset
  | _ => none

/-- A fraction in percent, unless it divides by zero. -/
def percent? : Value → Option Float32
  | fraction n d => if d = 0 then none else some (Float32.ofNat n / Float32.ofNat d * 100)
  | _ => none

/-- Whether a minus sign means anything for the value.  Of the keywords only `px` and `full` have
    a size. -/
def isSignable : Value → Bool
  | keyword name => name == "px" || name == "full"
  | _ => true

end Value

/-! ## Declarations -/

/-- Where the value of a declaration comes from. -/
inductive Origin where
  /-- The theme, a scale or a keyword table. -/
  | preset
  /-- A bracketed literal. -/
  | arbitrary
  /-- A custom property in parentheses. -/
  | customProperty
  /-- A `theme(...)` reference. -/
  | themeVariable
deriving DecidableEq, Repr

/-- The name of an origin. -/
def Origin.name : Origin → String
  | preset => "preset"
  | arbitrary => "arbitrary"
  | customProperty => "custom-property"
  | themeVariable => "theme-variable"

/-- A property with its value. -/
structure Declaration where
  property : Property
  value : Value
  origin : Origin := .preset
  side : Option Side := none
  /-- An opacity in percent. -/
  opacity : Option Nat := none
  /-- Whether the value counts with a minus sign. -/
  negative : Bool := false
  important : Bool := false
  /-- The utility as it was written. -/
  raw : String
deriving DecidableEq

namespace Declaration

/-- The side, where none means all. -/
def sideOrAll (d : Declaration) : Side := d.side.getD .all

/-- Whether the value was a bracketed literal. -/
def isArbitrary (d : Declaration) : Bool := d.origin == .arbitrary

end Declaration

end UtilityStyle
