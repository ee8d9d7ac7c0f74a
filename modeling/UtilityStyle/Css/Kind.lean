/-
  Kinds of CSS values.

  Each test says whether a text is a value of one kind.  `isPassthrough` tells the values that only
  a browser can resolve; these are values of every kind.
-/
import UtilityStyle.Css.Color
import UtilityStyle.Css.Length
import UtilityStyle.Text.Pieces

namespace UtilityStyle.Css

open Text

/-- Whether a value begins with a function that only a browser resolves. -/
def isPassthrough (value : String) : Bool :=
  ["var(", "calc(", "min(", "max(", "clamp("].any (startsWith · value)

/-- Whether a value is a distance. -/
def isLength (value : String) : Bool :=
  isPassthrough value || (Length.ofCss? value).any (·.unit.isLength)

/-- Whether a value is a percentage. -/
def isPercentage (value : String) : Bool :=
  isPassthrough value || (Length.ofCss? value).any (·.unit == .percent)

/-- Whether a value is a number without a unit. -/
def isNumber (value : String) : Bool :=
  isPassthrough value || (number? value).isSome

/-- Whether a value is an angle. -/
def isAngle (value : String) : Bool :=
  isPassthrough value || (Length.ofCss? value).any fun l => l.unit == .deg || l.isZero

/-- Whether a value is a time. -/
def isTime (value : String) : Bool :=
  isPassthrough value || (Length.ofCss? value).any (·.unit.isTime)

/-- Whether a value is a color. -/
def isColor (value : String) : Bool :=
  isPassthrough value || (color? value).isSome

/-- Whether a value is an address or a gradient. -/
def isImage (value : String) : Bool :=
  isPassthrough value || startsWith "url(" value ||
    ["linear-gradient(", "radial-gradient(", "conic-gradient("].any fun gradient =>
      startsWith gradient value || startsWith ("repeating-" ++ gradient) value

end UtilityStyle.Css
