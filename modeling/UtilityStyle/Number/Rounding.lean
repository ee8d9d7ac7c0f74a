/-
  Steps between floating point and whole numbers.

  Style values are single precision numbers.  The steps that leave this format are exact
  computations on sign, mantissa and exponent, followed by one rounding to nearest, ties to even:

  * `toSingle` rounds a double precision number;
  * `isWhole` tests for a fractional part, `roundByte` rounds to an 8-bit channel, `wholePart` and
    `wholeCount` cut the fraction off;
  * `remainder` and `modulo` divide with a truncated and with a floored quotient;
  * `clamp` and `within` compare with bounds, where a NaN is within none.
-/

namespace UtilityStyle.Number

open Float.Model (Format UnpackedFloat)
open Float.Model.UnpackedFloat (Sign)

/-- The nearest single precision number to `±mantissa · 2 ^ exponent`. -/
def ofParts (sign : Sign) (mantissa : Nat) (exponent : Int) : Float32 :=
  ⟨.pack (if mantissa = 0 then .zero sign else .round .binary32 sign mantissa exponent)⟩

/-- The nearest single precision number to a double precision one. -/
def toSingle (x : Float) : Float32 :=
  match x.toModel.unpack with
  | .finite sign mantissa exponent _ => ofParts sign mantissa exponent
  | special => ⟨.pack special⟩

/-- The result of operations without a value. -/
def nan : Float32 := ⟨.pack .notANumber⟩

/-- The value above all finite ones. -/
def infinity : Float32 := ⟨.pack (.infinity .positive)⟩

/-- Whether a number is finite and has no fractional part. -/
def isWhole (x : Float32) : Bool :=
  match x.toModel.unpack with
  | .zero _ => true
  | .finite _ mantissa exponent _ => mantissa % Nat.pow 2 (-exponent).toNat = 0
  | _ => false

/-- The nearest whole number from 0 to 255, where a half goes up and a NaN is zero. -/
def roundByte (x : Float32) : Nat :=
  match x.toModel.unpack with
  | .infinity .positive => 255
  | .finite .positive mantissa exponent _ =>
    let unit := Nat.pow 2 (-exponent).toNat
    min 255 ((2 * (mantissa <<< exponent.toNat) + unit) / (2 * unit))
  | _ => 0

/-- The whole part of a number within the range of 32 bits.  Beyond it the nearest bound is taken,
    and a NaN is zero. -/
def wholePart (x : Float32) : Int := x.toInt32.toInt

/-- The whole part of a number within the range of 32 bits without a sign. -/
def wholeCount (x : Float32) : Nat := x.toUInt32.toNat

/-- What is left of `x` after the whole multiple of `y` towards zero is taken away.  It is exact
    and has the sign of `x`. -/
def remainder (x y : Float32) : Float32 :=
  match x.toModel.unpack, y.toModel.unpack with
  | .finite sign m e _, .finite _ n f _ =>
    let unit := min e f
    ofParts sign ((m <<< (e - unit).toNat) % (n <<< (f - unit).toNat)) unit
  | .zero _, .finite .. | .zero _, .infinity _ | .finite .., .infinity _ => x
  | _, _ => nan

/-- The remainder moved up by `y` when it is negative. -/
def modulo (x y : Float32) : Float32 :=
  let r := remainder x y
  if r < 0 then r + y.abs else r

/-- The nearest number to `x` between the bounds; a NaN stays as it is. -/
def clamp (lo hi x : Float32) : Float32 :=
  if x < lo then lo else if hi < x then hi else x

/-- Whether a number lies between the bounds, ends included. -/
def within (lo hi x : Float32) : Bool := lo ≤ x && x ≤ hi

end UtilityStyle.Number
