/-
  Writing numbers with the fewest digits that read back.

  * `shortest` finds, for a binary number, the decimal with the fewest digits among those that
    round to it, and of these the nearest one;
  * `single` writes a single precision number in positional notation;
  * `double` writes a double precision number, with an exponent for very large and very small ones
    and always with a mark of being no whole number.
-/
import UtilityStyle.Number.Decimal

namespace UtilityStyle.Number

open Float.Model (Format UnpackedFloat)
open Float.Model.UnpackedFloat (Sign)

/-! ## The shortest decimal -/

/-- The number `digits · 10 ^ exponent`. -/
structure Decimal where
  digits : Nat
  exponent : Int
deriving DecidableEq, Repr

/-- Which of two equally near decimals is taken. -/
inductive Tie where
  | up
  | even

/-- The decimals that round to `m · 2 ^ e`, in quarters of `2 ^ e`: from `low` to `high`, with the
    ends if `m` is even. -/
structure RoundingInterval where
  low : Nat
  high : Nat
  closed : Bool

/-- The interval of a mantissa and exponent in a format.  Below a power of two numbers lie twice
    as dense. -/
def RoundingInterval.of (format : Format) (m : Nat) (e : Int) : RoundingInterval where
  low :=
    if m = Nat.pow 2 (format.mantissaBits - 1) ∧ format.minExponent < e then 4 * m - 1
    else 4 * m - 2
  high := 4 * m + 2
  closed := m % 2 = 0

/-- The point of the grid of multiples of `10 ^ k` that is nearest to `m · 2 ^ e` among those that
    round to it. -/
def nearestOnGrid? (tie : Tie) (range : RoundingInterval) (m : Nat) (e k : Int) : Option Nat :=
  -- a quarter of `2 ^ e` is `num / den` grid steps
  let num := Nat.pow 10 (-k).toNat <<< (e - 2).toNat
  let den := Nat.pow 10 k.toNat <<< (2 - e).toNat
  let hit (n : Nat) : Bool :=
    if range.closed then range.low * num ≤ n * den && n * den ≤ range.high * num
    else range.low * num < n * den && n * den < range.high * num
  let value := 4 * m * num
  let below := value / den
  let above := below + 1
  let preferAbove := match compare (2 * value) ((below + above) * den), tie with
    | .lt, _ => false
    | .gt, _ => true
    | .eq, .up => true
    | .eq, .even => below % 2 = 1
  match hit below, hit above with
  | true, true => some (if preferAbove then above else below)
  | true, false => some below
  | false, true => some above
  | false, false => none

/-- The decimal with the fewest digits that rounds to `m · 2 ^ e`. -/
def shortest (format : Format) (tie : Tie) (m : Nat) (e : Int) : Decimal :=
  let range := RoundingInterval.of format m e
  -- an exponent of ten above the number, as `0.30103` exceeds the decimal logarithm of two
  let top := ((m.log2 + 1 : Nat) + e) * 30103 / 100000 + 1
  let grids := (List.range 24).map fun (i : Nat) => top - (i : Int)
  (grids.findSome? fun k => (nearestOnGrid? tie range m e k).map (⟨·, k⟩)).getD ⟨0, 0⟩

/-! ## Layout -/

/-- A run of zeros. -/
def zeros (n : Nat) : List Char := List.replicate n '0'

/-- The digits of a whole number. -/
def digitsOf (n : Nat) : List Char := Nat.toDigits 10 n

/-- Positional notation, with a point only before a fractional part. -/
def Decimal.positional (d : Decimal) : String :=
  let digits := digitsOf d.digits
  let places := (-d.exponent).toNat
  String.ofList <|
    if 0 ≤ d.exponent then digits ++ zeros d.exponent.toNat
    else if places < digits.length then
      digits.take (digits.length - places) ++ '.' :: digits.drop (digits.length - places)
    else '0' :: '.' :: (zeros (places - digits.length) ++ digits)

/-- The exponent of ten of the leading digit. -/
def Decimal.magnitude (d : Decimal) : Int := d.exponent + (digitsOf d.digits).length - 1

/-- One digit before the point, and a signed exponent. -/
def Decimal.scientific (d : Decimal) : String :=
  let mantissa := match digitsOf d.digits with
    | [] => ['0']
    | [c] => [c]
    | c :: r => c :: '.' :: r
  let sign := if d.magnitude < 0 then '-' else '+'
  String.ofList (mantissa ++ 'e' :: sign :: digitsOf d.magnitude.natAbs)

/-- A minus before the text of a negative number. -/
def signed (sign : Sign) (text : String) : String :=
  match sign with
  | .negative => "-" ++ text
  | .positive => text

/-- A single precision number in positional notation; of two equally near decimals the larger. -/
def single (x : Float32) : String :=
  match x.toModel.unpack with
  | .notANumber => "NaN"
  | .infinity sign => signed sign "inf"
  | .zero sign => signed sign "0"
  | .finite sign m e _ => signed sign (shortest .binary32 .up m e).positional

/-- A double precision number.  From `10 ^ 16` on and below `10 ^ -5` it has an exponent, and a
    whole number below that ends in `.0`. -/
def double (x : Float) : String :=
  match x.toModel.unpack with
  | .notANumber => "NaN"
  | .infinity sign => signed sign "inf"
  | .zero sign => signed sign "0.0"
  | .finite sign m e _ =>
    let d := shortest .binary64 .even m e
    signed sign <|
      if d.magnitude < -5 ∨ 16 ≤ d.magnitude then d.scientific
      else if 0 ≤ d.exponent then d.positional ++ ".0"
      else d.positional

end UtilityStyle.Number
