/-
  Reading decimal numbers.

  * `readNat?` reads a whole number of a bit width, with an optional plus sign;
  * `readSingle?` reads a single precision number: an optional sign, then digits with an optional
    point and exponent, or the name of a special value in any case.

  A number is read to the nearest value that single precision has, ties to even.
-/
import UtilityStyle.Number.Rounding

namespace UtilityStyle.Number

/-! ## Digits -/

/-- The value of a run of ASCII digits. -/
def digitsValue (digits : List Char) : Nat :=
  digits.foldl (fun n c => 10 * n + (c.toNat - '0'.toNat)) 0

/-- The leading run of ASCII digits, and what follows it. -/
def takeDigits (s : List Char) : List Char × List Char :=
  (s.takeWhile Char.isDigit, s.dropWhile Char.isDigit)

/-- A whole number of at most `bits` bits, written with ASCII digits after an optional plus sign. -/
def readNat? (bits : Nat) (s : List Char) : Option Nat :=
  let digits := match s with
    | '+' :: r => r
    | r => r
  if digits ≠ [] ∧ digits.all Char.isDigit ∧ digitsValue digits < Nat.pow 2 bits then
    some (digitsValue digits)
  else none

/-! ## Numbers with a point -/

/-- The nearest single precision number to `m · 10 ^ e`.  Above the greatest exponent that counts
    every number but zero is infinite, and below the least one every number is zero. -/
def ofDecimal (m : Nat) (e : Int) : Float32 :=
  let e := max (-(m.log2 + 50 : Int)) (min 39 e)
  Float32.ofScientific m (e < 0) e.natAbs

/-- Drops an optional sign, and says whether it was a minus. -/
def takeSign (s : List Char) : Bool × List Char :=
  match s with
  | '-' :: r => (true, r)
  | '+' :: r => (false, r)
  | r => (false, r)

/-- The exponent at the front of the text; a letter without digits is left alone. -/
def takeExponent : List Char → Option Int × List Char
  | [] => (none, [])
  | c :: r =>
    let (negative, s) := takeSign r
    let (digits, rest) := takeDigits s
    if (c = 'e' ∨ c = 'E') ∧ digits ≠ [] then
      (some (if negative then -(digitsValue digits : Int) else digitsValue digits), rest)
    else (none, c :: r)

/-- An unsigned decimal number with at least one digit before or after its point. -/
def readDecimal? (s : List Char) : Option Float32 :=
  let (whole, r) := takeDigits s
  let (fraction, r) := match r with
    | '.' :: t => takeDigits t
    | t => ([], t)
  if whole = [] ∧ fraction = [] then none
  else match takeExponent r with
    | (k, []) => some (ofDecimal (digitsValue (whole ++ fraction)) (k.getD 0 - fraction.length))
    | (_, _ :: _) => none

/-- An unsigned number: a decimal one or a special value. -/
def readMagnitude? (s : List Char) : Option Float32 :=
  let name := String.ofList (s.map Char.toLower)
  if name = "inf" ∨ name = "infinity" then some infinity
  else if name = "nan" then some nan
  else readDecimal? s

/-- A single precision number. -/
def readSingle? (s : List Char) : Option Float32 :=
  let (negative, magnitude) := takeSign s
  (readMagnitude? magnitude).map fun x => if negative then -x else x

end UtilityStyle.Number
