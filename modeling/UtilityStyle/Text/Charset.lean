/-
  Character classes.

  * `isSpace`: white space in the sense of Unicode's `White_Space` property;
  * `isDecimalDigit`, `isWordChar`: decimal digits and word characters of every script;
  * `isHexDigit`, `isAsciiLetter`, `isAsciiAlphanumeric`: the ASCII classes that keys, names and
    hexadecimal colors are made of;
  * `lowerAscii`, `upperAscii`: case mapping that leaves every character outside ASCII alone.
-/
import UtilityStyle.Text.WordRanges

namespace UtilityStyle.Text

/-! ## Classes of every script -/

/-- Whether a code point lies in one of the closed ranges. -/
def inRanges (ranges : List (Nat × Nat)) (n : Nat) : Bool :=
  ranges.any fun (lo, hi) => lo ≤ n && n ≤ hi

/-- White space: the controls from tab to carriage return, the space, and the spaces and line
    separators of Unicode. -/
def isSpace (c : Char) : Bool :=
  inRanges [(0x09, 0x0D), (0x20, 0x20), (0x85, 0x85), (0xA0, 0xA0), (0x1680, 0x1680),
    (0x2000, 0x200A), (0x2028, 0x2029), (0x202F, 0x202F), (0x205F, 0x205F), (0x3000, 0x3000)]
    c.toNat

/-- A decimal digit of any script, so that `٣` is one. -/
def isDecimalDigit (c : Char) : Bool :=
  inRanges decimalDigitRanges c.toNat

/-- A word character of any script. -/
def isWordChar (c : Char) : Bool :=
  inRanges wordRanges c.toNat

/-! ## ASCII classes -/

/-- An ASCII letter. -/
def isAsciiLetter (c : Char) : Bool := c.isAlpha

/-- An ASCII letter or digit. -/
def isAsciiAlphanumeric (c : Char) : Bool := c.isAlphanum

/-- The value of a hexadecimal digit of either case. -/
def hexValue? (c : Char) : Option Nat :=
  if '0' ≤ c ∧ c ≤ '9' then some (c.toNat - '0'.toNat)
  else if 'a' ≤ c ∧ c ≤ 'f' then some (c.toNat - 'a'.toNat + 10)
  else if 'A' ≤ c ∧ c ≤ 'F' then some (c.toNat - 'A'.toNat + 10)
  else none

/-- A hexadecimal digit of either case. -/
def isHexDigit (c : Char) : Bool := (hexValue? c).isSome

/-- The lowercase hexadecimal digit for a value below sixteen. -/
def hexDigit (n : Nat) : Char :=
  Char.ofNat (if n < 10 then '0'.toNat + n else 'a'.toNat + (n - 10))

/-- The text with its ASCII letters in lower case. -/
def lowerAscii (s : String) : String := String.ofList (s.toList.map Char.toLower)

/-- The text with its ASCII letters in upper case. -/
def upperAscii (s : String) : String := String.ofList (s.toList.map Char.toUpper)

/-! ## Classes of texts -/

/-- Whether all characters of a text are in a class is decided by going through the text. -/
-- An instance for statements on all characters there are would be found otherwise.
instance decidableForallMem (p : Char → Prop) [DecidablePred p] (s : List Char) :
    Decidable (∀ c ∈ s, p c) :=
  List.decidableBAll p s

end UtilityStyle.Text
