/-
  CSS identifiers.

  `escapeIdentifier` writes a text so that a style sheet reads it back as one identifier.
-/
import UtilityStyle.Text.Charset

namespace UtilityStyle.Css

open Text

/-- A character as a hexadecimal escape, which ends with a space. -/
def hexEscape (c : Char) : List Char :=
  '\\' :: (Nat.toDigits 16 c.toNat ++ [' '])

/-- A character of a name: as it is, or escaped.  The null character has no escape and is
    replaced. -/
def escapeNameChar (c : Char) : List Char :=
  if isAsciiAlphanumeric c ∨ c = '_' ∨ c = '-' ∨ c.toNat ≥ 128 then [c]
  else if c.toNat = 0 then ['\ufffd']
  else if c.toNat < 32 ∨ c.toNat = 127 then hexEscape c
  else ['\\', c]

/-- A text as the rest of a name. -/
def escapeName (s : List Char) : List Char := s.flatMap escapeNameChar

/-- A text as a name whose first character may not be a digit. -/
def escapeStart : List Char → List Char
  | c :: r => if c.isDigit then hexEscape c ++ escapeName r else escapeName (c :: r)
  | [] => []

/-- A text as an identifier. -/
def escapeIdentifier (s : String) : String :=
  String.ofList <| match s.toList with
    | '-' :: '-' :: r => '-' :: '-' :: escapeName r
    | ['-'] => ['\\', '-']
    | '-' :: r => '-' :: escapeStart r
    | r => escapeStart r

end UtilityStyle.Css
