/-
  The text choices of a design layer: alignment, case, decoration, slant, line height and letter
  spacing.
-/
import UtilityStyle.Text.Charset

namespace UtilityStyle

/-- Horizontal text alignment. -/
inductive TextAlign where
  | left
  | center
  | right
  | justified
deriving DecidableEq, Repr

/-- The name of a text alignment in a design. -/
def TextAlign.name : TextAlign → String
  | left => "LEFT"
  | center => "CENTER"
  | right => "RIGHT"
  | justified => "JUSTIFIED"

/-- The alignment that a `text-align` keyword of any case names, for text from left to right. -/
def TextAlign.ofCss? (keyword : String) : Option TextAlign :=
  match Text.lowerAscii keyword with
  | "left" | "start" => some left
  | "center" => some center
  | "right" | "end" => some right
  | "justify" => some justified
  | _ => none

/-- The letter case that text is shown in. -/
inductive TextCase where
  | unchanged
  | upper
  | lower
  | title
deriving DecidableEq, Repr

/-- The name of a letter case in a design. -/
def TextCase.name : TextCase → String
  | unchanged => "ORIGINAL"
  | upper => "UPPER"
  | lower => "LOWER"
  | title => "TITLE"

/-- A line through or near the text. -/
inductive TextDecoration where
  | plain
  | underline
  | strikethrough
  | overline
deriving DecidableEq, Repr

/-- The name of a decoration in a design. -/
def TextDecoration.name : TextDecoration → String
  | plain => "NONE"
  | underline => "UNDERLINE"
  | strikethrough => "STRIKETHROUGH"
  | overline => "OVERLINE"

/-- The slant of a font. -/
inductive FontStyle where
  | normal
  | italic
deriving DecidableEq, Repr

/-- The name of a slant in a design. -/
def FontStyle.name : FontStyle → String
  | normal => "NORMAL"
  | italic => "ITALIC"

/-- The height of a line, in pixels or in percent of the font size. -/
inductive LineHeight where
  | pixels (value : Float32)
  | percent (value : Float32)
deriving DecidableEq

/-- The space between letters, in pixels or in percent of the font size. -/
inductive LetterSpacing where
  | pixels (value : Float32)
  | percent (value : Float32)
deriving DecidableEq

/-- The spacing with the other sign. -/
def LetterSpacing.negated : LetterSpacing → LetterSpacing
  | pixels value => pixels (-value)
  | percent value => percent (-value)

end UtilityStyle
