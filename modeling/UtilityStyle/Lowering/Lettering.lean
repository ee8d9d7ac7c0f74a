/-
  Lowering of fonts and lines of text.

  `Declaration.lowerLettering` lowers the declarations that shape the text of a layer.
-/
import UtilityStyle.Lowering.Basic

namespace UtilityStyle

open Number

namespace Declaration

/-! ## Measures of text -/

/-- A line height; ratios and percentages stay relative to the font size. -/
def leading (d : Declaration) (options : LoweringOptions) (value : Leading) :
    Except LoweringError LineHeight :=
  match value with
  | .ratio ratio => .ok (.percent (ratio * 100))
  | .length ⟨percent, .percent⟩ => .ok (.percent percent)
  | .length l => (d.px options l).map .pixels

/-- The line height of a value that is one. -/
def lineHeight (d : Declaration) (options : LoweringOptions) : Except LoweringError LineHeight :=
  match d.value with
  | .number ratio => d.leading options (.ratio ratio)
  | .length l => d.leading options (.length l)
  | _ => d.unsupported

/-- The letter spacing of a value without the sign; font sizes and percentages stay relative. -/
def trackingMagnitude (d : Declaration) (options : LoweringOptions) :
    Except LoweringError LetterSpacing :=
  match d.value with
  | .length ⟨value, .em⟩ => .ok (.percent (value * 100))
  | .length ⟨percent, .percent⟩ => .ok (.percent percent)
  | .length l => (d.px options l).map .pixels
  | _ => d.unsupported

/-- The letter spacing of a value. -/
def tracking (d : Declaration) (options : LoweringOptions) : Except LoweringError LetterSpacing :=
  (d.trackingMagnitude options).map fun spacing => if d.negative then spacing.negated else spacing

/-- The pixels of a font size and the line height that belongs to it. -/
def fontMeasure (d : Declaration) (options : LoweringOptions) :
    Except LoweringError (Float32 × Option LineHeight) :=
  match d.value with
  | .font size height =>
    if size.unit = .percent then d.unsupported
    else do
      let px ← d.px options size
      match height with
      | none => return (px, none)
      | some height => return (px, some (← d.leading options height))
  | _ => d.unsupported

/-! ## Keywords of text -/

/-- The slant of a keyword. -/
def fontStyle? (keyword : String) : Option FontStyle :=
  match keyword with
  | "italic" => some .italic
  | "normal" => some .normal
  | _ => none

/-- The line of a keyword. -/
def decoration? (keyword : String) : Option TextDecoration :=
  match keyword with
  | "underline" => some .underline
  | "line-through" => some .strikethrough
  | "overline" => some .overline
  | "none" => some .plain
  | _ => none

/-- The letter case of a keyword. -/
def letterCase? (keyword : String) : Option TextCase :=
  match keyword with
  | "uppercase" => some .upper
  | "lowercase" => some .lower
  | "capitalize" => some .title
  | "none" => some .unchanged
  | _ => none

/-- What happens to text that is too long. -/
inductive OverflowChoice where
  /-- It is cut off after one line. -/
  | oneLine
  | cutOff
  | shown
deriving DecidableEq, Repr

/-- What a keyword asks for text that is too long. -/
def overflow? (keyword : String) : Option OverflowChoice :=
  match keyword with
  | "truncate" => some .oneLine
  | "ellipsis" => some .cutOff
  | "clip" => some .shown
  | _ => none

/-- The bound on the number of lines; the word for none lifts it. -/
def lineLimit (d : Declaration) : Except LoweringError (Option Nat) :=
  match d.value with
  | .keyword "none" => .ok none
  | .number n =>
    if n ≥ 1 ∧ isWhole n then .ok (some (wholeCount n)) else d.invalid .lineCountNotPositive
  | _ => d.unsupported

/-- The families of a value that is a stack of them. -/
def fontFamilies (d : Declaration) : Except LoweringError (List String) :=
  match d.value with
  | .families names => .ok names
  | _ => d.unsupported

/-! ## Lowering -/

/-- Lowers a declaration that shapes text. -/
def lowerLettering (d : Declaration) (options : LoweringOptions) : Lowering Unit :=
  match d.property with
  | .fontSize => do
    let (px, height) ← d.fontMeasure options
    modify fun layer => { layer with fontSize := some px }
    if height.isSome then
      modify fun layer => { layer with lineHeight := height }
  | .fontWeight => do
    let weight ← d.plainNumber
    modify fun layer => { layer with fontWeight := some weight }
  | .fontFamily => do
    let names ← d.fontFamilies
    modify fun layer => { layer with fontFamily := some names }
  | .fontStyle => do
    let style ← d.keywordIn fontStyle?
    modify fun layer => { layer with fontStyle := some style }
  | .lineHeight => do
    let height ← d.lineHeight options
    modify fun layer => { layer with lineHeight := some height }
  | .letterSpacing => do
    let spacing ← d.tracking options
    modify fun layer => { layer with letterSpacing := some spacing }
  | .textAlign => do
    let align ← d.keywordIn TextAlign.ofCss?
    modify fun layer => { layer with textAlign := some align }
  | .textDecorationLine => do
    let line ← d.keywordIn decoration?
    modify fun layer => { layer with textDecoration := some line }
  | .textTransform => do
    let letters ← d.keywordIn letterCase?
    modify fun layer => { layer with textCase := some letters }
  | .textOverflow => do
    match ← d.keywordIn overflow? with
    | .oneLine =>
      modify fun layer => { layer with truncates := some true }
      modify fun layer => { layer with maxLines := some 1 }
    | .cutOff => modify fun layer => { layer with truncates := some true }
    | .shown => modify fun layer => { layer with truncates := some false }
  | .lineClamp => do
    let limit ← d.lineLimit
    modify fun layer => { layer with truncates := some limit.isSome }
    modify fun layer => { layer with maxLines := limit }
  | _ => d.unsupported

end Declaration

end UtilityStyle
