/-
  Measuring declarations.

  `LoweringOptions` fix the sizes that declarations leave open.  A declaration's value is measured
  in pixels or as a dimension (`px`, `spacing`, `dimension`, `lineWidth`), or a `LoweringError`
  says why it cannot be.
-/
import UtilityStyle.Css.Kind
import UtilityStyle.Design.Frame
import UtilityStyle.Utility.Scale

namespace UtilityStyle

/-! ## Options -/

/-- The choices that lowering leaves to its user. -/
structure LoweringOptions where
  /-- The pixels of one root font size. -/
  rootFontSize : Float32 := 16
  /-- The root font sizes of one spacing step. -/
  spacingStep : Float32 := Scale.defaultStep
  /-- The pixels of a border without a width. -/
  borderWidth : Float32 := 1
  /-- The pixels of a ring without a width. -/
  ringWidth : Float32 := 3
  /-- Whether the size of the screen means as large as the parent allows. -/
  screenAsFill : Bool := true
  /-- Whether declarations without a counterpart are kept as CSS. -/
  keepCss : Bool := true
deriving DecidableEq

/-- The pixels of `n` spacing steps. -/
def LoweringOptions.spacingPx (options : LoweringOptions) (n : Float32) : Float32 :=
  n * options.spacingStep * options.rootFontSize

/-! ## Errors -/

/-- What is wrong with a value. -/
inductive ValueFault where
  | noPixelSize (length : Length)
  | zeroDenominator
  | ratioNotPositive
  | lineCountNotPositive
  | badFlex (text : String)
  | badShadow (text : String)
deriving DecidableEq

/-- What is reported for a fault. -/
def ValueFault.message : ValueFault → String
  | noPixelSize length => "'" ++ length.toCss ++ "' has no pixel size"
  | zeroDenominator => "zero denominator"
  | ratioNotPositive => "ratio must be positive"
  | lineCountNotPositive => "line count must be a positive integer"
  | badFlex text => "bad flex '" ++ text ++ "'"
  | badShadow text => "bad shadow '" ++ text ++ "'"

/-- Why a declaration cannot be lowered. -/
inductive LoweringError where
  /-- No part of a layer stands for the declaration. -/
  | unsupported (property : Property) (raw : String)
  | invalidValue (property : Property) (fault : ValueFault)
deriving DecidableEq

/-- What is reported for an error. -/
def LoweringError.message : LoweringError → String
  | unsupported property raw => "'" ++ raw ++ "' (" ++ property.name ++ ") has no target mapping"
  | invalidValue property fault =>
    "invalid value for property '" ++ property.name ++ "': " ++ fault.message

namespace Declaration

variable {α : Type}

/-- The declaration is one that no part of a layer stands for. -/
def unsupported (d : Declaration) : Except LoweringError α :=
  .error (.unsupported d.property d.raw)

/-- The declaration has a value with a fault. -/
def invalid (d : Declaration) (fault : ValueFault) : Except LoweringError α :=
  .error (.invalidValue d.property fault)

/-- What was found, or else the declaration is unsupported. -/
def orUnsupported (d : Declaration) (found : Option α) : Except LoweringError α :=
  match found with
  | some a => .ok a
  | none => d.unsupported

/-- The number of a value that is one. -/
def plainNumber (d : Declaration) : Except LoweringError Float32 := d.orUnsupported d.value.number?

/-- What a table of keywords makes of a value that is one. -/
def keywordIn (d : Declaration) (table : String → Option α) : Except LoweringError α :=
  d.orUnsupported (d.value.keyword?.bind table)

/-! ## Measures -/

/-- The number with the sign of the declaration. -/
def signed (d : Declaration) (x : Float32) : Float32 := if d.negative then -x else x

/-- The pixels of a length in the declaration. -/
def px (d : Declaration) (options : LoweringOptions) (l : Length) : Except LoweringError Float32 :=
  match l.toPx? options.rootFontSize with
  | some px => .ok px
  | none => d.invalid (.noPixelSize l)

/-- The pixels of a value that is a spacing, without the sign. -/
def spacingMagnitude (d : Declaration) (options : LoweringOptions) :
    Except LoweringError Float32 :=
  match d.value with
  | .number n => .ok (options.spacingPx n)
  | .keyword "px" => .ok 1
  | .length l => d.px options l
  | _ => d.unsupported

/-- The pixels of a value that is a spacing. -/
def spacing (d : Declaration) (options : LoweringOptions) : Except LoweringError Float32 :=
  (d.spacingMagnitude options).map d.signed

/-- The dimension of a value that is a spacing, a percentage or automatic, without the sign. -/
def dimensionMagnitude (d : Declaration) (options : LoweringOptions) :
    Except LoweringError Dimension :=
  match d.value with
  | .keyword "auto" => .ok .auto
  | .keyword "full" => .ok (.percent 100)
  | .length ⟨percent, .percent⟩ => .ok (.percent percent)
  | .fraction .. =>
    match d.value.percent? with
    | some percent => .ok (.percent percent)
    | none => d.invalid .zeroDenominator
  | _ => (d.spacingMagnitude options).map .pixels

/-- The dimension of a value that is a spacing, a percentage or automatic. -/
def dimension (d : Declaration) (options : LoweringOptions) : Except LoweringError Dimension :=
  (d.dimensionMagnitude options).map fun x => if d.negative then x.negated else x

/-- The pixels of a value that is a line width, where the bare key has the given one. -/
def lineWidth (d : Declaration) (options : LoweringOptions) (bare : Float32) :
    Except LoweringError Float32 :=
  match d.value with
  | .keyword key => if key = defaultKey then .ok bare else d.unsupported
  | .number n => .ok n
  | .length l => d.px options l
  | _ => d.unsupported

end Declaration

end UtilityStyle
