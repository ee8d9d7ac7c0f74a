/-
  Shapes: what values a utility takes beyond its keys.

  A `Shape` is a kind of CSS value.  It decides which type hints agree with it, it reads bracketed
  text (`Shape.read?`) and values of a theme (`Shape.ofTheme?`).
-/
import UtilityStyle.Css.Kind
import UtilityStyle.Css.Shadow
import UtilityStyle.Utility.Scale

namespace UtilityStyle

open Number Text

/-- A kind of CSS value. -/
inductive Shape where
  | length
  /-- One or two lengths, each of which may be `auto`. -/
  | size
  /-- One to four lengths or names of edges. -/
  | position
  | color
  | number
  | integer
  /-- A number or a length, as for line heights. -/
  | lengthOrNumber
  | percentage
  | angle
  | time
  /-- An address or a gradient. -/
  | image
  | fontSize
  /-- Names of font families between commas. -/
  | fontFamily
  | shadow
  /-- A positive number or a fraction. -/
  | ratio
  /-- Any text. -/
  | any
deriving DecidableEq, Repr

namespace Shape

/-! ## Hints -/

/-- The type hints that agree with a shape, besides `any`. -/
def hints : Shape → List String
  | length => ["length", "percentage", "size", "line-width"]
  | size => ["length", "percentage", "size"]
  | position => ["length", "percentage", "position"]
  | color => ["color"]
  | number => ["number", "percentage"]
  | integer => ["integer", "number"]
  | lengthOrNumber => ["length", "number", "percentage"]
  | percentage => ["percentage", "number"]
  | angle => ["angle"]
  | time => ["number"]
  | image => ["url", "image"]
  | fontSize => ["length", "percentage", "size"]
  | fontFamily => ["family-name"]
  | shadow => ["shadow"]
  | ratio => ["ratio", "number"]
  | any => []

/-- Whether a type hint agrees with a shape. -/
def acceptsHint (shape : Shape) (hint : String) : Bool :=
  hint == "any" || shape == any || shape.hints.contains hint

/-- Whether an expression may stand for a value of the shape. -/
def acceptsCalculation (shape : Shape) : Bool :=
  !([color, image, fontFamily, shadow].contains shape)

/-! ## Parts of values -/

/-- The words of a CSS text. -/
def wordsOf (value : String) : List String := (words value.toList).map String.ofList

/-- The names of edges in a position. -/
def edgeNames : List String := ["left", "right", "top", "bottom", "center"]

/-- Whether the text could be a CSS keyword. -/
def isKeyword (value : String) : Bool :=
  value != "" && value.toList.all fun c => isAsciiLetter c || c == '-'

/-- Font families between commas, without white space and quotes around them.  None of them may
    be a number or a length. -/
def families? (value : String) : Option (List String) :=
  let names := (splitAll ',' value.toList).map fun name =>
    String.ofList (trimBoth (fun c => c == '"' || c == '\x27') (trim name))
  if names.all fun name =>
      name != "" && (Css.number? name).isNone && (Length.ofCss? name).isNone then some names
  else none

/-- A fraction of whole numbers of 32 bits, or a positive number. -/
def ratio? (value : String) : Option Value :=
  match splitFirst? '/' value.toList with
  | some (numerator, denominator) => do
    let numerator ← readNat? 32 (trim numerator)
    let denominator ← readNat? 32 (trim denominator)
    if denominator = 0 then none else return .fraction numerator denominator
  | none => ((Css.number? value).filter (· > 0)).map .number

/-- One length, or one or two words that are lengths or `auto`. -/
def size? (value : String) : Option Value :=
  let parts := wordsOf value
  if (parts.length = 1 ∨ parts.length = 2) ∧
      parts.all fun part => part == "auto" || (Length.distance? part).isSome then
    match parts.map Length.distance? with
    | [some l] => some (.length l)
    | _ => some (.raw value)
  else none

/-- One to four words that are lengths or names of edges. -/
def position? (value : String) : Option Value :=
  let parts := wordsOf value
  if 1 ≤ parts.length ∧ parts.length ≤ 4 ∧
      parts.all fun part => edgeNames.contains part || (Length.distance? part).isSome then
    some (.raw value)
  else none

/-! ## Values -/

/-- The value that a trimmed text is in a shape, when it is no expression. -/
def plain? (shape : Shape) (value : String) : Option Value :=
  match shape with
  | length => (Length.distance? value).map .length
  | size => size? value
  | position => position? value
  | color => (Css.color? value).map (.color none)
  | number => (Css.number? value).map .number
  | integer => ((Css.number? value).filter isWhole).map .number
  | lengthOrNumber =>
    ((Css.number? value).map .number).or ((Length.distance? value).map .length)
  | percentage => ((Length.ofCss? value).filter (·.unit == .percent)).map .length
  | angle =>
    ((Length.ofCss? value).filter fun l => l.unit == .deg || l.isZero).map fun l =>
      .length ⟨l.value, .deg⟩
  | time => ((Length.ofCss? value).filter (·.unit.isTime)).map .length
  | image => if Css.isImage value then some (.raw value) else none
  | fontSize => (Length.distance? value).map (.font · none)
  | fontFamily => (families? value).map .families
  | shadow => (Css.shadows? 16 value).map fun _ => .raw value
  | ratio => ratio? value
  | any => some (.raw value)

/-- The value that a text is in a shape.  An expression that only a browser resolves is a value of
    most shapes. -/
def read? (shape : Shape) (text : String) : Option Value :=
  let value := String.ofList (trim text.toList)
  if value = "" then none
  else if Css.isPassthrough value && shape.acceptsCalculation then some (.raw value)
  else shape.plain? value

/-- The value of a text that a theme gives: one of the shape, or a keyword. -/
def readOrKeyword? (shape : Shape) (text : String) : Option Value :=
  (shape.read? text).or (if isKeyword text then some (.keyword text) else none)

/-- The font size and line height of a list that a theme gives. -/
def fontOfList? : List String → Option Value
  | [] => none
  | first :: rest =>
    (Length.distance? first).map fun l => .font l (rest.head?.bind Leading.ofCss?)

/-- The value of a key that a theme gives.  Numbers take the unit of the shape. -/
def ofTheme? (shape : Shape) (key : String) (value : ThemeValue) : Option Value :=
  match shape, value with
  | color, value => (Css.color? value.head).map (.color (some key))
  | fontSize, .list items => fontOfList? items
  | fontSize, .number n => some (.font (.px n) none)
  | fontFamily, .list items => some (.families items)
  | fontFamily, .text s => (families? s).map .families
  | number, .number n | integer, .number n | lengthOrNumber, .number n | ratio, .number n =>
    some (.number n)
  | length, .number n | size, .number n | position, .number n => some (.length (.px n))
  | angle, .number n => some (.length ⟨n, .deg⟩)
  | time, .number n => some (.length ⟨n, .ms⟩)
  | shadow, value | image, value | any, value => some (.raw value.toCss)
  | shape, value => shape.readOrKeyword? value.head

end Shape

end UtilityStyle
