/-
  Fragments: the value part of a utility.

  A fragment is the text after a utility's stem and dash.  It is one of three things:

  * a preset, a key for the theme, a scale or a keyword table, without any bracket;
  * an arbitrary value in `[]`, whose content may be a single call or a hexadecimal color;
  * a custom property in `()`.

  The content of the last two may begin with a type hint and a colon.  `Fragment.read?` reads a
  fragment and refuses brackets that do not nest or enclose nothing.
-/
import UtilityStyle.Text.Brackets
import UtilityStyle.Text.Pieces

namespace UtilityStyle

open Text

/-! ## Grammar of the parts -/

/-- Whether the text is an unsigned number with an optional fraction, in digits of any script. -/
def isNumeric (s : List Char) : Bool :=
  !(s.takeWhile isDecimalDigit).isEmpty &&
    match s.dropWhile isDecimalDigit with
    | [] => true
    | '.' :: r => !r.isEmpty && r.all isDecimalDigit
    | _ => false

/-- Whether the text is `#` and the digits of a hexadecimal color. -/
def isHexColor : List Char → Bool
  | '#' :: digits => digits.all isHexDigit && [3, 4, 6, 8].contains digits.length
  | _ => false

/-- The type hints that may begin the content of brackets. -/
def typeHints : List String := [
  "length", "color", "number", "integer", "percentage", "url", "image", "family-name", "angle",
  "position", "size", "line-width", "shadow", "ratio", "any"]

/-- Takes a type hint and its colon off the content. -/
def takeHint (content : List Char) : Option String × List Char :=
  match splitFirst? ':' content with
  | some (hint, rest) =>
    if typeHints.contains (String.ofList hint) then (some (String.ofList hint), rest)
    else (none, content)
  | none => (none, content)

/-- Whether the text is the name of a custom property. -/
def isCustomPropertyName : List Char → Bool
  | '-' :: '-' :: name =>
    !name.isEmpty && name.all fun c => isAsciiAlphanumeric c || c == '-' || c == '_'
  | _ => false

/-- The content of the bracket pair that encloses the whole text, unless it is blank. -/
def enclosed? (s : List Char) : Option (List Char) :=
  if closesAtEnd s && !isBlank (inside s) then some (inside s) else none

/-- The arguments of a call of `name` that spans the whole content. -/
def callArguments? (name : String) (content : List Char) : Option (List Char) :=
  (name.toList.isPrefixOf? content).bind fun call =>
    if call.head? == some '(' && closesAtEnd call then some (inside call) else none

/-- The text with an underscore read as a space, and as itself after a backslash. -/
def spaced : List Char → List Char
  | [] => []
  | '\\' :: '_' :: r => '_' :: spaced r
  | c :: r => (if c = '_' then ' ' else c) :: spaced r

/-! ## Arbitrary values -/

/-- The forms of an arbitrary value. -/
inductive Form where
  | plain
  | hex
  | rgb
  | rgba
  | url
  | var
  | calculation
  | theme
deriving DecidableEq, Repr

namespace Form

/-- The name of a form: the function it calls, if it calls one. -/
def name : Form → String
  | plain => "plain"
  | hex => "hex"
  | rgb => "rgb"
  | rgba => "rgba"
  | url => "url"
  | var => "var"
  | calculation => "calc"
  | theme => "theme"

/-- The forms that are calls. -/
def calls : List Form := [rgba, rgb, url, var, calculation, theme]

/-- The text that a call is kept as: colors whole, the others as their arguments. -/
def kept (form : Form) (content arguments : List Char) : List Char :=
  match form with
  | url | theme => unquoted arguments
  | var => arguments
  | calculation => spaced arguments
  | plain | hex | rgb | rgba => content

/-- The form of a content, with the text that is kept of it.  A call with blank arguments has
    none.  Underscores stay in a content that mentions an address. -/
def read? (content : List Char) : Option (Form × List Char) :=
  if isHexColor content then some (hex, content)
  else
    match calls.findSome? fun form => (callArguments? form.name content).map (form, ·) with
    | some (form, arguments) =>
      if isBlank arguments then none else some (form, form.kept content arguments)
    | none =>
      some (plain, if hasPiece "url(".toList content then content else spaced content)

end Form

/-! ## Fragments -/

/-- The value part of a utility. -/
inductive Fragment where
  /-- A key, and whether it is a number. -/
  | preset (numeric : Bool)
  /-- Bracketed content. -/
  | arbitrary (hint : Option String) (form : Form) (content : String)
  /-- A custom property in parentheses. -/
  | customProperty (hint : Option String) (name : String)
deriving DecidableEq, Repr

namespace Fragment

/-- Reads the content of square brackets. -/
def readArbitrary? (s : List Char) : Option Fragment := do
  let (hint, content) := takeHint (← enclosed? s)
  if isBlank content then none
  else
    let (form, kept) ← Form.read? content
    return arbitrary hint form (String.ofList kept)

/-- Reads the content of parentheses. -/
def readCustomProperty? (s : List Char) : Option Fragment := do
  let (hint, name) := takeHint (← enclosed? s)
  if isCustomPropertyName name then return customProperty hint (String.ofList name)
  else none

/-- Reads the value part of a utility. -/
def read? (s : List Char) : Option Fragment :=
  match s.head? with
  | some '[' => readArbitrary? s
  | some '(' => readCustomProperty? s
  | _ => if s.any isBracket then none else some (preset (UtilityStyle.isNumeric s))

/-- Whether the fragment is a key. -/
def isPreset : Fragment → Bool
  | preset _ => true
  | _ => false

/-- Whether the fragment is a key that is a number. -/
def isNumeric : Fragment → Bool
  | preset numeric => numeric
  | _ => false

/-- Whether the fragment is a custom property. -/
def isCustomProperty : Fragment → Bool
  | customProperty .. => true
  | _ => false

/-- Whether the fragment counts as arbitrary.  A custom property with a type hint does. -/
def isArbitrary : Fragment → Bool
  | arbitrary .. => true
  | customProperty hint _ => hint.isSome
  | preset _ => false

/-- The type hint. -/
def hint? : Fragment → Option String
  | arbitrary hint .. | customProperty hint _ => hint
  | preset _ => none

/-- The form of an arbitrary value that is not plain. -/
def form? : Fragment → Option Form
  | arbitrary _ form _ => if form = .plain then none else some form
  | _ => none

/-- The content as CSS text. -/
def content? : Fragment → Option String
  | arbitrary _ _ content => some content
  | customProperty _ name => some ("var(" ++ name ++ ")")
  | preset _ => none

end Fragment

end UtilityStyle
