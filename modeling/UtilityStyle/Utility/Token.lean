/-
  Tokens: a utility taken apart.

      utility ::= ["!"] ["-"] stem ["-" value] ["/" suffix] ["!"]

  `UtilityToken.read?` takes a utility apart for a list of stems.  A suffix is taken off only where
  it has a meaning; elsewhere a slash belongs to the value.  Of several stems that fit, the longest
  one that leaves a well-formed value is taken.
-/
import UtilityStyle.Number.Decimal
import UtilityStyle.Utility.Fragment

namespace UtilityStyle

open Text

/-- A utility taken apart. -/
structure UtilityToken where
  /-- The utility as it was written. -/
  raw : String
  /-- The stem that was found. -/
  stem : String
  /-- What follows the stem and its dash. -/
  value : String
  negative : Bool
  important : Bool
  /-- What follows the slash. -/
  slash : Option String
  /-- The value, read. -/
  fragment : Fragment
deriving DecidableEq

namespace UtilityToken

/-! ## Markers -/

/-- Takes an importance mark off the front or, failing that, off the end. -/
def takeImportance (s : List Char) : List Char × Bool :=
  match s with
  | '!' :: r => (r, true)
  | _ => if s.getLast? = some '!' then (s.dropLast, true) else (s, false)

/-- Takes a minus sign off the front. -/
def takeMinus (s : List Char) : List Char × Bool :=
  match s with
  | '-' :: r => (r, true)
  | _ => (s, false)

/-- Whether the text may follow a slash: digits and inner points, or one bracket group that is not
    empty. -/
def isSlashSuffix (s : List Char) : Bool :=
  if s.head? = some '[' then 2 < s.length && closesAtEnd s
  else !s.isEmpty && s.head? != some '.' && s.getLast? != some '.' &&
    s.all fun c => c.isDigit || c == '.'

/-- Takes a suffix off at the last slash outside all brackets. -/
def takeSlash (s : List Char) : List Char × Option (List Char) :=
  match cutLastTop? '/' 0 s with
  | some (body, suffix) =>
    if !body.isEmpty && isSlashSuffix suffix then (body, some suffix) else (s, none)
  | none => (s, none)

/-! ## Stems -/

/-- Whether the text could be a value on its own. -/
def isWellFormed (s : List Char) : Bool :=
  if s.head? = some '[' ∨ s.head? = some '(' then closesAtEnd s
  else !s.isEmpty && s.head? != some '-' && s.getLast? != some '-' &&
    !hasPiece ['-', '-'] s &&
    s.all fun c => isAsciiAlphanumeric c || ['.', '_', '%', '/', '-'].contains c

/-- The stem before a dash and what follows, for each stem that begins the body this way. -/
def candidates (stems : List String) (body : List Char) : List (String × List Char) :=
  stems.filterMap fun stem => ((stem.toList ++ ['-']).isPrefixOf? body).map (stem, ·)

/-- The element with the least measure, the first of several. -/
def leastBy? {α : Type} (measure : α → Nat) : List α → Option α
  | [] => none
  | a :: r =>
    match leastBy? measure r with
    | none => some a
    | some b => if measure a ≤ measure b then some a else some b

/-- The stem of a body and the value that it leaves.  A body that is a stem has no value.
    Otherwise the longest stem with a well-formed value is taken, which is the one that leaves
    least, or else the shortest stem. -/
def chooseStem? (stems : List String) (body : List Char) : Option (String × List Char) :=
  if stems.contains (String.ofList body) then some (String.ofList body, [])
  else
    let found := candidates stems body
    (leastBy? (·.2.length) (found.filter fun c => isWellFormed c.2)).or
      (leastBy? (·.1.length) found)

/-! ## Reading -/

/-- Takes a utility apart. -/
def read? (stems : List String) (slashed : Bool) (raw : String) : Option UtilityToken := do
  let (body, important) := takeImportance raw.toList
  let (body, negative) := takeMinus body
  let (body, slash) := if slashed then takeSlash body else (body, none)
  let (stem, value) ← chooseStem? stems body
  let fragment ← Fragment.read? value
  return {
    raw, stem, negative, important, fragment
    value := String.ofList value
    slash := slash.map String.ofList }

/-- The number of a value that is one. -/
def number? (t : UtilityToken) : Option Float32 :=
  if t.fragment.isNumeric then Number.readSingle? t.value.toList else none

/-- Whether the value is the given key. -/
def isKeyword (t : UtilityToken) (key : String) : Bool := t.fragment.isPreset && t.value == key

/-- The percentage that a suffix spells: a number, or in brackets a fraction of one or a number
    with a percent sign. -/
def suffixPercent? (suffix : String) : Option Float32 :=
  match between? "[" "]" suffix with
  | some inner =>
    match before? "%" inner with
    | some percent => Number.readSingle? percent.toList
    | none => (Number.readSingle? inner.toList).map (· * 100)
  | none => Number.readSingle? suffix.toList

/-- The opacity in percent.  The outer option is none if the suffix is no opacity, the inner one
    if there is no suffix. -/
def opacity? (t : UtilityToken) : Option (Option Nat) :=
  match t.slash with
  | none => some none
  | some suffix =>
    (suffixPercent? suffix).bind fun percent =>
      if Number.within 0 100 percent then some (some (Number.roundByte percent)) else none

end UtilityToken

end UtilityStyle
