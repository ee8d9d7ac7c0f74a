/-
  Reading modifiers.

  `Modifier.read` never fails: a text that is no modifier is kept as an unknown one.
  `stateSelector?` is the CSS of a state that is asked of another element; the states that have one
  are those that may follow `group-` and `peer-`.
-/
import UtilityStyle.Modifier

namespace UtilityStyle

open Text

/-! ## Brackets and names -/

/-- What is in square brackets around the whole text, unless it is empty. -/
def bracketed? (s : String) : Option String :=
  (between? "[" "]" s).filter (· != "")

/-- The text with every underscore read as a space. -/
def underscoresAsSpaces (s : String) : String := substitute '_' " " s

/-- Cuts a name off after the last slash, if there is one without closing square brackets. -/
def cutName (s : String) : String × Option String :=
  match splitLast? '/' s.toList with
  | some (front, name) =>
    if !name.isEmpty && !name.contains ']' then (String.ofList front, some (String.ofList name))
    else (s, none)
  | none => (s, none)

/-! ## Formulas and attributes -/

/-- Whether the text is empty, or a sign and a number with white space around the sign. -/
def isOffset (s : List Char) : Bool :=
  s.isEmpty ||
    match s.dropWhile isSpace with
    | sign :: r =>
      let number := r.dropWhile isSpace
      (sign == '+' || sign == '-') && !number.isEmpty && number.all isDecimalDigit
    | [] => false

/-- Whether the text is a multiple of `n` with an optional offset. -/
def isMultiple (s : List Char) : Bool :=
  let unsigned := match s with
    | '-' :: r => r
    | r => r
  match unsigned.dropWhile isDecimalDigit with
  | 'n' :: r => isOffset r
  | _ => false

/-- Whether the text is a formula for counted places. -/
def isFormula (s : String) : Bool :=
  s == "odd" || s == "even" || isMultiple s.toList ||
    (s != "" && s.toList.all isDecimalDigit)

/-- A formula, which may stand in brackets. -/
def formula? (s : String) : Option String :=
  let formula := ((bracketed? s).map underscoresAsSpaces).getD s
  if isFormula formula then some formula else none

/-- Whether the text is between two quotes of one kind and has none of them inside. -/
def isQuoted (s : List Char) : Bool :=
  match s with
  | '"' :: r => r.getLast? == some '"' && !r.dropLast.contains '"'
  | '\x27' :: r => r.getLast? == some '\x27' && !r.dropLast.contains '\x27'
  | _ => false

/-- Whether the text may follow the equals sign of an attribute selector. -/
def isAttributeValue (s : List Char) : Bool :=
  isQuoted s || (!s.isEmpty && s.all fun c => c != ']' && !isSpace c)

/-- Whether the text is empty, or a comparison with a value. -/
def isComparison : List Char → Bool
  | [] => true
  | '=' :: value => isAttributeValue value
  | operator :: '=' :: value =>
    ['~', '|', '^', '$', '*'].contains operator && isAttributeValue value
  | _ => false

/-- Whether the text is the inside of an attribute selector. -/
def isAttributeSelector : List Char → Bool
  | [] => false
  | c :: r => isAsciiLetter c && isComparison (r.dropWhile fun c => isWordChar c || c == '-')

/-- The name of an attribute of a group with the value that is asked for. -/
def attributeParts? (s : String) : Option (String × Option String) :=
  match bracketed? s with
  | some inner =>
    let content := underscoresAsSpaces inner
    match splitFirst? '=' content.toList with
    | some ([], _) => none
    | some (name, value) =>
      let isQuote (c : Char) : Bool := c == '"' || c == '\x27'
      some (String.ofList name, some (String.ofList (trimBoth isQuote value)))
    | none => some (content, none)
  | none =>
    if s != "" && s.toList.all fun c => isAsciiAlphanumeric c || c == '-' then some (s, none)
    else none

/-! ## Conditions on one element -/

/-- The counted place that a text asks for. -/
def nth? (s : String) : Option ModifierKind :=
  match after? "nth-last-of-type-" s, after? "nth-of-type-" s, after? "nth-" s with
  | some r, _, _ => (formula? r).map (.nth .lastOfType)
  | none, some r, _ => (formula? r).map (.nth .ofType)
  | none, none, some r => (formula? r).map (.nth .child)
  | none, none, none => none

/-- The attribute of a group that a text asks for. -/
def grouped? (s : String) : Option ModifierKind :=
  match after? "data-" s, after? "aria-" s with
  | some r, _ => (attributeParts? r).map fun (name, value) => .grouped .data name value
  | none, some r => (attributeParts? r).map fun (name, value) => .grouped .aria name value
  | none, none => none

/-- The condition on one element that a text asks for. -/
def elementKind? (s : String) : Option ModifierKind :=
  if pseudoClasses.contains s then some (.pseudoClass s)
  else if (elementStates.lookup s).isSome then some (.state s)
  else if (elementPlaces.lookup s).isSome then some (.place s)
  else if (pseudoElements.lookup s).isSome then some (.pseudoElement s)
  else (nth? s).or (grouped? s)

/-- The CSS of a state of another element: of a selector in brackets, with or without a mark for
    the element in front, or of a condition on one element that is no part of it. -/
def stateSelector? (state : String) : Option String :=
  match bracketed? state with
  | some inner =>
    let content := underscoresAsSpaces inner
    let rest := (after? "&" content).getD content
    if rest = "" then none else some rest
  | none =>
    match elementKind? state with
    | some (.pseudoElement _) | none => none
    | some kind => kind.suffix?

/-! ## Modifiers -/

/-- A space before the first round bracket of an at-rule, if there is none yet. -/
def spacedAtRule (s : String) : String :=
  match splitFirst? '(' s.toList with
  | some (front, rest) =>
    if front.getLast? = some ' ' then s else String.ofList (front ++ [' ', '('] ++ rest)
  | none => s

/-- The modifier in square brackets: an at-rule, a selector with a mark for the element, or an
    attribute selector. -/
def arbitraryKind? (inner : String) : Option ModifierKind :=
  let content := underscoresAsSpaces inner
  if startsWith "@" content then some (.arbitrary (spacedAtRule content))
  else if content.toList.contains '&' then some (.arbitrary content)
  else if isAttributeSelector content.toList then some (.condition ("[" ++ content ++ "]"))
  else none

/-- The container that a text asks for. -/
def containerKind? (s : String) : Option ModifierKind :=
  let (width, name) := cutName s
  if (Scale.container? width).isSome then some (.container width name)
  else (bracketed? width).map (.container · name)

/-- The width below which a text asks for the screen to be. -/
def upperWidthKind? (s : String) : Option ModifierKind :=
  if (Scale.breakpoints.lookup s).isSome then some (.screen s true)
  else (bracketed? s).map (.viewport · true)

/-- The state of another element that a text asks for. -/
def relatedKind? (relation : Relation) (s : String) : Option ModifierKind :=
  let (state, name) := cutName s
  (stateSelector? state).map fun _ => .related relation state name

/-- The condition on the medium that a whole word asks for. -/
def wordKind? (s : String) : Option ModifierKind :=
  match s with
  | "dark" => some .dark
  | "motion-safe" => some (.motion false)
  | "motion-reduce" => some (.motion true)
  | "rtl" | "ltr" =>
    some (.condition (":where(:dir(" ++ s ++ "), [dir=\"" ++ s ++ "\"], [dir=\"" ++ s ++ "\"] *)"))
  | _ => (mediaQueries.lookup s).map (.media s)

/-- The lower bound of the screen, or the browser feature, that brackets after a name ask for. -/
def bracketKind? (s : String) : Option ModifierKind :=
  (((after? "min-" s).bind bracketed?).map (.viewport · false)).or
    (((after? "supports-" s).bind bracketed?).map fun inner =>
      .media "supports" ("(" ++ underscoresAsSpaces inner ++ ")"))

/-- What a text asks for. -/
def ModifierKind.read? (s : String) : Option ModifierKind :=
  match bracketed? s, after? "@" s, after? "max-" s, after? "group-" s, after? "peer-" s with
  | some inner, _, _, _, _ => arbitraryKind? inner
  | none, some r, _, _, _ => containerKind? r
  | none, none, some r, _, _ => upperWidthKind? r
  | none, none, none, some r, _ => relatedKind? .group r
  | none, none, none, none, some r => relatedKind? .peer r
  | none, none, none, none, none =>
    if (Scale.breakpoints.lookup s).isSome then some (.screen s false)
    else ((bracketKind? s).or (wordKind? s)).or (elementKind? s)

/-- Reads a modifier. -/
def Modifier.read (raw : String) : Modifier := ⟨raw, (ModifierKind.read? raw).getD .unknown⟩

end UtilityStyle
