/-
  Brackets in class names.

  Values may hold text in `[]` and `()`.  Two readings of such text are needed:

  * `closing?` follows the nesting by kind and finds the bracket that closes the first one;
    `closesAtEnd` says that this is the last character, so that the whole text is one group;
  * `nextDepth` only counts, never below zero, and `splitTop` and `cutLastTop?` cut at the
    separators outside all brackets in that count, whatever the brackets' kinds.
-/

namespace UtilityStyle.Text

/-! ## Nesting by kind -/

/-- The kinds of brackets. -/
inductive Bracket where
  | square
  | round
deriving DecidableEq, Repr

/-- The kind that a character opens. -/
def Bracket.opened? : Char → Option Bracket
  | '[' => some .square
  | '(' => some .round
  | _ => none

/-- The kind that a character closes. -/
def Bracket.closed? : Char → Option Bracket
  | ']' => some .square
  | ')' => some .round
  | _ => none

/-- Whether a character is a bracket of either kind. -/
def isBracket (c : Char) : Bool :=
  (Bracket.opened? c).isSome || (Bracket.closed? c).isSome

/-- The position of the bracket that closes the outermost of `stack`, innermost first, in a text
    whose first character has position `i`.  There is none if a bracket of the wrong kind closes
    first, or if the text ends. -/
def closingFrom? (stack : List Bracket) (i : Nat) : List Char → Option Nat
  | [] => none
  | c :: r =>
    match Bracket.opened? c, Bracket.closed? c, stack with
    | some kind, _, _ => closingFrom? (kind :: stack) (i + 1) r
    | none, none, _ => closingFrom? stack (i + 1) r
    | none, some _, [] => none
    | none, some kind, top :: outer =>
      if top ≠ kind then none
      else if outer.isEmpty then some i
      else closingFrom? outer (i + 1) r

/-- The position of the bracket that closes the first bracket of the text. -/
def closing? (s : List Char) : Option Nat := closingFrom? [] 0 s

/-- Whether the first bracket of the text is closed by its last character. -/
def closesAtEnd (s : List Char) : Bool := closing? s == some (s.length - 1)

/-- The text without its first and last character. -/
def inside (s : List Char) : List Char := s.tail.dropLast

/-! ## Counting depth -/

/-- The depth after a character; closing brackets at depth zero leave it there. -/
def nextDepth (depth : Nat) (c : Char) : Nat :=
  if c = '[' ∨ c = '(' then depth + 1
  else if c = ']' ∨ c = ')' then depth - 1
  else depth

/-- The parts that end at a separator of depth zero, and what follows the last of them. -/
def splitTop (sep : Char) (depth : Nat) : List Char → List (List Char) × List Char
  | [] => ([], [])
  | c :: r =>
    if c = sep ∧ depth = 0 then
      let (parts, last) := splitTop sep 0 r
      ([] :: parts, last)
    else
      match splitTop sep (nextDepth depth c) r with
      | ([], last) => ([], c :: last)
      | (part :: parts, last) => ((c :: part) :: parts, last)

/-- Cuts at the last separator of depth zero, which belongs to neither part. -/
def cutLastTop? (sep : Char) (depth : Nat) : List Char → Option (List Char × List Char)
  | [] => none
  | c :: r =>
    match cutLastTop? sep (nextDepth depth c) r with
    | some (a, b) => some (c :: a, b)
    | none => if c = sep ∧ depth = 0 then some ([], r) else none

end UtilityStyle.Text
