/-
  Taking text apart.

  * `after?` and `before?` remove a fixed text from the front or the end;
  * `splitFirst?` and `splitLast?` cut at the first or last occurrence of a character;
  * `splitAll` and `words` cut at every separator or at white space;
  * `trim`, `trimBoth` and `unquoted` drop blanks, other characters or quotes from both ends;
  * `substitute` puts a text in the place of a character.

  Texts are lists of characters here, so that every function is a recursion on its data.
-/
import UtilityStyle.Text.Charset

namespace UtilityStyle.Text

/-! ## Fixed texts at the ends -/

/-- What follows `front` in `s`, when `s` begins with it. -/
def after? (front s : String) : Option String :=
  (front.toList.isPrefixOf? s.toList).map String.ofList

/-- What precedes `back` in `s`, when `s` ends with it. -/
def before? (back s : String) : Option String :=
  (back.toList.isSuffixOf? s.toList).map String.ofList

/-- The text between `front` and `back`, when `s` begins and then ends with them. -/
def between? (front back s : String) : Option String :=
  (after? front s).bind (before? back)

/-- Whether `s` begins with `front`. -/
def startsWith (front s : String) : Bool := (after? front s).isSome

/-- Whether `piece` occurs somewhere in `s`. -/
def hasPiece (piece : List Char) : List Char → Bool
  | [] => piece.isEmpty
  | c :: r => piece.isPrefixOf (c :: r) || hasPiece piece r

/-! ## Cutting at a character -/

/-- Cuts at the first `sep`, which belongs to neither part. -/
def splitFirst? (sep : Char) : List Char → Option (List Char × List Char)
  | [] => none
  | c :: r =>
    if c = sep then some ([], r)
    else (splitFirst? sep r).map fun (a, b) => (c :: a, b)

/-- Cuts at the last `sep`, which belongs to neither part. -/
def splitLast? (sep : Char) : List Char → Option (List Char × List Char)
  | [] => none
  | c :: r =>
    match splitLast? sep r with
    | some (a, b) => some (c :: a, b)
    | none => if c = sep then some ([], r) else none

/-- The parts between the characters that `sep` selects, empty ones included. -/
def splitWhere (sep : Char → Bool) : List Char → List (List Char)
  | [] => [[]]
  | c :: r =>
    if sep c then [] :: splitWhere sep r
    else match splitWhere sep r with
      | [] => [[c]]
      | w :: ws => (c :: w) :: ws

/-- The parts between the occurrences of a character, empty ones included. -/
def splitAll (sep : Char) (s : List Char) : List (List Char) := splitWhere (· == sep) s

/-- The maximal runs without white space. -/
def words (s : List Char) : List (List Char) :=
  (splitWhere isSpace s).filter fun w => !w.isEmpty

/-! ## Trimming and replacing -/

/-- Drops the characters that `p` selects from both ends. -/
def trimBoth (p : Char → Bool) (s : List Char) : List Char :=
  ((s.dropWhile p).reverse.dropWhile p).reverse

/-- Drops white space from both ends. -/
def trim (s : List Char) : List Char := trimBoth isSpace s

/-- Whether nothing but white space is left. -/
def isBlank (s : List Char) : Bool := s.all isSpace

/-- The text without the quotes of one kind around it. -/
def unquoted : List Char → List Char
  | '"' :: r => if r.getLast? = some '"' then r.dropLast else '"' :: r
  | '\x27' :: r => if r.getLast? = some '\x27' then r.dropLast else '\x27' :: r
  | s => s

/-- Puts `new` in the place of every `old`. -/
def substitute (old : Char) (new : String) (s : String) : String :=
  String.ofList (s.toList.flatMap fun c => if c = old then new.toList else [c])

end UtilityStyle.Text
