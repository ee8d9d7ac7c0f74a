/-
  Theme documents: themes as nested tables.

  A `Document` is a tree of tables, lists and scalars.  `Document.find?` walks it along the
  segments of a path.  A table may hold a key of several segments, joined by points or by dashes;
  the longest key is tried first, and a walk that fails goes back to shorter ones.

  A table at the end of a path has the value of its default entry.
-/
import UtilityStyle.Text.Dictionary
import UtilityStyle.Theme

namespace UtilityStyle

/-- A number of a document. -/
inductive DocumentNumber where
  | whole (n : Int)
  | real (x : Float)

namespace DocumentNumber

/-- The number in single precision, by way of double precision. -/
def toSingle : DocumentNumber → Float32
  | whole n => Number.toSingle (Float.ofInt n)
  | real x => Number.toSingle x

/-- The number as text. -/
def toText : DocumentNumber → String
  | whole n => toString n
  | real x => Number.double x

end DocumentNumber

/-- A tree of tables, lists and scalars. -/
inductive Document where
  | null
  | bool (b : Bool)
  | number (n : DocumentNumber)
  | text (s : String)
  | list (items : List Document)
  /-- Entries in ascending order of name. -/
  | table (entries : List (String × Document))
deriving Inhabited

namespace Document

/-- The table of a list of entries; of several with one name the last one counts. -/
def ofEntries (entries : List (String × Document)) : Document :=
  table (entries.foldl (fun l (name, value) => Text.insertEntry name value l) [])

/-! ## Walking -/

/-- The part of a document at the end of a path. -/
def find? (doc : Document) (path : List String) : Option Document :=
  match path with
  | [] => some doc
  | segment :: more =>
    match doc with
    | table entries =>
      (List.range (more.length + 1)).reverse.findSome? fun n =>
        [".", "-"].findSome? fun separator =>
          (entries.lookup (String.intercalate separator (segment :: more.take n))).bind fun child =>
            child.find? (more.drop n)
    | list items =>
      (Number.readNat? 64 segment.toList).bind fun index =>
        items[index]?.bind fun child => child.find? more
    | _ => none
termination_by path.length
decreasing_by
  · simp only [List.length_drop, List.length_cons]; omega
  · simp

/-! ## Values -/

mutual

/-- The text of an item of a list: a scalar, or the first scalar inside a table. -/
def itemText? : Document → Option String
  | text s => some s
  | number n => some n.toText
  | table entries => firstText? entries
  | null | bool _ | list _ => none

/-- The text of the first entry that has one. -/
def firstText? : List (String × Document) → Option String
  | [] => none
  | (_, value) :: r =>
    match itemText? value with
    | some s => some s
    | none => firstText? r

end

mutual

/-- The theme value of a document.  A table has that of its default entry, a list that of its items
    that have a text. -/
def value? : Document → Option ThemeValue
  | number n => some (.number n.toSingle)
  | text s => some (.text s)
  | list items => some (.list (items.filterMap itemText?))
  | table entries => defaultValue? entries
  | null | bool _ => none

/-- The theme value of the default entry. -/
def defaultValue? : List (String × Document) → Option ThemeValue
  | [] => none
  | (name, value) :: r => if name = defaultKey then value? value else defaultValue? r

end

/-- The segments of a dotted path; empty ones do not count. -/
def segments (path : String) : List String :=
  ((Text.splitAll '.' path.toList).filter (!·.isEmpty)).map String.ofList

/-- The theme value at a dotted path. -/
def lookup? (doc : Document) (path : String) : Option ThemeValue :=
  (doc.find? (segments path)).bind value?

/-- The theme of a document. -/
def theme (doc : Document) : Theme := .ofLookup doc.lookup?

end Document

end UtilityStyle
