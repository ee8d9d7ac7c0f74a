/-
  Theme variables: themes as flat lists of names.

  A name is a dotted path (`colors.blue.200`) or the name of a custom property
  (`--colors-blue-200`), whose leading dashes do not count.  A look-up tries a path as it stands and
  then with dashes for its points.
-/
import UtilityStyle.Number.Decimal
import UtilityStyle.Text.Dictionary
import UtilityStyle.Theme

namespace UtilityStyle

/-- A flat map of theme variables, in ascending order of name. -/
structure ThemeVariables where
  entries : Text.Dictionary String

namespace ThemeVariables

/-- No variables. -/
def empty : ThemeVariables := ⟨.empty⟩

/-- A name without the dashes of a custom property. -/
def bareName (name : String) : String := (Text.after? "--" name).getD name

/-- Sets a variable. -/
def set (vars : ThemeVariables) (name value : String) : ThemeVariables :=
  ⟨vars.entries.insert (bareName name) value⟩

/-- The value of a variable. -/
def get? (vars : ThemeVariables) (name : String) : Option String :=
  vars.entries.get? (bareName name)

/-- Whether a variable is set. -/
def contains (vars : ThemeVariables) (name : String) : Bool := (vars.get? name).isSome

/-- The number of variables. -/
def size (vars : ThemeVariables) : Nat := vars.entries.size

/-- The variables in ascending order of name. -/
def toList (vars : ThemeVariables) : List (String × String) := vars.entries.toList

/-- The variables of a list, set one after the other. -/
def ofList (l : List (String × String)) : ThemeVariables :=
  l.foldl (fun vars (name, value) => vars.set name value) empty

/-- The theme value at a path.  A text that is a number counts as one. -/
def lookup? (vars : ThemeVariables) (path : String) : Option ThemeValue :=
  ((vars.get? path).or (vars.get? (Text.substitute '.' "-" path))).map fun value =>
    match Number.readSingle? value.toList with
    | some n => .number n
    | none => .text value

/-- The theme of the variables. -/
def theme (vars : ThemeVariables) : Theme := .ofLookup vars.lookup?

end ThemeVariables

end UtilityStyle
