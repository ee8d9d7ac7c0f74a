/-
  Class names: modifiers and a utility.

      class ::= (modifier ":")* utility

  Only colons outside all brackets count, so that values and selectors in brackets keep theirs.
-/
import UtilityStyle.Selector
import UtilityStyle.Text.Brackets

namespace UtilityStyle

/-- A class name taken apart. -/
structure ClassName where
  /-- The modifiers as they were written. -/
  modifiers : List String
  utility : String
deriving DecidableEq, Repr

namespace ClassName

/-- Takes a class name apart. -/
def split (s : String) : ClassName :=
  let (parts, last) := Text.splitTop ':' 0 s.toList
  ⟨parts.map String.ofList, String.ofList last⟩

/-- The modifiers, read and sorted by level. -/
def readModifiers (name : ClassName) : List Modifier :=
  Modifier.sorted (name.modifiers.map Modifier.read)

end ClassName

end UtilityStyle
