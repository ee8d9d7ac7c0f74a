/-
  Themes: values that a design system gives to paths.

  A `Theme` may look up a dotted path such as `colors.blue.200`; without a look-up it has no
  values.  `Theme.resolve?` finds the value for the key of a utility in a namespace.
-/
import UtilityStyle.Number.Shortest
import UtilityStyle.Text.Pieces

namespace UtilityStyle

/-- A value of a theme. -/
inductive ThemeValue where
  | number (n : Float32)
  | text (s : String)
  /-- Several values, such as a font size with its line height, or a stack of fonts. -/
  | list (items : List String)
deriving DecidableEq

namespace ThemeValue

/-- The value as CSS text; the items of a list are joined by commas. -/
def toCss : ThemeValue → String
  | number n => Number.single n
  | text s => s
  | list items => String.intercalate ", " items

/-- The first item of a list, and any other value as CSS text. -/
def head : ThemeValue → String
  | list items => items.head?.getD ""
  | value => value.toCss

end ThemeValue

/-- The key that a utility without a value looks up. -/
def defaultKey : String := "DEFAULT"

/-- A theme: a look-up of paths, or none. -/
structure Theme where
  lookup? : Option (String → Option ThemeValue)

namespace Theme

/-- The theme without values. -/
def empty : Theme := ⟨none⟩

/-- The theme of a look-up. -/
def ofLookup (lookup : String → Option ThemeValue) : Theme := ⟨some lookup⟩

/-- The value of a path. -/
def find? (theme : Theme) (path : String) : Option ThemeValue :=
  theme.lookup?.bind (· path)

/-- The value of a key in a namespace.  The dashes of a key are first read as steps of the path
    and then as part of a name. -/
def resolve? (theme : Theme) (group key : String) : Option ThemeValue :=
  if key = "" then theme.find? (group ++ "." ++ defaultKey)
  else
    (theme.find? (group ++ "." ++ Text.substitute '-' "." key)).or
      (if key.toList.contains '-' then theme.find? (group ++ "." ++ key) else none)

end Theme

end UtilityStyle
