/-
  Class lists: from the classes of an element to its style.

  `ClassList.compile` reads the classes of a list and counts them one after the other
  (`ClassList.add`): a class that no rule takes is listed as unknown, a class without modifiers goes
  into the base style, and a class with modifiers into the variant of its chain.
-/
import UtilityStyle.Catalog
import UtilityStyle.ClassName
import UtilityStyle.Lowering

namespace UtilityStyle

open Text

/-- A class of a list. -/
structure ClassEntry where
  /-- The class as it was written. -/
  name : String
  /-- The modifiers by level. -/
  modifiers : List Modifier
  /-- The utility as it was written. -/
  utility : String
  /-- What the utility says, if any rule takes it. -/
  declaration : Option Declaration
deriving DecidableEq

namespace ClassEntry

/-- Reads a class. -/
def read (catalog : Catalog) (theme : Theme) (name : String) : ClassEntry :=
  let parts := ClassName.split name
  { name
    modifiers := parts.readModifiers
    utility := parts.utility
    declaration := catalog.read? theme parts.utility }

/-- The selector under which the class applies. -/
def selector (entry : ClassEntry) : Selector := .compose entry.name entry.modifiers

end ClassEntry

/-- The style of the classes with one chain of modifiers. -/
structure Variant where
  modifiers : List Modifier
  /-- A selector for each class, in the order of the list. -/
  selectors : List Selector
  style : Layer
deriving DecidableEq

namespace Variant

/-- The text of a chain of modifiers. -/
def key (variant : Variant) : String := String.intercalate ":" (variant.modifiers.map (·.raw))

/-- The variant with one more class, which has the given declaration. -/
def add (options : LoweringOptions) (variant : Variant) (entry : ClassEntry) (d : Declaration) :
    Variant :=
  { variant with
    selectors := variant.selectors ++ [entry.selector]
    style := variant.style.style options d }

end Variant

/-- A compiled class list. -/
structure ClassList where
  entries : List ClassEntry
  /-- The style of the classes without modifiers. -/
  style : Layer
  /-- The classes whose utility no rule takes. -/
  unknown : List String
  /-- The variants in the order in which their chains first occur. -/
  variants : List Variant

namespace ClassList

/-- The variants with one more class under modifiers.  The first class of a chain begins its
    variant. -/
def addVariant (options : LoweringOptions) (entry : ClassEntry) (d : Declaration)
    (variants : List Variant) : List Variant :=
  let (variants, index) : List Variant × Nat :=
    match variants.findIdx? (·.modifiers == entry.modifiers) with
    | some index => (variants, index)
    | none => (variants ++ [⟨entry.modifiers, [], .empty⟩], variants.length)
  variants.modify index fun variant => variant.add options entry d

/-- The list with one more class counted. -/
def add (options : LoweringOptions) (list : ClassList) (entry : ClassEntry) : ClassList :=
  match entry.declaration with
  | none => { list with unknown := list.unknown ++ [entry.name] }
  | some d =>
    if entry.modifiers.isEmpty then { list with style := list.style.style options d }
    else { list with variants := addVariant options entry d list.variants }

/-- Compiles a class list. -/
def compile (catalog : Catalog) (theme : Theme) (options : LoweringOptions) (classes : String) :
    ClassList :=
  let entries := (words classes.toList).map fun w =>
    ClassEntry.read catalog theme (String.ofList w)
  entries.foldl (add options) { entries, style := .empty, unknown := [], variants := [] }

/-- The variant whose chain of modifiers has the given text. -/
def variant? (list : ClassList) (key : String) : Option Variant :=
  list.variants.find? (·.key == key)

end ClassList

end UtilityStyle
