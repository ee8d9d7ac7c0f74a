/-
  Importance is apart from meaning.

  * `takeImportance_front`, `takeImportance_back` and `takeImportance_plain`: what the reader of
    marks makes of a text with a mark at either end, and of one without;
  * `UtilityToken.read?_rewritten`, `Family.resolve?_rewritten` and `Catalog.read?_rewritten`: two
    utilities with the same text between their marks are read alike at each stage, each under its
    own name and importance;
  * `Catalog.read?_marked`: so a mark of importance, at either end, makes a utility important and
    changes nothing else.
-/
import UtilityStyle.Proofs.Catalog
import UtilityStyle.Proofs.Utility.Token

namespace UtilityStyle

variable {theme : Theme} {raw raw' : String} {important : Bool}

/-! ## Marks -/

namespace UtilityToken

theorem takeImportance_front (body : List Char) : takeImportance ('!' :: body) = (body, true) :=
  takeImportance_eq_iff.2 (.front body)

/-- A mark at the end is taken off unless another one stands in front. -/
theorem takeImportance_back {body : List Char} (h : body.head? ≠ some '!') :
    takeImportance (body ++ ['!']) = (body, true) := by
  cases body with
  | nil => rfl
  | cons c body => exact takeImportance_eq_iff.2 (.back h)

theorem takeImportance_plain {body : List Char} (hfront : body.head? ≠ some '!')
    (hback : body.getLast? ≠ some '!') : takeImportance body = (body, false) :=
  takeImportance_eq_iff.2 (.plain hfront hback)

/-! ## Tokens -/

/-- The token under another name, with or without a mark of importance. -/
def rewritten (token : UtilityToken) (raw : String) (important : Bool) : UtilityToken :=
  { token with raw, important }

/-- A text with the same body gives the same token under its own name. -/
theorem read?_rewritten
    (h : takeImportance raw'.toList = ((takeImportance raw.toList).1, important))
    (stems : List String) (slashed : Bool) :
    read? stems slashed raw' = (read? stems slashed raw).map (·.rewritten raw' important) := by
  simp only [read?, h, Option.bind_eq_bind, Option.pure_def, Option.map_bind, Option.map_some,
    Function.comp_def, rewritten]

end UtilityToken

/-! ## Declarations -/

/-- The declaration under another name, with or without importance. -/
def Declaration.rewritten (d : Declaration) (raw : String) (important : Bool) : Declaration :=
  { d with important, raw }

namespace Family

variable (family : Family) (theme : Theme)

/-- What a family declares does not depend on the name and the importance of a token, which it
    copies. -/
theorem declare?_rewritten (token : UtilityToken) (raw : String) (important : Bool) :
    family.declare? theme (token.rewritten raw important) =
      (family.declare? theme token).map (·.rewritten raw important) := by
  ext d
  rw [Option.map_eq_some_iff, declare?_eq_some_iff]
  constructor
  · rintro ⟨hsigned, opacity, value, origin, value', hopacity, hvalue, hsignable, hvalue', rfl⟩
    exact ⟨_, declare?_eq_some_iff.2 ⟨hsigned, opacity, value, origin, value', hopacity, hvalue,
      hsignable, hvalue', rfl⟩, rfl⟩
  · rintro ⟨_, hdeclare, rfl⟩
    obtain ⟨hsigned, opacity, value, origin, value', hopacity, hvalue, hsignable, hvalue', rfl⟩ :=
      declare?_eq_some_iff.1 hdeclare
    exact ⟨hsigned, opacity, value, origin, value', hopacity, hvalue, hsignable, hvalue', rfl⟩

theorem resolve?_rewritten
    (h : UtilityToken.takeImportance raw'.toList =
      ((UtilityToken.takeImportance raw.toList).1, important)) :
    family.resolve? theme raw' = (family.resolve? theme raw).map (·.rewritten raw' important) := by
  rw [resolve?, resolve?, read?, read?, UtilityToken.read?_rewritten h, Option.bind_map,
    Option.map_bind]
  exact Option.bind_congr fun token _ => family.declare?_rewritten theme token raw' important

end Family

/-! ## Catalogs -/

namespace Catalog

open UtilityToken (takeImportance)

variable (catalog : Catalog)

theorem fixedClass?_rewritten
    (h : takeImportance raw'.toList = ((takeImportance raw.toList).1, important)) :
    fixedClass? raw' = (fixedClass? raw).map (·.rewritten raw' important) := by
  rw [fixedClass?, fixedClass?, h, Option.map_map]
  rfl

/-- **The text between the marks** decides what a utility declares.  Its name and its importance
    are its own. -/
theorem read?_rewritten
    (h : takeImportance raw'.toList = ((takeImportance raw.toList).1, important)) :
    catalog.read? theme raw' = (catalog.read? theme raw).map (·.rewritten raw' important) := by
  have hsearch : ∀ families : List Family, families.findSome? (·.resolve? theme raw') =
      (families.findSome? (·.resolve? theme raw)).map (·.rewritten raw' important) := by
    intro families
    rw [List.map_findSome?]
    exact congrArg families.findSome? (funext fun family => family.resolve?_rewritten theme h)
  rw [read?, read?, hsearch, hsearch, fixedClass?_rewritten h, Option.map_or, Option.map_or]

variable {catalog} in
/-- A declaration bears the name of its utility, and it is important if its utility is marked. -/
theorem raw_important_of_read? {d : Declaration} (h : catalog.read? theme raw = some d) :
    d.raw = raw ∧ d.important = (takeImportance raw.toList).2 := by
  -- The utility is read as itself.
  have hself : catalog.read? theme raw =
      (catalog.read? theme raw).map (·.rewritten raw (takeImportance raw.toList).2) :=
    catalog.read?_rewritten rfl
  rw [h, Option.map_some, Option.some.injEq] at hself
  exact ⟨congrArg Declaration.raw hself, congrArg Declaration.important hself⟩

/-- **A mark of importance** changes nothing else.  A utility without one means the same with a mark
    in front or at the end of it, under every theme and whatever families there are: it is known
    with a mark if and only if it is known without, and then all three declarations agree, except
    that the marked ones are important and bear their own names. -/
theorem read?_marked (theme : Theme) (hfront : raw.toList.head? ≠ some '!')
    (hback : raw.toList.getLast? ≠ some '!') :
    (∀ marked, marked = "!" ++ raw ∨ marked = raw ++ "!" →
      catalog.read? theme marked =
        (catalog.read? theme raw).map fun d => { d with important := true, raw := marked }) ∧
      ∀ d, catalog.read? theme raw = some d → d.important = false ∧ d.raw = raw := by
  have hplain : takeImportance raw.toList = (raw.toList, false) :=
    UtilityToken.takeImportance_plain hfront hback
  constructor
  · intro marked hmarked
    have hbody : takeImportance marked.toList = (raw.toList, true) := by
      rcases hmarked with rfl | rfl
      · rw [String.toList_append]
        exact UtilityToken.takeImportance_front raw.toList
      · rw [String.toList_append]
        exact UtilityToken.takeImportance_back hfront
    refine catalog.read?_rewritten ?_
    rw [hbody, hplain]
  · intro d hread
    obtain ⟨hraw, himportant⟩ := raw_important_of_read? hread
    rw [hplain] at himportant
    exact ⟨himportant, hraw⟩

/-- A negative margin with its importance at either end. -/
theorem read?_marked_margin :
    ∃ d, builtIn.read? .empty "-mt-4" = some d ∧ d.negative = true ∧ d.important = false ∧
      builtIn.read? .empty "!-mt-4" = some { d with important := true, raw := "!-mt-4" } ∧
        builtIn.read? .empty "-mt-4!" = some { d with important := true, raw := "-mt-4!" } := by
  have hd : ∃ d, builtIn.read? .empty "-mt-4" = some d ∧ d.negative = true := by decide +kernel
  obtain ⟨d, hread, hnegative⟩ := hd
  have hfront : "-mt-4".toList.head? ≠ some '!' := by decide
  have hback : "-mt-4".toList.getLast? ≠ some '!' := by decide
  obtain ⟨hmarked, hplain⟩ := read?_marked builtIn .empty hfront hback
  refine ⟨d, hread, hnegative, (hplain d hread).1, ?_, ?_⟩
  · rw [hmarked "!-mt-4" (.inl rfl), hread, Option.map_some]
  · rw [hmarked "-mt-4!" (.inr rfl), hread, Option.map_some]

end Catalog

end UtilityStyle
