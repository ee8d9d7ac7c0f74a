/-
  Utilities that end in a dash.

  * `IsDangling`: a body that is a stem with a dash and nothing behind it, if no shorter stem begins
    it.  `hasStem_nil_iff`: besides the stems alone, these are the bodies that leave no value;
  * `read?_dangling`: such a utility is read as the one without the dash (`IsBareOf`);
  * `Family.resolve?_dangling`: so it stands for that one, under every theme, and every other
    utility with an empty value is its stem.
-/
import UtilityStyle.Catalog
import UtilityStyle.Proofs.Catalog.Importance
import UtilityStyle.Proofs.Utility.Stem

namespace UtilityStyle

open Text

namespace UtilityToken

variable {stems : List String} {slashed : Bool} {raw bare : String} {body value : List Char}
  {stem : String}

/-! ## Bodies without a value -/

/-- The body is a stem with a dash behind it.  It is no stem itself, and no shorter stem begins
    it. -/
structure IsDangling (stems : List String) (stem : String) (body : List Char) : Prop where
  mem : stem ∈ stems
  body_eq : body = stem.toList ++ ['-']
  not_stem : ∀ other ∈ stems, other.toList ≠ body
  shortest : ∀ other ∈ stems, ∀ value, body = other.toList ++ '-' :: value →
    stem.length ≤ other.length

/-- Nothing that ends in a dash could be a value. -/
theorem not_isValue_of_getLast? (h : value.getLast? = some '-') : ¬IsValue value := by
  intro hvalue
  cases hvalue with
  | words _ _ hlast => exact hlast h
  | @group kind inner _ hgroup =>
    obtain ⟨rfl, -⟩ := hgroup
    rw [← List.cons_append, List.getLast?_concat] at h
    cases kind <;> cases h

theorem not_isValue_nil : ¬IsValue [] := by
  rintro (⟨_, ⟨⟩, -⟩ | ⟨hne, -⟩)
  exact hne rfl

/-- **A body leaves no value** if it is a stem, or a stem with a dangling dash. -/
theorem hasStem_nil_iff :
    HasStem stems body stem [] ↔
      (stem ∈ stems ∧ body = stem.toList) ∨ IsDangling stems stem body := by
  constructor
  · intro h
    generalize hvalue : ([] : List Char) = value at h
    cases h with
    | alone hmem hbody => exact .inl ⟨hmem, hbody.symm⟩
    | longest _ _ _ hisValue =>
      subst hvalue
      exact absurd hisValue not_isValue_nil
    | shortest hne hmem hbody hmin =>
      subst hvalue
      exact .inr ⟨hmem, hbody, hne, fun other ho value h => (hmin other ho value h).2⟩
  · rintro (⟨hmem, rfl⟩ | ⟨hmem, hbody, hne, hmin⟩)
    · exact .alone hmem rfl
    · refine .shortest hne hmem hbody fun other ho value h => ⟨?_, hmin other ho value h⟩
      -- what another stem leaves is empty or ends in the same dash
      cases value with
      | nil => exact not_isValue_nil
      | cons c value =>
        refine not_isValue_of_getLast? ?_
        have hlast : (stem.toList ++ ['-']).getLast? = some '-' := List.getLast?_concat
        rwa [hbody.symm.trans h, List.getLast?_append_cons, List.getLast?_cons_cons] at hlast

/-! ## Reading -/

theorem read?_of_hasStem (h : HasStem stems (unslashed slashed raw).1 stem value) :
    read? stems slashed raw = (Fragment.read? value).map fun fragment =>
      { raw, stem, fragment, value := String.ofList value
        negative := (takeMinus (takeImportance raw.toList).1).2
        important := (takeImportance raw.toList).2
        slash := (unslashed slashed raw).2.map String.ofList } := by
  ext t
  rw [read?_eq_some_iff, Option.map_eq_some_iff, chooseStem?_eq_some_iff.2 h]
  constructor
  · rintro ⟨_, _, fragment, hchosen, hfragment, rfl⟩
    cases hchosen
    exact ⟨fragment, hfragment, rfl⟩
  · rintro ⟨fragment, hfragment, rfl⟩
    exact ⟨stem, value, fragment, rfl, hfragment, rfl⟩

/-- **A token without a value** comes of a stem, or of a stem with a dangling dash. -/
theorem hasStem_nil_of_read? {t : UtilityToken} (h : read? stems slashed raw = some t)
    (hvalue : t.value = "") : HasStem stems (unslashed slashed raw).1 t.stem [] := by
  obtain ⟨stem, value, fragment, hchosen, -, rfl⟩ := read?_eq_some_iff.1 h
  obtain rfl : value = [] := String.ofList_eq_empty_iff.1 hvalue
  exact chooseStem?_eq_some_iff.1 hchosen

/-- The utility `bare` is a stem alone, with the sign and the suffix of another one. -/
structure IsBareOf (slashed : Bool) (stem raw bare : String) : Prop where
  body : (unslashed slashed bare).1 = stem.toList
  suffix : (unslashed slashed bare).2 = (unslashed slashed raw).2
  sign : (takeMinus (takeImportance bare.toList).1).2 =
    (takeMinus (takeImportance raw.toList).1).2

/-- **A utility with a dangling dash** is read as the one without it. -/
theorem read?_dangling (h : IsDangling stems stem (unslashed slashed raw).1)
    (hbare : IsBareOf slashed stem raw bare) :
    read? stems slashed raw =
      (read? stems slashed bare).map (·.rewritten raw (takeImportance raw.toList).2) := by
  have halone : HasStem stems (unslashed slashed bare).1 stem [] :=
    hasStem_nil_iff.2 (.inl ⟨h.mem, hbare.body⟩)
  rw [read?_of_hasStem (hasStem_nil_iff.2 (.inr h)), read?_of_hasStem halone, Option.map_map,
    hbare.suffix, hbare.sign]
  rfl

end UtilityToken

/-! ## Families -/

open UtilityToken

/-- **A dangling dash is dropped.**  A token has an empty value only if the body of its utility is
    the stem, except where the body is dangling.  A family then makes of the utility what it makes
    of the stem alone, under every theme. -/
theorem Family.resolve?_dangling (stems : List String) (slashed : Bool) (raw : String) :
    ((∀ t, UtilityToken.read? stems slashed raw = some t → t.value = "" →
        (unslashed slashed raw).1 = t.stem.toList) ↔
      ∀ stem, ¬IsDangling stems stem (unslashed slashed raw).1) ∧
      ∀ (family : Family) (theme : Theme) (stem bare : String),
        IsDangling (family.stems.map (·.1)) stem (unslashed (family.suffix != .absent) raw).1 →
        IsBareOf (family.suffix != .absent) stem raw bare →
          family.resolve? theme raw = (family.resolve? theme bare).map
            (·.rewritten raw (takeImportance raw.toList).2) := by
  refine ⟨⟨fun hexact stem hdangling => ?_, fun hnone t hread hvalue => ?_⟩, ?_⟩
  · obtain ⟨fragment, hfragment⟩ : ∃ fragment, Fragment.read? [] = some fragment := ⟨_, rfl⟩
    have hread := read?_of_hasStem (hasStem_nil_iff.2 (.inr hdangling))
    rw [hfragment, Option.map_some] at hread
    have hbody := hexact _ hread rfl
    exact hdangling.not_stem stem hdangling.mem hbody.symm
  · rcases hasStem_nil_iff.1 (hasStem_nil_of_read? hread hvalue) with ⟨-, hbody⟩ | hdangling
    · exact hbody
    · exact absurd hdangling (hnone t.stem)
  · intro family theme stem bare hdangling hbare
    rw [resolve?, resolve?, Family.read?, Family.read?, read?_dangling hdangling hbare,
      Option.bind_map, Option.map_bind]
    exact Option.bind_congr fun token _ =>
      family.declare?_rewritten theme token raw (takeImportance raw.toList).2

/-- The border of one pixel, important and with a dangling dash. -/
theorem Family.resolve?_dangling_border :
    IsDangling (Catalog.borderWidth.stems.map (·.1)) "border" (unslashed false "!border-").1 ∧
      IsBareOf false "border" "!border-" "border" ∧
        Catalog.borderWidth.resolve? .empty "!border-" =
          (Catalog.borderWidth.resolve? .empty "border").map (·.rewritten "!border-" true) := by
  have hdangling : IsDangling (Catalog.borderWidth.stems.map (·.1)) "border"
      (unslashed false "!border-").1 := by
    have hshortest : ∀ other ∈ Catalog.borderWidth.stems.map (·.1),
        "border".length ≤ other.length := by decide
    exact ⟨by decide, by decide, by decide, fun other ho _ _ => hshortest other ho⟩
  have hbare : IsBareOf false "border" "!border-" "border" := ⟨by decide, by decide, by decide⟩
  exact ⟨hdangling, hbare, (resolve?_dangling [] false "!border-").2 Catalog.borderWidth .empty
    "border" "border" hdangling hbare⟩

/-- A border with a dash and nothing behind it is the border of one pixel. -/
theorem Family.resolve?_dash_kept :
    (∃ t, UtilityToken.read? ["border"] false "border-" = some t ∧ t.value = "" ∧
      (unslashed false "border-").1 ≠ t.stem.toList) ∧
      ∃ d, Catalog.borderWidth.resolve? .empty "border" = some d ∧
        Catalog.borderWidth.resolve? .empty "border-" = some { d with raw := "border-" } := by
  decide +kernel

end UtilityStyle
