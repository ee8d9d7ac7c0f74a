/-
  How a catalog reads utilities.

  * `cases_of_read?` and `isSome_read?_iff`: a catalog knows the fixed classes and what its families
    take;
  * `isSome_read?_of_empty`: a theme makes no utility unknown that bears neither a sign nor a
    suffix.  Where it has no value that a family takes, it changes nothing.
-/
import Mathlib.Data.List.Basic
import UtilityStyle.Catalog
import UtilityStyle.Proofs.Utility.Family

namespace UtilityStyle.Catalog

variable {catalog : Catalog} {theme : Theme} {raw : String} {d : Declaration}

/-! ## Rules -/

/-- What a catalog reads is a fixed class, or one of its families takes it. -/
theorem cases_of_read? (h : catalog.read? theme raw = some d) :
    fixedClass? raw = some d ∨
      ∃ family ∈ catalog.own ++ catalog.others, family.resolve? theme raw = some d := by
  rcases Option.or_eq_some_iff.1 h with h | ⟨-, h⟩
  · rcases Option.or_eq_some_iff.1 h with h | ⟨-, h⟩
    · obtain ⟨family, hmem, hresolve⟩ := List.exists_of_findSome?_eq_some h
      exact .inr ⟨family, List.mem_append_left _ hmem, hresolve⟩
    · exact .inl h
  · obtain ⟨family, hmem, hresolve⟩ := List.exists_of_findSome?_eq_some h
    exact .inr ⟨family, List.mem_append_right _ hmem, hresolve⟩

/-- **A catalog knows** the fixed classes and what its families take. -/
theorem isSome_read?_iff :
    (catalog.read? theme raw).isSome ↔
      (fixedClass? raw).isSome ∨
        ∃ family ∈ catalog.own ++ catalog.others, (family.resolve? theme raw).isSome := by
  simp only [read?, Option.isSome_or, Bool.or_eq_true, List.findSome?_isSome_iff, List.mem_append]
  constructor
  · rintro ((⟨family, hmem, hsome⟩ | hfixed) | ⟨family, hmem, hsome⟩)
    · exact .inr ⟨family, .inl hmem, hsome⟩
    · exact .inl hfixed
    · exact .inr ⟨family, .inr hmem, hsome⟩
  · rintro (hfixed | ⟨family, hmem | hmem, hsome⟩)
    · exact .inl (.inr hfixed)
    · exact .inl (.inl ⟨family, hmem, hsome⟩)
    · exact .inr ⟨family, hmem, hsome⟩

/-- Rules that agree on a list find the same in it. -/
theorem findSome?_congr {α β : Type} {f g : α → Option β} {l : List α} (h : ∀ a ∈ l, f a = g a) :
    l.findSome? f = l.findSome? g := by
  induction l with
  | nil => rfl
  | cons a l ih =>
    obtain ⟨ha, hl⟩ := List.forall_mem_cons.1 h
    rw [List.findSome?_cons, List.findSome?_cons, ha, ih hl]

/-- Two themes under which every family reads a utility alike give it the same meaning. -/
theorem read?_congr {theme' : Theme}
    (h : ∀ family ∈ catalog.own ++ catalog.others,
      family.resolve? theme raw = family.resolve? theme' raw) :
    catalog.read? theme raw = catalog.read? theme' raw := by
  rw [read?, read?, findSome?_congr fun family hmem => h family (List.mem_append_left _ hmem),
    findSome?_congr fun family hmem => h family (List.mem_append_right _ hmem)]

/-- The built-in families have no scales of their own. -/
theorem ownScale_eq_none {family : Family} (hm : family ∈ families) (key : String) :
    family.ownScale key = none := by
  have hall : families.map (·.ownScale) = families.map fun _ _ => none := rfl
  exact congrFun (List.map_inj_left.1 hall family hm) key

/-- The stems of the built-in families have neither brackets nor slashes. -/
theorem stem_plain : ∀ family ∈ families, ∀ stem ∈ family.stems.map (·.1), ∀ c ∈ stem.toList,
    Text.isBracket c = false ∧ c ≠ '/' := by
  decide +kernel

theorem isBracket_of_mem_stem {family : Family} (hm : family ∈ families) :
    ∀ stem ∈ family.stems.map (·.1), ∀ c ∈ stem.toList, Text.isBracket c = false :=
  fun stem hstem c hc => (stem_plain family hm stem hstem c hc).1

/-! ## Themes -/

/-- **A theme makes no utility unknown.**  If a utility is known without a theme, and the rules that
    give it its meaning take off neither a sign nor a suffix, then it is known under every theme.
    Values of the theme that the families do not take fall through: if a theme has no others for
    the keys of a utility, it changes nothing at all. -/
theorem isSome_read?_of_empty (theme : Theme) (hread : catalog.read? .empty raw = some d)
    (hplain : ∀ family ∈ catalog.own ++ catalog.others, ∀ token, family.read? raw = some token →
      family.declare? .empty token = some d → token.negative = false ∧ token.slash = none) :
    (catalog.read? theme raw).isSome ∧
      ((∀ family ∈ catalog.own ++ catalog.others, ∀ token, family.read? raw = some token →
        token.fragment.isPreset ∧ family.themeValue? theme token.value = none) →
          catalog.read? theme raw = some d) := by
  constructor
  · rw [isSome_read?_iff]
    rcases cases_of_read? hread with hfixed | ⟨family, hmem, hresolve⟩
    · exact .inl (Option.isSome_of_mem hfixed)
    · obtain ⟨token, htoken, hdeclare⟩ := Option.bind_eq_some_iff.1 hresolve
      obtain ⟨hminus, hslash⟩ := hplain family hmem token htoken hdeclare
      refine .inr ⟨family, hmem, ?_⟩
      rw [Family.resolve?, htoken, Option.bind_some]
      exact Family.isSome_declare?_of_empty (Option.isSome_of_mem hdeclare) hminus hslash
  · intro hrejected
    rw [← hread]
    refine read?_congr fun family hmem => Option.bind_congr fun token htoken => ?_
    obtain ⟨hpreset, hnone⟩ := hrejected family hmem token htoken
    exact Family.declare?_eq_of_themeValue?_eq_none hpreset hnone

/-- Two lists in a theme, neither of which is a font size or a color, leave an alignment alone. -/
theorem isSome_read?_of_empty_center :
    let theme : Theme := .ofLookup fun path =>
      if path = "fontSize.center" ∨ path = "colors.center" then some (.list ["wide"]) else none
    ∃ d, builtIn.read? .empty "text-center" = some d ∧ d.property = .textAlign ∧
      theme.resolve? "colors" "center" = some (.list ["wide"]) ∧
        builtIn.read? theme "text-center" = some d := by
  intro theme
  have hd : ∃ d, builtIn.read? .empty "text-center" = some d ∧ d.property = .textAlign := by
    decide +kernel
  have hplain : ∀ family ∈ builtIn.own ++ builtIn.others,
      ∀ token, family.read? "text-center" = some token →
        token.negative = false ∧ token.slash = none ∧ token.fragment.isPreset ∧
          family.themeValue? theme token.value = none := by
    decide +kernel
  obtain ⟨d, hread, hproperty⟩ := hd
  have hknown := isSome_read?_of_empty theme hread fun family hmem token htoken _ =>
    ⟨(hplain family hmem token htoken).1, (hplain family hmem token htoken).2.1⟩
  refine ⟨d, hread, hproperty, by decide +kernel, hknown.2 fun family hmem token htoken => ?_⟩
  exact (hplain family hmem token htoken).2.2

end UtilityStyle.Catalog
