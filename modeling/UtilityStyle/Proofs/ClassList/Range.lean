/-
  Numbers of compiled class lists within their ranges.

  * `Value.HasWords`: the parts of a fraction have 32 bits, and it does not divide by zero.  So it
    is with every aspect ratio that the built-in catalog reads (`Catalog.hasWords_of_read?`), whose
    quotient is then positive, unless the fraction is zero;
  * `ClassList.compile_inRange`: in the base style and in every variant of a compiled list the
    counts, the opacity and the aspect ratio are within their ranges, but for a fraction of zero
    (`ClassList.zero_ratio_compiled`).
-/
import UtilityStyle.Proofs.Catalog
import UtilityStyle.Proofs.ClassList
import UtilityStyle.Proofs.Lowering.Range
import UtilityStyle.Proofs.Number.Decimal

namespace UtilityStyle

/-! ## Fractions -/

/-- The parts of a fraction are whole numbers of 32 bits, of which the second is not zero. -/
def Value.HasWords : Value → Prop
  | .fraction n m => n < 2 ^ 32 ∧ m < 2 ^ 32 ∧ m ≠ 0
  | _ => True

theorem Number.readNat?_lt {bits : Nat} {s : List Char} {n : Nat} (h : readNat? bits s = some n) :
    n < 2 ^ bits := (readNat?_eq_some_iff.1 h).2

namespace Scale
variable {key : String} {value : Value}

theorem readWhole?_lt {s : List Char} {n : Nat} (h : readWhole? s = some n) : n < 2 ^ 32 :=
  Number.readNat?_lt (Option.ite_none_right_eq_some.1 h).2

theorem hasWords_of_fraction? (h : fraction? key = some value) : value.HasWords := by
  simp only [fraction?, Option.bind_eq_bind, Option.bind_eq_some_iff, Prod.exists,
    Option.ite_none_left_eq_some, Option.pure_def, Option.some.injEq] at h
  obtain ⟨_, _, -, n, hn, m, hm, hne, rfl⟩ := h
  exact ⟨readWhole?_lt hn, readWhole?_lt hm, hne⟩

theorem hasWords_of_aspectRatio? (h : aspectRatio? key = some value) : value.HasWords := by
  unfold aspectRatio? at h
  split at h
  case h_3 => exact hasWords_of_fraction? h
  all_goals
    obtain rfl := Option.some.inj h
    exact ⟨by decide, by decide, by decide⟩

end Scale

namespace Shape
variable {text : String} {value : Value}

theorem hasWords_of_ratio? (h : ratio? text = some value) : value.HasWords := by
  unfold ratio? at h
  split at h
  · simp only [Option.bind_eq_bind, Option.bind_eq_some_iff, Option.ite_none_left_eq_some,
      Option.pure_def, Option.some.injEq] at h
    obtain ⟨n, hn, m, hm, hne, rfl⟩ := h
    exact ⟨Number.readNat?_lt hn, Number.readNat?_lt hm, hne⟩
  · obtain ⟨_, -, rfl⟩ := Option.map_eq_some_iff.1 h
    trivial

theorem hasWords_of_read?_ratio (h : ratio.read? text = some value) : value.HasWords := by
  simp only [read?] at h
  split at h
  · cases h
  · split at h
    · cases h; trivial
    · exact hasWords_of_ratio? h

theorem hasWords_of_ofTheme?_ratio {key : String} {found : ThemeValue}
    (h : ratio.ofTheme? key found = some value) : value.HasWords := by
  have hword : ∀ text, ratio.readOrKeyword? text = some value → value.HasWords := by
    intro text h
    rcases Option.or_eq_some_iff.1 h with h | ⟨-, h⟩
    · exact hasWords_of_read?_ratio h
    · obtain ⟨-, h⟩ := Option.ite_none_right_eq_some.1 h
      cases h
      trivial
  cases found with
  | number n => cases h; trivial
  | text s => exact hword _ h
  | list items => exact hword _ h

end Shape

/-! ## Aspect ratios of the catalog -/

namespace Family
variable {family : Family} {theme : Theme} {token : UtilityToken}

theorem hasWords_of_contentValue?_ratio {hint : Option String} {form : Form} {content : String}
    {value : Value} {origin : Origin}
    (h : family.contentValue? theme .ratio hint form content = some (value, origin)) :
    value.HasWords := by
  cases form <;> simp only [contentValue?] at h
  case var =>
    obtain ⟨-, h⟩ := Option.ite_none_left_eq_some.1 h
    cases h
    trivial
  case calculation | url | hex | rgb | rgba =>
    obtain ⟨hshape, h⟩ := Option.ite_none_right_eq_some.1 h
    first | cases h; trivial | exact absurd hshape (by decide)
  case theme =>
    obtain ⟨found, -, h⟩ := Option.bind_eq_some_iff.1 h
    obtain ⟨_, hvalue, heq⟩ := Option.map_eq_some_iff.1 h
    cases heq
    exact Shape.hasWords_of_ofTheme?_ratio hvalue
  case plain =>
    obtain ⟨_, hread, heq⟩ := Option.map_eq_some_iff.1 h
    cases heq
    exact Shape.hasWords_of_read?_ratio hread

/-- A family for aspect ratios reads no other fractions. -/
theorem hasWords_of_value?_ratio (hscale : family.scale = some .aspectRatio)
    (hown : ∀ key, family.ownScale key = none) (hshape : family.shape = some .ratio)
    {value : Value} {origin : Origin} (h : family.value? theme token = some (value, origin)) :
    value.HasWords := by
  unfold value? at h
  split at h
  · obtain ⟨_, hvalue, heq⟩ := Option.map_eq_some_iff.1 h
    cases heq
    rcases Option.or_eq_some_iff.1 hvalue with hvalue | ⟨-, hvalue⟩
    · rw [themeValue?, hshape, Option.bind_some] at hvalue
      obtain ⟨group, -, hvalue⟩ := List.exists_of_findSome?_eq_some hvalue
      obtain ⟨found, -, hvalue⟩ := Option.bind_eq_some_iff.1 hvalue
      exact Shape.hasWords_of_ofTheme?_ratio hvalue
    · rw [builtInValue?_of_ownScale hown, hscale, Option.bind_some] at hvalue
      rcases Option.or_eq_some_iff.1 hvalue with hvalue | ⟨-, hvalue⟩
      · exact Scale.hasWords_of_aspectRatio? hvalue
      · obtain ⟨_, -, rfl⟩ := Option.map_eq_some_iff.1 hvalue
        trivial
  · obtain ⟨-, h⟩ := Option.ite_none_right_eq_some.1 h
    cases h
    trivial
  · rw [hshape, Option.bind_some] at h
    obtain ⟨-, h⟩ := Option.ite_none_right_eq_some.1 h
    exact hasWords_of_contentValue?_ratio h

end Family

namespace Catalog

theorem families_aspectRatio : ∀ family ∈ families, family.property = .aspectRatio →
    family.scale = some .aspectRatio ∧ family.shape = some .ratio ∧ family.suffix ≠ .leading := by
  decide +kernel

/-- **An aspect ratio** that the catalog reads is a quotient of numbers of 32 bits, if it is a
    fraction at all. -/
theorem hasWords_of_read? {theme : Theme} {raw : String} {d : Declaration}
    (h : builtIn.read? theme raw = some d) (hd : d.property = .aspectRatio) : d.value.HasWords := by
  rcases cases_of_read? h with hfixed | ⟨family, hm, hf⟩
  · obtain ⟨_, -, rfl⟩ := Option.map_eq_some_iff.1 hfixed
    trivial
  · obtain ⟨token, -, hdeclare⟩ := Option.bind_eq_some_iff.1 hf
    obtain ⟨-, _, value, _, value', -, hvalue, -, hvalue', rfl⟩ :=
      Family.declare?_eq_some_iff.1 hdeclare
    obtain ⟨hscale, hshape, hsuffix⟩ := families_aspectRatio family hm hd
    rw [Family.suffixed?, if_neg hsuffix] at hvalue'
    cases hvalue'
    exact Family.hasWords_of_value?_ratio hscale (ownScale_eq_none hm) hshape hvalue

end Catalog

/-- A ratio that a declaration gives is positive, unless it is a fraction of zero. -/
theorem Declaration.GivesRatio.pos {d : Declaration} {r : Float32} (h : d.GivesRatio r)
    (hd : d.value.HasWords) : 0 < r ∨ r = 0 ∧ ∃ m, d.value = .fraction 0 m := by
  have hratio := h.2
  unfold Declaration.ratio at hratio
  split at hratio
  · cases hratio
  · next n m hvalue =>
    rw [hvalue] at hd
    obtain ⟨hn, hm, hne⟩ := hd
    rw [if_neg hne] at hratio
    cases hratio
    by_cases hzero : n = 0
    · subst hzero
      exact .inr ⟨Number.ofNat_zero_div hne hm, m, hvalue⟩
    · exact .inl (Number.ofNat_div_pos hzero hne hn hm)
  · split at hratio
    · next hpos => cases hratio; exact .inl hpos
    · cases hratio
  · cases hratio

/-! ## Compiled lists -/

theorem Layer.InRange.mono {IsRatio IsRatio' : Float32 → Prop} {layer : Layer}
    (h : layer.InRange IsRatio) (hratio : ∀ r, IsRatio r → IsRatio' r) : layer.InRange IsRatio' :=
  { h with aspectRatio := fun r hr => hratio r (h.aspectRatio r hr) }

namespace ClassList

/-- The base style and the styles of the variants. -/
def styles (list : ClassList) : List Layer := list.style :: list.variants.map (·.style)

/-- A ratio is positive, or it is zero and some class of the list is a fraction of zero. -/
def AllowsRatio (list : ClassList) (r : Float32) : Prop :=
  0 < r ∨ r = 0 ∧ ∃ entry ∈ list.entries, ∃ d m,
    entry.declaration = some d ∧ d.property = .aspectRatio ∧ d.value = .fraction 0 m

section
variable {catalog : Catalog} {theme : Theme} {options : LoweringOptions} {classes : String}

/-- The declaration of an entry is what the catalog reads of its utility. -/
theorem declaration_of_mem_entries {entry : ClassEntry}
    (h : entry ∈ (compile catalog theme options classes).entries) :
    entry.declaration = catalog.read? theme entry.utility := by
  rw [compile_eq] at h
  obtain ⟨w, -, rfl⟩ := List.mem_map.1 h
  rfl

/-- Each style of a compiled list is that of some of its entries. -/
theorem exists_declarations_of_mem_styles {style : Layer}
    (h : style ∈ (compile catalog theme options classes).styles) :
    ∃ ds, style = .ofDeclarations options ds ∧ ∀ d ∈ ds,
      ∃ entry ∈ (compile catalog theme options classes).entries, entry.declaration = some d := by
  rw [compile_eq] at h ⊢
  rcases List.mem_cons.1 h with rfl | h
  · refine ⟨_, rfl, fun d hd => ?_⟩
    obtain ⟨entry, he, hd⟩ := List.mem_filterMap.1 hd
    exact ⟨entry, List.mem_of_mem_filter he, hd⟩
  · obtain ⟨variant, hvariant, rfl⟩ := List.mem_map.1 h
    obtain ⟨chain, -, rfl⟩ := List.mem_map.1 hvariant
    refine ⟨_, rfl, fun d hd => ?_⟩
    obtain ⟨entry, he, hd⟩ := List.mem_filterMap.1 hd
    exact ⟨entry, List.mem_of_mem_filter (List.mem_of_mem_filter he), hd⟩

end

/-- **The numbers of a compiled list** are within their ranges, in the base style and in every
    variant: counts of tracks, spans and lines are at least one, the opacity is neither below zero
    nor above one, and the aspect ratio is positive.  Only if some class of the list is a fraction
    of zero, the ratio may be zero. -/
theorem compile_inRange (theme : Theme) (options : LoweringOptions) (classes : String) :
    let list := compile .builtIn theme options classes
    ∀ style ∈ list.styles, style.InRange list.AllowsRatio := by
  intro list style hstyle
  obtain ⟨ds, rfl, hds⟩ := exists_declarations_of_mem_styles hstyle
  refine (Layer.inRange_ofDeclarations options ds).mono fun r ⟨d, hd, hratio⟩ => ?_
  obtain ⟨entry, hentry, hdeclaration⟩ := hds d hd
  have hread : Catalog.builtIn.read? theme entry.utility = some d :=
    (declaration_of_mem_entries hentry).symm.trans hdeclaration
  refine (hratio.pos (Catalog.hasWords_of_read? hread hratio.1)).imp_right fun ⟨hr, m, hvalue⟩ => ?_
  exact ⟨hr, entry, hentry, d, m, hdeclaration, hratio.1, hvalue⟩

/-- One line of text, without a word about a ratio. -/
theorem compile_inRange_truncate :
    let list := compile .builtIn .empty {} "truncate"
    list.style ∈ list.styles ∧ list.style.InRange list.AllowsRatio ∧
      list.style.maxLines = some 1 :=
  ⟨List.mem_cons_self, compile_inRange _ _ _ _ List.mem_cons_self, by decide +kernel⟩

/-- A fraction of zero gives a ratio that is set, but not positive. -/
theorem zero_ratio_compiled :
    ∃ r ∈ (compile .builtIn .empty {} "aspect-0/1").style.aspectRatio, ¬0 < r :=
  ⟨0, by decide +kernel, by decide⟩

end ClassList

end UtilityStyle
