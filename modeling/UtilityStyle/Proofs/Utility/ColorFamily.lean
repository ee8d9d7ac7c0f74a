/-
  Families of colors.

  * `Catalog.isColor_of_suffix`: the built-in families that take an opacity suffix are the families
    of colors;
  * `IsColor.declare?_eq_some_iff`: what such a family makes of a utility that was taken apart.
    The value is a color, a custom property or a keyword (`IsColor.coloring_of_value?`), and the
    suffix has no say in it;
  * `Catalog.exists_family_of_opacity`: a declaration with an opacity comes from one of them.
-/
import UtilityStyle.Proofs.Catalog

namespace UtilityStyle

/-- The properties that take a color. -/
def Property.colors : List Property := [
  .backgroundColor, .textColor, .borderColor, .outlineColor, .ringColor, .ringOffsetColor,
  .divideColor, .fill, .stroke, .accentColor, .caretColor, .placeholderColor,
  .textDecorationColor, .shadowColor]

/-- The values of color utilities. -/
inductive Value.Coloring : Value → Prop
  | color (preset : Option String) (c : Color) : Coloring (.color preset c)
  | reference (name : String) : Coloring (.variable name)
  | keyword (name : String) : Coloring (.keyword name)

/-- What a color utility declares. -/
structure Declaration.IsColor (d : Declaration) : Prop where
  property_mem : d.property ∈ Property.colors
  coloring : d.value.Coloring
  negative_eq : d.negative = false

/-- The utility without its suffix. -/
def UtilityToken.unsuffixed (token : UtilityToken) : UtilityToken := { token with slash := none }

namespace Family

variable {family : Family} {theme : Theme} {token : UtilityToken} {d : Declaration}

/-- The opacity of a declaration is that of the suffix. -/
theorem opacity?_of_declare? (h : family.declare? theme token = some d) :
    family.opacity? token = some d.opacity := by
  obtain ⟨-, opacity, _, _, _, ho, -, -, -, rfl⟩ := declare?_eq_some_iff.1 h
  exact ho

/-- Only a family whose suffix is an opacity gives one. -/
theorem suffix_of_declare? (h : family.declare? theme token = some d) (hp : d.opacity ≠ none) :
    family.suffix = .opacity := by
  have ho := opacity?_of_declare? h
  rw [opacity?] at ho
  split at ho
  · next hs => exact hs
  · exact absurd (Option.some.inj ho).symm hp

end Family

/-- A family of colors, which may be mixed with an opacity and have no sign. -/
structure Family.IsColor (family : Family) : Prop where
  property_mem : family.property ∈ Property.colors
  shape_eq : family.shape = some .color
  scale_eq : family.scale = some .palette
  ownScale_eq : ∀ key, family.ownScale key = none
  suffix_eq : family.suffix = .opacity
  signed_eq : family.signed = false

namespace Family.IsColor

variable {family : Family} {theme : Theme} {token : UtilityToken}

/-! ## Values -/

theorem coloring_of_themeValue? (h : family.IsColor) {key : String} {value : Value}
    (hv : family.themeValue? theme key = some value) : value.Coloring := by
  rw [themeValue?, h.shape_eq, Option.bind_some] at hv
  obtain ⟨group, -, hg⟩ := List.exists_of_findSome?_eq_some hv
  obtain ⟨found, -, hf⟩ := Option.bind_eq_some_iff.1 hg
  obtain ⟨c, -, rfl⟩ := Option.map_eq_some_iff.1 hf
  exact .color _ c

theorem coloring_of_builtInValue? (h : family.IsColor) {key : String} {value : Value}
    (hv : family.builtInValue? key = some value) : value.Coloring := by
  rw [builtInValue?_of_ownScale h.ownScale_eq, h.scale_eq, Option.bind_some] at hv
  rcases Option.or_eq_some_iff.1 hv with hv | ⟨-, hv⟩
  · obtain ⟨c, -, rfl⟩ := Option.map_eq_some_iff.1 hv
    exact .color _ c
  · obtain ⟨name, -, rfl⟩ := Option.map_eq_some_iff.1 hv
    exact .keyword name

theorem coloring_of_read? {text : String} {value : Value}
    (hv : Shape.color.read? text = some value) : value.Coloring := by
  dsimp only [Shape.read?] at hv
  split at hv
  · cases hv
  · split at hv
    · next hc => cases (Bool.and_eq_true_iff.1 hc).2
    · obtain ⟨c, -, rfl⟩ := Option.map_eq_some_iff.1 hv
      exact .color _ c

theorem coloring_of_contentValue? {hint : Option String} {form : Form} {content : String}
    {value : Value} {origin : Origin}
    (hv : family.contentValue? theme .color hint form content = some (value, origin)) :
    value.Coloring := by
  cases form with
  | var =>
    rw [contentValue?] at hv
    split at hv
    · cases hv
    · cases hv
      exact .reference content
  | calculation => cases hv
  | url => cases hv
  | theme =>
    obtain ⟨found, -, hf⟩ := Option.bind_eq_some_iff.1 hv
    obtain ⟨_, hv, heq⟩ := Option.map_eq_some_iff.1 hf
    obtain ⟨c, -, rfl⟩ := Option.map_eq_some_iff.1 hv
    cases heq
    exact .color _ c
  | hex | rgb | rgba =>
    obtain ⟨c, -, heq⟩ := Option.map_eq_some_iff.1 hv
    cases heq
    exact .color _ c
  | plain =>
    obtain ⟨_, hread, heq⟩ := Option.map_eq_some_iff.1 hv
    cases heq
    exact coloring_of_read? hread

/-- **The value of a color utility** is a color, a custom property or a keyword. -/
theorem coloring_of_value? (h : family.IsColor) {value : Value} {origin : Origin}
    (hv : family.value? theme token = some (value, origin)) : value.Coloring := by
  rw [value?] at hv
  split at hv
  · obtain ⟨_, hp, heq⟩ := Option.map_eq_some_iff.1 hv
    cases heq
    rcases Option.or_eq_some_iff.1 hp with hp | ⟨-, hp⟩
    · exact h.coloring_of_themeValue? hp
    · exact h.coloring_of_builtInValue? hp
  · split at hv
    · cases hv
      exact .reference _
    · cases hv
  · rw [h.shape_eq, Option.bind_some] at hv
    split at hv
    · exact coloring_of_contentValue? hv
    · cases hv

/-! ## Declarations -/

/-- **What a family of colors makes of a utility**: it refuses a minus sign, and the opacity and the
    value are read apart from each other. -/
theorem declare?_eq_some_iff (h : family.IsColor) {d : Declaration} :
    family.declare? theme token = some d ↔
      token.negative = false ∧ ∃ opacity value origin, token.opacity? = some opacity ∧
        family.value? theme token = some (value, origin) ∧
          d = { property := family.property, value, origin, opacity
                side := family.side? token.stem, important := token.important
                raw := token.raw } := by
  have hsuffixed : ∀ value, family.suffixed? value token.slash = some value := by
    intro value
    rw [suffixed?, h.suffix_eq]
    rfl
  rw [Family.declare?_eq_some_iff, h.signed_eq, opacity?, if_pos h.suffix_eq]
  constructor
  · rintro ⟨hsigned, opacity, value, origin, value', ho, hv, -, hvalue', rfl⟩
    obtain rfl := Option.some.inj ((hsuffixed value).symm.trans hvalue')
    have hn : token.negative = false := Bool.eq_false_iff.2 fun hn => nomatch hsigned hn
    exact ⟨hn, opacity, value, origin, ho, hv, by rw [hn]⟩
  · rintro ⟨hn, opacity, value, origin, ho, hv, rfl⟩
    have hno : token.negative ≠ true := Bool.eq_false_iff.1 hn
    exact ⟨fun hn => absurd hn hno, opacity, value, origin, value, ho, hv,
      fun hn => absurd hn hno, hsuffixed value, by rw [hn]⟩

/-- The suffix gives the opacity and nothing else. -/
theorem declare?_unsuffixed (h : family.IsColor) {d : Declaration}
    (hd : family.declare? theme token = some d) :
    family.declare? theme token.unsuffixed = some { d with opacity := none } := by
  obtain ⟨hn, opacity, value, origin, -, hv, rfl⟩ := h.declare?_eq_some_iff.1 hd
  exact h.declare?_eq_some_iff.2 ⟨hn, none, value, origin, rfl, hv, rfl⟩

/-- A color utility declares a coloring of a property that takes one, without a sign. -/
theorem isColor_of_declare? (h : family.IsColor) {d : Declaration}
    (hd : family.declare? theme token = some d) : d.IsColor := by
  obtain ⟨hn, opacity, value, origin, -, hv, rfl⟩ := h.declare?_eq_some_iff.1 hd
  exact ⟨h.property_mem, h.coloring_of_value? hv, rfl⟩

end Family.IsColor

/-! ## The catalog -/

namespace Catalog

/-- **The families that take an opacity** are the families of colors. -/
theorem isColor_of_suffix {family : Family} (hm : family ∈ families)
    (h : family.suffix = .opacity) : family.IsColor := by
  have hall : ∀ family ∈ families, family.suffix = .opacity →
      family.property ∈ Property.colors ∧ family.shape = some .color ∧
        family.scale = some .palette ∧ family.signed = false := by
    decide +kernel
  obtain ⟨hproperty, hshape, hscale, hsigned⟩ := hall family hm h
  exact ⟨hproperty, hshape, hscale, ownScale_eq_none hm, h, hsigned⟩

theorem opacity_of_fixedClass? {raw : String} {d : Declaration} (h : fixedClass? raw = some d) :
    d.opacity = none := by
  obtain ⟨_, -, rfl⟩ := Option.map_eq_some_iff.1 h
  rfl

/-- **An opacity comes from a family of colors.** -/
theorem exists_family_of_opacity {theme : Theme} {raw : String} {d : Declaration}
    (h : builtIn.read? theme raw = some d) (hp : d.opacity ≠ none) :
    ∃ family ∈ families, family.IsColor ∧
      ∃ token, family.read? raw = some token ∧ family.declare? theme token = some d := by
  rcases cases_of_read? h with hfixed | ⟨family, hm, hf⟩
  · exact absurd (opacity_of_fixedClass? hfixed) hp
  · obtain ⟨token, ht, hd⟩ := Option.bind_eq_some_iff.1 hf
    exact ⟨family, hm, isColor_of_suffix hm (Family.suffix_of_declare? hd hp), token, ht, hd⟩

end Catalog

end UtilityStyle
