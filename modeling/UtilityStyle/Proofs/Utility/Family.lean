/-
  What families declare.

  * `declare?_eq_some_iff`: what a family makes of a utility that was taken apart;
  * `cases_of_value?_empty`: without a theme the value of a family that has no scale of its own is
    proper, or a keyword that comes from the scale or the keyword table of the family;
  * `cases_of_value?`: under a theme it is proper, or any keyword;
  * `isSome_value?_of_empty`: a theme takes no value away, and so no utility that bears neither a
    sign nor a suffix (`isSome_declare?_of_empty`);
  * `declare?_eq_of_themeValue?_eq_none`: a theme whose values the family refuses has no say.
-/
import UtilityStyle.Proofs.Utility.Value
import UtilityStyle.Utility.Family

namespace UtilityStyle

/-- The empty theme has no values. -/
@[simp] theorem Theme.resolve?_empty (group key : String) : empty.resolve? group key = none := by
  simp [resolve?, find?, empty]

namespace Family

variable {family : Family} {theme : Theme} {token : UtilityToken}

/-! ## Declarations -/

/-- The value with what the suffix adds to it. -/
def suffixed? (family : Family) (value : Value) (slash : Option String) : Option Value :=
  if family.suffix = .leading then withLeading? value slash else some value

/-- Nothing is added where there is no suffix. -/
@[simp] theorem suffixed?_none (family : Family) (value : Value) :
    family.suffixed? value none = some value := by
  unfold suffixed?
  split <;> rfl

/-- A suffix adds nothing to a keyword. -/
theorem eq_of_suffixed?_keyword {keyword : String} {slash : Option String} {value : Value}
    (h : family.suffixed? (.keyword keyword) slash = some value) : value = .keyword keyword := by
  unfold suffixed? withLeading? at h
  split at h
  · cases slash with
    | none => exact (Option.some.inj h).symm
    | some _ => cases h
  · exact (Option.some.inj h).symm

/-- A suffix leaves a value proper. -/
theorem isProper_of_suffixed? {value value' : Value} {slash : Option String}
    (h : family.suffixed? value slash = some value') (hvalue : value.IsProper) :
    value'.IsProper := by
  unfold suffixed? withLeading? at h
  split at h
  · split at h
    · obtain rfl := Option.some.inj h
      exact hvalue
    · obtain ⟨_, -, rfl⟩ := Option.map_eq_some_iff.1 h
      trivial
    · cases h
  · obtain rfl := Option.some.inj h
    exact hvalue

/-- **What a family declares.**  It refuses a sign that it does not take or that the value cannot
    bear, and reads the opacity apart from the value. -/
theorem declare?_eq_some_iff {d : Declaration} :
    family.declare? theme token = some d ↔
      (token.negative = true → family.signed = true) ∧
        ∃ opacity value origin value', family.opacity? token = some opacity ∧
          family.value? theme token = some (value, origin) ∧
          (token.negative = true → value.isSignable = true) ∧
          family.suffixed? value token.slash = some value' ∧
          d = { property := family.property, value := value', origin, opacity
                side := family.side? token.stem, negative := token.negative
                important := token.important, raw := token.raw } := by
  have hfinish : ∀ (value : Value) (f : Value → Declaration),
      (if family.suffix = .leading then (withLeading? value token.slash).bind (some ∘ f)
        else (some value).bind (some ∘ f)) = some d ↔
          ∃ value', family.suffixed? value token.slash = some value' ∧ f value' = d := by
    intro value f
    unfold suffixed?
    split <;> simp [Option.bind_eq_some_iff]
  simp only [declare?, Option.bind_eq_bind, Option.pure_def, Option.bind_none,
    Option.ite_none_left_eq_some, Option.bind_eq_some_iff, Prod.exists, Bool.and_eq_true,
    Bool.not_eq_true', not_and, Bool.not_eq_false]
  constructor
  · rintro ⟨hsigned, opacity, hopacity, value, origin, hvalue, hsignable, h⟩
    obtain ⟨value', hvalue', rfl⟩ := (hfinish value _).1 h
    exact ⟨hsigned, opacity, value, origin, value', hopacity, hvalue, hsignable, hvalue', rfl⟩
  · rintro ⟨hsigned, opacity, value, origin, value', hopacity, hvalue, hsignable, hvalue', rfl⟩
    refine ⟨hsigned, opacity, hopacity, value, origin, hvalue, hsignable, ?_⟩
    exact (hfinish value _).2 ⟨value', hvalue', rfl⟩

/-! ## Values without a theme -/

@[simp] theorem themeValue?_empty (key : String) : family.themeValue? .empty key = none := by
  cases hshape : family.shape <;> simp [themeValue?, hshape]

@[simp] theorem presetValue?_empty (key : String) :
    family.presetValue? .empty key = family.builtInValue? key := by
  simp [presetValue?]

/-- A keyword that a family has: a key of its scale, or one of its keyword table. -/
def HasKeyword (family : Family) (keyword : String) : Prop :=
  (∃ scale, family.scale = some scale ∧ (scale.value? keyword).isSome) ∨
    keyword ∈ family.keywords.map (·.2)

/-- A built-in value is proper, or a keyword of the family. -/
theorem cases_of_builtInValue? (hown : ∀ key, family.ownScale key = none) {key : String}
    {value : Value} (h : family.builtInValue? key = some value) :
    value.IsProper ∨ ∃ keyword, value = .keyword keyword ∧ family.HasKeyword keyword := by
  rw [builtInValue?_of_ownScale hown] at h
  rcases Option.or_eq_some_iff.1 h with h | ⟨-, h⟩
  · obtain ⟨scale, hscale, hvalue⟩ := Option.bind_eq_some_iff.1 h
    rcases Scale.cases_of_value? hvalue with hproper | rfl
    · exact .inl hproper
    · exact .inr ⟨_, rfl, .inl ⟨scale, hscale, Option.isSome_of_mem hvalue⟩⟩
  · obtain ⟨keyword, hlookup, rfl⟩ := Option.map_eq_some_iff.1 h
    exact .inr ⟨keyword, rfl, .inr (List.mem_map_of_mem (mem_of_lookup hlookup))⟩

/-- Bracketed content has a proper value, unless it asks the theme. -/
theorem cases_of_contentValue? {shape : Shape} {hint : Option String} {form : Form}
    {content : String} {value : Value} {origin : Origin}
    (h : family.contentValue? theme shape hint form content = some (value, origin)) :
    value.IsProper ∨
      ∃ found, theme.find? content = some found ∧ shape.ofTheme? content found = some value := by
  cases form <;> simp only [contentValue?] at h
  case var =>
    obtain ⟨-, h⟩ := Option.ite_none_left_eq_some.1 h
    cases h
    exact .inl trivial
  case calculation | url =>
    obtain ⟨-, h⟩ := Option.ite_none_right_eq_some.1 h
    cases h
    exact .inl trivial
  case theme =>
    obtain ⟨found, hfound, h⟩ := Option.bind_eq_some_iff.1 h
    obtain ⟨_, hvalue, heq⟩ := Option.map_eq_some_iff.1 h
    cases heq
    exact .inr ⟨found, hfound, hvalue⟩
  case hex | rgb | rgba =>
    obtain ⟨-, h⟩ := Option.ite_none_right_eq_some.1 h
    obtain ⟨_, -, heq⟩ := Option.map_eq_some_iff.1 h
    cases heq
    exact .inl trivial
  case plain =>
    obtain ⟨_, hread, heq⟩ := Option.map_eq_some_iff.1 h
    cases heq
    exact .inl (Shape.isProper_of_read? hread)

theorem isProper_of_contentValue?_empty {shape : Shape} {hint : Option String} {form : Form}
    {content : String} {value : Value} {origin : Origin}
    (h : family.contentValue? .empty shape hint form content = some (value, origin)) :
    value.IsProper := by
  rcases cases_of_contentValue? h with h | ⟨_, hfound, -⟩
  · exact h
  · simp [Theme.find?, Theme.empty] at hfound

/-- **Without a theme** a value is proper, or a keyword of the family. -/
theorem cases_of_value?_empty (hown : ∀ key, family.ownScale key = none) {value : Value}
    {origin : Origin} (h : family.value? .empty token = some (value, origin)) :
    value.IsProper ∨ ∃ keyword, value = .keyword keyword ∧ family.HasKeyword keyword := by
  unfold value? at h
  split at h
  · rw [presetValue?_empty] at h
    obtain ⟨_, hvalue, heq⟩ := Option.map_eq_some_iff.1 h
    cases heq
    exact cases_of_builtInValue? hown hvalue
  · obtain ⟨-, h⟩ := Option.ite_none_right_eq_some.1 h
    cases h
    exact .inl trivial
  · obtain ⟨shape, -, h⟩ := Option.bind_eq_some_iff.1 h
    obtain ⟨-, h⟩ := Option.ite_none_right_eq_some.1 h
    exact .inl (isProper_of_contentValue?_empty h)

/-! ## Values under a theme -/

theorem cases_of_themeValue? {key : String} {value : Value}
    (h : family.themeValue? theme key = some value) :
    value.IsProper ∨ ∃ keyword, value = .keyword keyword := by
  obtain ⟨shape, -, h⟩ := Option.bind_eq_some_iff.1 h
  obtain ⟨group, -, h⟩ := List.exists_of_findSome?_eq_some h
  obtain ⟨found, -, h⟩ := Option.bind_eq_some_iff.1 h
  exact Shape.cases_of_ofTheme? h

/-- **Under every theme** a value is proper, or a keyword. -/
theorem cases_of_value? (hown : ∀ key, family.ownScale key = none) {value : Value}
    {origin : Origin} (h : family.value? theme token = some (value, origin)) :
    value.IsProper ∨ ∃ keyword, value = .keyword keyword := by
  unfold value? at h
  split at h
  · obtain ⟨_, hvalue, heq⟩ := Option.map_eq_some_iff.1 h
    cases heq
    rcases Option.or_eq_some_iff.1 hvalue with hvalue | ⟨-, hvalue⟩
    · exact cases_of_themeValue? hvalue
    · exact (cases_of_builtInValue? hown hvalue).imp_right fun ⟨keyword, heq, _⟩ => ⟨keyword, heq⟩
  · obtain ⟨-, h⟩ := Option.ite_none_right_eq_some.1 h
    cases h
    exact .inl trivial
  · obtain ⟨shape, -, h⟩ := Option.bind_eq_some_iff.1 h
    obtain ⟨-, h⟩ := Option.ite_none_right_eq_some.1 h
    rcases cases_of_contentValue? h with h | ⟨_, -, h⟩
    · exact .inl h
    · exact Shape.cases_of_ofTheme? h

/-! ## A theme takes no value away -/

/-- A key keeps a value: what the theme does not give falls through to the family. -/
theorem isSome_presetValue?_of_empty {key : String}
    (h : (family.presetValue? .empty key).isSome) : (family.presetValue? theme key).isSome := by
  rw [presetValue?_empty] at h
  rw [presetValue?, Option.isSome_or, h, Bool.or_true]

/-- Content that has a value without a theme does not ask the theme. -/
theorem contentValue?_of_empty {shape : Shape} {hint : Option String} {form : Form}
    {content : String} {found : Value × Origin}
    (h : family.contentValue? .empty shape hint form content = some found) :
    family.contentValue? theme shape hint form content = some found := by
  cases form with
  | theme => simp [contentValue?, Theme.find?, Theme.empty] at h
  | plain | hex | rgb | rgba | url | var | calculation => exact h

theorem isSome_value?_of_empty (h : (family.value? .empty token).isSome) :
    (family.value? theme token).isSome := by
  unfold value? at h ⊢
  split at h
  · rw [Option.isSome_map] at h ⊢
    exact isSome_presetValue?_of_empty h
  · exact h
  · next hint form content =>
    obtain ⟨found, hfound⟩ := Option.isSome_iff_exists.1 h
    obtain ⟨shape, hshape, hfound⟩ := Option.bind_eq_some_iff.1 hfound
    obtain ⟨hhint, hfound⟩ := Option.ite_none_right_eq_some.1 hfound
    rw [hshape, Option.bind_some, if_pos hhint, contentValue?_of_empty hfound]
    rfl

/-- **A theme takes no utility away** that bears neither a sign nor a suffix. -/
theorem isSome_declare?_of_empty (h : (family.declare? .empty token).isSome)
    (hminus : token.negative = false) (hslash : token.slash = none) :
    (family.declare? theme token).isSome := by
  obtain ⟨d, hd⟩ := Option.isSome_iff_exists.1 h
  obtain ⟨hsigned, opacity, value, origin, -, hopacity, hvalue, -⟩ := declare?_eq_some_iff.1 hd
  have hsome : (family.value? theme token).isSome :=
    isSome_value?_of_empty (Option.isSome_of_mem hvalue)
  obtain ⟨⟨value', origin'⟩, hvalue'⟩ := Option.isSome_iff_exists.1 hsome
  refine Option.isSome_of_mem (declare?_eq_some_iff.2
    ⟨hsigned, opacity, value', origin', value', hopacity, hvalue', ?_, ?_, rfl⟩)
  · simp [hminus]
  · rw [hslash, suffixed?_none]

/-- Where a theme has no value that the family takes for a key, it has no say. -/
theorem declare?_eq_of_themeValue?_eq_none (hpreset : token.fragment.isPreset)
    (hnone : family.themeValue? theme token.value = none) :
    family.declare? theme token = family.declare? .empty token := by
  have hvalue : family.value? theme token = family.value? .empty token := by
    unfold value?
    split
    · rw [presetValue?_empty, presetValue?, hnone, Option.none_or]
    · rfl
    · next hfragment =>
      rw [hfragment] at hpreset
      cases hpreset
  rw [declare?, declare?, hvalue]

end Family

end UtilityStyle
