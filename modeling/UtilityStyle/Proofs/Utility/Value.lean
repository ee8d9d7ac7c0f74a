/-
  Values that keys and texts give.

  `Value.IsProper` says that CSS can be written for a value without a look at a table.

  * `Scale.cases_of_value?`: a scale makes a proper value of a key, or takes it as a keyword;
  * `Shape.isProper_of_read?`: a text is read as a proper value in every shape;
  * `Shape.cases_of_ofTheme?`: a theme gives a proper value, or a keyword.
-/
import UtilityStyle.Utility.Shape

namespace UtilityStyle

/-- A table has what a look-up finds. -/
theorem mem_of_lookup {α : Type} {table : List (String × α)} {key : String} {a : α}
    (h : table.lookup key = some a) : (key, a) ∈ table := by
  obtain ⟨before, after, rfl, -⟩ := List.lookup_eq_some_iff.1 h
  simp

/-- CSS can be written for the value without a look at a table: it is no keyword, and no fraction
    that divides by zero. -/
def Value.IsProper : Value → Prop
  | .keyword _ => False
  | .fraction _ denominator => denominator ≠ 0
  | _ => True

namespace Scale

variable {key : String} {value : Value}

theorem isProper_of_fraction? (h : fraction? key = some value) : value.IsProper := by
  simp only [fraction?, Option.bind_eq_bind, Option.bind_eq_some_iff, Prod.exists,
    Option.ite_none_left_eq_some, Option.pure_def, Option.some.injEq] at h
  obtain ⟨_, _, -, _, -, denominator, -, hne, rfl⟩ := h
  exact hne

theorem eq_keyword_of_keywordIn? {α : Type} {table : List (String × α)}
    (h : keywordIn? table key = some value) : value = .keyword key := by
  obtain ⟨_, -, rfl⟩ := Option.map_eq_some_iff.1 h
  rfl

theorem isProper_of_order? (h : order? key = some value) : value.IsProper := by
  unfold order? at h
  split at h
  case h_4 =>
    obtain ⟨_, -, rfl⟩ := Option.map_eq_some_iff.1 h
    trivial
  all_goals
    obtain rfl := Option.some.inj h
    trivial

theorem isProper_of_aspectRatio? (h : aspectRatio? key = some value) : value.IsProper := by
  unfold aspectRatio? at h
  split at h
  case h_3 => exact isProper_of_fraction? h
  all_goals
    obtain rfl := Option.some.inj h
    exact Nat.succ_ne_zero _

/-- A spacing key is a number, or stands for itself. -/
theorem cases_of_spacingKey? (h : spacingKey? key = some value) :
    value.IsProper ∨ value = .keyword key := by
  unfold spacingKey? at h
  split at h
  · next hkey =>
    obtain rfl := Option.some.inj h
    exact .inr (by rw [hkey])
  · simp only [Option.bind_eq_bind, Option.bind_eq_some_iff, Option.pure_def,
      Option.some.injEq] at h
    obtain ⟨_, -, _, -, rfl⟩ := h
    exact .inl trivial

/-- **A scale** makes a proper value of a key, or takes it as a keyword. -/
theorem cases_of_value? {scale : Scale} (h : scale.value? key = some value) :
    value.IsProper ∨ value = .keyword key := by
  cases scale
  case spacing => exact cases_of_spacingKey? h
  case spacingOrFraction =>
    rcases Option.or_eq_some_iff.1 h with h | ⟨-, h⟩
    · exact cases_of_spacingKey? h
    · exact .inl (isProper_of_fraction? h)
  case fraction => exact .inl (isProper_of_fraction? h)
  case container =>
    rcases Option.or_eq_some_iff.1 h with h | ⟨-, h⟩
    · obtain ⟨_, -, rfl⟩ := Option.map_eq_some_iff.1 h
      exact .inr rfl
    · exact cases_of_spacingKey? h
  case width | factor =>
    rw [value?] at h
    split at h
    · obtain rfl := Option.some.inj h
      first | exact .inr rfl | exact .inl trivial
    · obtain ⟨_, -, rfl⟩ := Option.map_eq_some_iff.1 h
      exact .inl trivial
  case radius | shadow | blur | animation | transition | easing =>
    exact .inr (eq_keyword_of_keywordIn? h)
  case leading =>
    rcases Option.or_eq_some_iff.1 h with h | ⟨-, h⟩
    · obtain ⟨_, -, rfl⟩ := Option.map_eq_some_iff.1 h
      exact .inl trivial
    · obtain ⟨_, -, h⟩ := Option.bind_eq_some_iff.1 h
      obtain ⟨_, -, rfl⟩ := Option.map_eq_some_iff.1 h
      exact .inl trivial
  case opacity =>
    obtain ⟨_, -, h⟩ := Option.bind_eq_some_iff.1 h
    split at h
    · obtain rfl := Option.some.inj h
      exact .inl trivial
    · cases h
  case order => exact .inl (isProper_of_order? h)
  case aspectRatio => exact .inl (isProper_of_aspectRatio? h)
  case gradient =>
    simp only [value?, gradient?, Option.bind_eq_bind, Option.bind_eq_some_iff, Option.pure_def,
      Option.some.injEq] at h
    obtain ⟨_, -, _, -, rfl⟩ := h
    exact .inl trivial
  all_goals
    obtain ⟨_, -, rfl⟩ := Option.map_eq_some_iff.1 h
    exact .inl trivial
end Scale

namespace Shape

variable {shape : Shape} {text : String} {value : Value}

theorem isProper_of_ratio? (h : ratio? text = some value) : value.IsProper := by
  unfold ratio? at h
  split at h
  · simp only [Option.bind_eq_bind, Option.bind_eq_some_iff, Option.ite_none_left_eq_some,
      Option.pure_def, Option.some.injEq] at h
    obtain ⟨_, -, _, -, hne, rfl⟩ := h
    exact hne
  · obtain ⟨_, -, rfl⟩ := Option.map_eq_some_iff.1 h
    trivial

theorem isProper_of_size? (h : size? text = some value) : value.IsProper := by
  simp only [size?, Option.ite_none_right_eq_some] at h
  obtain ⟨-, h⟩ := h
  split at h <;> obtain rfl := Option.some.inj h <;> trivial

theorem isProper_of_position? (h : position? text = some value) : value.IsProper := by
  simp only [position?, Option.ite_none_right_eq_some, Option.some.injEq] at h
  obtain ⟨-, rfl⟩ := h
  trivial

theorem isProper_of_plain? (h : shape.plain? text = some value) : value.IsProper := by
  cases shape <;> simp only [plain?] at h
  case size => exact isProper_of_size? h
  case position => exact isProper_of_position? h
  case ratio => exact isProper_of_ratio? h
  case lengthOrNumber =>
    rcases Option.or_eq_some_iff.1 h with h | ⟨-, h⟩ <;>
      obtain ⟨_, -, rfl⟩ := Option.map_eq_some_iff.1 h <;> trivial
  case image =>
    obtain ⟨-, h⟩ := Option.ite_none_right_eq_some.1 h
    obtain rfl := Option.some.inj h
    trivial
  case any =>
    obtain rfl := Option.some.inj h
    trivial
  all_goals
    obtain ⟨_, -, rfl⟩ := Option.map_eq_some_iff.1 h
    trivial

/-- **A text is read as a proper value**, in every shape. -/
theorem isProper_of_read? (h : shape.read? text = some value) : value.IsProper := by
  simp only [read?] at h
  split at h
  · cases h
  · split at h
    · obtain rfl := Option.some.inj h
      trivial
    · exact isProper_of_plain? h

theorem cases_of_readOrKeyword? (h : shape.readOrKeyword? text = some value) :
    value.IsProper ∨ ∃ name, value = .keyword name := by
  rcases Option.or_eq_some_iff.1 h with h | ⟨-, h⟩
  · exact .inl (isProper_of_read? h)
  · obtain ⟨-, h⟩ := Option.ite_none_right_eq_some.1 h
    exact .inr ⟨text, (Option.some.inj h).symm⟩

theorem isProper_of_fontOfList? {items : List String} (h : fontOfList? items = some value) :
    value.IsProper := by
  cases items with
  | nil => cases h
  | cons first rest =>
    obtain ⟨_, -, rfl⟩ := Option.map_eq_some_iff.1 h
    trivial

/-- **A theme gives a proper value or a keyword** to a key, whatever the shape. -/
theorem cases_of_ofTheme? {key : String} {found : ThemeValue}
    (h : shape.ofTheme? key found = some value) :
    value.IsProper ∨ ∃ name, value = .keyword name := by
  unfold ofTheme? at h
  split at h
  case h_1 | h_5 =>
    obtain ⟨_, -, rfl⟩ := Option.map_eq_some_iff.1 h
    exact .inl trivial
  case h_2 => exact .inl (isProper_of_fontOfList? h)
  case h_18 => exact cases_of_readOrKeyword? h
  all_goals
    obtain rfl := Option.some.inj h
    exact .inl trivial

end Shape

end UtilityStyle
