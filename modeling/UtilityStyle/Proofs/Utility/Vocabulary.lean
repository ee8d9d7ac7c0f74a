/-
  How keys begin.

  A key begins with a word, the text before its first dash or slash.  Most families tell their keys
  from those of other families by this word alone.

  * `Text.firstWord` is the first word of a text, and `firstWord_append` says that nothing after a
    dash or a slash changes it;
  * `Vocabulary`: some first words, with or without those that are numbers;
  * `Scale.opens_of_value?`: the keys of a scale begin like one of its openers, or with a digit;
  * `Family.covers_of_builtInValue?`: so the keys of a family begin within its vocabulary.
-/
import UtilityStyle.Proofs.Text.Pieces
import UtilityStyle.Proofs.Utility.Numeric
import UtilityStyle.Proofs.Utility.Value
import UtilityStyle.Utility.Family

namespace UtilityStyle

open Text

/-! ## First words -/

namespace Text

/-- The text before the first dash or slash. -/
def firstWord (s : List Char) : List Char := s.takeWhile fun c => c != '-' && c != '/'

/-- The text is empty, or it begins with a dash or a slash. -/
def IsBreak (s : List Char) : Prop := ∀ c ∈ s.head?, c = '-' ∨ c = '/'

theorem isBreak_nil : IsBreak [] := nofun

theorem isBreak_dash (s : List Char) : IsBreak ('-' :: s) := by
  rintro _ ⟨⟩
  exact .inl rfl

theorem isBreak_slash (s : List Char) : IsBreak ('/' :: s) := by
  rintro _ ⟨⟩
  exact .inr rfl

/-- **A first word ends** where a dash or a slash follows. -/
theorem firstWord_append {t : List Char} (ht : IsBreak t) (s : List Char) :
    firstWord (s ++ t) = firstWord s := by
  induction s with
  | nil =>
    cases t with
    | nil => rfl
    | cons c t =>
      have hc : (c != '-' && c != '/') = false := by
        rcases ht c rfl with rfl | rfl <;> rfl
      simp [firstWord, hc]
  | cons c s ih =>
    rw [List.cons_append, firstWord, firstWord, List.takeWhile_cons, List.takeWhile_cons]
    split
    · exact congrArg (c :: ·) ih
    · rfl

/-- The text begins with a decimal digit. -/
def BeginsWithDigit (s : List Char) : Prop := ∃ c r, s = c :: r ∧ isDecimalDigit c = true

/-- A digit is part of the first word. -/
theorem BeginsWithDigit.firstWord {s : List Char} (h : BeginsWithDigit s) :
    BeginsWithDigit (firstWord s) := by
  obtain ⟨c, r, rfl, hdigit⟩ := h
  have hdash : c ≠ '-' := by
    rintro rfl
    revert hdigit
    decide
  have hslash : c ≠ '/' := by
    rintro rfl
    revert hdigit
    decide
  refine ⟨c, Text.firstWord r, ?_, hdigit⟩
  simp [Text.firstWord, hdash, hslash]

theorem toList_eq_of_after? {front s rest : String} (h : after? front s = some rest) :
    s.toList = front.toList ++ rest.toList := by
  obtain ⟨r, hr, rfl⟩ := Option.map_eq_some_iff.1 h
  rw [String.toList_ofList]
  exact (List.isPrefixOf?_eq_some_iff_append_eq.1 hr).symm

end Text

/-! ## Vocabularies -/

/-- The first words of some keys. -/
structure Vocabulary where
  words : List (List Char)
  /-- Whether all words that begin with a digit belong to them. -/
  numbers : Bool

namespace Vocabulary

/-- Whether a word is one of the vocabulary. -/
def covers (vocabulary : Vocabulary) (word : List Char) : Bool :=
  vocabulary.words.contains word || (vocabulary.numbers && word.head?.any isDecimalDigit)

theorem covers_iff {vocabulary : Vocabulary} {word : List Char} :
    vocabulary.covers word = true ↔
      word ∈ vocabulary.words ∨ vocabulary.numbers = true ∧ BeginsWithDigit word := by
  simp only [covers, Bool.or_eq_true, List.contains_iff_mem, Bool.and_eq_true]
  refine or_congr Iff.rfl (and_congr Iff.rfl ?_)
  cases word with
  | nil => simp [BeginsWithDigit]
  | cons c r => simp [BeginsWithDigit]

/-- Whether no word belongs to both vocabularies. -/
def disjoint (v w : Vocabulary) : Bool :=
  v.words.all (!w.covers ·) && w.words.all (!v.covers ·) && !(v.numbers && w.numbers)

/-- **Disjoint vocabularies** have no word in common. -/
theorem not_covers_of_disjoint {v w : Vocabulary} (h : v.disjoint w = true) {word : List Char}
    (hv : v.covers word = true) : w.covers word = false := by
  simp only [disjoint, Bool.and_eq_true, List.all_eq_true, Bool.not_eq_true',
    Bool.and_eq_false_iff] at h
  obtain ⟨⟨hleft, hright⟩, hnumbers⟩ := h
  rcases covers_iff.1 hv with hmem | ⟨hnumber, hdigit⟩
  · exact hleft word hmem
  · by_contra hw
    rcases covers_iff.1 (Bool.of_not_eq_false hw) with hmem | ⟨hnumber', -⟩
    · rw [hright word hmem] at hv
      cases hv
    · rcases hnumbers with hno | hno
      · rw [hnumber] at hno
        cases hno
      · rw [hnumber'] at hno
        cases hno

end Vocabulary

/-! ## Scales -/

namespace Scale

/-- Keys that begin like all keys of a scale but numbers. -/
def openers : Scale → List String
  | spacing | spacingOrFraction => ["px"]
  | fraction | number | opacity | milliseconds | degrees | percentage => []
  | container => ["px", "screen"] ++ containers.map (·.1)
  | palette => ["black", "white", "transparent"] ++ Palette.hues.map (·.1)
  | width | factor => [defaultKey]
  | radius => radii.map (·.1)
  | fontSize => fontSizes.map (·.1)
  | fontWeight => fontWeights.map (·.1)
  | fontFamily => fontFamilies.map (·.1)
  | leading => leadings.map (·.1)
  | tracking => trackings.map (·.1)
  | shadow => shadows.map (·.1)
  | blur => blurs.map (·.1)
  | animation => animations.map (·.1)
  | transition => transitions.map (·.1)
  | easing => easings.map (·.1)
  | order => ["first", "last", "none"]
  | aspectRatio => ["square", "video"]
  | gradient => ["gradient"]

/-- Whether a scale takes numbers. -/
def hasNumbers : Scale → Bool
  | palette | radius | fontSize | fontWeight | fontFamily | tracking | shadow | blur | animation
  | transition | easing | gradient => false
  | _ => true

/-- The key begins like one of the others, or with a digit where there are numbers. -/
def Opens (keys : List String) (numbers : Bool) (key : String) : Prop :=
  (∃ k ∈ keys, firstWord key.toList = firstWord k.toList) ∨
    numbers = true ∧ BeginsWithDigit key.toList

variable {key : String}

theorem Opens.mono {keys keys' : List String} {numbers numbers' : Bool}
    (h : Opens keys numbers key) (hkeys : keys ⊆ keys')
    (hnumbers : numbers = true → numbers' = true) : Opens keys' numbers' key := by
  rcases h with ⟨k, hmem, hword⟩ | ⟨hnumber, hdigit⟩
  · exact .inl ⟨k, hkeys hmem, hword⟩
  · exact .inr ⟨hnumbers hnumber, hdigit⟩

theorem opens_of_mem {keys : List String} {numbers : Bool} (h : key ∈ keys) :
    Opens keys numbers key := .inl ⟨key, h, rfl⟩

theorem opens_of_lookup {α : Type} {table : List (String × α)} {numbers : Bool} {a : α}
    (h : table.lookup key = some a) : Opens (table.map (·.1)) numbers key :=
  opens_of_mem (List.mem_map_of_mem (mem_of_lookup h))

theorem beginsWithDigit_of_readNumber? {n : Float32} (h : readNumber? key = some n) :
    BeginsWithDigit key.toList := by
  obtain ⟨hnumeric, -⟩ := Option.ite_none_right_eq_some.1 h
  obtain ⟨whole, fraction, hnumeral⟩ := isNumeric_iff.1 hnumeric
  exact hnumeral.exists_head

theorem beginsWithDigit_of_readWhole? {s : List Char} {n : Nat} (h : readWhole? s = some n) :
    BeginsWithDigit s := by
  obtain ⟨hdigits, hread⟩ := Option.ite_none_right_eq_some.1 h
  cases s with
  | nil => simp [Number.readNat?] at hread
  | cons c r =>
    rw [List.all_cons, Bool.and_eq_true] at hdigits
    exact ⟨c, r, rfl, isDecimalDigit_of_isDigit hdigits.1⟩

theorem beginsWithDigit_of_fraction? {value : Value} (h : fraction? key = some value) :
    BeginsWithDigit key.toList := by
  obtain ⟨⟨numerator, denominator⟩, hcut, h⟩ := Option.bind_eq_some_iff.1 h
  obtain ⟨_, hnumerator, -⟩ := Option.bind_eq_some_iff.1 h
  obtain ⟨hkey, -⟩ := splitFirst?_eq_some_iff.1 hcut
  obtain ⟨c, r, rfl, hdigit⟩ := beginsWithDigit_of_readWhole? hnumerator
  exact ⟨c, r ++ '/' :: denominator, hkey, hdigit⟩

theorem opens_of_spacingKey? {value : Value} (h : spacingKey? key = some value) :
    Opens spacing.openers spacing.hasNumbers key := by
  unfold spacingKey? at h
  split at h
  · exact opens_of_mem (by simp [openers, *])
  · obtain ⟨_, hnumber, -⟩ := Option.bind_eq_some_iff.1 h
    exact .inr ⟨rfl, beginsWithDigit_of_readNumber? hnumber⟩

theorem opens_of_container? {l : Length} (h : container? key = some l) :
    Opens container.openers container.hasNumbers key := by
  unfold container? at h
  split at h
  · next screen hscreen =>
    refine .inl ⟨"screen", by simp [openers], ?_⟩
    have hkey : key.toList = "screen".toList ++ '-' :: screen.toList := toList_eq_of_after? hscreen
    rw [hkey, firstWord_append (isBreak_dash _)]
  · exact opens_of_mem (List.mem_append_right _ (List.mem_map_of_mem (mem_of_lookup h)))

theorem opens_of_palette {c : Color} (h : Palette.color? key = some c) :
    Opens palette.openers palette.hasNumbers key := by
  unfold Palette.color? at h
  split at h
  case h_4 =>
    obtain ⟨⟨hue, shade⟩, hcut, h⟩ := Option.bind_eq_some_iff.1 h
    obtain ⟨hkey, -⟩ := splitLast?_eq_some_iff.1 hcut
    obtain ⟨_, -, h⟩ := Option.bind_eq_some_iff.1 h
    obtain ⟨_, hlookup, -⟩ := Option.bind_eq_some_iff.1 h
    refine .inl ⟨String.ofList hue, ?_, ?_⟩
    · exact List.mem_append_right _ (List.mem_map_of_mem (mem_of_lookup hlookup))
    · rw [hkey, firstWord_append (isBreak_dash _), String.toList_ofList]
  all_goals exact opens_of_mem (by simp [openers])

theorem opens_of_order? {value : Value} (h : order? key = some value) :
    Opens order.openers order.hasNumbers key := by
  unfold order? at h
  split at h
  case h_4 =>
    obtain ⟨_, hnumber, -⟩ := Option.map_eq_some_iff.1 h
    exact .inr ⟨rfl, beginsWithDigit_of_readNumber? hnumber⟩
  all_goals exact opens_of_mem (by simp [openers])

theorem opens_of_aspectRatio? {value : Value} (h : aspectRatio? key = some value) :
    Opens aspectRatio.openers aspectRatio.hasNumbers key := by
  unfold aspectRatio? at h
  split at h
  case h_3 => exact .inr ⟨rfl, beginsWithDigit_of_fraction? h⟩
  all_goals exact opens_of_mem (by simp [openers])

theorem opens_of_gradient? {value : Value} (h : gradient? key = some value) :
    Opens gradient.openers gradient.hasNumbers key := by
  obtain ⟨direction, hafter, -⟩ := Option.bind_eq_some_iff.1 h
  have hkey : key.toList = "gradient".toList ++ '-' :: ("to-".toList ++ direction.toList) :=
    toList_eq_of_after? hafter
  refine .inl ⟨"gradient", by simp [openers], ?_⟩
  rw [hkey, firstWord_append (isBreak_dash _)]

theorem opens_of_leading? {value : Value} (h : leading? key = some value) :
    Opens leading.openers leading.hasNumbers key := by
  rcases Option.or_eq_some_iff.1 h with h | ⟨-, h⟩
  · obtain ⟨_, hlookup, -⟩ := Option.map_eq_some_iff.1 h
    exact opens_of_lookup hlookup
  · obtain ⟨_, hnumber, -⟩ := Option.bind_eq_some_iff.1 h
    exact .inr ⟨rfl, beginsWithDigit_of_readNumber? hnumber⟩

/-- **How a key of a scale begins.** -/
theorem opens_of_value? {scale : Scale} {value : Value} (h : scale.value? key = some value) :
    Opens scale.openers scale.hasNumbers key := by
  cases scale
  case spacing => exact opens_of_spacingKey? h
  case spacingOrFraction =>
    rcases Option.or_eq_some_iff.1 h with h | ⟨-, h⟩
    · exact opens_of_spacingKey? h
    · exact .inr ⟨rfl, beginsWithDigit_of_fraction? h⟩
  case fraction => exact .inr ⟨rfl, beginsWithDigit_of_fraction? h⟩
  case container =>
    rcases Option.or_eq_some_iff.1 h with h | ⟨-, h⟩
    · obtain ⟨_, hfound, -⟩ := Option.map_eq_some_iff.1 h
      exact opens_of_container? hfound
    · exact (opens_of_spacingKey? h).mono (by simp [openers]) fun _ => rfl
  case palette =>
    obtain ⟨_, hcolor, -⟩ := Option.map_eq_some_iff.1 h
    exact opens_of_palette hcolor
  case width | factor =>
    rw [value?] at h
    split at h
    · next hkey => exact opens_of_mem (by simp [openers, hkey])
    · obtain ⟨_, hnumber, -⟩ := Option.map_eq_some_iff.1 h
      exact .inr ⟨rfl, beginsWithDigit_of_readNumber? hnumber⟩
  case opacity =>
    obtain ⟨_, hnumber, -⟩ := Option.bind_eq_some_iff.1 h
    exact .inr ⟨rfl, beginsWithDigit_of_readNumber? hnumber⟩
  case number | milliseconds | degrees | percentage =>
    obtain ⟨_, hnumber, -⟩ := Option.map_eq_some_iff.1 h
    exact .inr ⟨rfl, beginsWithDigit_of_readNumber? hnumber⟩
  case leading => exact opens_of_leading? h
  case order => exact opens_of_order? h
  case aspectRatio => exact opens_of_aspectRatio? h
  case gradient => exact opens_of_gradient? h
  all_goals
    -- The other scales are tables.
    obtain ⟨_, hlookup, -⟩ := Option.map_eq_some_iff.1 h
    exact opens_of_lookup hlookup

end Scale

/-! ## Families -/

namespace Family

variable {family : Family} {key : String}

/-- Keys that begin like all keys of a family but numbers. -/
def openers (family : Family) : List String :=
  family.scale.elim [] Scale.openers ++ family.keywords.map (·.1)

/-- The first words of the keys of a family.  The empty key stands for the bare one. -/
def vocabulary (family : Family) : Vocabulary :=
  let words := family.openers.map fun key => firstWord key.toList
  { words := if words.contains defaultKey.toList then [] :: words else words
    numbers := family.scale.any Scale.hasNumbers }

theorem not_beginsWithDigit_defaultKey : ¬BeginsWithDigit defaultKey.toList := by
  rintro ⟨c, r, hkey, hdigit⟩
  have hhead : defaultKey.toList.head? = some 'D' := by decide
  rw [hkey] at hhead
  obtain rfl := Option.some.inj hhead
  revert hdigit
  decide

theorem opens_of_builtInValue? (hown : ∀ key, family.ownScale key = none)
    (h : (family.builtInValue? key).isSome) :
    Scale.Opens family.openers (family.scale.any Scale.hasNumbers)
      (if key = "" then defaultKey else key) := by
  generalize hkey : (if key = "" then defaultKey else key) = key'
  obtain ⟨value, hvalue⟩ := Option.isSome_iff_exists.1 h
  rw [builtInValue?_of_ownScale hown, hkey] at hvalue
  rcases Option.or_eq_some_iff.1 hvalue with hvalue | ⟨-, hvalue⟩
  · obtain ⟨scale, hscale, hvalue⟩ := Option.bind_eq_some_iff.1 hvalue
    refine (Scale.opens_of_value? hvalue).mono ?_ ?_
    · rw [openers, hscale]
      exact List.subset_append_left _ _
    · intro hnumbers
      rw [hscale]
      exact hnumbers
  · obtain ⟨_, hlookup, -⟩ := Option.map_eq_some_iff.1 hvalue
    exact Scale.opens_of_mem (List.mem_append_right _ (List.mem_map_of_mem (mem_of_lookup hlookup)))

/-- **The keys of a family** begin within its vocabulary. -/
theorem covers_of_builtInValue? (hown : ∀ key, family.ownScale key = none)
    (h : (family.builtInValue? key).isSome) :
    family.vocabulary.covers (firstWord key.toList) = true := by
  have hopens := opens_of_builtInValue? hown h
  rw [Vocabulary.covers_iff]
  by_cases hkey : key = ""
  · subst hkey
    rw [if_pos rfl] at hopens
    rcases hopens with ⟨k, hmem, hword⟩ | ⟨-, hdigit⟩
    · have hdefault : defaultKey.toList ∈ family.openers.map fun key => firstWord key.toList :=
        List.mem_map.2 ⟨k, hmem, hword.symm⟩
      left
      rw [vocabulary, if_pos (List.contains_iff_mem.2 hdefault)]
      exact List.mem_cons_self
    · exact absurd hdigit not_beginsWithDigit_defaultKey
  · rw [if_neg hkey] at hopens
    rcases hopens with ⟨k, hmem, hword⟩ | ⟨hnumbers, hdigit⟩
    · left
      have hmem' : firstWord key.toList ∈ family.openers.map fun key => firstWord key.toList :=
        List.mem_map.2 ⟨k, hmem, hword.symm⟩
      rw [vocabulary]
      dsimp only
      split
      · exact List.mem_cons_of_mem _ hmem'
      · exact hmem'
    · exact .inr ⟨hnumbers, hdigit.firstWord⟩

end Family

end UtilityStyle
