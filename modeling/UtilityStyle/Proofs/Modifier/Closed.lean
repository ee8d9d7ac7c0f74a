/-
  Modifiers that are closed.

  A modifier puts texts into the selector of its class.  Most of them come from tables or have been
  checked.  The rest come from square brackets, and may hold anything.

  * `SelectorPart.IsClosed`: a part can stand in any selector;
  * `ModifierKind.IsClosed`: the texts that a kind takes over from square brackets can stand where
    it puts them;
  * `ModifierKind.isClosed_of_read?`: a modifier without square brackets is closed;
  * `ModifierKind.isDelimited_suffix_of_read?`: what follows the element is delimited if the
    modifier is closed;
  * `ModifierKind.isClosed_part_of_read?`: so a modifier that is closed, or has no square brackets,
    gives a part that can stand in any selector.
-/
import UtilityStyle.Proofs.Css.Delimited
import UtilityStyle.Proofs.Modifier
import UtilityStyle.Proofs.Utility.Value
import UtilityStyle.Proofs.Utility.Vocabulary

namespace UtilityStyle

open Text Css

/-! ## Parts of a selector -/

/-- A part can stand in any selector. -/
def SelectorPart.IsClosed : SelectorPart → Prop
  | atRule _ => True
  | ancestor text | sibling text | condition text | pseudoElement text => IsDelimited text
  | template text => IsTemplate text

/-- A marker is a class with a name that is escaped. -/
theorem Relation.inert_marker (relation : Relation) (name : Option String) :
    Inert (relation.marker name).toList := by
  unfold marker
  extract_lets kind
  cases name with
  | none => cases relation <;> exact .of_notMem (by decide)
  | some name =>
    simp only [String.toList_append]
    exact .cons (by decide) (inert_escapeIdentifier (kind ++ "/" ++ name))

/-! ## Texts -/

theorem subset_of_after? {front s rest : String} (h : after? front s = some rest) :
    rest.toList ⊆ s.toList := by
  rw [toList_eq_of_after? h]
  exact List.subset_append_right ..

theorem subset_cutName (s : String) : (cutName s).1.toList ⊆ s.toList := by
  unfold cutName
  split
  · next front name hsplit =>
    split_ifs
    · rw [String.toList_ofList, (splitLast?_eq_some_iff.1 hsplit).1]
      exact List.subset_append_left ..
    · exact List.Subset.refl _
  · exact List.Subset.refl _

/-! ## Kinds of modifiers -/

namespace ModifierKind

/-- The texts that a kind takes over from square brackets can stand where it puts them: an
    attribute in brackets, its value in quotes, and the selector in the place of the marks. -/
def IsClosed : ModifierKind → Prop
  | related _ asked _ => ∀ text ∈ stateSelector? asked, IsDelimited text
  | grouped _ name value => IsDelimited name ∧ ∀ text ∈ value, StaysQuoted text
  | condition selector => IsDelimited selector
  | arbitrary selector => startsWith "@" selector = true ∨ IsTemplate selector
  | _ => True

instance : DecidablePred IsClosed
  | related _ asked _ =>
    inferInstanceAs (Decidable (∀ text ∈ stateSelector? asked, IsDelimited text))
  | grouped _ name value =>
    inferInstanceAs (Decidable (IsDelimited name ∧ ∀ text ∈ value, StaysQuoted text))
  | condition selector => inferInstanceAs (Decidable (IsDelimited selector))
  | arbitrary selector =>
    inferInstanceAs (Decidable (startsWith "@" selector = true ∨ IsTemplate selector))
  | screen .. | viewport .. | container .. | media .. | dark | motion .. | pseudoClass .. | state ..
  | place .. | nth .. | pseudoElement .. | unknown => .isTrue trivial

variable {kind : ModifierKind} {s text : String}

/-- A rule around the selector takes no text into it. -/
theorem Takes.isClosed (h : kind.Takes .rule) : kind.IsClosed := by
  cases kind with
  | related | grouped | condition => cases h
  | arbitrary selector => exact .inl (Option.isSome_ite.1 h)
  | _ => trivial

/-- The attribute of a group, with what is asked of it. -/
theorem isDelimited_selector {group : AttributeGroup} {name : String} {value : Option String}
    (h : (grouped group name value).IsClosed) : IsDelimited (group.selector name value) := by
  obtain ⟨hname, hvalue⟩ := h
  have hfull : IsDelimited (group.name ++ "-" ++ name) := by
    refine .append ?_ hname
    cases group <;> decide
  cases value with
  | none =>
    cases group with
    | data => exact hfull.squared
    | aria =>
      have htrue : IsDelimited "=\"true\"" := by decide
      have hend : "=\"true\"]" = "=\"true\"" ++ "]" := rfl
      have hwhole := (hfull.append htrue).squared
      simpa only [AttributeGroup.selector, hend, String.append_assoc] using hwhole
  | some value =>
    have hquoted : IsDelimited ("=" ++ ("\"" ++ value ++ "\"")) :=
      IsDelimited.append (by decide) (hvalue value rfl).isDelimited
    have hsplit : "=\"" = "=" ++ "\"" := rfl
    have hend : "\"]" = "\"" ++ "]" := rfl
    have hwhole := (hfull.append hquoted).squared
    simpa only [AttributeGroup.selector, hsplit, hend, String.append_assoc] using hwhole

/-! ### Conditions on one element -/

section
variable {r : List Char}

theorem notMem_delimiters_of_dropWhile {p : Char → Bool} (hp : ∀ c ∈ delimiters, p c = false)
    (h : ∀ c ∈ r.dropWhile p, c ∉ delimiters) : ∀ c ∈ r, c ∉ delimiters := by
  intro c hc
  rw [← List.takeWhile_append_dropWhile (p := p) (l := r), List.mem_append] at hc
  rcases hc with hc | hc
  · exact notMem_delimiters hp (List.all_eq_true.1 List.all_takeWhile c hc)
  · exact h c hc

theorem notMem_delimiters_of_isDecimalDigit (h : r.all isDecimalDigit = true) :
    ∀ c ∈ r, c ∉ delimiters :=
  fun c hc => notMem_delimiters (by decide +kernel) (List.all_eq_true.1 h c hc)

theorem notMem_delimiters_of_isOffset (h : isOffset r = true) : ∀ c ∈ r, c ∉ delimiters := by
  rcases Bool.or_eq_true_iff.1 h with hempty | hsigned
  · rw [List.isEmpty_iff.1 hempty]
    exact nofun
  · refine notMem_delimiters_of_dropWhile (p := isSpace) (by decide) ?_
    split at hsigned
    · next sign rest hrest =>
      simp only [Bool.and_eq_true, Bool.or_eq_true, beq_iff_eq] at hsigned
      obtain ⟨⟨hsign, -⟩, hdigits⟩ := hsigned
      rw [hrest]
      refine List.forall_mem_cons.2 ⟨?_, notMem_delimiters_of_dropWhile (p := isSpace) (by decide)
        (notMem_delimiters_of_isDecimalDigit hdigits)⟩
      rcases hsign with rfl | rfl <;> decide
    · cases hsigned

theorem notMem_delimiters_of_isMultiple (h : isMultiple r = true) : ∀ c ∈ r, c ∉ delimiters := by
  unfold isMultiple at h
  extract_lets unsigned at h
  have hunsigned : ∀ c ∈ unsigned, c ∉ delimiters := by
    refine notMem_delimiters_of_dropWhile (p := isDecimalDigit) (by decide +kernel) ?_
    split at h
    · next offset hrest =>
      rw [hrest]
      exact List.forall_mem_cons.2 ⟨by decide, notMem_delimiters_of_isOffset h⟩
    · cases h
  unfold unsigned at hunsigned
  split at hunsigned
  · exact List.forall_mem_cons.2 ⟨by decide, hunsigned⟩
  · exact hunsigned

end

/-- **A formula is checked**, and has no delimiters. -/
theorem inert_of_isFormula (h : isFormula s = true) : Inert s.toList := by
  refine .of_notMem ?_
  simp only [isFormula, Bool.or_eq_true, Bool.and_eq_true, beq_iff_eq] at h
  rcases h with ((rfl | rfl) | hmultiple) | ⟨-, hdigits⟩
  · decide
  · decide
  · exact notMem_delimiters_of_isMultiple hmultiple
  · exact notMem_delimiters_of_isDecimalDigit hdigits

theorem isDelimited_count (counting : Counting) {formula : String} (h : isFormula formula = true) :
    IsDelimited (":" ++ counting.pseudoClass ++ "(" ++ formula ++ ")") := by
  have hfront : IsDelimited (":" ++ counting.pseudoClass) := by cases counting <;> decide
  have hwhole := hfront.append (inert_of_isFormula h).isDelimited.rounded
  simpa only [String.append_assoc] using hwhole

theorem exists_eq_of_nth? (h : nth? s = some kind) :
    ∃ counting formula, kind = .nth counting formula ∧ isFormula formula = true := by
  have hchecked {r formula : String} (h : formula? r = some formula) : isFormula formula = true := by
    obtain ⟨hformula, hr⟩ := Option.ite_none_right_eq_some.1 h
    rwa [Option.some.inj hr] at hformula
  unfold nth? at h
  split at h
  case h_4 => cases h
  all_goals
    obtain ⟨formula, hformula, rfl⟩ := Option.map_eq_some_iff.1 h
    exact ⟨_, formula, rfl, hchecked hformula⟩

theorem exists_eq_of_grouped? (h : grouped? s = some kind) :
    ∃ group name value r, kind = .grouped group name value ∧ r.toList ⊆ s.toList ∧
      attributeParts? r = some (name, value) := by
  unfold grouped? at h
  split at h
  case h_3 => cases h
  case h_1 r hr =>
    obtain ⟨⟨name, value⟩, hparts, rfl⟩ := Option.map_eq_some_iff.1 h
    exact ⟨.data, name, value, r, rfl, subset_of_after? hr, hparts⟩
  case h_2 r _ hr =>
    obtain ⟨⟨name, value⟩, hparts, rfl⟩ := Option.map_eq_some_iff.1 h
    exact ⟨.aria, name, value, r, rfl, subset_of_after? hr, hparts⟩

/-- **A condition on one element** is delimited if the texts from square brackets allow it. -/
theorem isDelimited_of_elementKind? (h : elementKind? s = some kind) (hclosed : kind.IsClosed)
    (htext : kind.suffix? = some text) : IsDelimited text := by
  unfold elementKind? at h
  split_ifs at h with hpseudo hstate hplace helement
  · cases h
    cases htext
    have hall : ∀ name ∈ pseudoClasses, IsDelimited (":" ++ name) := by decide
    exact hall s (List.contains_iff_mem.1 hpseudo)
  · cases h
    have hall : ∀ entry ∈ elementStates, IsDelimited entry.2 := by decide
    exact hall (s, text) (mem_of_lookup htext)
  · cases h
    obtain ⟨name, hname, rfl⟩ := Option.map_eq_some_iff.1 htext
    have hall : ∀ entry ∈ elementPlaces, IsDelimited (":" ++ entry.2) := by decide
    exact hall (s, name) (mem_of_lookup hname)
  · cases h
    obtain ⟨name, hname, rfl⟩ := Option.map_eq_some_iff.1 htext
    have hall : ∀ entry ∈ pseudoElements, IsDelimited ("::" ++ entry.2) := by decide
    exact hall (s, name) (mem_of_lookup hname)
  · rcases Option.or_eq_some_iff.1 h with h | ⟨-, h⟩
    · obtain ⟨counting, formula, rfl, hformula⟩ := exists_eq_of_nth? h
      cases htext
      exact isDelimited_count counting hformula
    · obtain ⟨group, name, value, -, rfl, -⟩ := exists_eq_of_grouped? h
      cases htext
      exact isDelimited_selector hclosed

/-! ### Texts without square brackets -/

section
variable (hplain : '[' ∉ s.toList)
include hplain

theorem bracketed?_eq_none : bracketed? s = none := by
  cases hs : bracketed? s with
  | none => rfl
  | some inner =>
    obtain ⟨hbetween, -⟩ := Option.filter_eq_some_iff.1 hs
    obtain ⟨r, hr, -⟩ := Option.bind_eq_some_iff.1 hbetween
    rw [toList_eq_of_after? hr] at hplain
    exact absurd List.mem_cons_self hplain

theorem isClosed_of_attributeParts? {group : AttributeGroup} {name : String} {value : Option String}
    (h : attributeParts? s = some (name, value)) : (grouped group name value).IsClosed := by
  rw [attributeParts?, bracketed?_eq_none hplain] at h
  obtain ⟨hs, hparts⟩ := Option.ite_none_right_eq_some.1 h
  obtain ⟨rfl, rfl⟩ := Prod.mk.inj (Option.some.inj hparts)
  refine ⟨Inert.isDelimited (.of_notMem fun c hc => ?_), nofun⟩
  have hclass := List.all_eq_true.1 (Bool.and_eq_true_iff.1 hs).2 c hc
  exact notMem_delimiters (p := fun c => isAsciiAlphanumeric c || c == '-') (by decide) hclass

theorem isClosed_of_elementKind? (h : elementKind? s = some kind) : kind.IsClosed := by
  unfold elementKind? at h
  split_ifs at h
  case neg =>
    rcases Option.or_eq_some_iff.1 h with h | ⟨-, h⟩
    · obtain ⟨counting, formula, rfl, -⟩ := exists_eq_of_nth? h
      trivial
    · obtain ⟨group, name, value, r, rfl, hr, hparts⟩ := exists_eq_of_grouped? h
      exact isClosed_of_attributeParts? (fun hmem => hplain (hr hmem)) hparts
  all_goals
    cases h
    trivial

theorem isDelimited_of_stateSelector? (h : stateSelector? s = some text) : IsDelimited text := by
  rw [stateSelector?, bracketed?_eq_none hplain] at h
  cases hkind : elementKind? s with
  | none =>
    rw [hkind] at h
    cases h
  | some kind =>
    have htext : kind.suffix? = some text := by
      rw [hkind] at h
      cases kind with
      | pseudoElement => cases h
      | _ => exact h
    exact isDelimited_of_elementKind? hkind (isClosed_of_elementKind? hplain hkind) htext

theorem isClosed_of_relatedKind? {relation : Relation} (h : relatedKind? relation s = some kind) :
    kind.IsClosed := by
  obtain ⟨text, -, rfl⟩ := Option.map_eq_some_iff.1 h
  have hasked : '[' ∉ (cutName s).1.toList := fun hmem => hplain (subset_cutName s hmem)
  exact fun text htext => isDelimited_of_stateSelector? hasked htext

end

/-- Of the words, those for a direction ask for a condition, and the others for a rule. -/
theorem cases_of_wordKind? (h : wordKind? s = some kind) :
    kind.Takes .rule ∨ ∃ selector, kind = .condition selector ∧ IsDelimited selector := by
  unfold wordKind? at h
  split at h
  case h_6 =>
    obtain ⟨query, -, rfl⟩ := Option.map_eq_some_iff.1 h
    exact .inl rfl
  case h_1 | h_2 | h_3 =>
    cases h
    exact .inl rfl
  case h_4 | h_5 =>
    cases h
    exact .inr ⟨_, rfl, by decide⟩

/-- **A modifier without square brackets** takes nothing over that has to be closed. -/
theorem isClosed_of_read? (hplain : '[' ∉ s.toList) (h : read? s = some kind) : kind.IsClosed := by
  have hrest {front r : String} (hr : after? front s = some r) : '[' ∉ r.toList :=
    fun hmem => hplain (subset_of_after? hr hmem)
  unfold read? at h
  split at h
  · next hinner =>
    rw [bracketed?_eq_none hplain] at hinner
    cases hinner
  · exact (takes_of_containerKind? h).isClosed
  · exact (takes_of_upperWidthKind? h).isClosed
  · next hr => exact isClosed_of_relatedKind? (hrest hr) h
  · next hr => exact isClosed_of_relatedKind? (hrest hr) h
  · split_ifs at h with hwidth
    · cases h
      trivial
    · rcases Option.or_eq_some_iff.1 h with h | ⟨-, h⟩
      · rcases Option.or_eq_some_iff.1 h with h | ⟨-, h⟩
        · exact (takes_of_bracketKind? h).isClosed
        · rcases cases_of_wordKind? h with hrule | ⟨selector, rfl, hselector⟩
          · exact hrule.isClosed
          · exact hselector
      · exact isClosed_of_elementKind? hplain h

/-! ### Modifiers -/

/-- What follows the element is delimited if the texts from square brackets allow it. -/
theorem isDelimited_suffix_of_read? (h : read? s = some kind) (hclosed : kind.IsClosed)
    (htext : kind.suffix? = some text) : IsDelimited text := by
  have hsuffix : kind.Takes .suffix := Option.isSome_of_mem htext
  unfold read? at h
  split at h
  · unfold arbitraryKind? at h
    extract_lets content at h
    split_ifs at h
    · cases h
      cases htext
    · cases h
      cases htext
    · cases h
      cases htext
      exact hclosed
  · cases (takes_of_containerKind? h).unique hsuffix
  · cases (takes_of_upperWidthKind? h).unique hsuffix
  · cases (takes_of_relatedKind? h).unique hsuffix
  · cases (takes_of_relatedKind? h).unique hsuffix
  · split_ifs at h with hwidth
    · cases h
      cases htext
    · rcases Option.or_eq_some_iff.1 h with h | ⟨-, h⟩
      · rcases Option.or_eq_some_iff.1 h with h | ⟨-, h⟩
        · cases (takes_of_bracketKind? h).unique hsuffix
        · rcases cases_of_wordKind? h with hrule | ⟨selector, rfl, hselector⟩
          · cases hrule.unique hsuffix
          · cases htext
            exact hselector
      · exact isDelimited_of_elementKind? h hclosed htext

/-- **The part that a modifier gives** can stand in any selector, if the texts from square brackets
    allow it. -/
theorem isClosed_part_of_read? (h : read? s = some kind)
    (hclosed : '[' ∈ s.toList → kind.IsClosed) : ∀ part ∈ kind.part?, part.IsClosed := by
  have hkind : kind.IsClosed := by
    by_cases hs : '[' ∈ s.toList
    · exact hclosed hs
    · exact isClosed_of_read? hs h
  have hsuffix : ∀ text, kind.suffix? = some text → IsDelimited text :=
    fun text => isDelimited_suffix_of_read? h hkind
  intro part hpart
  unfold part? at hpart
  split at hpart
  · cases hpart
    trivial
  · next hrule =>
    split at hpart
    · obtain ⟨asked, hasked, rfl⟩ := Option.map_eq_some_iff.1 hpart
      exact ((Relation.inert_marker _ _).isDelimited.append (hkind asked hasked)).append (by decide)
    · obtain ⟨asked, hasked, rfl⟩ := Option.map_eq_some_iff.1 hpart
      exact ((Relation.inert_marker _ _).isDelimited.append (hkind asked hasked)).append (by decide)
    · cases hpart
      exact hkind.resolve_left fun hfront => by simp [atRule?, hfront] at hrule
    · obtain ⟨text, htext, rfl⟩ := Option.map_eq_some_iff.1 hpart
      exact hsuffix text htext
    · obtain ⟨text, htext, rfl⟩ := Option.map_eq_some_iff.1 hpart
      exact hsuffix text htext

end ModifierKind

end UtilityStyle
