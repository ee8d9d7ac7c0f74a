/-
  Every modifier that is known takes part in a selector, in one way.

  * `SelectorBranch`: the ways to take part, and `ModifierKind.Takes`: when a kind takes one.  No
    kind takes two of them (`Takes.unique`), and the part of a selector that a kind gives is of the
    branch that it takes (`Takes.exists_part?`);
  * `takes_of_elementKind?`, `takes_of_arbitraryKind?`, `takes_of_containerKind?`,
    `takes_of_relatedKind?` and so on: the branch that each reader opens to what it takes;
  * `Modifier.existsUnique_takes_of_read`: so no modifier that is known is lost.
-/
import UtilityStyle.Proofs.Text.Pieces
import UtilityStyle.Selector

namespace UtilityStyle

open Text

/-! ## Branches -/

/-- The ways in which a modifier takes part in a selector. -/
inductive SelectorBranch where
  /-- By a rule around the selector. -/
  | rule
  /-- By a text after the element's own selector. -/
  | suffix
  /-- By a state of another element before it. -/
  | relation
  /-- By a selector that takes the element's own in the place of its marks. -/
  | template
deriving DecidableEq, Repr

/-- The branch of a part. -/
def SelectorPart.branch : SelectorPart → SelectorBranch
  | atRule _ => .rule
  | ancestor _ | sibling _ => .relation
  | condition _ | pseudoElement _ => .suffix
  | template _ => .template

namespace ModifierKind

/-- A kind takes a branch if it has the text that the branch needs.  A template is no at-rule, and
    has a mark. -/
def Takes (kind : ModifierKind) : SelectorBranch → Prop
  | .rule => kind.atRule?.isSome
  | .suffix => kind.suffix?.isSome
  | .relation => ∃ relation state name, kind = .related relation state name ∧
      (stateSelector? state).isSome
  | .template => ∃ selector, kind = .arbitrary selector ∧ startsWith "@" selector = false ∧
      '&' ∈ selector.toList

variable {kind : ModifierKind} {branch branch' : SelectorBranch} {s : String}

/-- **The part of a selector** that a kind gives is of the branch that it takes. -/
theorem Takes.exists_part? (h : kind.Takes branch) :
    ∃ part, kind.part? = some part ∧ part.branch = branch := by
  cases branch with
  | rule =>
    obtain ⟨rule, hrule⟩ := Option.isSome_iff_exists.1 h
    exact ⟨.atRule rule, by simp only [part?, hrule], rfl⟩
  | suffix =>
    obtain ⟨text, htext⟩ := Option.isSome_iff_exists.1 h
    -- The kinds with a suffix have no rule.
    cases kind with
    | pseudoElement =>
      exact ⟨.pseudoElement text, by simp only [part?, atRule?, htext, Option.map_some], rfl⟩
    | pseudoClass | state | place | nth | grouped | condition =>
      exact ⟨.condition text, by simp only [part?, atRule?, htext, Option.map_some], rfl⟩
    | screen | viewport | container | media | dark | motion | related | arbitrary | unknown =>
      cases h
  | relation =>
    obtain ⟨relation, state, name, rfl, hstate⟩ := h
    obtain ⟨text, htext⟩ := Option.isSome_iff_exists.1 hstate
    cases relation with
    | group =>
      exact ⟨.ancestor (Relation.group.marker name ++ text ++ " "),
        by simp only [part?, atRule?, htext, Option.map_some], rfl⟩
    | peer =>
      exact ⟨.sibling (Relation.peer.marker name ++ text ++ " ~ "),
        by simp only [part?, atRule?, htext, Option.map_some], rfl⟩
  | template =>
    obtain ⟨selector, rfl, hfront, -⟩ := h
    exact ⟨.template selector, by simp [part?, atRule?, hfront], rfl⟩

/-- No kind takes two branches. -/
theorem Takes.unique (h : kind.Takes branch) (h' : kind.Takes branch') : branch = branch' := by
  obtain ⟨part, hpart, rfl⟩ := h.exists_part?
  obtain ⟨part', hpart', rfl⟩ := h'.exists_part?
  rw [Option.some.inj (hpart.symm.trans hpart')]

/-! ## Conditions on one element -/

theorem takes_of_nth? (h : nth? s = some kind) : kind.Takes .suffix := by
  unfold nth? at h
  split at h
  case h_4 => cases h
  all_goals
    obtain ⟨formula, -, rfl⟩ := Option.map_eq_some_iff.1 h
    rfl

theorem takes_of_grouped? (h : grouped? s = some kind) : kind.Takes .suffix := by
  unfold grouped? at h
  split at h
  case h_3 => cases h
  all_goals
    obtain ⟨⟨name, value⟩, -, rfl⟩ := Option.map_eq_some_iff.1 h
    rfl

/-- A condition on one element follows its selector. -/
theorem takes_of_elementKind? (h : elementKind? s = some kind) : kind.Takes .suffix := by
  unfold elementKind? at h
  split_ifs at h with hpseudo hstate hplace helement
  · cases h
    rfl
  · cases h
    exact hstate
  · cases h
    exact (Option.isSome_map ..).trans hplace
  · cases h
    exact (Option.isSome_map ..).trans helement
  · rcases Option.or_eq_some_iff.1 h with h | ⟨-, h⟩
    · exact takes_of_nth? h
    · exact takes_of_grouped? h

/-! ## Modifiers -/

/-- The space that is put into an at-rule stands behind its first character. -/
theorem startsWith_spacedAtRule (h : startsWith "@" s) : startsWith "@" (spacedAtRule s) := by
  unfold spacedAtRule
  split
  · next front rest hsplit =>
    split_ifs with hspace
    · exact h
    · obtain ⟨hs, -⟩ := splitFirst?_eq_some_iff.1 hsplit
      rw [startsWith_iff, hs] at h
      rw [startsWith_iff, String.toList_ofList]
      cases front with
      | nil => simp at h
      | cons c front => simpa using h
  · exact h

/-- What stands in brackets is an at-rule, a template or a condition. -/
theorem takes_of_arbitraryKind? (h : arbitraryKind? s = some kind) :
    ∃ branch, kind.Takes branch := by
  unfold arbitraryKind? at h
  extract_lets content at h
  split_ifs at h with hrule hmark hattribute
  · cases h
    refine ⟨.rule, ?_⟩
    simp [Takes, atRule?, startsWith_spacedAtRule hrule]
  · cases h
    refine ⟨.template, content, rfl, Bool.eq_false_iff.2 hrule, ?_⟩
    exact List.contains_iff_mem.1 hmark
  · cases h
    exact ⟨.suffix, rfl⟩

theorem takes_of_containerKind? (h : containerKind? s = some kind) : kind.Takes .rule := by
  unfold containerKind? at h
  split at h
  split_ifs at h with hwidth
  · cases h
    rfl
  · obtain ⟨width, -, rfl⟩ := Option.map_eq_some_iff.1 h
    rfl

theorem takes_screen (h : (Scale.breakpoints.lookup s).isSome) (below : Bool) :
    (screen s below).Takes .rule := (Option.isSome_map ..).trans h

theorem takes_of_upperWidthKind? (h : upperWidthKind? s = some kind) : kind.Takes .rule := by
  unfold upperWidthKind? at h
  split_ifs at h with hwidth
  · cases h
    exact takes_screen hwidth true
  · obtain ⟨width, -, rfl⟩ := Option.map_eq_some_iff.1 h
    rfl

/-- A state of another element is kept as one that has a selector. -/
theorem takes_of_relatedKind? {relation : Relation} (h : relatedKind? relation s = some kind) :
    kind.Takes .relation := by
  unfold relatedKind? at h
  split at h
  obtain ⟨selector, hselector, rfl⟩ := Option.map_eq_some_iff.1 h
  exact ⟨relation, _, _, rfl, Option.isSome_of_mem hselector⟩

theorem takes_of_bracketKind? (h : bracketKind? s = some kind) : kind.Takes .rule := by
  rcases Option.or_eq_some_iff.1 h with h | ⟨-, h⟩
  · obtain ⟨width, -, rfl⟩ := Option.map_eq_some_iff.1 h
    rfl
  · obtain ⟨inner, -, rfl⟩ := Option.map_eq_some_iff.1 h
    rfl

/-- A word asks for a medium, or for a direction of the text. -/
theorem takes_of_wordKind? (h : wordKind? s = some kind) : ∃ branch, kind.Takes branch := by
  unfold wordKind? at h
  split at h
  case h_6 =>
    obtain ⟨query, -, rfl⟩ := Option.map_eq_some_iff.1 h
    exact ⟨.rule, rfl⟩
  case h_1 | h_2 | h_3 =>
    cases h
    exact ⟨.rule, rfl⟩
  case h_4 | h_5 =>
    cases h
    exact ⟨.suffix, rfl⟩

/-- **Whatever is read** takes a branch. -/
theorem exists_takes_of_read? (h : read? s = some kind) : ∃ branch, kind.Takes branch := by
  unfold read? at h
  split at h
  · exact takes_of_arbitraryKind? h
  · exact ⟨_, takes_of_containerKind? h⟩
  · exact ⟨_, takes_of_upperWidthKind? h⟩
  · exact ⟨_, takes_of_relatedKind? h⟩
  · exact ⟨_, takes_of_relatedKind? h⟩
  · split_ifs at h with hwidth
    · cases h
      exact ⟨_, takes_screen hwidth false⟩
    · rcases Option.or_eq_some_iff.1 h with h | ⟨-, h⟩
      · rcases Option.or_eq_some_iff.1 h with h | ⟨-, h⟩
        · exact ⟨_, takes_of_bracketKind? h⟩
        · exact takes_of_wordKind? h
      · exact ⟨_, takes_of_elementKind? h⟩

end ModifierKind

namespace Modifier

/-- **No modifier that is known is lost.**  It takes exactly one branch: it has a rule, or a suffix,
    or it asks for a state of another element that has a selector, or it is a template with a mark.
    The part of a selector that it gives is of that branch. -/
theorem existsUnique_takes_of_read (raw : String) (h : (read raw).kind ≠ .unknown) :
    (∃! branch, (read raw).kind.Takes branch) ∧
      ∀ branch, (read raw).kind.Takes branch →
        ∃ part, (read raw).kind.part? = some part ∧ part.branch = branch := by
  have htakes : ∃ branch, (read raw).kind.Takes branch := by
    rw [read] at h ⊢
    cases hkind : ModifierKind.read? raw with
    | none =>
      rw [hkind] at h
      exact absurd rfl h
    | some kind => exact ModifierKind.exists_takes_of_read? hkind
  obtain ⟨branch, hbranch⟩ := htakes
  refine ⟨⟨branch, hbranch, fun branch' hbranch' => hbranch'.unique hbranch⟩, ?_⟩
  exact fun branch' hbranch' => hbranch'.exists_part?

/-- An at-rule with a mark in it is no template. -/
theorem existsUnique_takes_of_read_supports :
    (∃! branch, (read "[@supports(selector(&>*))]").kind.Takes branch) ∧
      (read "[@supports(selector(&>*))]").kind.part? =
        some (.atRule "@supports (selector(&>*))") := by
  have hknown : (read "[@supports(selector(&>*))]").kind ≠ .unknown := by decide
  exact ⟨(existsUnique_takes_of_read _ hknown).1, by decide⟩

end Modifier

end UtilityStyle
