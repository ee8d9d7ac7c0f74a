/-
  Selectors do not depend on the order in which modifiers of different levels are written.

  * `Modifier.filter_level_sorted`: sorting keeps the modifiers of a level, and their order;
  * `Modifier.AgreeByLevel`: two lists have the same known modifiers level by level, in the same
    order on each level;
  * `Selector.parts_congr`: such lists give the same parts of a selector, because an unknown
    modifier gives none;
  * `Selector.compose_order`: so a list, the sorted list, and the list with unknown modifiers put in
    anywhere make the same selector.
-/
import Mathlib.Data.List.Basic
import UtilityStyle.Selector

namespace UtilityStyle

/-! ## Lists by level -/

namespace Modifier

variable {ms ms' : List Modifier}

theorem mem_of_mem_sorted {m : Modifier} (h : m ∈ sorted ms) : m ∈ ms := by
  obtain ⟨level, -, hm⟩ := List.mem_flatMap.1 h
  exact (List.mem_filter.1 hm).1

/-- **Sorting keeps each level** as it was written. -/
theorem filter_level_sorted (ms : List Modifier) (level : Level) :
    (sorted ms).filter (·.level = level) = ms.filter (·.level = level) := by
  -- Of the levels that are put one after the other, the filter leaves one.
  have hone (other : Level) : (ms.filter (·.level = other)).filter (·.level = level) =
      if other = level then ms.filter (·.level = level) else [] := by
    split
    · next h => simp [h, List.filter_filter]
    · next h =>
      refine List.filter_eq_nil_iff.2 fun m hm hlevel => h ?_
      rw [← of_decide_eq_true (List.mem_filter.1 hm).2, of_decide_eq_true hlevel]
  rw [sorted, List.filter_flatMap]
  simp only [hone, Level.all, List.flatMap_cons, List.flatMap_nil]
  cases level <;> simp

/-- Two lists have the same known modifiers level by level, in the same order on each level. -/
def AgreeByLevel (ms ms' : List Modifier) : Prop :=
  ∀ level, level ≠ .unknown → ms.filter (·.level = level) = ms'.filter (·.level = level)

theorem agreeByLevel_sorted (ms : List Modifier) : AgreeByLevel ms (sorted ms) :=
  fun level _ => (filter_level_sorted ms level).symm

/-- Lists that differ in unknown modifiers alone agree on every level. -/
theorem agreeByLevel_of_filter_known
    (h : ms.filter (·.level ≠ .unknown) = ms'.filter (·.level ≠ .unknown)) :
    AgreeByLevel ms ms' := by
  intro level hlevel
  -- The modifiers of a known level are found among the known ones.
  have hknown (ms : List Modifier) :
      (ms.filter (·.level ≠ .unknown)).filter (·.level = level) = ms.filter (·.level = level) := by
    rw [List.filter_filter]
    refine List.filter_congr fun m _ => ?_
    by_cases hm : m.level = level
    · simp [hm, hlevel]
    · simp [hm]
  rw [← hknown ms, h, hknown ms']

end Modifier

/-! ## Parts of a selector -/

namespace Selector

open Modifier

variable {ms ms' : List Modifier}

/-- The parts that modifiers give, level by level. -/
def parts (ms : List Modifier) : List SelectorPart := (sorted ms).filterMap (·.kind.part?)

theorem part?_of_level_unknown {m : Modifier} (h : m.level = .unknown) : m.kind.part? = none := by
  obtain ⟨raw, kind⟩ := m
  cases kind with
  | unknown => rfl
  | _ => cases h

/-- **An unknown modifier gives no part**, so the known levels decide. -/
theorem parts_congr (h : AgreeByLevel ms ms') : parts ms = parts ms' := by
  simp only [parts, sorted, List.filterMap_flatMap]
  refine List.flatMap_congr fun level _ => ?_
  by_cases hlevel : level = .unknown
  · have hnone (ms : List Modifier) :
        (ms.filter (·.level = level)).filterMap (·.kind.part?) = [] :=
      List.filterMap_eq_nil_iff.2 fun m hm =>
        part?_of_level_unknown ((of_decide_eq_true (List.mem_filter.1 hm).2).trans hlevel)
    rw [hnone ms, hnone ms']
  · rw [h level hlevel]

/-- A selector is made of its class and the parts. -/
theorem compose_congr (className : String) (h : parts ms = parts ms') :
    compose className ms = compose className ms' := by
  unfold parts at h
  simp only [compose, h]

/-- **The order between levels does not count.**  Lists with the same known modifiers on each level,
    in the same order there, make the same selector with the same rules around it.  In particular
    sorting a list changes nothing, and neither do unknown modifiers, wherever they stand. -/
theorem compose_order (className : String) (ms : List Modifier) :
    (∀ ms', AgreeByLevel ms ms' → compose className ms' = compose className ms) ∧
      compose className (sorted ms) = compose className ms ∧
        ∀ ms', ms'.filter (·.level ≠ .unknown) = ms.filter (·.level ≠ .unknown) →
          compose className ms' = compose className ms := by
  have hagree (ms') (h : AgreeByLevel ms ms') : compose className ms' = compose className ms :=
    compose_congr className (parts_congr h).symm
  refine ⟨hagree, hagree _ (agreeByLevel_sorted ms), fun ms' h => ?_⟩
  exact hagree ms' (agreeByLevel_of_filter_known h.symm)

/-- Two states of the element keep their order, and everything else moves. -/
theorem compose_order_states :
    let written := ["before", "[&>*]", "hover", "wobble", "first", "group-focus", "dark", "lg"]
    let moved := ["lg", "wobble", "group-focus", "hover", "[&>*]", "dark", "first", "before", "?"]
    AgreeByLevel (written.map read) (moved.map read) ∧
      compose "x" (moved.map read) = compose "x" (written.map read) ∧
        (compose "x" (written.map read)).body =
          ".group:focus .x:hover:first-child::before>*" := by
  intro written moved
  have hagree : AgreeByLevel (written.map read) (moved.map read) := by
    intro level hlevel
    cases level with
    | unknown => exact absurd rfl hlevel
    | _ => decide +kernel
  exact ⟨hagree, (compose_order "x" (written.map read)).1 _ hagree, by decide +kernel⟩

end Selector

end UtilityStyle
