/-
  The order of modifiers is a stable sort of what was written.

  * `Level.arrange`: the elements of any list, level by level; `Level.arrange_perm` and
    `Level.pairwise_arrange` say which elements it has and how they follow one another;
  * `Modifier.IsStableSort`: what the sorted modifiers are, told by the places at which they were
    written;
  * `Modifier.sorted_eq_iff`: there is one such list, and it is the sorted one.  So sorting again
    changes nothing (`Modifier.sorted_sorted`), and levels one after the other are what a stable
    merge sort gives (`Modifier.sorted_eq_mergeSort`);
  * `ClassName.readModifiers_isStableSort`: the same for the modifiers of a class name.
-/
import Mathlib.Data.List.FinRange
import UtilityStyle.ClassName

namespace UtilityStyle

/-! ## Lists by level -/

namespace Level

theorem mem_all (level : Level) : level ∈ all := by cases level <;> decide

theorem pairwise_all : all.Pairwise (·.priority < ·.priority) := by decide

theorem priority_injective : Function.Injective priority := by
  intro level level' h
  cases level <;> cases level' <;> simp_all [priority]

section
variable {α β : Type} (key : α → Level)

/-- The elements of a list level by level, those of one level as they stand in the list. -/
def arrange (xs : List α) : List α := all.flatMap fun level => xs.filter (key · = level)

theorem map_arrange (f : β → α) (xs : List β) :
    (arrange (fun x => key (f x)) xs).map f = arrange key (xs.map f) := by
  simp only [arrange, List.map_flatMap, List.filter_map, Function.comp_def]

/-- The elements of some levels are put together, whatever the order of the levels. -/
theorem flatMap_filter_perm {levels : List Level} (h : levels.Nodup) (xs : List α) :
    (levels.flatMap fun level => xs.filter (key · = level)).Perm
      (xs.filter (key · ∈ levels)) := by
  induction levels with
  | nil => simp
  | cons level levels ih =>
    obtain ⟨hlevel, hlevels⟩ := List.nodup_cons.1 h
    -- Of the elements on one of the levels, those on the first one are taken out.
    have hfirst : (xs.filter (key · ∈ level :: levels)).filter (key · = level) =
        xs.filter (key · = level) := by
      rw [List.filter_filter]
      refine List.filter_congr fun x _ => ?_
      by_cases hx : key x = level <;> simp [hx]
    have hothers : ((xs.filter (key · ∈ level :: levels)).filter fun x =>
        !decide (key x = level)) = xs.filter (key · ∈ levels) := by
      rw [List.filter_filter]
      refine List.filter_congr fun x _ => ?_
      by_cases hx : key x = level <;> simp [hx, hlevel]
    have hsplit := List.filter_append_perm (key · = level) (xs.filter (key · ∈ level :: levels))
    rw [hfirst, hothers] at hsplit
    rw [List.flatMap_cons]
    exact ((ih hlevels).append_left _).trans hsplit

/-- No element is lost, and none comes twice. -/
theorem arrange_perm (xs : List α) : (arrange key xs).Perm xs := by
  have hnodup : all.Nodup := pairwise_all.imp fun hlt heq => Nat.ne_of_lt hlt (congrArg _ heq)
  have hall : xs.filter (key · ∈ all) = xs :=
    List.filter_eq_self.2 fun x _ => decide_eq_true (mem_all (key x))
  have hperm := flatMap_filter_perm key hnodup xs
  rwa [hall] at hperm

/-- An element stands before another if its level comes first, or if both have one level and the
    list has them in this order. -/
theorem pairwise_arrange {R : α → α → Prop} {xs : List α} (h : xs.Pairwise R) :
    (arrange key xs).Pairwise fun a b =>
      (key a).priority < (key b).priority ∨ key a = key b ∧ R a b := by
  have hkey {level : Level} {a : α} (ha : a ∈ xs.filter (key · = level)) : key a = level :=
    of_decide_eq_true (List.mem_filter.1 ha).2
  refine List.pairwise_flatMap.2 ⟨fun level _ => ?_, pairwise_all.imp ?_⟩
  · refine (h.filter _).imp_of_mem fun ha hb hR => .inr ⟨?_, hR⟩
    rw [hkey ha, hkey hb]
  · intro level level' hlt a ha b hb
    rw [hkey ha, hkey hb]
    exact .inl hlt

/-- Whether an element may stand before another one. -/
def mayPrecede (a b : α) : Bool := (key a).priority ≤ (key b).priority

theorem mayPrecede_trans (a b c : α) (hab : mayPrecede key a b = true)
    (hbc : mayPrecede key b c = true) : mayPrecede key a c = true :=
  decide_eq_true (Nat.le_trans (of_decide_eq_true hab) (of_decide_eq_true hbc))

theorem mayPrecede_total (a b : α) : (mayPrecede key a b || mayPrecede key b a) = true := by
  simpa [mayPrecede] using Nat.le_total (key a).priority (key b).priority

/-- A stable merge sort keeps each level as it stands in the list. -/
theorem filter_mergeSort (xs : List α) (level : Level) :
    (xs.mergeSort (mayPrecede key)).filter (key · = level) = xs.filter (key · = level) := by
  have hsame : (xs.filter (key · = level)).Pairwise fun a b => mayPrecede key a b = true := by
    refine List.pairwise_of_forall_mem_list fun a ha b hb => decide_eq_true ?_
    rw [of_decide_eq_true (List.mem_filter.1 ha).2, of_decide_eq_true (List.mem_filter.1 hb).2]
  have hsub := (List.sublist_mergeSort (mayPrecede_trans key) (mayPrecede_total key) hsame
    List.filter_sublist).filter (key · = level)
  rw [List.filter_filter] at hsub
  simp only [Bool.and_self] at hsub
  exact (hsub.eq_of_length ((List.mergeSort_perm xs _).filter _).length_eq.symm).symm

/-- So it keeps the order of elements on one level. -/
theorem pairwise_mergeSort {R : α → α → Prop} {xs : List α} (h : xs.Pairwise R) :
    (xs.mergeSort (mayPrecede key)).Pairwise fun a b => key a = key b → R a b := by
  refine List.pairwise_iff_forall_sublist.2 fun {a b} hab heq => ?_
  have hlevel := hab.filter (key · = key b)
  rw [filter_mergeSort] at hlevel
  simp only [List.filter_cons, heq, List.filter_nil] at hlevel
  exact List.pairwise_iff_forall_sublist.1 (h.filter _) hlevel

end

end Level

/-! ## Stable sorts -/

namespace Modifier

variable {written ms ms' : List Modifier}

/-- The modifiers are those that were written, ordered by priority, and those of one priority are
    still in the order of their places. -/
structure IsStableSort (written ms : List Modifier) : Prop where
  perm : ms.Perm written
  priorities : ms.Pairwise fun m n => m.level.priority ≤ n.level.priority
  stable : ∃ places : List (Fin written.length),
    places.Perm (List.finRange written.length) ∧ ms = places.map written.get ∧
      places.Pairwise fun i j =>
        (written.get i).level.priority = (written.get j).level.priority → i < j

/-- Modifiers are sorted as the places at which they were written are. -/
theorem sorted_eq_map_arrange (written : List Modifier) :
    sorted written =
      (Level.arrange (fun i => (written.get i).level) (List.finRange written.length)).map
        written.get := by
  rw [Level.map_arrange, List.map_get_finRange]
  rfl

/-- **Sorting is stable.** -/
theorem isStableSort_sorted (written : List Modifier) : IsStableSort written (sorted written) := by
  have hplaces := Level.pairwise_arrange (fun i => (written.get i).level)
    (List.pairwise_lt_finRange written.length)
  refine ⟨Level.arrange_perm level written, ?_, _, Level.arrange_perm _ _,
    sorted_eq_map_arrange written, hplaces.imp ?_⟩
  · rw [sorted_eq_map_arrange, List.pairwise_map]
    refine hplaces.imp fun h => ?_
    rcases h with hlt | ⟨heq, -⟩
    · exact Nat.le_of_lt hlt
    · exact Nat.le_of_eq (congrArg _ heq)
  · rintro i j (hlt | ⟨-, hij⟩) heq
    · exact absurd heq (Nat.ne_of_lt hlt)
    · exact hij

/-- What was written in order already is sorted as it stands. -/
theorem isStableSort_self
    (h : ms.Pairwise fun m n => m.level.priority ≤ n.level.priority) : IsStableSort ms ms := by
  refine ⟨.rfl, h, List.finRange ms.length, .rfl, (List.map_get_finRange ms).symm, ?_⟩
  refine (List.pairwise_lt_finRange ms.length).imp ?_
  intro i j hlt _
  exact hlt

/-- **There is only one stable sort.** -/
theorem IsStableSort.unique (h : IsStableSort written ms) (h' : IsStableSort written ms') :
    ms = ms' := by
  obtain ⟨-, hpriorities, places, hplaces, rfl, hstable⟩ := h
  obtain ⟨-, hpriorities', places', hplaces', rfl, hstable'⟩ := h'
  rw [List.pairwise_map] at hpriorities hpriorities'
  -- Two places cannot both come before one another.
  have heq : places = places' := by
    refine List.Perm.eq_of_pairwise ?_ (hpriorities.and hstable) (hpriorities'.and hstable')
      (hplaces.trans hplaces'.symm)
    rintro i j - - ⟨hle, hij⟩ ⟨hge, hji⟩
    have heq := Nat.le_antisymm hle hge
    exact absurd (hij heq) (Fin.not_lt.2 (Fin.le_of_lt (hji heq.symm)))
  rw [heq]

/-- **The sorted list is the one stable sort.** -/
theorem sorted_eq_iff : sorted written = ms ↔ IsStableSort written ms := by
  refine ⟨?_, fun h => (isStableSort_sorted written).unique h⟩
  rintro rfl
  exact isStableSort_sorted written

theorem sorted_of_pairwise (h : ms.Pairwise fun m n => m.level.priority ≤ n.level.priority) :
    sorted ms = ms :=
  sorted_eq_iff.2 (isStableSort_self h)

/-- Sorting again changes nothing. -/
theorem sorted_sorted (ms : List Modifier) : sorted (sorted ms) = sorted ms :=
  sorted_of_pairwise (isStableSort_sorted ms).priorities

/-- Levels one after the other are what a stable merge sort by priority gives. -/
theorem sorted_eq_mergeSort (written : List Modifier) :
    sorted written = written.mergeSort (Level.mayPrecede level) := by
  have hpriorities := List.pairwise_mergeSort (Level.mayPrecede_trans level)
    (Level.mayPrecede_total level) written
  have hplaces := List.map_mergeSort (r := Level.mayPrecede fun i => (written.get i).level)
    (s := Level.mayPrecede level) (f := written.get) (l := List.finRange written.length)
    fun _ _ _ _ => rfl
  rw [List.map_get_finRange] at hplaces
  have hstable := Level.pairwise_mergeSort (fun i => (written.get i).level)
    (List.pairwise_lt_finRange written.length)
  refine sorted_eq_iff.2 ⟨List.mergeSort_perm _ _, hpriorities.imp of_decide_eq_true,
    _, List.mergeSort_perm _ _, hplaces.symm, hstable.imp fun h heq => ?_⟩
  exact h (Level.priority_injective heq)

end Modifier

/-! ## Class names -/

namespace ClassName

/-- **The modifiers of a class name** are those that were written, by priority, and those of one
    priority in the order in which they were written; a list that is sorted stays as it is. -/
theorem readModifiers_isStableSort (s : String) :
    Modifier.IsStableSort ((split s).modifiers.map Modifier.read) (split s).readModifiers ∧
      ∀ ms, Modifier.sorted (Modifier.sorted ms) = Modifier.sorted ms :=
  ⟨Modifier.isStableSort_sorted _, Modifier.sorted_sorted⟩

example : (split "hover:[&>*]:first:md:wobble:hover:@md:p-4").readModifiers.map (·.raw) =
    ["md", "@md", "hover", "first", "hover", "[&>*]", "wobble"] := by decide +kernel

end ClassName

end UtilityStyle
