/-
  Class names taken apart.

  `split_eq_iff`: a class name has one spelling as modifiers with a colon behind each, and a utility,
  in which every modifier ends outside brackets and no other colon stands there.  `split_exact`: so
  taking a class name apart loses nothing, cuts at every colon outside brackets and at no other, and
  finds the same modifiers again.  Brackets need not be balanced for that.
-/
import UtilityStyle.ClassName
import UtilityStyle.Proofs.Text.Depth

namespace UtilityStyle.ClassName

open Text

/-- The class name with the given modifiers and utility. -/
def text (name : ClassName) : String :=
  String.join (name.modifiers.map (· ++ ":")) ++ name.utility

theorem toList_text (name : ClassName) :
    name.text.toList =
      (name.modifiers.map String.toList).flatMap (· ++ [':']) ++ name.utility.toList := by
  simp [text, List.flatMap_map]

/-- A class name is taken apart at all colons outside brackets. -/
theorem split_eq_iff {s : String} {name : ClassName} :
    split s = name ↔
      name.text = s ∧ (∀ part ∈ name.modifiers, EndsAt ':' 0 part.toList) ∧
        IsTopFree ':' 0 name.utility.toList := by
  obtain ⟨modifiers, utility⟩ := name
  have hcut : split s = ⟨modifiers, utility⟩ ↔
      splitTop ':' 0 s.toList = (modifiers.map String.toList, utility.toList) := by
    constructor
    · intro h
      obtain ⟨rfl, rfl⟩ := ClassName.mk.inj h
      simp [Function.comp_def]
    · intro h
      simp [split, h, Function.comp_def]
  rw [hcut, splitTop_eq_iff, ← String.toList_inj, toList_text, List.forall_mem_map]

/-- **Taking a class name apart loses nothing and cuts exactly at the colons outside brackets.** -/
theorem split_exact (s : String) :
    let name := split s
    name.text = s ∧
      (∀ part ∈ name.modifiers,
        IsTopFree ':' 0 part.toList ∧ part.toList.foldl nextDepth 0 = 0) ∧
      IsTopFree ':' 0 name.utility.toList ∧
      name.modifiers.length = topCount ':' 0 s.toList ∧
      split (text ⟨name.modifiers, ""⟩) = ⟨name.modifiers, ""⟩ := by
  intro name
  obtain ⟨htext, hends, hfree⟩ := split_eq_iff.1 (rfl : split s = name)
  refine ⟨htext, fun part hpart => endsAt_iff.1 (hends part hpart), hfree, ?_, ?_⟩
  · rw [← length_splitTop rfl]
    exact List.length_map ..
  · exact split_eq_iff.2 ⟨rfl, hends, isTopFree_nil⟩

example : split "]a:[b:(c]:d)::" = ⟨["]a", "[b:(c]:d)", ""], ""⟩ := by decide

end UtilityStyle.ClassName
