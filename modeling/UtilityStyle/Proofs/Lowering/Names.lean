/-
  Names that declarations write under.

  * `cssProperty_injective`: the CSS property of a declaration tells its property, whatever the
    side is, since no property is named with a word for a side;
  * `boundParts_disjoint`: declarations of different groups bind different parts of a layer.
-/
import UtilityStyle.Proofs.Lowering.Footprint

namespace UtilityStyle

open Text

/-! ## Texts cut at a character -/

theorem splitWhere_eq_splitOnP (sep : Char → Bool) (s : List Char) :
    splitWhere sep s = s.splitOnP sep := by
  induction s with
  | nil => rfl
  | cons c s ih =>
    rw [splitWhere, ih, List.splitOnP_cons_eq_if_modifyHead]
    split
    · rfl
    · cases h : s.splitOnP sep with
      | nil => exact absurd h (List.splitOnP_ne_nil sep s)
      | cons w ws => rfl

theorem splitAll_eq_splitOn (sep : Char) (s : List Char) : splitAll sep s = s.splitOn sep := by
  rw [splitAll, splitWhere_eq_splitOnP, List.splitOn_eq_splitOnP]

theorem splitAll_injective {sep : Char} {s t : List Char} (h : splitAll sep s = splitAll sep t) :
    s = t := by
  rw [splitAll_eq_splitOn, splitAll_eq_splitOn] at h
  have hs : [sep].intercalate (s.splitOn sep) = s := List.intercalate_splitOn sep
  rw [h, List.intercalate_splitOn] at hs
  exact hs.symm

theorem splitAll_append_cons (sep : Char) (s t : List Char) :
    splitAll sep (s ++ sep :: t) = splitAll sep s ++ splitAll sep t := by
  simp only [splitAll_eq_splitOn, List.splitOn_append_cons_self]

/-! ## Names of CSS properties -/

/-- The canonical name tells the property. -/
theorem Property.ofName?_name (p : Property) : ofName? p.name = some p := by
  have h : ∀ p ∈ all, ofName? p.name = some p := by decide +kernel
  exact h p (mem_all p)

theorem Property.name_injective {p q : Property} (h : p.name = q.name) : p = q := by
  have hp := p.ofName?_name
  rw [h, q.ofName?_name] at hp
  exact (Option.some.inj hp).symm

/-- The words that CSS names sides with. -/
def sideWords : List (List Char) := [
  ['x'], ['y'], ['i', 'n', 'l', 'i', 'n', 'e'], ['b', 'l', 'o', 'c', 'k'],
  ['s', 't', 'a', 'r', 't'], ['e', 'n', 'd'], ['t', 'o', 'p'], ['r', 'i', 'g', 'h', 't'],
  ['b', 'o', 't', 't', 'o', 'm'], ['l', 'e', 'f', 't']]

/-- The words of a name without those for a side. -/
def sidelessWords (name : String) : List (List Char) :=
  (splitAll '-' name.toList).filter (· ∉ sideWords)

theorem sidelessWords_append (front back : String) :
    sidelessWords (front ++ "-" ++ back) = sidelessWords front ++ sidelessWords back := by
  have h : (front ++ "-" ++ back).toList = front.toList ++ '-' :: back.toList := by simp
  rw [sidelessWords, h, splitAll_append_cons, List.filter_append, sidelessWords, sidelessWords]

theorem sidelessWords_name (p : Property) : sidelessWords p.name = splitAll '-' p.name.toList := by
  have h : ∀ p ∈ Property.all, ∀ w ∈ splitAll '-' p.name.toList, w ∉ sideWords := by
    decide +kernel
  refine List.filter_eq_self.2 fun w hw => ?_
  simpa using h p p.mem_all w hw

/-- A side is named with words for sides. -/
theorem sidelessWords_cssName {side : Side} (h : side ≠ .all) :
    sidelessWords side.cssName = [] := by
  cases side <;> first | exact absurd rfl h | decide +kernel

namespace Declaration

/-- The name of a side before the last word of a border property. -/
theorem sidelessWords_border {side : Side} (h : side ≠ .all) (part : String) :
    sidelessWords ("border-" ++ side.cssName ++ ("-" ++ part)) =
      sidelessWords ("border" ++ "-" ++ part) := by
  have hparts : "border-" ++ side.cssName ++ ("-" ++ part) =
      "border" ++ "-" ++ side.cssName ++ "-" ++ part := by
    rw [← String.append_assoc]
    rfl
  rw [hparts, sidelessWords_append, sidelessWords_append, sidelessWords_append,
    sidelessWords_cssName h, List.append_nil]

theorem sidelessWords_cssProperty (d : Declaration) :
    sidelessWords d.cssProperty = sidelessWords d.property.name := by
  have hx : sidelessWords "x" = [] := by decide +kernel
  have hy : sidelessWords "y" = [] := by decide +kernel
  unfold cssProperty
  split
  · rfl
  · next hp hs => rw [hp]; exact sidelessWords_border hs "radius"
  · next hp hs => rw [hp]; exact sidelessWords_border hs "color"
  · next hp hs => rw [hp]; exact sidelessWords_border hs "width"
  · rw [show "-x" = "-" ++ "x" from rfl, ← String.append_assoc, sidelessWords_append, hx,
      List.append_nil]
  · rw [show "-y" = "-" ++ "y" from rfl, ← String.append_assoc, sidelessWords_append, hy,
      List.append_nil]
  · next hs _ _ => rw [sidelessWords_append, sidelessWords_cssName hs, List.append_nil]

/-- **Properties have names of their own in CSS**, with all their sides. -/
theorem cssProperty_injective {d e : Declaration} (h : d.cssProperty = e.cssProperty) :
    d.property = e.property := by
  have hwords : sidelessWords d.property.name = sidelessWords e.property.name := by
    rw [← d.sidelessWords_cssProperty, h, e.sidelessWords_cssProperty]
  rw [sidelessWords_name, sidelessWords_name] at hwords
  exact Property.name_injective (String.toList_injective (splitAll_injective hwords))

end Declaration

/-! ## Names of parts -/

/-- The parts that declarations of a property bind when they cover all sides. -/
def Property.parts (p : Property) : List String :=
  (Declaration.boundParts? { property := p, value := .keyword "", raw := "" }).getD []

/-- Properties of different groups stand for different parts. -/
theorem Property.parts_disjoint {p q : Property} (h : p.group ≠ q.group) {part : String}
    (hp : part ∈ p.parts) : part ∉ q.parts := by
  -- The statement is symmetric, so that half of the pairs are enough.
  have hall : all.Pairwise fun p q => p.group ≠ q.group → ∀ part ∈ p.parts, part ∉ q.parts := by
    decide +kernel
  refine List.Pairwise.forall_of_forall_of_flip ?_ hall ?_ p.mem_all q.mem_all h part hp
  · intro p _ hne
    exact absurd rfl hne
  · refine hall.imp fun hpq hne part hq hp => ?_
    exact hpq hne.symm part hp hq

theorem mem_of_mem_selected {flags : List Bool} {names : List String} {name : String}
    (h : name ∈ selected flags names) : name ∈ names := by
  obtain ⟨⟨on, name'⟩, hz, hs⟩ := List.mem_filterMap.1 h
  have hm := (List.of_mem_zip hz).2
  cases on <;> cases hs
  exact hm

namespace Side
variable {side : Side} {part : String}

theorem mem_edgeParts_all {front back : String} (h : part ∈ side.edgeParts front back) :
    part ∈ all.edgeParts front back := by
  obtain ⟨edge, he, rfl⟩ := List.mem_map.1 h
  exact List.mem_map_of_mem (mem_of_mem_selected he)

theorem mem_cornerParts_all {back : String} (h : part ∈ side.cornerParts back) :
    part ∈ all.cornerParts back := by
  obtain ⟨corner, hc, rfl⟩ := List.mem_map.1 h
  exact List.mem_map_of_mem (mem_of_mem_selected hc)

theorem mem_axisParts_all {x y : String} (h : part ∈ side.axisParts x y) :
    part ∈ all.axisParts x y := mem_of_mem_selected h

end Side

namespace Declaration

/-- A declaration binds parts that its property stands for. -/
theorem boundParts_subset {d : Declaration} {parts : List String} (h : d.boundParts? = some parts)
    {part : String} (hp : part ∈ parts) : part ∈ d.property.parts := by
  obtain ⟨property, value, origin, side, opacity, negative, important, raw⟩ := d
  cases property
  case padding | margin | inset | borderWidth => cases h; exact Side.mem_edgeParts_all hp
  case borderRadius => cases h; exact Side.mem_cornerParts_all hp
  case gap | spaceBetween | scale | translate => cases h; exact Side.mem_axisParts_all hp
  case borderColor =>
    change (if _ then _ else _) = _ at h
    split at h
    · cases h; exact hp
    · cases h
  all_goals cases h
  all_goals exact hp

/-- **Declarations of different groups bind different parts.** -/
theorem boundParts_disjoint {d e : Declaration} (h : d.property.group ≠ e.property.group)
    {parts parts' : List String} (hd : d.boundParts? = some parts)
    (he : e.boundParts? = some parts') {part : String} (hp : part ∈ parts) : part ∉ parts' :=
  fun hp' => Property.parts_disjoint h (boundParts_subset hd hp) (boundParts_subset he hp')

end Declaration

end UtilityStyle
