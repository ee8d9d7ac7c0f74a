/-
  Utilities whose value is a group of brackets.

  What stands before and after the group says everything about the marks, the stem and the suffix of
  such a utility: no cut falls into the group, and no stem reaches into it.

  * `Frame`: what a utility says apart from its value;
  * `exists_takeImportance`, `exists_takeMinus`, `exists_takeSlash`, `exists_chooseStem?`: each step
    of the reader takes the same off for all groups;
  * `exists_frame`: so the utilities that differ in their group alone share a frame, and only the
    group remains to be read.
-/
import UtilityStyle.Proofs.Text.Group
import UtilityStyle.Proofs.Utility.Fragment
import UtilityStyle.Proofs.Utility.Token

namespace UtilityStyle

open Text

/-! ## Groups in a text -/

/-- A nested text in brackets of either kind. -/
def IsOneGroup (s : List Char) : Prop := ∃ kind inner, IsGroup kind inner s

namespace IsOneGroup

variable {group : List Char}

/-- A group begins with a bracket. -/
theorem exists_cons (h : IsOneGroup group) : ∃ c r, group = c :: r ∧ isBracket c = true := by
  obtain ⟨kind, inner, rfl, -⟩ := h
  exact ⟨kind.opening, _, rfl, isBracket_opening kind⟩

/-- A group ends with a bracket. -/
theorem exists_concat (h : IsOneGroup group) :
    ∃ r c, group = r ++ [c] ∧ isBracket c = true := by
  obtain ⟨kind, inner, rfl, -⟩ := h
  exact ⟨kind.opening :: inner, kind.closing, rfl, isBracket_closing kind⟩

theorem ne_nil (h : IsOneGroup group) : group ≠ [] := by
  obtain ⟨c, r, rfl, -⟩ := h.exists_cons
  exact List.cons_ne_nil c r

theorem endsAt {sep : Char} (hsep : isBracket sep = false) (h : IsOneGroup group) :
    EndsAt sep 0 group := by
  obtain ⟨kind, inner, hgroup⟩ := h
  exact endsAt_group hsep hgroup

/-- A group closes at its end, and nothing may follow. -/
theorem closesAtEnd_append (h : IsOneGroup group) (back : List Char) :
    closesAtEnd (group ++ back) = back.isEmpty := by
  obtain ⟨kind, inner, rfl, hinner⟩ := h
  have hclosing : closing? (kind.opening :: (inner ++ [kind.closing]) ++ back) =
      some (inner.length + 1) :=
    (closing?_eq_some_iff kind).2 ⟨inner, back, by simp, hinner, rfl⟩
  rw [closesAtEnd, hclosing]
  cases back with
  | nil => simp
  | cons c back => simp

end IsOneGroup

namespace UtilityToken

variable {front back : List Char}

/-! ## Markers -/

/-- A mark that is no bracket stands at the front of a text with a group if it stands at the front
    of what precedes the group. -/
theorem head?_ne_of_group {mark : Char} (hmark : isBracket mark = false)
    (hfront : front.head? ≠ some mark) (back : List Char) {group : List Char}
    (hgroup : IsOneGroup group) : (front ++ group ++ back).head? ≠ some mark := by
  cases front with
  | nil =>
    obtain ⟨c, r, rfl, hc⟩ := hgroup.exists_cons
    exact fun h => ne_of_isBracket hc hmark (Option.some.inj h)
  | cons c front => exact hfront

/-- The mark of importance stands before or after the group. -/
theorem exists_takeImportance (front back : List Char) :
    ∃ front' back' important, front' ⊆ front ∧ ∀ group, IsOneGroup group →
      takeImportance (front ++ group ++ back) = (front' ++ group ++ back', important) := by
  by_cases hfront : front.head? = some '!'
  · obtain ⟨front, rfl⟩ := List.head?_eq_some_iff.1 hfront
    exact ⟨front, back, true, List.subset_cons_self _ _, fun _ _ => rfl⟩
  · by_cases hback : back.getLast? = some '!'
    · obtain ⟨back, rfl⟩ := List.getLast?_eq_some_iff.1 hback
      refine ⟨front, back, true, List.Subset.refl _, fun group hgroup => ?_⟩
      have hhead := head?_ne_of_group rfl hfront (back ++ ['!']) hgroup
      rw [← List.append_assoc] at hhead ⊢
      exact takeImportance_eq_iff.2 (.back hhead)
    · refine ⟨front, back, false, List.Subset.refl _, fun group hgroup => ?_⟩
      refine takeImportance_eq_iff.2 (.plain (head?_ne_of_group rfl hfront back hgroup) ?_)
      cases back with
      | nil =>
        obtain ⟨r, c, rfl, hc⟩ := hgroup.exists_concat
        rw [List.append_nil, ← List.append_assoc, List.getLast?_concat]
        rintro ⟨⟩
        cases hc
      | cons c back =>
        rw [List.getLast?_append_of_ne_nil _ (List.cons_ne_nil _ _)]
        exact hback

/-- The sign stands before the group. -/
theorem exists_takeMinus (front back : List Char) :
    ∃ front' negative, front' ⊆ front ∧ ∀ group, IsOneGroup group →
      takeMinus (front ++ group ++ back) = (front' ++ group ++ back, negative) := by
  by_cases hfront : front.head? = some '-'
  · obtain ⟨front, rfl⟩ := List.head?_eq_some_iff.1 hfront
    exact ⟨front, true, List.subset_cons_self _ _, fun _ _ => rfl⟩
  · refine ⟨front, false, List.Subset.refl _, fun group hgroup => ?_⟩
    exact takeMinus_eq_iff.2 (.plain (head?_ne_of_group rfl hfront back hgroup))

/-- The suffix stands after the group. -/
theorem exists_takeSlash (hfront : EndsAt '/' 0 front) (back : List Char) :
    ∃ back' slash, ∀ group, IsOneGroup group →
      takeSlash (front ++ group ++ back) = (front ++ group ++ back', slash) := by
  have hcut (group : List Char) (hgroup : IsOneGroup group) :=
    cutLastTop?_append (hfront.append (hgroup.endsAt rfl)) back
  cases hback : cutLastTop? '/' 0 back with
  | none =>
    refine ⟨back, none, fun group hgroup => ?_⟩
    rw [takeSlash, hcut group hgroup, hback]
    rfl
  | some cut =>
    obtain ⟨before, suffix⟩ := cut
    cases hsuffix : isSlashSuffix suffix with
    | true =>
      refine ⟨before, some suffix, fun group hgroup => ?_⟩
      rw [takeSlash, hcut group hgroup, hback]
      simp [hgroup.ne_nil, hsuffix]
    | false =>
      refine ⟨back, none, fun group hgroup => ?_⟩
      rw [takeSlash, hcut group hgroup, hback]
      simp [hsuffix]

/-! ## Stems -/

/-- The least of some images is the image of the least. -/
theorem leastBy?_map {α β : Type} (measure : β → Nat) (f : α → β) (l : List α) :
    leastBy? measure (l.map f) = (leastBy? (fun a => measure (f a)) l).map f := by
  induction l with
  | nil => rfl
  | cons a l ih =>
    rw [List.map_cons, leastBy?, ih, leastBy?]
    cases leastBy? (fun a => measure (f a)) l with
    | none => rfl
    | some b =>
      show (if measure (f a) ≤ measure (f b) then some (f a) else some (f b)) =
        Option.map f (if measure (f a) ≤ measure (f b) then some a else some b)
      split <;> rfl

/-- A constant added to the measure does not count. -/
theorem leastBy?_add {α : Type} (measure : α → Nat) (n : Nat) (l : List α) :
    leastBy? (fun a => measure a + n) l = leastBy? measure l := by
  induction l with
  | nil => rfl
  | cons a l ih => simp only [leastBy?, ih, Nat.add_le_add_iff_right]

/-- A text without brackets begins a text up to its first bracket, or not at all. -/
theorem isPrefixOf?_append_bracket {p : List Char} (hp : ∀ c ∈ p, isBracket c = false)
    {b : Char} (hb : isBracket b = true) (front r : List Char) :
    p.isPrefixOf? (front ++ b :: r) = (p.isPrefixOf? front).map (· ++ b :: r) := by
  induction p generalizing front with
  | nil => rfl
  | cons c p ih =>
    obtain ⟨hc, hp⟩ := List.forall_mem_cons.1 hp
    cases front with
    | nil =>
      have hne : (c == b) = false := beq_eq_false_iff_ne.2 (ne_of_isBracket hb hc).symm
      simp [List.isPrefixOf?, hne]
    | cons d front =>
      simp only [List.cons_append, List.isPrefixOf?]
      split
      · exact ih hp front
      · rfl

section
variable {stems : List String} (hstems : ∀ stem ∈ stems, ∀ c ∈ stem.toList, isBracket c = false)
include hstems

theorem candidates_append_bracket {b : Char} (hb : isBracket b = true) (front r : List Char) :
    candidates stems (front ++ b :: r) =
      (candidates stems front).map fun (stem, rest) => (stem, rest ++ b :: r) := by
  rw [candidates, candidates, List.map_filterMap]
  refine List.filterMap_congr fun stem hstem => ?_
  have hdashed : ∀ c ∈ stem.toList ++ ['-'], isBracket c = false := by
    intro c hc
    rcases List.mem_append.1 hc with hc | hc
    · exact hstems stem hstem c hc
    · obtain rfl := List.mem_singleton.1 hc
      rfl
  rw [isPrefixOf?_append_bracket hdashed hb, Option.map_map, Option.map_map]
  rfl

/-- A text that holds a bracket is no stem. -/
theorem contains_eq_false_of_group {group : List Char} (hgroup : IsOneGroup group)
    (front back : List Char) :
    stems.contains (String.ofList (front ++ group ++ back)) = false := by
  obtain ⟨b, r, rfl, hb⟩ := hgroup.exists_cons
  refine Bool.eq_false_iff.2 fun hmem => ?_
  exact ne_of_isBracket hb (hstems _ (List.contains_iff_mem.1 hmem) b (by simp)) rfl

end

/-- With text before it, or after it, a group is no value. -/
theorem isWellFormed_append_group {rest : List Char} (hrest : ∀ c ∈ rest, isBracket c = false)
    {group : List Char} (hgroup : IsOneGroup group) (back : List Char) :
    isWellFormed (rest ++ (group ++ back)) = (rest.isEmpty && back.isEmpty) := by
  have hclose := hgroup.closesAtEnd_append back
  obtain ⟨kind, inner, rfl, -⟩ := hgroup
  cases rest with
  | nil =>
    have hopen : ([] ++ (kind.opening :: (inner ++ [kind.closing]) ++ back)).head? = some '[' ∨
        ([] ++ (kind.opening :: (inner ++ [kind.closing]) ++ back)).head? = some '(' := by
      cases kind with
      | square => exact .inl rfl
      | round => exact .inr rfl
    rw [isWellFormed, if_pos hopen]
    exact hclose
  | cons c rest =>
    have hopen : ¬(some c = some '[' ∨ some c = some '(') := by
      have hc := hrest c List.mem_cons_self
      rintro (h | h) <;> cases h <;> cases hc
    have hbracket : ¬(isAsciiAlphanumeric kind.opening ||
        ['.', '_', '%', '/', '-'].contains kind.opening) = true := by
      cases kind <;> decide
    have hall : (c :: (rest ++ (kind.opening :: (inner ++ [kind.closing]) ++ back))).all
        (fun c => isAsciiAlphanumeric c || ['.', '_', '%', '/', '-'].contains c) = false :=
      List.all_eq_false.2 ⟨kind.opening, by simp, hbracket⟩
    rw [isWellFormed, List.cons_append, List.head?_cons, if_neg hopen, hall]
    exact Bool.and_false _

/-- The stem stands before the group, and so does what it leaves of the text there. -/
theorem exists_chooseStem? {stems : List String}
    (hstems : ∀ stem ∈ stems, ∀ c ∈ stem.toList, isBracket c = false)
    (hfront : ∀ c ∈ front, isBracket c = false) (back : List Char) :
    ∃ choice : Option (String × List Char),
      (∀ stem rest, choice = some (stem, rest) → ∀ c ∈ rest, isBracket c = false) ∧
        ∀ group, IsOneGroup group → chooseStem? stems (front ++ group ++ back) =
          choice.map fun (stem, rest) => (stem, rest ++ (group ++ back)) := by
  have hfound : ∀ found ∈ candidates stems front, ∀ c ∈ found.2, isBracket c = false := by
    rintro ⟨stem, rest⟩ hmem c hc
    obtain ⟨-, rfl⟩ := mem_candidates_iff.1 hmem
    exact hfront c (List.mem_append_right _ (List.mem_cons_of_mem _ hc))
  refine ⟨(leastBy? (·.2.length) ((candidates stems front).filter fun found =>
    found.2.isEmpty && back.isEmpty)).or (leastBy? (·.1.length) (candidates stems front)),
    fun stem rest hchoice => ?_, fun group hgroup => ?_⟩
  · refine hfound (stem, rest) ?_
    rcases Option.or_eq_some_iff.1 hchoice with h | ⟨-, h⟩
    · exact List.mem_of_mem_filter (mem_of_leastBy? h)
    · exact mem_of_leastBy? h
  · have hcandidates : candidates stems (front ++ group ++ back) =
        (candidates stems front).map fun (stem, rest) => (stem, rest ++ (group ++ back)) := by
      obtain ⟨b, r, rfl, hb⟩ := hgroup.exists_cons
      rw [List.append_assoc]
      exact candidates_append_bracket hstems hb front (r ++ back)
    have hformed : ((candidates stems front).filter fun found =>
          isWellFormed (found.2 ++ (group ++ back))) =
        (candidates stems front).filter fun found => found.2.isEmpty && back.isEmpty :=
      List.filter_congr fun found hmem => isWellFormed_append_group (hfound found hmem) hgroup back
    rw [chooseStem?, contains_eq_false_of_group hstems hgroup, if_neg Bool.false_ne_true,
      hcandidates]
    dsimp only
    rw [List.filter_map, leastBy?_map, leastBy?_map, Option.map_or]
    simp only [Function.comp_def, List.length_append, hformed]
    rw [leastBy?_add]

/-! ## Reading -/

/-- With text before it, or after it, a group is no fragment. -/
theorem fragment_append_group {rest : List Char} (hrest : ∀ c ∈ rest, isBracket c = false)
    {group : List Char} (hgroup : IsOneGroup group) (back : List Char) :
    Fragment.read? (rest ++ (group ++ back)) =
      if rest = [] ∧ back = [] then Fragment.read? group else none := by
  have hclose := hgroup.closesAtEnd_append back
  obtain ⟨kind, inner, rfl, -⟩ := hgroup
  cases rest with
  | nil =>
    by_cases hback : back = []
    · simp [hback]
    · have henclosed : enclosed? (kind.opening :: (inner ++ [kind.closing]) ++ back) = none := by
        rw [enclosed?, hclose]
        simp [hback]
      rw [if_neg fun h => hback h.2, List.nil_append]
      cases kind with
      | square =>
        show Fragment.readArbitrary? _ = none
        rw [Fragment.readArbitrary?, henclosed]
        rfl
      | round =>
        show Fragment.readCustomProperty? _ = none
        rw [Fragment.readCustomProperty?, henclosed]
        rfl
  | cons c rest =>
    have hc := hrest c List.mem_cons_self
    rw [if_neg (by simp), List.cons_append, Fragment.read?]
    split
    · next h => cases h; cases hc
    · next h => cases h; cases hc
    · exact if_pos (by simp)

/-- What a utility says apart from its value. -/
structure Frame where
  stem : String
  negative : Bool
  important : Bool
  slash : Option String

/-- The token of a utility with a group as its value. -/
def Frame.token (frame : Frame) (raw : String) (group : List Char) (fragment : Fragment) :
    UtilityToken where
  raw := raw
  stem := frame.stem
  value := String.ofList group
  negative := frame.negative
  important := frame.important
  slash := frame.slash
  fragment := fragment

/-- **Utilities that differ in a group alone share a frame.**  The text before the group has no
    brackets and slashes; the text after it may be any. -/
theorem exists_frame {stems : List String}
    (hstems : ∀ stem ∈ stems, ∀ c ∈ stem.toList, isBracket c = false) (slashed : Bool)
    (hfront : ∀ c ∈ front, isBracket c = false ∧ c ≠ '/') (back : List Char) :
    ∃ frame : Option Frame, ∀ raw group, IsOneGroup group → raw.toList = front ++ group ++ back →
      read? stems slashed raw =
        frame.bind fun frame => (Fragment.read? group).map (frame.token raw group) := by
  obtain ⟨front₁, back₁, important, hsub₁, himportance⟩ := exists_takeImportance front back
  obtain ⟨front₂, negative, hsub₂, hminus⟩ := exists_takeMinus front₁ back₁
  have hplain : ∀ c ∈ front₂, isBracket c = false ∧ c ≠ '/' := fun c hc =>
    hfront c (hsub₁ (hsub₂ hc))
  obtain ⟨back₃, slash, hslash⟩ : ∃ back₃ slash, ∀ group, IsOneGroup group →
      (if slashed = true then takeSlash (front₂ ++ group ++ back₁)
        else (front₂ ++ group ++ back₁, none)) = (front₂ ++ group ++ back₃, slash) := by
    cases slashed with
    | false => exact ⟨back₁, none, fun _ _ => rfl⟩
    | true => exact exists_takeSlash (endsAt_of_plain hplain) back₁
  obtain ⟨choice, hrest, hchoice⟩ :=
    exists_chooseStem? hstems (fun c hc => (hplain c hc).1) back₃
  refine ⟨choice.bind fun (stem, rest) => if rest = [] ∧ back₃ = [] then
    some ⟨stem, negative, important, slash.map String.ofList⟩ else none,
    fun raw group hgroup hraw => ?_⟩
  rw [read?, hraw, himportance group hgroup]
  dsimp only
  rw [hminus group hgroup]
  dsimp only
  rw [hslash group hgroup]
  dsimp only
  rw [hchoice group hgroup]
  cases hchosen : choice with
  | none => rfl
  | some chosen =>
    obtain ⟨stem, rest⟩ := chosen
    simp only [Option.map_some, Option.bind_eq_bind, Option.bind_some,
      fragment_append_group (hrest stem rest hchosen) hgroup back₃]
    by_cases hwhole : rest = [] ∧ back₃ = []
    · obtain ⟨rfl, rfl⟩ := hwhole
      simp only [and_self, if_true, List.nil_append, List.append_nil, Option.bind_some]
      cases Fragment.read? group <;> rfl
    · simp only [if_neg hwhole, Option.bind_none]

end UtilityToken

end UtilityStyle
