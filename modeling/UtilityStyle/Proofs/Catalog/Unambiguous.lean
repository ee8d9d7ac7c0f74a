/-
  The built-in catalog is unambiguous.

  Several families may share a stem, and a stem may continue another one, as `ring-offset` continues
  `ring`.  What a rule takes without brackets is told by its stems and by the first word after them.

  * `overlap` compares two stems, and `allows_overlap` says what two readings of one text have in
    common;
  * `Lexicon` holds the stems and the vocabulary of a rule, and two that are apart do not read the
    same text, even if one of them takes a suffix off it (`Lexicon.not_has_of_isApart`);
  * `Catalog.pairwise_isApart`: the rules of the built-in catalog are apart;
  * `Catalog.read?_unambiguous`: so at most one of them takes a utility without brackets, and their
    order does not matter.
-/
import Mathlib.Data.List.Pairwise
import UtilityStyle.Proofs.Catalog
import UtilityStyle.Proofs.Utility.Fragment
import UtilityStyle.Proofs.Utility.Token
import UtilityStyle.Proofs.Utility.Vocabulary

namespace UtilityStyle

open Text UtilityToken

/-! ## Stems -/

/-- How one of two stems continues the other. -/
inductive Overlap where
  | same
  /-- The second stem is the first one with a dash and a rest. -/
  | longer (rest : List Char)
  /-- The first stem is the second one with a dash and a rest. -/
  | shorter (rest : List Char)
  | apart

/-- How one of two stems continues the other.  Characters are compared by their code points, with
    which the kernel is quick. -/
def overlap : List Char → List Char → Overlap
  | [], [] => .same
  | [], c :: t => if c = '-' then .longer t else .apart
  | c :: s, [] => if c = '-' then .shorter s else .apart
  | a :: s, b :: t => if a.toNat = b.toNat then overlap s t else .apart

/-- What the values have in common that two stems leave of one text. -/
def Overlap.Allows (v w : List Char) : Overlap → Prop
  | same => firstWord v = firstWord w
  | longer rest => firstWord v = firstWord rest
  | shorter rest => firstWord w = firstWord rest
  | apart => False

/-- The overlap of two stems in the other order. -/
def Overlap.swap : Overlap → Overlap
  | same => same
  | longer rest => shorter rest
  | shorter rest => longer rest
  | apart => apart

theorem overlap_swap (s t : List Char) : overlap t s = (overlap s t).swap := by
  fun_induction overlap s t with
  | case1 => rfl
  | case2 | case4 => rfl
  | case3 c r hc | case5 c r hc => exact if_neg hc
  | case6 a s b t hab ih =>
    rw [overlap, if_pos hab.symm]
    exact ih
  | case7 a s b t hab => exact if_neg fun h => hab h.symm

theorem Overlap.allows_swap {o : Overlap} {v w : List Char} (h : o.swap.Allows w v) :
    o.Allows v w := by
  cases o with
  | same => exact Eq.symm h
  | longer | shorter | apart => exact h

section
variable {value text : List Char}

theorem UtilityToken.joined_nil_iff :
    Joined [] value text ↔ value = [] ∧ text = [] ∨ text = '-' :: value := by
  constructor
  · rintro (_ | _)
    · exact .inl ⟨rfl, rfl⟩
    · exact .inr rfl
  · rintro (⟨rfl, rfl⟩ | rfl)
    · exact .alone
    · exact .dashed value

theorem UtilityToken.joined_cons_iff {c : Char} {stem : List Char} :
    Joined (c :: stem) value text ↔ ∃ rest, text = c :: rest ∧ Joined stem value rest := by
  constructor
  · rintro (_ | _)
    · exact ⟨stem, rfl, .alone⟩
    · exact ⟨stem ++ '-' :: value, rfl, .dashed value⟩
  · rintro ⟨rest, rfl, _ | _⟩
    · exact .alone
    · exact .dashed value

/-- A text begins like its stem. -/
theorem UtilityToken.Joined.firstWord_eq {stem : List Char} (h : Joined stem value text) :
    firstWord text = firstWord stem := by
  cases h with
  | alone => rfl
  | dashed => exact firstWord_append (isBreak_dash value) stem

end

/-! ## Two readings of one text -/

/-- A suffix that is taken off, with its slash, or nothing. -/
def IsSlashed (tail : List Char) : Prop := tail = [] ∨ ∃ suffix, tail = '/' :: suffix

theorem IsSlashed.isBreak {tail : List Char} (h : IsSlashed tail) : IsBreak tail := by
  rcases h with rfl | ⟨suffix, rfl⟩
  · exact isBreak_nil
  · exact isBreak_slash suffix

theorem IsSlashed.ne_dash {tail r : List Char} (h : IsSlashed tail) : tail ≠ '-' :: r := by
  rcases h with rfl | ⟨suffix, rfl⟩
  · nofun
  · simp

/-- **Two stems of one text** overlap, and the values that they leave begin alike, or with what the
    longer stem has after the shorter one. -/
theorem allows_overlap {s t v w text tail : List Char} (hs : Joined s v text)
    (ht : Joined t w (text ++ tail)) (htail : IsSlashed tail) (hslash : '/' ∉ t) :
    (overlap s t).Allows v w := by
  fun_induction overlap s t generalizing text with
  | case1 =>
    rcases joined_nil_iff.1 hs with ⟨rfl, rfl⟩ | rfl <;>
      rcases joined_nil_iff.1 ht with ⟨rfl, heq⟩ | heq
    · rfl
    · exact absurd heq htail.ne_dash
    · cases heq
    · obtain ⟨-, rfl⟩ := List.cons.inj heq
      exact (firstWord_append htail.isBreak v).symm
  | case2 r =>
    obtain ⟨rest, heq, hrest⟩ := joined_cons_iff.1 ht
    rcases joined_nil_iff.1 hs with ⟨rfl, rfl⟩ | rfl
    · exact absurd heq htail.ne_dash
    · obtain ⟨-, rfl⟩ := List.cons.inj heq
      calc firstWord v = firstWord (v ++ tail) := (firstWord_append htail.isBreak v).symm
        _ = firstWord r := hrest.firstWord_eq
  | case3 c r hc =>
    obtain ⟨rest, heq, -⟩ := joined_cons_iff.1 ht
    rcases joined_nil_iff.1 hs with ⟨rfl, rfl⟩ | rfl
    · rcases htail with rfl | ⟨suffix, rfl⟩
      · cases heq
      · obtain ⟨rfl, -⟩ := List.cons.inj heq
        exact hslash List.mem_cons_self
    · exact hc (List.cons.inj heq).1.symm
  | case4 r =>
    obtain ⟨rest, rfl, hrest⟩ := joined_cons_iff.1 hs
    rcases joined_nil_iff.1 ht with ⟨-, heq⟩ | heq
    · cases heq
    · obtain ⟨-, rfl⟩ := List.cons.inj heq
      calc firstWord (rest ++ tail) = firstWord rest := firstWord_append htail.isBreak rest
        _ = firstWord r := hrest.firstWord_eq
  | case5 c r hc =>
    obtain ⟨rest, rfl, -⟩ := joined_cons_iff.1 hs
    rcases joined_nil_iff.1 ht with ⟨-, heq⟩ | heq
    · cases heq
    · exact hc (List.cons.inj heq).1
  | case6 a s b t hab ih =>
    obtain ⟨rest, rfl, hrest⟩ := joined_cons_iff.1 hs
    obtain ⟨rest', heq, hrest'⟩ := joined_cons_iff.1 ht
    obtain ⟨-, rfl⟩ := List.cons.inj heq
    exact ih hrest hrest' fun hmem => hslash (List.mem_cons_of_mem _ hmem)
  | case7 a s b t hab =>
    obtain ⟨rest, rfl, -⟩ := joined_cons_iff.1 hs
    obtain ⟨rest', heq, -⟩ := joined_cons_iff.1 ht
    exact hab (congrArg Char.toNat (List.cons.inj heq).1)

/-- The texts are the same, up to a suffix that is taken off one of them. -/
def IsSameUnslashed (text text' : List Char) : Prop :=
  ∃ tail, IsSlashed tail ∧ (text' = text ++ tail ∨ text = text' ++ tail)

theorem UtilityToken.Suffixed.exists_tail {slashed : Bool} {body text : List Char}
    {suffix : Option (List Char)} (h : Suffixed slashed body suffix text) :
    ∃ tail, IsSlashed tail ∧ text = body ++ tail := by
  cases h with
  | @cut suffix => exact ⟨'/' :: suffix, .inr ⟨suffix, rfl⟩, rfl⟩
  | whole => exact ⟨[], .inl rfl, (List.append_nil body).symm⟩

/-- Rules that take a suffix off a utility, and rules that do not, read the same text. -/
theorem isSameUnslashed_unslashed (slashed slashed' : Bool) (raw : String) :
    IsSameUnslashed (unslashed slashed raw).1 (unslashed slashed' raw).1 := by
  obtain ⟨tail, htail, hraw⟩ := (suffixed_unslashed true raw).exists_tail
  have hsame : ∀ text, IsSameUnslashed text text :=
    fun text => ⟨[], .inl rfl, .inl (List.append_nil text).symm⟩
  cases slashed <;> cases slashed'
  · exact hsame _
  · exact ⟨tail, htail, .inr hraw⟩
  · exact ⟨tail, htail, .inl hraw⟩
  · exact hsame _

/-! ## Rules -/

/-- The stems of a rule, and the first words that may follow them. -/
structure Lexicon where
  stems : List (List Char)
  vocabulary : Vocabulary

namespace Lexicon

variable {k l : Lexicon}

/-- The text is a stem with a value that begins within the vocabulary. -/
def Has (l : Lexicon) (text : List Char) : Prop :=
  ∃ stem ∈ l.stems, ∃ value, Joined stem value text ∧ l.vocabulary.covers (firstWord value) = true

/-- Whether no two stems leave values that both rules have. -/
def isApart (k l : Lexicon) : Bool :=
  k.stems.all fun s => l.stems.all fun t =>
    match overlap s t with
    | .same => k.vocabulary.disjoint l.vocabulary
    | .longer rest => !k.vocabulary.covers (firstWord rest)
    | .shorter rest => !l.vocabulary.covers (firstWord rest)
    | .apart => true

theorem allows_of_has (hk : ∀ stem ∈ k.stems, '/' ∉ stem) (hl : ∀ stem ∈ l.stems, '/' ∉ stem)
    {text text' : List Char} (hsame : IsSameUnslashed text text') (h : k.Has text)
    (h' : l.Has text') :
    ∃ s ∈ k.stems, ∃ t ∈ l.stems, ∃ v w, (overlap s t).Allows v w ∧
      k.vocabulary.covers (firstWord v) = true ∧ l.vocabulary.covers (firstWord w) = true := by
  obtain ⟨s, hs, v, hv, hcovers⟩ := h
  obtain ⟨t, ht, w, hw, hcovers'⟩ := h'
  obtain ⟨tail, htail, rfl | rfl⟩ := hsame
  · exact ⟨s, hs, t, ht, v, w, allows_overlap hv hw htail (hl t ht), hcovers, hcovers'⟩
  · have hallows := allows_overlap hw hv htail (hk s hs)
    rw [overlap_swap] at hallows
    exact ⟨s, hs, t, ht, v, w, Overlap.allows_swap hallows, hcovers, hcovers'⟩

/-- **Rules that are apart** do not have one text, even if one of them takes a suffix off it. -/
theorem not_has_of_isApart (h : k.isApart l = true) (hk : ∀ stem ∈ k.stems, '/' ∉ stem)
    (hl : ∀ stem ∈ l.stems, '/' ∉ stem) {text text' : List Char}
    (hsame : IsSameUnslashed text text') (htext : k.Has text) : ¬l.Has text' := by
  intro htext'
  obtain ⟨s, hs, t, ht, v, w, hallows, hcovers, hcovers'⟩ := allows_of_has hk hl hsame htext htext'
  have hst := List.all_eq_true.1 (List.all_eq_true.1 h s hs) t ht
  cases hoverlap : overlap s t <;> simp only [hoverlap, Overlap.Allows] at hallows hst
  case same =>
    rw [hallows] at hcovers
    rw [Vocabulary.not_covers_of_disjoint hst hcovers] at hcovers'
    cases hcovers'
  case longer rest =>
    rw [← hallows, hcovers] at hst
    cases hst
  case shorter rest =>
    rw [← hallows, hcovers'] at hst
    cases hst

end Lexicon

/-! ## The rules of the catalog -/

/-- The lexicon of a family. -/
def Family.lexicon (family : Family) : Lexicon :=
  ⟨family.stems.map (·.1.toList), family.vocabulary⟩

/-- **A family has** what it takes without brackets and without a theme. -/
theorem Family.has_of_resolve? {family : Family} (hown : ∀ key, family.ownScale key = none)
    {raw : String} (hkey : IsKey raw.toList) (h : (family.resolve? .empty raw).isSome) :
    family.lexicon.Has (unslashed (family.suffix != .absent) raw).1 := by
  obtain ⟨d, hd⟩ := Option.isSome_iff_exists.1 h
  obtain ⟨token, htoken, hdeclare⟩ := Option.bind_eq_some_iff.1 hd
  obtain ⟨stem, value, fragment, hstem, hfragment, rfl⟩ := read?_eq_some_iff.1 htoken
  obtain ⟨hmem, hjoined⟩ := joined_of_chooseStem? hstem
  obtain ⟨-, _, _, _, _, -, hvalue, -⟩ := declare?_eq_some_iff.1 hdeclare
  have hvaluekey : IsKey value := fun c hc hmem =>
    hkey c hc (unslashed_subset _ raw (hjoined.subset hmem))
  obtain rfl := Fragment.eq_preset_of_isKey hfragment hvaluekey
  obtain ⟨_, hpreset, -⟩ := Option.map_eq_some_iff.1 hvalue
  rw [presetValue?_empty] at hpreset
  have hcovers := covers_of_builtInValue? hown (Option.isSome_of_mem hpreset)
  rw [String.toList_ofList] at hcovers
  obtain ⟨entry, hentry, rfl⟩ := List.mem_map.1 hmem
  exact ⟨entry.1.toList, List.mem_map.2 ⟨entry, hentry, rfl⟩, value, hjoined, hcovers⟩

namespace Catalog

variable {raw : String}

/-- The lexicon of the fixed classes, which have no values. -/
def fixedLexicon : Lexicon := ⟨fixedClasses.map (·.1.toList), ⟨[[]], false⟩⟩

/-- A fixed class has no sign. -/
theorem has_of_fixedClass? (h : (fixedClass? raw).isSome) :
    fixedLexicon.Has (unslashed false raw).1 := by
  have hsigns : ∀ entry ∈ fixedClasses, entry.1.toList.head? ≠ some '-' := by decide +kernel
  obtain ⟨d, hd⟩ := Option.isSome_iff_exists.1 h
  obtain ⟨_, hlookup, -⟩ := Option.map_eq_some_iff.1 hd
  have hmem := mem_of_lookup hlookup
  have hhead := hsigns _ hmem
  rw [String.toList_ofList] at hhead
  have hraw : (unslashed false raw).1 = (takeImportance raw.toList).1 :=
    congrArg Prod.fst (takeMinus_eq_iff.2 (.plain hhead))
  rw [hraw]
  refine ⟨_, List.mem_map.2 ⟨_, hmem, rfl⟩, [], ?_, rfl⟩
  rw [String.toList_ofList]
  exact .alone

/-- **The rules of the catalog are apart.** -/
theorem pairwise_isApart :
    (fixedLexicon :: families.map Family.lexicon).Pairwise fun k l => k.isApart l = true := by
  decide +kernel

theorem slash_not_mem_of_mem :
    ∀ l ∈ fixedLexicon :: families.map Family.lexicon, ∀ stem ∈ l.stems, '/' ∉ stem := by
  decide +kernel

/-! ## Answers -/

/-- What the rules of the built-in catalog make of a utility without a theme, each one by itself. -/
def answers (raw : String) : List (Option Declaration) :=
  fixedClass? raw :: families.map (·.resolve? .empty raw)

/-- Two rules do not both take a utility without brackets. -/
theorem pairwise_answers (hkey : IsKey raw.toList) :
    (answers raw).Pairwise fun a b => ¬(a.isSome ∧ b.isSome) := by
  have hslash := slash_not_mem_of_mem
  have hapart := pairwise_isApart
  rw [List.forall_mem_cons, List.forall_mem_map] at hslash
  rw [List.pairwise_cons, List.forall_mem_map, List.pairwise_map] at hapart
  obtain ⟨hfixedslash, hslash⟩ := hslash
  obtain ⟨hfixed, hfamilies⟩ := hapart
  rw [answers, List.pairwise_cons, List.forall_mem_map, List.pairwise_map]
  constructor
  · rintro family hmem ⟨hleft, hright⟩
    exact Lexicon.not_has_of_isApart (hfixed family hmem) hfixedslash (hslash family hmem)
      (isSameUnslashed_unslashed _ _ raw) (has_of_fixedClass? hleft)
      (Family.has_of_resolve? (ownScale_eq_none hmem) hkey hright)
  · refine hfamilies.imp_of_mem ?_
    rintro family family' hmem hmem' happart ⟨hleft, hright⟩
    exact Lexicon.not_has_of_isApart happart (hslash family hmem) (hslash family' hmem')
      (isSameUnslashed_unslashed _ _ raw)
      (Family.has_of_resolve? (ownScale_eq_none hmem) hkey hleft)
      (Family.has_of_resolve? (ownScale_eq_none hmem') hkey hright)

theorem eq_of_mem_answers (hkey : IsKey raw.toList) {d d' : Declaration}
    (h : some d ∈ answers raw) (h' : some d' ∈ answers raw) : d = d' := by
  by_contra hne
  have : Std.Symm fun a b : Option Declaration => ¬(a.isSome ∧ b.isSome) :=
    ⟨fun a b hab hba => hab hba.symm⟩
  have hnot := (pairwise_answers hkey).forall h h' fun heq => hne (Option.some.inj heq)
  exact hnot ⟨rfl, rfl⟩

/-- What a catalog of the same families reads is an answer of one of them. -/
theorem mem_answers_of_read? {catalog : Catalog}
    (hperm : (catalog.own ++ catalog.others).Perm families) {d : Declaration}
    (h : catalog.read? .empty raw = some d) : some d ∈ answers raw := by
  rcases cases_of_read? h with hfixed | ⟨family, hmem, hresolve⟩
  · rw [← hfixed]
    exact List.mem_cons_self
  · rw [← hresolve]
    exact List.mem_cons_of_mem _ (List.mem_map_of_mem (hperm.mem_iff.1 hmem))

theorem countP_isSome_le_one {α : Type} {l : List (Option α)}
    (h : l.Pairwise fun a b => ¬(a.isSome ∧ b.isSome)) : l.countP (·.isSome) ≤ 1 := by
  induction l with
  | nil => exact Nat.zero_le 1
  | cons a l ih =>
    obtain ⟨ha, hl⟩ := List.pairwise_cons.1 h
    rw [List.countP_cons]
    by_cases hsome : a.isSome
    · have hnone : l.countP (·.isSome) = 0 :=
        List.countP_eq_zero.2 fun b hb hbsome => ha b hb ⟨hsome, hbsome⟩
      have hone : (if a.isSome then 1 else 0) = 1 := if_pos hsome
      omega
    · rw [if_neg hsome]
      exact ih hl

/-- **The catalog is unambiguous.**  Without a theme at most one of its rules takes a utility
    without brackets.  So every catalog of the same families reads it alike, in whatever order they
    stand, before the fixed classes or after them. -/
theorem read?_unambiguous (hkey : IsKey raw.toList) :
    (answers raw).countP (·.isSome) ≤ 1 ∧
      ∀ catalog : Catalog, (catalog.own ++ catalog.others).Perm families →
        catalog.read? .empty raw = builtIn.read? .empty raw := by
  refine ⟨countP_isSome_le_one (pairwise_answers hkey), fun catalog hperm => ?_⟩
  have hknown : (catalog.read? .empty raw).isSome = (builtIn.read? .empty raw).isSome := by
    rw [Bool.eq_iff_iff, isSome_read?_iff, isSome_read?_iff]
    exact or_congr Iff.rfl (exists_congr fun family => and_congr hperm.mem_iff Iff.rfl)
  cases hread : catalog.read? .empty raw with
  | none =>
    rw [hread] at hknown
    exact (Option.not_isSome_iff_eq_none.1 (hknown ▸ Bool.false_ne_true)).symm
  | some d =>
    rw [hread] at hknown
    obtain ⟨d', hread'⟩ := Option.isSome_iff_exists.1 hknown.symm
    rw [hread']
    exact congrArg some (eq_of_mem_answers hkey (mem_answers_of_read? hperm hread)
      (mem_answers_of_read? (List.Perm.refl _) hread'))

/-- One of the four families whose stem is `ring`, or continues it, takes a whole number after
    the longer stem, also when all families stand the other way round. -/
theorem read?_unambiguous_ring_offset :
    let backwards : Catalog := ⟨families.reverse, []⟩
    (answers "ring-offset-2!").countP (·.isSome) = 1 ∧
      backwards.read? .empty "ring-offset-2!" = builtIn.read? .empty "ring-offset-2!" := by
  intro backwards
  have hkey : IsKey "ring-offset-2!".toList := any_isBracket_eq_false_iff.1 (by decide +kernel)
  obtain ⟨hatMost, horder⟩ := read?_unambiguous hkey
  have hpos : 0 < (answers "ring-offset-2!").countP (·.isSome) := by decide +kernel
  refine ⟨by omega, horder backwards ?_⟩
  rw [List.append_nil]
  exact List.reverse_perm families

end Catalog

end UtilityStyle
