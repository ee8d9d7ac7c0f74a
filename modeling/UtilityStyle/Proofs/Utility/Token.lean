/-
  Tokens spell the utility that they were read from.

  * `Marked`, `Signed`, `Suffixed` and `Joined` are the grammar of a utility: its mark of
    importance, its sign, the suffix behind a slash, and the stem with its value;
  * `takeImportance_eq_iff`, `takeMinus_eq_iff`, `suffixed_unslashed` and `joined_of_chooseStem?`:
    each step of the reader takes off what the grammar puts on;
  * `read?_eq_some_iff`: a token is what these steps leave;
  * `read?_isReading`: so a token loses nothing of its utility, and its suffix is cut off at the
    last slash outside all brackets.
-/
import UtilityStyle.Proofs.Text.Depth
import UtilityStyle.Proofs.Text.Nesting
import UtilityStyle.Utility.Token

namespace UtilityStyle.UtilityToken

open Text

/-! ## The grammar -/

/-- A text is a body with a mark of importance, in front or else at the end, or without one. -/
inductive Marked : Bool → List Char → List Char → Prop
  | front (body : List Char) : Marked true body ('!' :: body)
  | back {body : List Char} : (body ++ ['!']).head? ≠ some '!' → Marked true body (body ++ ['!'])
  | plain {body : List Char} : body.head? ≠ some '!' → body.getLast? ≠ some '!' →
    Marked false body body

/-- A text is another one with a minus sign in front, or without one. -/
inductive Signed : Bool → List Char → List Char → Prop
  | minus (text : List Char) : Signed true text ('-' :: text)
  | plain {text : List Char} : text.head? ≠ some '-' → Signed false text text

/-- A text is a stem alone, or a stem, a dash and a value, which may be empty. -/
inductive Joined (stem : List Char) : List Char → List Char → Prop
  | alone : Joined stem [] stem
  | dashed (value : List Char) : Joined stem value (stem ++ '-' :: value)

/-- What may follow a slash: digits and inner points, or square brackets around a nested text. -/
inductive IsSuffix : List Char → Prop
  | number {s : List Char} : s ≠ [] → (∀ c ∈ s, c.isDigit = true ∨ c = '.') →
    s.head? ≠ some '.' → s.getLast? ≠ some '.' → IsSuffix s
  | group {inner s : List Char} : inner ≠ [] → IsGroup .square inner s → IsSuffix s

/-- A text is a body and a suffix behind its last slash outside all brackets.  It is a body alone
    if a slash has no meaning, or if nothing that may follow one stands behind that slash. -/
inductive Suffixed (slashed : Bool) (body : List Char) : Option (List Char) → List Char → Prop
  | cut {suffix : List Char} : slashed = true → body ≠ [] → IsSuffix suffix →
    IsLastTop '/' 0 body suffix → Suffixed slashed body (some suffix) (body ++ '/' :: suffix)
  | whole : (slashed = true → ∀ before suffix, body = before ++ '/' :: suffix → before ≠ [] →
    IsLastTop '/' 0 before suffix → ¬IsSuffix suffix) → Suffixed slashed body none body

section
variable {slashed flag : Bool} {body text stem value : List Char} {suffix : Option (List Char)}

theorem Marked.subset (h : Marked flag body text) : body ⊆ text := by
  cases h with
  | front => exact List.subset_cons_self _ _
  | back => exact List.subset_append_left _ _
  | plain => exact List.Subset.refl _

theorem Signed.subset (h : Signed flag body text) : body ⊆ text := by
  cases h with
  | minus => exact List.subset_cons_self _ _
  | plain => exact List.Subset.refl _

theorem Suffixed.subset (h : Suffixed slashed body suffix text) : body ⊆ text := by
  cases h with
  | cut => exact List.subset_append_left _ _
  | whole => exact List.Subset.refl _

theorem Joined.subset (h : Joined stem value text) : value ⊆ text := by
  cases h with
  | alone => exact List.nil_subset _
  | dashed =>
    intro c hc
    exact List.mem_append_right _ (List.mem_cons_of_mem _ hc)

end

/-! ## Markers -/

/-- **The mark of importance** that is taken off is the one that the grammar puts on. -/
theorem takeImportance_eq_iff {s body : List Char} {important : Bool} :
    takeImportance s = (body, important) ↔ Marked important body s := by
  constructor
  · intro h
    unfold takeImportance at h
    split at h
    · obtain ⟨rfl, rfl⟩ := Prod.mk.inj h
      exact .front _
    · next hfront =>
      have hhead : s.head? ≠ some '!' := by
        intro hhead
        obtain ⟨r, rfl⟩ := List.head?_eq_some_iff.1 hhead
        exact hfront r rfl
      split at h
      · next hlast =>
        obtain ⟨rfl, rfl⟩ := Prod.mk.inj h
        obtain ⟨r, rfl⟩ := List.getLast?_eq_some_iff.1 hlast
        rw [List.dropLast_concat]
        exact .back hhead
      · next hlast =>
        obtain ⟨rfl, rfl⟩ := Prod.mk.inj h
        exact .plain hhead hlast
  · rintro (_ | ⟨hhead⟩ | ⟨hhead, hlast⟩)
    · rfl
    · unfold takeImportance
      split
      · next r hs =>
        rw [hs] at hhead
        simp at hhead
      · simp
    · unfold takeImportance
      split
      · simp at hhead
      · rw [if_neg hlast]

theorem marked_takeImportance (s : List Char) :
    Marked (takeImportance s).2 (takeImportance s).1 s := takeImportance_eq_iff.1 rfl

/-- **The sign** that is taken off is the one that the grammar puts on. -/
theorem takeMinus_eq_iff {s text : List Char} {negative : Bool} :
    takeMinus s = (text, negative) ↔ Signed negative text s := by
  unfold takeMinus
  constructor
  · intro h
    split at h
    · obtain ⟨rfl, rfl⟩ := Prod.mk.inj h
      exact .minus _
    · next hfront =>
      obtain ⟨rfl, rfl⟩ := Prod.mk.inj h
      refine .plain fun hhead => ?_
      obtain ⟨r, rfl⟩ := List.head?_eq_some_iff.1 hhead
      exact hfront r rfl
  · rintro (_ | hhead)
    · rfl
    · split
      · simp at hhead
      · rfl

theorem signed_takeMinus (s : List Char) : Signed (takeMinus s).2 (takeMinus s).1 s :=
  takeMinus_eq_iff.1 rfl

/-! ## Suffixes -/

theorem isSlashSuffix_iff {s : List Char} : isSlashSuffix s = true ↔ IsSuffix s := by
  unfold isSlashSuffix
  constructor
  · intro h
    split at h
    · next hhead =>
      simp only [Bool.and_eq_true, decide_eq_true_eq] at h
      obtain ⟨hlen, hclose⟩ := h
      have hgroup : IsGroup .square (inside s) s := (isGroup_iff .square).2 ⟨hhead, hclose, rfl⟩
      refine .group ?_ hgroup
      intro hinside
      rw [hgroup.1, hinside] at hlen
      simp at hlen
    · simp only [Bool.and_eq_true, Bool.not_eq_true', List.isEmpty_eq_false_iff, bne_iff_ne,
        List.all_eq_true, Bool.or_eq_true, beq_iff_eq] at h
      obtain ⟨⟨⟨hne, hhead⟩, hlast⟩, hall⟩ := h
      exact .number hne hall hhead hlast
  · intro h
    cases h with
    | number hne hall hhead hlast =>
      have hsquare : s.head? ≠ some '[' := by
        intro hsquare
        have hmem : '[' ∈ s := List.mem_of_mem_head? hsquare
        exact absurd (hall _ hmem) (by decide)
      rw [if_neg hsquare]
      simp only [Bool.and_eq_true, Bool.not_eq_true', List.isEmpty_eq_false_iff, bne_iff_ne,
        List.all_eq_true, Bool.or_eq_true, beq_iff_eq]
      exact ⟨⟨⟨hne, hhead⟩, hlast⟩, hall⟩
    | @group inner _ hne hgroup =>
      obtain ⟨hopen, hclose, -⟩ := (isGroup_iff .square).1 hgroup
      have hhead : s.head? = some '[' := hopen
      have hpos : 0 < inner.length := List.length_pos_iff.2 hne
      have hlen : 2 < s.length := by
        rw [hgroup.1]
        simp only [List.length_cons, List.length_append, List.length_nil]
        omega
      rw [if_pos hhead]
      simp [hlen, hclose]

/-- **A suffix is taken off** at the last slash outside all brackets. -/
theorem takeSlash_eq_some_iff {s body suffix : List Char} :
    takeSlash s = (body, some suffix) ↔
      s = body ++ '/' :: suffix ∧ IsLastTop '/' 0 body suffix ∧ body ≠ [] ∧ IsSuffix suffix := by
  have hcut_iff : (s = body ++ '/' :: suffix ∧ IsLastTop '/' 0 body suffix ∧ body ≠ [] ∧
      IsSuffix suffix) ↔
        cutLastTop? '/' 0 s = some (body, suffix) ∧ body ≠ [] ∧ IsSuffix suffix := by
    rw [cutLastTop?_eq_some_iff, and_assoc]
  rw [hcut_iff, takeSlash]
  cases hcut : cutLastTop? '/' 0 s with
  | none => simp
  | some cut =>
    obtain ⟨a, b⟩ := cut
    simp only [Option.some.injEq, Prod.mk.injEq]
    by_cases hsuffix : (!a.isEmpty && isSlashSuffix b) = true
    · rw [if_pos hsuffix]
      simp only [Bool.and_eq_true, Bool.not_eq_true', List.isEmpty_eq_false_iff,
        isSlashSuffix_iff] at hsuffix
      simp only [Prod.mk.injEq, Option.some.injEq]
      constructor
      · rintro ⟨rfl, rfl⟩
        exact ⟨⟨rfl, rfl⟩, hsuffix⟩
      · rintro ⟨h, -⟩
        exact h
    · rw [if_neg hsuffix]
      simp only [Bool.and_eq_true, Bool.not_eq_true', List.isEmpty_eq_false_iff,
        isSlashSuffix_iff] at hsuffix
      simp only [Prod.mk.injEq, reduceCtorEq, and_false, false_iff]
      rintro ⟨⟨rfl, rfl⟩, h⟩
      exact hsuffix h

/-- Without a suffix the text stays as it was. -/
theorem eq_of_takeSlash_eq_none {s body : List Char} (h : takeSlash s = (body, none)) :
    body = s := by
  unfold takeSlash at h
  split at h
  · split at h
    · simp at h
    · exact (Prod.mk.inj h).1.symm
  · exact (Prod.mk.inj h).1.symm

/-! ## Stems -/

theorem mem_of_leastBy? {α : Type} {measure : α → Nat} {l : List α} {a : α}
    (h : leastBy? measure l = some a) : a ∈ l := by
  induction l generalizing a with
  | nil => simp [leastBy?] at h
  | cons b l ih =>
    rw [leastBy?] at h
    cases hl : leastBy? measure l with
    | none =>
      rw [hl] at h
      simp only [Option.some.injEq] at h
      simp [h]
    | some c =>
      rw [hl] at h
      simp only at h
      split at h
      · simp only [Option.some.injEq] at h
        simp [h]
      · simp only [Option.some.injEq] at h
        exact List.mem_cons_of_mem _ (ih (h ▸ hl))

theorem mem_candidates_iff {stems : List String} {body value : List Char} {stem : String} :
    (stem, value) ∈ candidates stems body ↔
      stem ∈ stems ∧ body = stem.toList ++ '-' :: value := by
  simp only [candidates, List.mem_filterMap, Option.map_eq_some_iff,
    List.isPrefixOf?_eq_some_iff_append_eq]
  constructor
  · rintro ⟨_, hmem, _, hbody, heq⟩
    obtain ⟨rfl, rfl⟩ := Prod.mk.inj heq
    exact ⟨hmem, by simp [← hbody]⟩
  · rintro ⟨hmem, rfl⟩
    exact ⟨stem, hmem, value, by simp, rfl⟩

/-- **The stem that is chosen** is one of the given ones, and joins its value to the body. -/
theorem joined_of_chooseStem? {stems : List String} {body value : List Char} {stem : String}
    (h : chooseStem? stems body = some (stem, value)) :
    stem ∈ stems ∧ Joined stem.toList value body := by
  unfold chooseStem? at h
  split at h
  · next hmem =>
    simp only [Option.some.injEq, Prod.mk.injEq] at h
    obtain ⟨rfl, rfl⟩ := h
    refine ⟨List.contains_iff_mem.1 hmem, ?_⟩
    rw [String.toList_ofList]
    exact .alone
  · have hfound : (stem, value) ∈ candidates stems body := by
      rcases Option.or_eq_some_iff.1 h with h | ⟨-, h⟩
      · exact List.mem_of_mem_filter (mem_of_leastBy? h)
      · exact mem_of_leastBy? h
    obtain ⟨hmem, rfl⟩ := mem_candidates_iff.1 hfound
    exact ⟨hmem, .dashed value⟩

/-! ## Reading -/

/-- What the marks of importance and sign leave of a utility. -/
def unmarked (raw : String) : List Char := (takeMinus (takeImportance raw.toList).1).1

/-- What the suffix leaves of that, with the suffix, where one may be taken off. -/
def unslashed (slashed : Bool) (raw : String) : List Char × Option (List Char) :=
  if slashed then takeSlash (unmarked raw) else (unmarked raw, none)

variable {stems : List String} {slashed : Bool} {raw : String} {t : UtilityToken}

theorem suffixed_unslashed (slashed : Bool) (raw : String) :
    Suffixed slashed (unslashed slashed raw).1 (unslashed slashed raw).2 (unmarked raw) := by
  cases slashed with
  | false => exact .whole nofun
  | true =>
    show Suffixed true (takeSlash (unmarked raw)).1 (takeSlash (unmarked raw)).2 (unmarked raw)
    generalize unmarked raw = s
    cases h : takeSlash s with
    | mk body suffix =>
      cases suffix with
      | none =>
        obtain rfl := eq_of_takeSlash_eq_none h
        refine .whole fun _ before suffix hs hne hlast hsuffix => ?_
        have htaken := takeSlash_eq_some_iff.2 ⟨hs, hlast, hne, hsuffix⟩
        rw [h] at htaken
        simp at htaken
      | some suffix =>
        obtain ⟨rfl, hlast, hne, hsuffix⟩ := takeSlash_eq_some_iff.1 h
        exact .cut rfl hne hsuffix hlast

/-- Taking parts off adds no character. -/
theorem unslashed_subset (slashed : Bool) (raw : String) :
    (unslashed slashed raw).1 ⊆ raw.toList := by
  have hmarked := marked_takeImportance raw.toList
  have hsigned := signed_takeMinus (takeImportance raw.toList).1
  have hbody : (unslashed slashed raw).1 ⊆ unmarked raw := (suffixed_unslashed slashed raw).subset
  intro c hc
  exact hmarked.subset (hsigned.subset (hbody hc))

/-- **A token is what the steps of the reader leave** of its utility. -/
theorem read?_eq_some_iff :
    read? stems slashed raw = some t ↔
      ∃ stem value fragment, chooseStem? stems (unslashed slashed raw).1 = some (stem, value) ∧
        Fragment.read? value = some fragment ∧
          t = { raw, stem, fragment, value := String.ofList value
                negative := (takeMinus (takeImportance raw.toList).1).2
                important := (takeImportance raw.toList).2
                slash := (unslashed slashed raw).2.map String.ofList } := by
  simp only [read?, Option.bind_eq_bind, Option.bind_eq_some_iff, Option.pure_def,
    Option.some.injEq, Prod.exists]
  constructor
  · rintro ⟨stem, value, hstem, fragment, hfragment, rfl⟩
    exact ⟨stem, value, fragment, hstem, hfragment, rfl⟩
  · rintro ⟨stem, value, fragment, hstem, hfragment, rfl⟩
    exact ⟨stem, value, hstem, fragment, hfragment, rfl⟩

/-- The fragment of a token is its value, read. -/
theorem fragment_of_read? (h : read? stems slashed raw = some t) :
    Fragment.read? t.value.toList = some t.fragment := by
  obtain ⟨stem, value, fragment, -, hfragment, rfl⟩ := read?_eq_some_iff.1 h
  rw [String.toList_ofList]
  exact hfragment

/-- The token takes a utility apart for some stems and loses nothing of it. -/
structure IsReading (t : UtilityToken) (stems : List String) (slashed : Bool) (raw : String) :
    Prop where
  raw_eq : t.raw = raw
  stem_mem : t.stem ∈ stems
  fragment_eq : Fragment.read? t.value.toList = some t.fragment
  spelled : ∃ body text signed, Joined t.stem.toList t.value.toList body ∧
    Suffixed slashed body (t.slash.map String.toList) text ∧ Signed t.negative text signed ∧
      Marked t.important signed raw.toList

/-- **Reading loses nothing.**  The sign, the stem, the value and the suffix with its slash spell
    the utility, up to its mark of importance.  The suffix stands behind the last slash outside all
    brackets. -/
theorem read?_isReading (h : read? stems slashed raw = some t) :
    t.IsReading stems slashed raw := by
  obtain ⟨stem, value, fragment, hstem, hfragment, rfl⟩ := read?_eq_some_iff.1 h
  obtain ⟨hmem, hjoined⟩ := joined_of_chooseStem? hstem
  have hsuffixed := suffixed_unslashed slashed raw
  have hmarked := marked_takeImportance raw.toList
  have hsigned := signed_takeMinus (takeImportance raw.toList).1
  refine ⟨rfl, hmem, ?_, (unslashed slashed raw).1, unmarked raw, (takeImportance raw.toList).1,
    ?_, ?_, hsigned, hmarked⟩
  · rw [String.toList_ofList]
    exact hfragment
  · rw [String.toList_ofList]
    exact hjoined
  · simpa [Function.comp_def] using hsuffixed

/-- Both marks, the longer stem, a slash in the value and a bracketed suffix. -/
theorem read?_isReading_border :
    ∃ t, read? ["border", "border-x"] true "-border-x-[a/b]/[.5]!" = some t ∧
      t.stem = "border-x" ∧ t.value = "[a/b]" ∧ t.slash = some "[.5]" ∧
        t.IsReading ["border", "border-x"] true "-border-x-[a/b]/[.5]!" := by
  have hread : ∃ t, read? ["border", "border-x"] true "-border-x-[a/b]/[.5]!" = some t ∧
      t.stem = "border-x" ∧ t.value = "[a/b]" ∧ t.slash = some "[.5]" := by
    decide +kernel
  obtain ⟨t, ht, hstem, hvalue, hslash⟩ := hread
  exact ⟨t, ht, hstem, hvalue, hslash, read?_isReading ht⟩

end UtilityStyle.UtilityToken
