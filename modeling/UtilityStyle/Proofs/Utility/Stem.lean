/-
  The choice of a stem.

  * `IsValue`: the texts that could be a value on their own (`isWellFormed_iff`);
  * `HasStem`: the stem that a body has among some stems, and the value that it leaves.  There is at
    most one (`HasStem.unique`), and the order of the stems does not count (`HasStem.congr`);
  * `chooseStem?_eq_some_iff`, `chooseStem?_eq_none_iff`: it is the one that is chosen, and there is
    none only if no stem begins the body;
  * `read?_stem`: so a utility is taken apart at this stem, whatever the order of the stems.
-/
import UtilityStyle.Proofs.Text.Pieces
import UtilityStyle.Proofs.Utility.Token

namespace UtilityStyle.UtilityToken

open Text

/-! ## Values -/

/-- The texts that could be a value on their own: a group of brackets, or words of letters, digits
    and a few signs with single dashes between them. -/
inductive IsValue : List Char → Prop
  | group (kind : Bracket) {inner s : List Char} : IsGroup kind inner s → IsValue s
  | words {s : List Char} : s ≠ [] → s.head? ≠ some '-' → s.getLast? ≠ some '-' →
    ¬['-', '-'] <:+: s →
    (∀ c ∈ s, isAsciiAlphanumeric c = true ∨ c ∈ ['.', '_', '%', '/', '-']) → IsValue s

theorem isWellFormed_iff {s : List Char} : isWellFormed s = true ↔ IsValue s := by
  have hwords : (!s.isEmpty && s.head? != some '-' && s.getLast? != some '-' &&
      !hasPiece ['-', '-'] s &&
      s.all fun c => isAsciiAlphanumeric c || ['.', '_', '%', '/', '-'].contains c) = true ↔
        s ≠ [] ∧ s.head? ≠ some '-' ∧ s.getLast? ≠ some '-' ∧ ¬['-', '-'] <:+: s ∧
          ∀ c ∈ s, isAsciiAlphanumeric c = true ∨ c ∈ ['.', '_', '%', '/', '-'] := by
    rw [← hasPiece_iff, Bool.not_eq_true]
    simp only [Bool.and_eq_true, Bool.not_eq_true', List.isEmpty_eq_false_iff, bne_iff_ne,
      List.all_eq_true, Bool.or_eq_true, List.contains_iff_mem, and_assoc]
  unfold isWellFormed
  constructor
  · intro h
    split at h
    · next hopen =>
      rcases hopen with hopen | hopen
      · exact .group .square ((isGroup_iff .square).2 ⟨hopen, h, rfl⟩)
      · exact .group .round ((isGroup_iff .round).2 ⟨hopen, h, rfl⟩)
    · obtain ⟨hne, hhead, hlast, hdashes, hall⟩ := hwords.1 h
      exact .words hne hhead hlast hdashes hall
  · intro h
    cases h with
    | group kind hgroup =>
      obtain ⟨hopen, hclose, -⟩ := (isGroup_iff kind).1 hgroup
      have hbracket : s.head? = some '[' ∨ s.head? = some '(' := by
        cases kind with
        | square => exact .inl hopen
        | round => exact .inr hopen
      rwa [if_pos hbracket]
    | words hne hhead hlast hdashes hall =>
      have hbracket : ¬(s.head? = some '[' ∨ s.head? = some '(') := by
        rintro (hopen | hopen) <;>
          exact absurd (hall _ (List.mem_of_mem_head? hopen)) (by decide)
      rw [if_neg hbracket]
      exact hwords.2 ⟨hne, hhead, hlast, hdashes, hall⟩

/-! ## The stem of a body -/

/-- The stem that a body has among some stems, and the value that it leaves.  A body that is a stem
    leaves none.  Otherwise, of the stems before a dash, it is the longest one that leaves something
    that could be a value, or the shortest one if none does. -/
inductive HasStem (stems : List String) (body : List Char) : String → List Char → Prop
  | alone {stem} : stem ∈ stems → stem.toList = body → HasStem stems body stem []
  | longest {stem value} : (∀ other ∈ stems, other.toList ≠ body) → stem ∈ stems →
    body = stem.toList ++ '-' :: value → IsValue value →
    (∀ other ∈ stems, ∀ value', body = other.toList ++ '-' :: value' → IsValue value' →
      other.length ≤ stem.length) → HasStem stems body stem value
  | shortest {stem value} : (∀ other ∈ stems, other.toList ≠ body) → stem ∈ stems →
    body = stem.toList ++ '-' :: value →
    (∀ other ∈ stems, ∀ value', body = other.toList ++ '-' :: value' →
      ¬IsValue value' ∧ stem.length ≤ other.length) → HasStem stems body stem value

section
variable {stems stems' : List String} {body value value' : List Char} {stem stem' : String}

/-- Stems of one length that begin the same body are the same. -/
theorem eq_of_stem_append (h : stem.toList ++ '-' :: value = stem'.toList ++ '-' :: value')
    (hlength : stem.length = stem'.length) : stem = stem' ∧ value = value' := by
  obtain ⟨hstem, hvalue⟩ := List.append_inj h (by rwa [String.length_toList, String.length_toList])
  exact ⟨String.toList_inj.1 hstem, (List.cons.inj hvalue).2⟩

/-- **A body has at most one stem.** -/
theorem HasStem.unique (h : HasStem stems body stem value) (h' : HasStem stems body stem' value') :
    stem = stem' ∧ value = value' := by
  cases h with
  | alone hmem hbody =>
    cases h' with
    | alone hmem' hbody' => exact ⟨String.toList_inj.1 (hbody.trans hbody'.symm), rfl⟩
    | longest hne | shortest hne => exact absurd hbody (hne _ hmem)
  | longest hne hmem hbody hvalue hmax =>
    cases h' with
    | alone hmem' hbody' => exact absurd hbody' (hne _ hmem')
    | longest _ hmem' hbody' hvalue' hmax' =>
      exact eq_of_stem_append (hbody.symm.trans hbody')
        (Nat.le_antisymm (hmax' _ hmem _ hbody hvalue) (hmax _ hmem' _ hbody' hvalue'))
    | shortest _ hmem' hbody' hmin' => exact absurd hvalue (hmin' _ hmem _ hbody).1
  | shortest hne hmem hbody hmin =>
    cases h' with
    | alone hmem' hbody' => exact absurd hbody' (hne _ hmem')
    | longest _ hmem' hbody' hvalue' => exact absurd hvalue' (hmin _ hmem' _ hbody').1
    | shortest _ hmem' hbody' hmin' =>
      exact eq_of_stem_append (hbody.symm.trans hbody')
        (Nat.le_antisymm (hmin _ hmem' _ hbody').2 (hmin' _ hmem _ hbody).2)

/-- The order of the stems does not count, nor how often they are listed. -/
theorem HasStem.congr (hsame : ∀ stem, stem ∈ stems ↔ stem ∈ stems')
    (h : HasStem stems body stem value) : HasStem stems' body stem value := by
  cases h with
  | alone hmem hbody => exact .alone ((hsame _).1 hmem) hbody
  | longest hne hmem hbody hvalue hmax =>
    exact .longest (fun other ho => hne other ((hsame _).2 ho)) ((hsame _).1 hmem) hbody hvalue
      fun other ho => hmax other ((hsame _).2 ho)
  | shortest hne hmem hbody hmin =>
    exact .shortest (fun other ho => hne other ((hsame _).2 ho)) ((hsame _).1 hmem) hbody
      fun other ho => hmin other ((hsame _).2 ho)

end

/-! ## The choice -/

theorem leastBy?_eq_none_iff {α : Type} {measure : α → Nat} {l : List α} :
    leastBy? measure l = none ↔ l = [] := by
  cases l with
  | nil => simp [leastBy?]
  | cons a l =>
    rw [leastBy?]
    split
    · simp
    · split <;> simp

theorem measure_le_of_leastBy? {α : Type} {measure : α → Nat} {l : List α} {a : α}
    (h : leastBy? measure l = some a) : ∀ b ∈ l, measure a ≤ measure b := by
  induction l generalizing a with
  | nil => nofun
  | cons b l ih =>
    rw [leastBy?] at h
    rw [List.forall_mem_cons]
    cases hl : leastBy? measure l with
    | none =>
      rw [hl] at h
      obtain rfl := Option.some.inj h
      rw [leastBy?_eq_none_iff.1 hl]
      exact ⟨Nat.le_refl _, List.forall_mem_nil _⟩
    | some c =>
      rw [hl] at h
      dsimp only at h
      split at h
      · next hle =>
        obtain rfl := Option.some.inj h
        exact ⟨Nat.le_refl _, fun b' hb' => Nat.le_trans hle (ih hl b' hb')⟩
      · next hlt =>
        obtain rfl := Option.some.inj h
        exact ⟨Nat.le_of_not_le hlt, ih hl⟩

section
variable {stems stems' : List String} {body value : List Char} {stem : String}

/-- A stem is found with the value that it leaves, if it leaves one that could be a value. -/
theorem mem_filter_candidates_iff :
    (stem, value) ∈ (candidates stems body).filter (fun c => isWellFormed c.2) ↔
      stem ∈ stems ∧ body = stem.toList ++ '-' :: value ∧ IsValue value := by
  rw [List.mem_filter, mem_candidates_iff, isWellFormed_iff, and_assoc]

/-- What is chosen is the stem of the body. -/
theorem hasStem_of_chooseStem? (h : chooseStem? stems body = some (stem, value)) :
    HasStem stems body stem value := by
  unfold chooseStem? at h
  split at h
  · next hmem =>
    obtain ⟨rfl, rfl⟩ := Prod.mk.inj (Option.some.inj h)
    exact .alone (List.contains_iff_mem.1 hmem) String.toList_ofList
  · next hmem =>
    have hne : ∀ other ∈ stems, other.toList ≠ body := by
      rintro other ho rfl
      rw [String.ofList_toList] at hmem
      exact hmem (List.contains_iff_mem.2 ho)
    rcases Option.or_eq_some_iff.1 h with h | ⟨hnone, h⟩
    · obtain ⟨hstem, hbody, hvalue⟩ := mem_filter_candidates_iff.1 (mem_of_leastBy? h)
      refine .longest hne hstem hbody hvalue fun other ho value' hbody' hvalue' => ?_
      -- the longer the stem, the less it leaves
      have hle : value.length ≤ value'.length :=
        measure_le_of_leastBy? h (other, value') (mem_filter_candidates_iff.2 ⟨ho, hbody', hvalue'⟩)
      have hlength := congrArg List.length (hbody.symm.trans hbody')
      simp only [List.length_append, List.length_cons, String.length_toList] at hlength
      omega
    · obtain ⟨hstem, hbody⟩ := mem_candidates_iff.1 (mem_of_leastBy? h)
      refine .shortest hne hstem hbody fun other ho value' hbody' => ⟨fun hvalue' => ?_, ?_⟩
      · have hfound := mem_filter_candidates_iff.2 ⟨ho, hbody', hvalue'⟩
        rw [leastBy?_eq_none_iff.1 hnone] at hfound
        cases hfound
      · simpa using measure_le_of_leastBy? h (other, value') (mem_candidates_iff.2 ⟨ho, hbody'⟩)

/-- **Nothing is chosen** only if no stem begins the body. -/
theorem chooseStem?_eq_none_iff :
    chooseStem? stems body = none ↔
      ∀ stem ∈ stems, ∀ value, ¬Joined stem.toList value body := by
  constructor
  · intro h stem hstem value hjoined
    unfold chooseStem? at h
    split at h
    · cases h
    · next hmem =>
      cases hjoined with
      | alone =>
        rw [String.ofList_toList] at hmem
        exact hmem (List.contains_iff_mem.2 hstem)
      | dashed =>
        have hfound : (stem, value) ∈ candidates stems (stem.toList ++ '-' :: value) :=
          mem_candidates_iff.2 ⟨hstem, rfl⟩
        rw [leastBy?_eq_none_iff.1 (Option.or_eq_none_iff.1 h).2] at hfound
        cases hfound
  · intro h
    refine Option.eq_none_iff_forall_ne_some.2 fun (stem, value) hchosen => ?_
    obtain ⟨hstem, hjoined⟩ := joined_of_chooseStem? hchosen
    exact h stem hstem value hjoined

theorem HasStem.joined (h : HasStem stems body stem value) :
    stem ∈ stems ∧ Joined stem.toList value body := by
  cases h with
  | alone hmem hbody => exact ⟨hmem, hbody ▸ .alone⟩
  | longest _ hmem hbody | shortest _ hmem hbody => exact ⟨hmem, hbody ▸ .dashed value⟩

/-- **What is chosen is the stem of the body.** -/
theorem chooseStem?_eq_some_iff :
    chooseStem? stems body = some (stem, value) ↔ HasStem stems body stem value := by
  refine ⟨hasStem_of_chooseStem?, fun h => ?_⟩
  obtain ⟨hmem, hjoined⟩ := h.joined
  obtain ⟨⟨stem', value'⟩, hchosen⟩ : ∃ chosen, chooseStem? stems body = some chosen := by
    refine Option.ne_none_iff_exists'.1 fun hnone => ?_
    exact chooseStem?_eq_none_iff.1 hnone stem hmem value hjoined
  obtain ⟨rfl, rfl⟩ := h.unique (hasStem_of_chooseStem? hchosen)
  exact hchosen

theorem chooseStem?_congr (hsame : ∀ stem, stem ∈ stems ↔ stem ∈ stems') :
    chooseStem? stems body = chooseStem? stems' body := by
  refine Option.ext fun (stem, value) => ?_
  rw [chooseStem?_eq_some_iff, chooseStem?_eq_some_iff]
  exact ⟨.congr hsame, .congr fun stem => (hsame stem).symm⟩

end

/-- **The longest stem that leaves a value wins, in whatever order the stems stand.**  A utility is
    taken apart at the stem of what its markers leave: at that body itself if it is a stem, else at
    the longest stem before a dash that leaves something that could be a value, else at the shortest
    one.  It cannot be taken apart if no stem begins the body. -/
theorem read?_stem (stems : List String) (slashed : Bool) (raw : String) :
    (∀ body stem value, chooseStem? stems body = some (stem, value) ↔
        HasStem stems body stem value) ∧
      (∀ body, chooseStem? stems body = none ↔
        ∀ stem ∈ stems, ∀ value, ¬Joined stem.toList value body) ∧
      (∀ t, read? stems slashed raw = some t ↔
        ∃ stem value fragment, HasStem stems (unslashed slashed raw).1 stem value ∧
          Fragment.read? value = some fragment ∧
            t = { raw, stem, fragment, value := String.ofList value
                  negative := (takeMinus (takeImportance raw.toList).1).2
                  important := (takeImportance raw.toList).2
                  slash := (unslashed slashed raw).2.map String.ofList }) ∧
      ∀ stems', (∀ stem, stem ∈ stems' ↔ stem ∈ stems) →
        read? stems' slashed raw = read? stems slashed raw := by
  refine ⟨fun body stem value => chooseStem?_eq_some_iff, fun body => chooseStem?_eq_none_iff,
    fun t => ?_, ?_⟩
  · simp only [read?_eq_some_iff, chooseStem?_eq_some_iff]
  · intro stems' hsame
    simp only [read?, chooseStem?_congr hsame]

/-- The longer of two stems wins, whichever is listed first. -/
theorem read?_stem_listed :
    (∀ stem, stem ∈ ["border-x", "border"] ↔ stem ∈ ["border", "border-x"]) ∧
      read? ["border-x", "border"] false "border-x-4" =
        read? ["border", "border-x"] false "border-x-4" ∧
      (read? ["border", "border-x"] false "border-x-4").map (·.stem) = some "border-x" := by
  have hsame : ∀ stem, stem ∈ ["border-x", "border"] ↔ stem ∈ ["border", "border-x"] :=
    fun _ => (List.Perm.swap ..).mem_iff
  exact ⟨hsame, (read?_stem _ false _).2.2.2 _ hsame, by decide⟩

end UtilityStyle.UtilityToken
