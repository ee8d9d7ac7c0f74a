/-
  The grammar of fragments.

  A fragment is a key, bracketed content or a custom property, and each of the three has a grammar
  here that does not mention the reader:

  * `IsKey`: no bracket at all;
  * `IsBracketed`: one group of square brackets with something in it, also after a type hint and in
    the parentheses of a call;
  * `IsReference`: a custom property in parentheses, behind a type hint or not.

  `read?_grammar`: the reader accepts exactly these texts, and the grammar of a text decides what
  the fragment counts as.
-/
import UtilityStyle.Utility.Fragment
import UtilityStyle.Proofs.Text.Nesting
import UtilityStyle.Proofs.Text.Pieces

namespace UtilityStyle

open Text

/-! ## Type hints -/

/-- A type hint as it is written, with its colon. -/
def hintText : Option String → List Char
  | none => []
  | some hint => hint.toList ++ [':']

/-- What is left of a content without its type hint, if it begins with one. -/
inductive Hinted (content : List Char) : Option String → List Char → Prop
  | hint {hint : String} {rest : List Char} : hint ∈ typeHints →
    content = hintText (some hint) ++ rest → Hinted content (some hint) rest
  | plain : (∀ hint ∈ typeHints, ∀ rest, content ≠ hintText (some hint) ++ rest) →
    Hinted content none content

theorem colon_not_mem_of_mem_typeHints : ∀ hint ∈ typeHints, ':' ∉ hint.toList := by decide

theorem splitFirst?_hintText {hint : String} (h : hint ∈ typeHints) (rest : List Char) :
    splitFirst? ':' (hintText (some hint) ++ rest) = some (hint.toList, rest) := by
  rw [hintText, List.append_assoc]
  exact splitFirst?_append_cons (colon_not_mem_of_mem_typeHints hint h) rest

theorem takeHint_hintText {hint : String} (h : hint ∈ typeHints) (rest : List Char) :
    takeHint (hintText (some hint) ++ rest) = (some hint, rest) := by
  simp [takeHint, splitFirst?_hintText h, h]

theorem hinted_takeHint (content : List Char) :
    Hinted content (takeHint content).1 (takeHint content).2 := by
  rw [takeHint]
  split
  · next front rest hcut =>
    obtain ⟨rfl, -⟩ := splitFirst?_eq_some_iff.1 hcut
    split
    · next hknown =>
      refine .hint (List.contains_iff_mem.1 hknown) ?_
      simp [hintText]
    · next hknown =>
      refine .plain fun hint hmem rest' heq => hknown ?_
      rw [heq, splitFirst?_hintText hmem] at hcut
      obtain ⟨rfl, -⟩ := Prod.mk.inj (Option.some.inj hcut)
      simpa using hmem
  · next hcut =>
    refine .plain fun hint hmem rest heq => ?_
    rw [heq, splitFirst?_hintText hmem] at hcut
    cases hcut

theorem takeHint_eq_iff {content rest : List Char} {hint : Option String} :
    takeHint content = (hint, rest) ↔ Hinted content hint rest := by
  constructor
  · intro h
    simpa [h] using hinted_takeHint content
  · rintro (⟨hmem, rfl⟩ | hplain)
    · exact takeHint_hintText hmem rest
    · obtain ⟨⟨hint, rest⟩, htaken⟩ : ∃ taken, takeHint content = taken := ⟨_, rfl⟩
      have hread := hinted_takeHint content
      rw [htaken] at hread
      cases hread with
      | hint hmem heq => exact absurd heq (hplain _ hmem _)
      | plain => exact htaken

/-! ## Groups and calls -/

/-- The functions that content may call. -/
def callNames : List String := ["rgba", "rgb", "url", "var", "calc", "theme"]

theorem Form.map_name_calls : calls.map name = callNames := rfl

/-- A call of a function that spans the whole content. -/
def IsCall (name : String) (content arguments : List Char) : Prop :=
  ∃ call, content = name.toList ++ call ∧ IsGroup .round arguments call

theorem enclosed?_eq_some_iff (kind : Bracket) {s inner : List Char}
    (hs : s.head? = some kind.opening) :
    enclosed? s = some inner ↔ IsGroup kind inner s ∧ isBlank inner = false := by
  rw [isGroup_iff, enclosed?]
  constructor
  · intro h
    split at h
    · next hc => simp_all
    · cases h
  · rintro ⟨⟨-, hclose, rfl⟩, hblank⟩
    simp [hclose, hblank]

theorem callArguments?_eq_some_iff {name : String} {content arguments : List Char} :
    callArguments? name content = some arguments ↔ IsCall name content arguments := by
  simp only [callArguments?, Option.bind_eq_some_iff, List.isPrefixOf?_eq_some_iff_append_eq]
  refine exists_congr fun call => and_congr eq_comm ?_
  rw [isGroup_iff]
  constructor
  · intro h
    split at h
    · next hc =>
      rw [Bool.and_eq_true, beq_iff_eq] at hc
      exact ⟨hc.1, hc.2, Option.some.inj h⟩
    · cases h
  · rintro ⟨hopen, hclose, rfl⟩
    rw [if_pos]
    rw [hopen, hclose]
    rfl

theorem round_not_mem_of_mem_calls : ∀ form ∈ Form.calls, '(' ∉ form.name.toList := by decide

/-- A hexadecimal color is no call. -/
theorem isHexColor_append_of_mem_calls {form : Form} (h : form ∈ Form.calls) (r : List Char) :
    isHexColor (form.name.toList ++ r) = false := by
  revert form
  simp [Form.calls, Form.name, isHexColor]

/-- A call opens its parenthesis behind the name. -/
theorem IsCall.splitFirst? {form : Form} {content arguments : List Char}
    (h : IsCall form.name content arguments) (hform : form ∈ Form.calls) :
    splitFirst? '(' content = some (form.name.toList, arguments ++ [')']) := by
  obtain ⟨_, rfl, rfl, -⟩ := h
  exact splitFirst?_append_cons (round_not_mem_of_mem_calls form hform) (arguments ++ [')'])

/-- A content is a call in one way at most. -/
theorem IsCall.unique {form form' : Form} {content arguments arguments' : List Char}
    (h : IsCall form.name content arguments) (h' : IsCall form'.name content arguments')
    (hform : form ∈ Form.calls) (hform' : form' ∈ Form.calls) : arguments = arguments' := by
  have hcut := h.splitFirst? hform
  rw [h'.splitFirst? hform'] at hcut
  exact (List.append_cancel_right (Prod.mk.inj (Option.some.inj hcut)).2).symm

/-- **Content has a form** unless it is a call with blank arguments. -/
theorem Form.isSome_read?_iff {content : List Char} :
    (read? content).isSome ↔
      ∀ name ∈ callNames, ∀ arguments, IsCall name content arguments →
        isBlank arguments = false := by
  rw [← map_name_calls, List.forall_mem_map, read?]
  split
  · next hhex =>
    refine iff_of_true rfl fun form hform arguments hcall => ?_
    obtain ⟨call, rfl, -⟩ := hcall
    rw [isHexColor_append_of_mem_calls hform] at hhex
    cases hhex
  · split
    · next form arguments hfound =>
      obtain ⟨form', hform, hread⟩ := List.exists_of_findSome?_eq_some hfound
      obtain ⟨_, hcall, heq⟩ := Option.map_eq_some_iff.1 hread
      obtain ⟨rfl, rfl⟩ := Prod.mk.inj heq.symm
      rw [callArguments?_eq_some_iff] at hcall
      cases hblank : isBlank arguments with
      | true => simpa using ⟨form, hform, arguments, hcall, hblank⟩
      | false =>
        refine iff_of_true rfl fun other hother arguments' hcall' => ?_
        rw [← hcall.unique hcall' hform hother, hblank]
    · next hnone =>
      refine iff_of_true rfl fun form hform arguments hcall => ?_
      have hread := List.findSome?_eq_none_iff.1 hnone form hform
      rw [callArguments?_eq_some_iff.2 hcall] at hread
      cases hread

/-! ## The three grammars -/

/-- A key: text without brackets. -/
def IsKey (s : List Char) : Prop := ∀ c ∈ ['[', ']', '(', ')'], c ∉ s

/-- Content in square brackets, with what is left of it after its type hint. -/
structure IsBracketed (s : List Char) (hint : Option String) (content : List Char) : Prop where
  inside : ∃ inner, IsGroup .square inner s ∧ isBlank inner = false ∧ Hinted inner hint content
  content_not_blank : isBlank content = false
  arguments_not_blank : ∀ name ∈ callNames, ∀ arguments, IsCall name content arguments →
    isBlank arguments = false

/-- A custom property in parentheses, behind its type hint. -/
structure IsReference (s : List Char) (hint : Option String) (name : List Char) : Prop where
  eq_append : s = '(' :: (hintText hint ++ '-' :: '-' :: name ++ [')'])
  hint_mem : ∀ h ∈ hint, h ∈ typeHints
  name_ne_nil : name ≠ []
  name_chars : ∀ c ∈ name, isAsciiAlphanumeric c ∨ c = '-' ∨ c = '_'

theorem any_isBracket_eq_false_iff {s : List Char} : s.any isBracket = false ↔ IsKey s := by
  simp only [List.any_eq_false, isBracket_iff, IsKey]
  exact ⟨fun h c hc hmem => h c hmem hc, fun h c hmem hc => h c hc hmem⟩

theorem isCustomPropertyName_iff {s : List Char} :
    isCustomPropertyName s = true ↔
      ∃ name, s = '-' :: '-' :: name ∧ name ≠ [] ∧
        ∀ c ∈ name, isAsciiAlphanumeric c ∨ c = '-' ∨ c = '_' := by
  unfold isCustomPropertyName
  split
  · simp [or_assoc]
  · next hs => simpa using fun name hname => absurd hname (hs name)

namespace Fragment

variable {s : List Char} {f : Fragment} {hint : Option String} {content name : List Char}

/-! ## Keys -/

theorem head?_ne_of_isKey (hs : IsKey s) (c : Char) (hc : c ∈ ['[', ']', '(', ')']) :
    s.head? ≠ some c :=
  fun h => hs c hc (List.mem_of_mem_head? h)

theorem read?_of_isKey (hs : IsKey s) : read? s = some (preset (UtilityStyle.isNumeric s)) := by
  unfold read?
  split
  · next h => exact absurd h (head?_ne_of_isKey hs '[' (by decide))
  · next h => exact absurd h (head?_ne_of_isKey hs '(' (by decide))
  · rw [any_isBracket_eq_false_iff.2 hs]
    rfl

/-! ## Bracketed content -/

theorem readArbitrary?_of_isBracketed (h : IsBracketed s hint content) :
    ∃ form kept, readArbitrary? s = some (arbitrary hint form kept) := by
  obtain ⟨inner, hgroup, hblank, hhint⟩ := h.inside
  have henclosed : enclosed? s = some inner :=
    (enclosed?_eq_some_iff .square ((isGroup_iff .square).1 hgroup).1).2 ⟨hgroup, hblank⟩
  obtain ⟨⟨form, kept⟩, hform⟩ := Option.isSome_iff_exists.1
    (Form.isSome_read?_iff.2 h.arguments_not_blank)
  exact ⟨form, String.ofList kept, by
    simp [readArbitrary?, henclosed, takeHint_eq_iff.2 hhint, h.content_not_blank, hform]⟩

theorem isBracketed_of_readArbitrary? (hs : s.head? = some '[') (h : readArbitrary? s = some f) :
    ∃ hint content, IsBracketed s hint content := by
  obtain ⟨inner, henclosed, h⟩ := Option.bind_eq_some_iff.1 h
  obtain ⟨hgroup, hblank⟩ := (enclosed?_eq_some_iff .square hs).1 henclosed
  split at h
  next hint content hhint =>
  split at h
  · cases h
  · next hcontent =>
    obtain ⟨read, hform, -⟩ := Option.bind_eq_some_iff.1 h
    exact ⟨hint, content, ⟨inner, hgroup, hblank, takeHint_eq_iff.1 hhint⟩,
      Bool.eq_false_iff.2 hcontent,
      Form.isSome_read?_iff.1 (Option.isSome_of_mem hform)⟩

/-! ## Custom properties -/

theorem isBracket_of_nameChar {c : Char} (h : isAsciiAlphanumeric c ∨ c = '-' ∨ c = '_') :
    isBracket c = false := by
  refine Bool.eq_false_iff.2 fun hbracket => ?_
  have hc := isBracket_iff.1 hbracket
  simp only [List.mem_cons, List.not_mem_nil, or_false] at hc
  rcases hc with rfl | rfl | rfl | rfl <;> exact absurd h (by decide)

theorem isBracket_hintText (hhint : ∀ h ∈ hint, h ∈ typeHints) :
    ∀ c ∈ hintText hint, isBracket c = false := by
  have hknown : ∀ h ∈ typeHints, (hintText (some h)).any isBracket = false := by decide
  cases hint with
  | none => nofun
  | some h => simpa using hknown h (hhint h rfl)

/-- A reference is a group that the reader takes apart into its hint and its name. -/
theorem isReference_iff :
    IsReference s hint name ↔
      IsGroup .round (hintText hint ++ '-' :: '-' :: name) s ∧
        Hinted (hintText hint ++ '-' :: '-' :: name) hint ('-' :: '-' :: name) ∧
        isCustomPropertyName ('-' :: '-' :: name) = true := by
  constructor
  · rintro ⟨rfl, hhint, hne, hchars⟩
    have hname : ∀ c ∈ '-' :: '-' :: name, isAsciiAlphanumeric c ∨ c = '-' ∨ c = '_' := by
      simpa using hchars
    refine ⟨⟨rfl, nested_of_forall_not_isBracket fun c hc => ?_⟩, ?_,
      isCustomPropertyName_iff.2 ⟨name, rfl, hne, hchars⟩⟩
    · rcases List.mem_append.1 hc with hc | hc
      · exact isBracket_hintText hhint c hc
      · exact isBracket_of_nameChar (hname c hc)
    · cases hint with
      | some h => exact .hint (hhint h rfl) rfl
      | none =>
        -- Without a hint there is no colon at all.
        refine .plain fun h _ rest heq => ?_
        have hcolon : ':' ∈ '-' :: '-' :: name := by
          change '-' :: '-' :: name = _ at heq
          simp [heq, hintText]
        exact absurd (hname ':' hcolon) (by decide)
  · rintro ⟨⟨heq, -⟩, hhint, hname⟩
    obtain ⟨_, hcons, hne, hchars⟩ := isCustomPropertyName_iff.1 hname
    obtain rfl : name = _ := (List.cons.inj (List.cons.inj hcons).2).2
    refine ⟨heq, fun h hh => ?_, hne, hchars⟩
    cases hhint with
    | hint hmem => exact Option.some.inj hh ▸ hmem
    | plain => cases hh

theorem readCustomProperty?_of_isReference (h : IsReference s hint name) :
    readCustomProperty? s = some (customProperty hint (String.ofList ('-' :: '-' :: name))) := by
  obtain ⟨hgroup, hhint, hname⟩ := isReference_iff.1 h
  have hblank : isBlank (hintText hint ++ '-' :: '-' :: name) = false :=
    List.all_eq_false.2 ⟨'-', by simp, by decide⟩
  have henclosed : enclosed? s = some (hintText hint ++ '-' :: '-' :: name) :=
    (enclosed?_eq_some_iff .round ((isGroup_iff .round).1 hgroup).1).2 ⟨hgroup, hblank⟩
  simp [readCustomProperty?, henclosed, takeHint_eq_iff.2 hhint, hname]

theorem isReference_of_readCustomProperty? (hs : s.head? = some '(')
    (h : readCustomProperty? s = some f) : ∃ hint name, IsReference s hint name := by
  obtain ⟨inner, henclosed, h⟩ := Option.bind_eq_some_iff.1 h
  obtain ⟨hgroup, -⟩ := (enclosed?_eq_some_iff .round hs).1 henclosed
  split at h
  next hint content hhint =>
  split at h
  · next hname =>
    rw [takeHint_eq_iff] at hhint
    obtain ⟨name, rfl, -⟩ := isCustomPropertyName_iff.1 hname
    have hinner : inner = hintText hint ++ '-' :: '-' :: name := by
      cases hhint with
      | hint _ heq => exact heq
      | plain => rfl
    exact ⟨hint, name, isReference_iff.2 ⟨hinner ▸ hgroup, hinner ▸ hhint, hname⟩⟩
  · cases h

/-! ## The reader -/

theorem eq_preset_of_isKey (h : read? s = some f) (hs : IsKey s) :
    f = preset (UtilityStyle.isNumeric s) :=
  Option.some.inj (h.symm.trans (read?_of_isKey hs))

theorem read?_of_isBracketed (h : IsBracketed s hint content) :
    ∃ form kept, read? s = some (arbitrary hint form kept) := by
  obtain ⟨inner, ⟨rfl, -⟩, -⟩ := h.inside
  exact readArbitrary?_of_isBracketed h

theorem eq_arbitrary_of_isBracketed (h : read? s = some f) (hs : IsBracketed s hint content) :
    ∃ form kept, f = arbitrary hint form kept := by
  obtain ⟨form, kept, hread⟩ := read?_of_isBracketed hs
  exact ⟨form, kept, Option.some.inj (h.symm.trans hread)⟩

theorem read?_of_isReference (h : IsReference s hint name) :
    read? s = some (customProperty hint (String.ofList ('-' :: '-' :: name))) := by
  obtain rfl := h.eq_append
  exact readCustomProperty?_of_isReference h

theorem eq_customProperty_of_isReference (h : read? s = some f) (hs : IsReference s hint name) :
    f = customProperty hint (String.ofList ('-' :: '-' :: name)) :=
  Option.some.inj (h.symm.trans (read?_of_isReference hs))

/-- What the reader accepts has one of the three grammars. -/
theorem cases_of_read? (h : read? s = some f) :
    IsKey s ∨ (∃ hint content, IsBracketed s hint content) ∨
      ∃ hint name, IsReference s hint name := by
  unfold read? at h
  split at h
  · next hs => exact .inr (.inl (isBracketed_of_readArbitrary? hs h))
  · next hs => exact .inr (.inr (isReference_of_readCustomProperty? hs h))
  · split at h
    · cases h
    · next hs => exact .inl (any_isBracket_eq_false_iff.1 (Bool.eq_false_iff.2 hs))

/-- A text has content exactly if it is no key. -/
theorem isSome_content?_iff (h : read? s = some f) : f.content?.isSome ↔ ¬IsKey s := by
  constructor
  · intro hcontent hs
    rw [eq_preset_of_isKey h hs] at hcontent
    cases hcontent
  · intro hs
    rcases cases_of_read? h with hs' | ⟨_, _, hs'⟩ | ⟨_, _, hs'⟩
    · exact absurd hs' hs
    · obtain ⟨form, kept, rfl⟩ := eq_arbitrary_of_isBracketed h hs'
      rfl
    · rw [eq_customProperty_of_isReference h hs']
      rfl

theorem isPreset_of_isNumeric (h : f.isNumeric = true) : f.isPreset = true := by
  cases f with
  | preset _ => rfl
  | arbitrary => cases h
  | customProperty => cases h

/-- **The grammar of fragments.**  A text is a fragment exactly if it is a key, bracketed content
    or a reference to a custom property.  A key counts as nothing but a preset, which alone may be
    a number and has no content; bracketed content counts as nothing but arbitrary; a reference
    counts as a custom property, and as arbitrary too behind a type hint. -/
theorem read?_grammar (s : List Char) :
    ((read? s).isSome ↔
      IsKey s ∨ (∃ hint content, IsBracketed s hint content) ∨
        ∃ hint name, IsReference s hint name) ∧
    ∀ f, read? s = some f →
      (IsKey s → (f.isPreset, f.isArbitrary, f.isCustomProperty) = (true, false, false)) ∧
      (∀ hint content, IsBracketed s hint content →
        (f.isPreset, f.isArbitrary, f.isCustomProperty) = (false, true, false)) ∧
      (∀ hint name, IsReference s hint name →
        (f.isPreset, f.isArbitrary, f.isCustomProperty) = (false, hint.isSome, true)) ∧
      (f.content?.isSome ↔ ¬IsKey s) ∧
      (f.isNumeric = true → f.isPreset = true) := by
  constructor
  · constructor
    · intro h
      obtain ⟨f, hf⟩ := Option.isSome_iff_exists.1 h
      exact cases_of_read? hf
    · rintro (hs | ⟨hint, content, hs⟩ | ⟨hint, name, hs⟩)
      · exact Option.isSome_of_mem (read?_of_isKey hs)
      · obtain ⟨form, kept, hread⟩ := read?_of_isBracketed hs
        exact Option.isSome_of_mem hread
      · exact Option.isSome_of_mem (read?_of_isReference hs)
  · intro f hf
    refine ⟨fun hs => ?_, fun hint content hs => ?_, fun hint name hs => ?_,
      isSome_content?_iff hf, isPreset_of_isNumeric⟩
    · rw [eq_preset_of_isKey hf hs]
      rfl
    · obtain ⟨form, kept, rfl⟩ := eq_arbitrary_of_isBracketed hf hs
      rfl
    · rw [eq_customProperty_of_isReference hf hs]
      rfl

/-- Stray brackets, a hint with nothing behind it and a call of nothing are no fragments. -/
example : ["[(x])", "[a]b]", "[length:]", "[var()]", "(--)", "(name:--x)", "a]"].all
    (fun s => (read? s.toList).isNone) = true := by decide +kernel

end Fragment

end UtilityStyle
