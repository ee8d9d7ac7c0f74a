/-
  Tokens and the text that they are read from.

  * `takeToken_suffix`: a token takes the front of a text;
  * `tokensOf_space_cons`, `tokensOf_append_space`, `tokensOf_trim`: spaces at the ends of a text
    count for nothing;
  * `tokensOf_call`: a name before a parenthesis is a function.

  Texts have no backslashes here, and so no escapes.
-/
import Mathlib.Data.List.DropRight
import UtilityStyle.Css.Token
import UtilityStyle.Proofs.Text.Pieces

namespace UtilityStyle.Css

open Number Text

variable {s : List Char}

/-! ## Names without escapes -/

/-- The character that a name holds for the one that was written. -/
def nameChar (c : Char) : Char := if c = '\x00' then replacement else c

/-- Without escapes a name is the longest run of its characters. -/
theorem takeName_of_no_escape (hs : '\\' ∉ s) :
    takeName s = ((s.takeWhile isNameChar).map nameChar, s.dropWhile isNameChar) := by
  induction s with
  | nil =>
    rw [takeName]
    rfl
  | cons c s ih =>
    have hc : c ≠ '\\' := fun hc => hs (hc ▸ List.mem_cons_self)
    rw [takeName.eq_3 _ _ hc, ih fun hmem => hs (List.mem_cons_of_mem _ hmem),
      List.takeWhile_cons, List.dropWhile_cons]
    split <;> rfl

/-! ## The end of the text -/

theorem takeSign_suffix (s : List Char) : (takeSign s).2 <:+ s := by
  unfold takeSign
  split
  · exact List.suffix_cons _ _
  · exact List.suffix_cons _ _
  · exact List.suffix_refl _

theorem takeDigits_suffix (s : List Char) : (takeDigits s).2 <:+ s := List.dropWhile_suffix _

theorem takeFraction_suffix (s : List Char) : (takeFraction s).2 <:+ s := by
  unfold takeFraction
  split
  · split
    · exact List.suffix_refl _
    · exact (takeDigits_suffix _).trans (List.suffix_cons _ _)
  · exact List.suffix_refl _

theorem takeExponent_suffix (s : List Char) : (takeExponent s).2 <:+ s := by
  cases s with
  | nil => exact List.suffix_refl _
  | cons c r =>
    simp only [takeExponent]
    split
    · exact ((takeDigits_suffix _).trans (takeSign_suffix r)).trans (List.suffix_cons _ _)
    · exact List.suffix_refl _

/-- A number takes its sign, its digits and its exponent. -/
theorem takeNumber_snd (s : List Char) :
    (takeNumber s).2 = (takeExponent (takeFraction (takeDigits (takeSign s).2).2).2).2 := by
  simp only [takeNumber]
  rcases takeExponent (takeFraction (takeDigits (takeSign s).2).2).2 with ⟨_ | k, rest⟩ <;> rfl

theorem takeNumber_suffix (s : List Char) : (takeNumber s).2 <:+ s := by
  rw [takeNumber_snd]
  exact (takeExponent_suffix _).trans ((takeFraction_suffix _).trans
    ((takeDigits_suffix _).trans (takeSign_suffix s)))

theorem takeName_suffix (hs : '\\' ∉ s) : (takeName s).2 <:+ s := by
  rw [takeName_of_no_escape hs]
  exact List.dropWhile_suffix _

theorem takeNumeric_suffix (hs : '\\' ∉ s) : (takeNumeric s).2 <:+ s := by
  have hnumber := takeNumber_suffix s
  have hrest : '\\' ∉ (takeNumber s).2 := fun hmem => hs (hnumber.subset hmem)
  simp only [takeNumeric]
  split
  · next heq =>
    rw [heq] at hnumber
    exact (List.suffix_cons _ _).trans hnumber
  · split
    · exact (takeName_suffix hrest).trans hnumber
    · exact hnumber

theorem takeNamed_suffix (hs : '\\' ∉ s) : (takeNamed s).2 <:+ s := by
  have hname := takeName_suffix hs
  simp only [takeNamed]
  split
  · next heq =>
    rw [heq] at hname
    exact (List.suffix_cons _ _).trans hname
  · exact hname

/-- **A token takes the front** of the text. -/
theorem takeToken_suffix {c : Char} {r : List Char} (hs : '\\' ∉ c :: r) :
    (takeToken c r).2 <:+ c :: r := by
  have hr : '\\' ∉ r := fun hmem => hs (List.mem_cons_of_mem _ hmem)
  rw [takeToken]
  split
  · exact takeNumeric_suffix hs
  · split
    · exact takeNamed_suffix hs
    · split
      · exact (takeName_suffix hr).trans (List.suffix_cons _ _)
      · exact List.suffix_cons _ _

/-! ## A space at the end

Nothing that a token begins with looks past the space, so each step of the scanner leaves it. -/

theorem takeWhile_append_space {p : Char → Bool} (hp : p ' ' = false) (s : List Char) :
    (s ++ [' ']).takeWhile p = s.takeWhile p := by
  induction s with
  | nil => simp [hp]
  | cons c s ih => rw [List.cons_append, List.takeWhile_cons, List.takeWhile_cons, ih]

theorem dropWhile_append_space {p : Char → Bool} (hp : p ' ' = false) (s : List Char) :
    (s ++ [' ']).dropWhile p = s.dropWhile p ++ [' '] := by
  induction s with
  | nil => simp [hp]
  | cons c s ih =>
    rw [List.cons_append, List.dropWhile_cons, List.dropWhile_cons, ih]
    split <;> rfl

section
variable (s : List Char)

theorem takeSign_append_space :
    takeSign (s ++ [' ']) = ((takeSign s).1, (takeSign s).2 ++ [' ']) := by
  cases s with
  | nil => rfl
  | cons c r =>
    by_cases hminus : c = '-'
    · subst hminus
      rfl
    · by_cases hplus : c = '+'
      · subst hplus
        rfl
      · simp [takeSign, hminus, hplus]

theorem takeDigits_append_space :
    takeDigits (s ++ [' ']) = ((takeDigits s).1, (takeDigits s).2 ++ [' ']) := by
  rw [takeDigits, takeWhile_append_space rfl, dropWhile_append_space rfl]
  rfl

theorem takeFraction_append_space :
    takeFraction (s ++ [' ']) = ((takeFraction s).1, (takeFraction s).2 ++ [' ']) := by
  cases s with
  | nil => rfl
  | cons c r =>
    by_cases hpoint : c = '.'
    · subst hpoint
      rw [List.cons_append, takeFraction, takeFraction, takeDigits_append_space]
      split <;> rfl
    · simp [takeFraction, hpoint]

theorem takeExponent_append_space :
    takeExponent (s ++ [' ']) = ((takeExponent s).1, (takeExponent s).2 ++ [' ']) := by
  cases s with
  | nil => decide
  | cons c r =>
    simp only [takeExponent, List.cons_append, takeSign_append_space, takeDigits_append_space]
    split <;> rfl

theorem takeNumber_append_space :
    takeNumber (s ++ [' ']) = ((takeNumber s).1, (takeNumber s).2 ++ [' ']) := by
  simp only [takeNumber, takeSign_append_space, takeDigits_append_space,
    takeFraction_append_space, takeExponent_append_space]
  rcases takeExponent (takeFraction (takeDigits (takeSign s).2).2).2 with ⟨_ | k, rest⟩ <;> rfl

theorem startsNumber_append_space : startsNumber (s ++ [' ']) = startsNumber s := by
  rw [startsNumber, startsNumber, takeSign_append_space]
  rcases (takeSign s).2 with _ | ⟨c, _ | ⟨d, r⟩⟩
  · rfl
  · by_cases hpoint : c = '.'
    · subst hpoint
      rfl
    · simp [hpoint]
  · by_cases hpoint : c = '.'
    · subst hpoint
      rfl
    · simp [hpoint]

theorem isEscape_append_space : isEscape (s ++ [' ']) = isEscape s := by
  cases s <;> rfl

theorem startsName_append_space : startsName (s ++ [' ']) = startsName s := by
  rcases s with _ | ⟨c, _ | ⟨d, r⟩⟩
  · rfl
  · by_cases hslash : c = '\\'
    · subst hslash
      rfl
    · by_cases hdash : c = '-'
      · subst hdash
        rfl
      · simp [startsName, hdash]
  · by_cases hslash : c = '\\'
    · subst hslash
      exact isEscape_append_space (d :: r)
    · by_cases hdash : c = '-'
      · subst hdash
        by_cases hescape : d = '\\'
        · subst hescape
          exact isEscape_append_space r
        · simp [startsName]
      · simp [startsName, hdash]

theorem startsHash_append_space : startsHash (s ++ [' ']) = startsHash s := by
  rw [startsHash, startsHash, startsName_append_space]
  cases s <;> rfl

end

section
variable (hs : '\\' ∉ s)
include hs

theorem takeName_append_space :
    takeName (s ++ [' ']) = ((takeName s).1, (takeName s).2 ++ [' ']) := by
  rw [takeName_of_no_escape (by simpa using hs), takeName_of_no_escape hs,
    takeWhile_append_space rfl, dropWhile_append_space rfl]

theorem takeNumeric_append_space :
    takeNumeric (s ++ [' ']) = ((takeNumeric s).1, (takeNumeric s).2 ++ [' ']) := by
  have hrest : '\\' ∉ (takeNumber s).2 := fun hmem => hs ((takeNumber_suffix s).subset hmem)
  simp only [takeNumeric, takeNumber_append_space]
  cases hr : (takeNumber s).2 with
  | nil => rfl
  | cons c r =>
    rw [hr] at hrest
    by_cases hpercent : c = '%'
    · subst hpercent
      rfl
    · have hstart := startsName_append_space (c :: r)
      have hname := takeName_append_space hrest
      rw [List.cons_append] at hstart hname
      simp only [List.cons_append, List.cons.injEq, hpercent, false_and, imp_self, implies_true,
        hstart, hname]
      split <;> rfl

theorem takeNamed_append_space :
    takeNamed (s ++ [' ']) = ((takeNamed s).1, (takeNamed s).2 ++ [' ']) := by
  rw [takeNamed, takeNamed, takeName_append_space hs]
  cases (takeName s).2 with
  | nil => rfl
  | cons c r =>
    by_cases hround : c = '('
    · subst hround
      rfl
    · simp [hround]

theorem takeToken_append_space {c : Char} (hc : c ≠ '\\') :
    takeToken c (s ++ [' ']) = ((takeToken c s).1, (takeToken c s).2 ++ [' ']) := by
  have hcons : '\\' ∉ c :: s := by simp [hs, hc.symm]
  have hnumber := startsNumber_append_space (c :: s)
  have hname := startsName_append_space (c :: s)
  rw [List.cons_append] at hnumber hname
  rw [takeToken, takeToken, hnumber, hname, startsHash_append_space, takeName_append_space hs]
  split
  · exact takeNumeric_append_space hcons
  · split
    · exact takeNamed_append_space hcons
    · split <;> rfl

end

/-! ## White space between tokens -/

/-- Another character that begins a text with a space at its end begins the text itself. -/
theorem exists_cons_of_append_space {d : Char} {r t : List Char} (hd : d ≠ ' ')
    (h : r ++ [' '] = d :: t) : ∃ t, r = d :: t := by
  cases r with
  | nil => exact absurd (List.cons.inj h).1.symm hd
  | cons e r => exact ⟨r, congrArg (· :: r) (List.cons.inj h).1⟩

/-- A comment ends before the space, or it is left open in both texts. -/
theorem skipComment_append_space (s : List Char) :
    skipComment (s ++ [' ']) = skipComment s ++ [' '] ∨
      skipComment (s ++ [' ']) = [] ∧ skipComment s = [] := by
  fun_induction skipComment s with
  | case1 => exact .inr ⟨rfl, rfl⟩
  | case2 r => exact .inl rfl
  | case3 c r hne ih =>
    have hopen : ∀ t, c = '*' → r ++ [' '] = '/' :: t → False := by
      intro t hc hr
      obtain ⟨t, hr⟩ := exists_cons_of_append_space (by decide) hr
      exact hne t hc hr
    rw [List.cons_append, skipComment.eq_3 _ _ hopen]
    exact ih

theorem skipBlank_append_space (s : List Char) :
    skipBlank (s ++ [' ']) = if skipBlank s = [] then [] else skipBlank s ++ [' '] := by
  have hmark {c : Char} {r : List Char} (hne : ∀ t, c = '/' → r = '*' :: t → False) :
      ∀ t, c = '/' → r ++ [' '] = '*' :: t → False := by
    intro t hc hr
    obtain ⟨t, hr⟩ := exists_cons_of_append_space (by decide) hr
    exact hne t hc hr
  fun_induction skipBlank s with
  | case1 => decide +kernel
  | case2 r ih =>
    rw [List.cons_append, List.cons_append, skipBlank]
    rcases skipComment_append_space r with hclosed | ⟨hopen, hrest⟩
    · rw [hclosed, ih]
    · rw [hopen, hrest, skipBlank]
      rfl
  | case3 c r hne hblank ih =>
    rw [List.cons_append, skipBlank.eq_3 _ _ (hmark hne), if_pos hblank, ih]
  | case4 c r hne hblank =>
    rw [List.cons_append, skipBlank.eq_3 _ _ (hmark hne), if_neg hblank,
      if_neg (List.cons_ne_nil c r)]

theorem skipComment_suffix (s : List Char) : skipComment s <:+ s := by
  fun_induction skipComment s with
  | case1 => exact List.suffix_refl _
  | case2 r => exact (List.suffix_cons _ _).trans (List.suffix_cons _ _)
  | case3 c r _ ih => exact ih.trans (List.suffix_cons _ _)

theorem skipBlank_suffix (s : List Char) : skipBlank s <:+ s := by
  fun_induction skipBlank s with
  | case1 => exact List.suffix_refl _
  | case2 r ih =>
    exact (ih.trans (skipComment_suffix r)).trans
      ((List.suffix_cons _ _).trans (List.suffix_cons _ _))
  | case3 c r _ _ ih => exact ih.trans (List.suffix_cons _ _)
  | case4 c r => exact List.suffix_refl _

/-! ## Tokens -/

theorem tokensOf_of_nil (h : skipBlank s = []) : tokensOf s = [] := by
  rw [tokensOf]
  split
  · rfl
  · next heq =>
    rw [h] at heq
    cases heq

theorem tokensOf_of_cons {c : Char} {r : List Char} (h : skipBlank s = c :: r) :
    tokensOf s = (takeToken c r).1 :: tokensOf (takeToken c r).2 := by
  rw [tokensOf]
  split
  · next heq =>
    rw [h] at heq
    cases heq
  · next heq =>
    rw [h] at heq
    obtain ⟨rfl, rfl⟩ := List.cons.inj heq
    rfl

/-- What holds for the tokens of a text is shown token by token. -/
theorem tokensOf_induction {motive : List Char → Prop} (s : List Char) (hs : '\\' ∉ s)
    (nil : ∀ s, '\\' ∉ s → skipBlank s = [] → motive s)
    (cons : ∀ s c r, '\\' ∉ c :: r → c :: r <:+ s → skipBlank s = c :: r →
      motive (takeToken c r).2 → motive s) :
    motive s := by
  induction hn : s.length using Nat.strongRecOn generalizing s with
  | ind n ih =>
    subst hn
    cases hblank : skipBlank s with
    | nil => exact nil s hs hblank
    | cons c r =>
      have hsuffix := skipBlank_suffix s
      rw [hblank] at hsuffix
      have hcr : '\\' ∉ c :: r := fun hmem => hs (hsuffix.subset hmem)
      have hrest := takeToken_suffix hcr
      refine cons s c r hcr hsuffix hblank (ih _ ?_ _ (fun hmem => hcr (hrest.subset hmem)) rfl)
      exact Nat.lt_of_le_of_lt (length_takeToken_le c r) hsuffix.length_le

theorem tokensOf_space_cons (s : List Char) : tokensOf (' ' :: s) = tokensOf s := by
  have hblank : skipBlank (' ' :: s) = skipBlank s := by
    rw [skipBlank.eq_3 _ _ (by simp)]
    rfl
  cases hs : skipBlank s with
  | nil => rw [tokensOf_of_nil (hblank.trans hs), tokensOf_of_nil hs]
  | cons c r => rw [tokensOf_of_cons (hblank.trans hs), tokensOf_of_cons hs]

theorem tokensOf_append_space (hs : '\\' ∉ s) : tokensOf (s ++ [' ']) = tokensOf s := by
  refine tokensOf_induction (motive := fun s => tokensOf (s ++ [' ']) = tokensOf s) s hs ?_ ?_
  · intro s _ hblank
    rw [tokensOf_of_nil hblank]
    exact tokensOf_of_nil (by rw [skipBlank_append_space, if_pos hblank])
  · intro s c r hcr _ hblank ih
    have happend : skipBlank (s ++ [' ']) = c :: (r ++ [' ']) := by
      rw [skipBlank_append_space, hblank]
      rfl
    rw [tokensOf_of_cons happend, tokensOf_of_cons hblank,
      takeToken_append_space (fun hmem => hcr (List.mem_cons_of_mem _ hmem))
        (fun hc => hcr (hc ▸ List.mem_cons_self)), ih]

/-- **Spaces at the ends** of a text count for nothing. -/
theorem tokensOf_trim (hs : '\\' ∉ s) (hspace : ∀ c ∈ s, isSpace c = true → c = ' ') :
    tokensOf (trim s) = tokensOf s := by
  have hfront : ∀ t : List Char, (∀ c ∈ t, isSpace c = true → c = ' ') →
      tokensOf (t.dropWhile isSpace) = tokensOf t := by
    intro t ht
    induction t with
    | nil => rfl
    | cons c t ih =>
      obtain ⟨hc, hrest⟩ := List.forall_mem_cons.1 ht
      rw [List.dropWhile_cons]
      split
      · next h => rw [ih hrest, hc h, tokensOf_space_cons]
      · rfl
  have hback : ∀ t : List Char, '\\' ∉ t → (∀ c ∈ t, isSpace c = true → c = ' ') →
      tokensOf (t.rdropWhile isSpace) = tokensOf t := by
    intro t
    induction t using List.reverseRecOn with
    | nil => exact fun _ _ => rfl
    | append_singleton t c ih =>
      intro hplain ht
      rw [List.rdropWhile_concat]
      split
      · next h =>
        obtain rfl := ht c (by simp) h
        have hplain : '\\' ∉ t := fun hmem => hplain (List.mem_append_left _ hmem)
        rw [ih hplain fun d hd => ht d (List.mem_append_left _ hd), tokensOf_append_space hplain]
      · rfl
  have hsub : s.dropWhile isSpace ⊆ s := (List.dropWhile_suffix _).subset
  have htrim := hback (s.dropWhile isSpace) (fun hmem => hs (hsub hmem))
    fun c hc => hspace c (hsub hc)
  exact htrim.trans (hfront s hspace)

/-! ## Functions -/

section
variable {c : Char} (h : isAsciiLetter c = true)
include h

theorem ne_of_isAsciiLetter {d : Char} (hd : isAsciiLetter d = false) : c ≠ d := by
  rintro rfl
  rw [h] at hd
  cases hd

theorem isDigit_of_isAsciiLetter : c.isDigit = false := by
  -- The digits come before the letters of either case.
  have hdigit : ¬c ≤ '9' := by
    intro hle
    rcases (Bool.or_eq_true_iff.1 h : c.isUpper = true ∨ c.isLower = true) with hupper | hlower
    · have hge : 'A' ≤ c := (of_decide_eq_true hupper).1
      exact absurd (Char.le_trans hge hle) (by decide)
    · have hge : 'a' ≤ c := of_decide_eq_true (Bool.and_eq_true_iff.1 hlower).1
      exact absurd (Char.le_trans hge hle) (by decide)
  exact Bool.and_eq_false_iff.2 (.inr (decide_eq_false hdigit))

theorem startsNumber_of_isAsciiLetter (r : List Char) : startsNumber (c :: r) = false := by
  have hsign : takeSign (c :: r) = (false, c :: r) := by
    simp [takeSign, ne_of_isAsciiLetter h (d := '-') rfl, ne_of_isAsciiLetter h (d := '+') rfl]
  rw [startsNumber, hsign]
  simp [ne_of_isAsciiLetter h (d := '.') rfl, isDigit_of_isAsciiLetter h]

theorem startsName_of_isAsciiLetter (r : List Char) : startsName (c :: r) = true := by
  unfold startsName
  split
  · next heq => exact absurd (List.cons.inj heq).1 (ne_of_isAsciiLetter h rfl)
  · next heq => exact absurd (List.cons.inj heq).1 (ne_of_isAsciiLetter h rfl)
  · next heq => exact absurd (List.cons.inj heq).1 (ne_of_isAsciiLetter h rfl)
  · next heq =>
    obtain ⟨rfl, -⟩ := List.cons.inj heq
    simp [isNameStart, h]
  · next heq => cases heq

theorem skipBlank_of_isAsciiLetter (r : List Char) : skipBlank (c :: r) = c :: r := by
  have hne : ∀ d, isAsciiLetter d = false → c ≠ d := fun _ hd => ne_of_isAsciiLetter h hd
  have hblank : isBlankChar c = false := by
    simp [isBlankChar, isNewline, hne ' ' rfl, hne '\t' rfl, hne '\n' rfl, hne '\r' rfl,
      hne '\x0c' rfl]
  rw [skipBlank.eq_3 _ _ fun _ hc => absurd hc (hne '/' rfl), hblank]
  rfl

end

/-- A name of letters ends at a parenthesis. -/
theorem takeName_append_round {name r : List Char} (hname : ∀ c ∈ name, isAsciiLetter c = true)
    (hr : '\\' ∉ r) : takeName (name ++ '(' :: r) = (name, '(' :: r) := by
  have hplain : '\\' ∉ name ++ '(' :: r := by
    simpa [hr] using fun hmem => ne_of_isAsciiLetter (hname _ hmem) (d := '\\') rfl rfl
  have hchars : ∀ c ∈ name, isNameChar c = true := fun c hc => by
    simp [isNameChar, isNameStart, hname c hc]
  have hkept : name.map nameChar = name := by
    refine (List.map_congr_left fun c hc => ?_).trans (List.map_id name)
    exact if_neg (ne_of_isAsciiLetter (hname c hc) rfl)
  rw [takeName_of_no_escape hplain, List.takeWhile_append_of_pos hchars,
    List.dropWhile_append_of_pos hchars, List.takeWhile_cons, List.dropWhile_cons,
    show isNameChar '(' = false from rfl, if_neg Bool.false_ne_true, if_neg Bool.false_ne_true,
    List.append_nil, hkept]

/-- **A name before a parenthesis** is a function. -/
theorem tokensOf_call {name r : List Char} (hne : name ≠ [])
    (hname : ∀ c ∈ name, isAsciiLetter c = true) (hr : '\\' ∉ r) :
    tokensOf (name ++ '(' :: r) = .function (String.ofList name) :: tokensOf r := by
  have htake := takeName_append_round hname hr
  obtain ⟨c, name, rfl⟩ := List.exists_cons_of_ne_nil hne
  have hc := hname c List.mem_cons_self
  rw [List.cons_append] at htake ⊢
  rw [tokensOf_of_cons (skipBlank_of_isAsciiLetter hc _), takeToken,
    startsNumber_of_isAsciiLetter hc, startsName_of_isAsciiLetter hc, if_neg Bool.false_ne_true,
    if_pos rfl, takeNamed, htake]
  rfl

end UtilityStyle.Css
