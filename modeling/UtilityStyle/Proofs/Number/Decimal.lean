/-
  Decimal numbers against their spellings.

  * `Padded n digits`: the decimal spelling of `n` behind any zeros.  `padded_iff`: every run of
    digits is that of its value;
  * `SpellsNat n text`: this, with a plus sign in front or without.  `readNat?_eq_some_iff`: these
    are the texts that are read as `n`;
  * `Numeral digit whole fraction text`: a run of digits, with a point and a second run or without.
    `readSingle?_of_numeral`: in ASCII digits it is read as its decimal value;
  * `ascii_of_readSingle?`: nothing outside ASCII is ever read.
-/
import Mathlib.Data.List.Induction
import UtilityStyle.Number.Decimal
import UtilityStyle.Text.Charset

namespace UtilityStyle.Number

/-! ## Digits -/

/-- The digits are the decimal spelling of a number behind any zeros. -/
def Padded (n : Nat) (digits : List Char) : Prop :=
  ∃ zeros, digits = List.replicate zeros '0' ++ Nat.toDigits 10 n

/-- A run of digits, which is not empty. -/
def IsRun (digit : Char → Bool) (s : List Char) : Prop := s ≠ [] ∧ ∀ c ∈ s, digit c = true

theorem digitsValue_concat (digits : List Char) (c : Char) :
    digitsValue (digits ++ [c]) = 10 * digitsValue digits + (c.toNat - '0'.toNat) := by
  rw [digitsValue, List.foldl_append]
  rfl

/-- Zeros in front do not count. -/
theorem Padded.digitsValue_eq {n : Nat} {digits : List Char} (h : Padded n digits) :
    digitsValue digits = n := by
  obtain ⟨zeros, rfl⟩ := h
  have hcore (s : List Char) : digitsValue s = Nat.ofDigitChars 10 s 0 :=
    Nat.ofDigitChars_eq_foldl.symm
  rw [hcore, Nat.ofDigitChars_append, Nat.ofDigitChars_replicate_zero, Nat.mul_zero,
    Nat.ofDigitChars_toDigits (by decide) (by decide)]

theorem Padded.isRun {n : Nat} {digits : List Char} (h : Padded n digits) :
    IsRun Char.isDigit digits := by
  obtain ⟨zeros, rfl⟩ := h
  refine ⟨List.append_ne_nil_of_right_ne_nil _ Nat.toDigits_ne_nil, fun c hc => ?_⟩
  rcases List.mem_append.1 hc with hc | hc
  · rw [List.eq_of_mem_replicate hc]
    rfl
  · exact Nat.isDigit_of_mem_toDigits (by decide) (by decide) hc

/-- An ASCII digit is the digit of its own value. -/
theorem exists_digitChar_of_isDigit {c : Char} (h : c.isDigit = true) :
    ∃ d < 10, c = Nat.digitChar d ∧ c.toNat - '0'.toNat = d := by
  obtain ⟨hlo, hhi⟩ := Char.isDigit_iff_toNat.1 h
  have hzero : '0'.toNat = 48 := rfl
  have hnine : '9'.toNat = 57 := rfl
  rw [hzero] at hlo
  rw [hnine] at hhi
  have hd : c.toNat - 48 < 10 := by omega
  refine ⟨c.toNat - 48, hd, ?_, rfl⟩
  rw [← Char.toNat_inj, Nat.toNat_digitChar_of_lt_ten hd]
  omega

theorem padded_digitsValue {digits : List Char} (h : IsRun Char.isDigit digits) :
    Padded (digitsValue digits) digits := by
  obtain ⟨hne, hall⟩ := h
  induction digits using List.reverseRecOn with
  | nil => exact absurd rfl hne
  | append_singleton front c ih =>
    obtain ⟨d, hd, rfl, hvalue⟩ := exists_digitChar_of_isDigit (hall c (by simp))
    rw [digitsValue_concat, hvalue, ← Nat.toDigits_of_lt_base hd]
    by_cases hfront : front = []
    · subst hfront
      exact ⟨0, by simp [digitsValue]⟩
    · obtain ⟨zeros, hzeros⟩ := ih hfront fun c hc => hall c (List.mem_append_left _ hc)
      generalize digitsValue front = n at hzeros
      rcases Nat.eq_zero_or_pos n with rfl | hpos
      · -- the front spells zero, so its last digit is one more zero
        refine ⟨zeros + 1, ?_⟩
        rw [hzeros, Nat.toDigits_zero, List.replicate_succ', Nat.mul_zero, Nat.zero_add]
      · refine ⟨zeros, ?_⟩
        rw [hzeros, List.append_assoc, Nat.toDigits_append_toDigits (by decide) hpos hd]

/-- **A run of digits spells its value**, and no other number. -/
theorem padded_iff {n : Nat} {digits : List Char} :
    Padded n digits ↔ IsRun Char.isDigit digits ∧ digitsValue digits = n := by
  constructor
  · exact fun h => ⟨h.isRun, h.digitsValue_eq⟩
  · rintro ⟨hrun, rfl⟩
    exact padded_digitsValue hrun

/-! ## Whole numbers -/

/-- The text spells a whole number. -/
inductive SpellsNat (n : Nat) : List Char → Prop
  | plain {digits : List Char} : Padded n digits → SpellsNat n digits
  | plus {digits : List Char} : Padded n digits → SpellsNat n ('+' :: digits)

/-- A sign is no digit. -/
theorem not_isRun_of_head {digit : Char → Bool} {c : Char} {r : List Char}
    (hc : digit c = false) : ¬IsRun digit (c :: r) := by
  rintro ⟨-, hall⟩
  rw [hall c (by simp)] at hc
  cases hc

/-- No text spells two numbers. -/
theorem SpellsNat.unique {m n : Nat} {s : List Char} (hm : SpellsNat m s) (hn : SpellsNat n s) :
    m = n := by
  have hplus {k : Nat} {r : List Char} : ¬Padded k ('+' :: r) :=
    fun h => not_isRun_of_head rfl h.isRun
  rcases hm with hm | hm
  · rcases hn with hn | hn
    · exact hm.digitsValue_eq.symm.trans hn.digitsValue_eq
    · exact absurd hm hplus
  · rcases hn with hn | hn
    · exact absurd hn hplus
    · exact hm.digitsValue_eq.symm.trans hn.digitsValue_eq

/-- **A whole number is read from its spellings** and from nothing else. -/
theorem readNat?_eq_some_iff {bits n : Nat} {s : List Char} :
    readNat? bits s = some n ↔ SpellsNat n s ∧ n < Nat.pow 2 bits := by
  have hdigits (digits : List Char) :
      (if digits ≠ [] ∧ digits.all Char.isDigit ∧ digitsValue digits < Nat.pow 2 bits then
        some (digitsValue digits) else none) = some n ↔ Padded n digits ∧ n < Nat.pow 2 bits := by
    simp only [Option.ite_none_right_eq_some, Option.some.injEq, List.all_eq_true, padded_iff,
      IsRun]
    constructor
    · rintro ⟨⟨hne, hall, hlt⟩, rfl⟩
      exact ⟨⟨⟨hne, hall⟩, rfl⟩, hlt⟩
    · rintro ⟨⟨⟨hne, hall⟩, rfl⟩, hlt⟩
      exact ⟨⟨hne, hall, hlt⟩, rfl⟩
  unfold readNat?
  rw [hdigits]
  refine and_congr_left fun _ => ?_
  split
  · next r =>
    refine ⟨.plus, ?_⟩
    rintro (h | h)
    · exact absurd h.isRun (not_isRun_of_head rfl)
    · exact h
  · next hplus =>
    refine ⟨.plain, ?_⟩
    rintro (h | h)
    · exact h
    · exact absurd rfl (hplus _)

/-! ## Numbers with a point -/

/-- The text is a run of digits, with a point and a second run or without. -/
inductive Numeral (digit : Char → Bool) : List Char → List Char → List Char → Prop
  | whole {whole : List Char} : IsRun digit whole → Numeral digit whole [] whole
  | pointed {whole fraction : List Char} : IsRun digit whole → IsRun digit fraction →
    Numeral digit whole fraction (whole ++ '.' :: fraction)

section
variable {digit : Char → Bool} {digits whole fraction s : List Char}

/-- A run of digits is taken off in front of anything else. -/
theorem takeWhile_run (h : ∀ c ∈ digits, digit c = true) (rest : List Char)
    (hrest : ∀ c ∈ rest.head?, digit c = false) :
    (digits ++ rest).takeWhile digit = digits ∧ (digits ++ rest).dropWhile digit = rest := by
  have hfront : rest.takeWhile digit = [] ∧ rest.dropWhile digit = rest := by
    cases rest with
    | nil => exact ⟨rfl, rfl⟩
    | cons c r =>
      have hc : digit c = false := hrest c rfl
      exact ⟨List.takeWhile_cons_of_neg (by simp [hc]), List.dropWhile_cons_of_neg (by simp [hc])⟩
  rw [List.takeWhile_append_of_pos h, List.dropWhile_append_of_pos h, hfront.1, hfront.2,
    List.append_nil]
  exact ⟨rfl, rfl⟩

theorem takeDigits_append (h : ∀ c ∈ digits, c.isDigit = true) (rest : List Char)
    (hrest : ∀ c ∈ rest.head?, c.isDigit = false) :
    takeDigits (digits ++ rest) = (digits, rest) :=
  Prod.ext (takeWhile_run h rest hrest).1 (takeWhile_run h rest hrest).2

/-- **A numeral in ASCII digits is a decimal number.** -/
theorem readDecimal?_of_numeral (h : Numeral Char.isDigit whole fraction s) :
    readDecimal? s = some (ofDecimal (digitsValue (whole ++ fraction)) (-fraction.length)) := by
  cases h with
  | whole hwhole =>
    have htake := takeDigits_append hwhole.2 [] nofun
    rw [List.append_nil] at htake
    simp [readDecimal?, htake, hwhole.1, takeExponent]
  | pointed hwhole hfraction =>
    have hpoint : ∀ c ∈ ('.' :: fraction).head?, c.isDigit = false := by simp
    have htake := takeDigits_append hwhole.2 ('.' :: fraction) hpoint
    have htake' := takeDigits_append hfraction.2 [] nofun
    rw [List.append_nil] at htake'
    simp [readDecimal?, htake, htake', hwhole.1, takeExponent]

/-- A numeral has digits and points. -/
theorem Numeral.forall_mem (h : Numeral digit whole fraction s) :
    ∀ c ∈ s, digit c = true ∨ c = '.' := by
  intro c hc
  cases h with
  | whole hwhole => exact .inl (hwhole.2 c hc)
  | pointed hwhole hfraction =>
    rcases List.mem_append.1 hc with hc | hc
    · exact .inl (hwhole.2 c hc)
    · rcases List.mem_cons.1 hc with rfl | hc
      · exact .inr rfl
      · exact .inl (hfraction.2 c hc)

/-- Characters that are digits in another sense too make a numeral in that sense. -/
theorem Numeral.mono {digit' : Char → Bool} (h : Numeral digit whole fraction s)
    (hdigit : ∀ c ∈ s, digit c = true → digit' c = true) : Numeral digit' whole fraction s := by
  have hrun {run : List Char} (hrun : IsRun digit run) (hsub : run ⊆ s) : IsRun digit' run :=
    ⟨hrun.1, fun c hc => hdigit c (hsub hc) (hrun.2 c hc)⟩
  cases h with
  | whole hwhole => exact .whole (hrun hwhole (List.Subset.refl _))
  | pointed hwhole hfraction =>
    refine .pointed (hrun hwhole (List.subset_append_left _ _)) (hrun hfraction fun c hc => ?_)
    exact List.mem_append_right _ (List.mem_cons_of_mem _ hc)

/-- A numeral begins with a digit. -/
theorem Numeral.exists_head (h : Numeral digit whole fraction s) :
    ∃ c r, s = c :: r ∧ digit c = true := by
  have hrun : ∃ rest, IsRun digit whole ∧ s = whole ++ rest := by
    cases h with
    | whole hwhole => exact ⟨[], hwhole, (List.append_nil _).symm⟩
    | pointed hwhole hfraction => exact ⟨_, hwhole, rfl⟩
  obtain ⟨rest, ⟨hne, hall⟩, rfl⟩ := hrun
  obtain ⟨c, r, rfl⟩ := List.exists_cons_of_ne_nil hne
  exact ⟨c, r ++ rest, rfl, hall c (by simp)⟩

theorem isDigit_toLower {c : Char} (h : c.isDigit = true) : c.toLower.isDigit = true := by
  obtain ⟨d, hd, rfl, -⟩ := exists_digitChar_of_isDigit h
  have hall : ∀ d < 10, (Nat.digitChar d).toLower.isDigit = true := by decide
  exact hall d hd

/-- **A numeral in ASCII digits is read** as its decimal value. -/
theorem readSingle?_of_numeral (h : Numeral Char.isDigit whole fraction s) :
    readSingle? s = some (ofDecimal (digitsValue (whole ++ fraction)) (-fraction.length)) := by
  obtain ⟨c, r, rfl, hc⟩ := h.exists_head
  have hsign : takeSign (c :: r) = (false, c :: r) := by
    unfold takeSign
    split
    · next heq =>
      obtain ⟨rfl, -⟩ := List.cons.inj heq
      cases hc
    · next heq =>
      obtain ⟨rfl, -⟩ := List.cons.inj heq
      cases hc
    · rfl
  have hname (name : String) (hletters : ∀ d ∈ name.toList, d.isDigit = false) :
      String.ofList ((c :: r).map Char.toLower) ≠ name := by
    rintro rfl
    have hlower : c.toLower.isDigit = false := hletters _ (by simp)
    rw [isDigit_toLower hc] at hlower
    cases hlower
  have hmagnitude : readMagnitude? (c :: r) = readDecimal? (c :: r) := by
    have hspecial := not_or.2 ⟨hname "inf" (by decide), hname "infinity" (by decide)⟩
    rw [readMagnitude?, if_neg hspecial, if_neg (hname "nan" (by decide))]
  rw [readSingle?, hsign]
  show (readMagnitude? (c :: r)).map _ = _
  rw [hmagnitude, readDecimal?_of_numeral h]
  rfl

end

/-! ## Nothing outside ASCII -/

/-- The character is one of ASCII. -/
def IsAscii (c : Char) : Prop := c.toNat < 128

instance : DecidablePred IsAscii := fun c => inferInstanceAs (Decidable (c.toNat < 128))

theorem isAscii_of_isDigit {c : Char} (h : c.isDigit = true) : IsAscii c := by
  obtain ⟨-, hhi⟩ := Char.isDigit_iff_toNat.1 h
  exact Nat.lt_of_le_of_lt hhi (by decide)

/-- Only ASCII letters have others as their lower case. -/
theorem isAscii_of_toLower {c : Char} (h : IsAscii c.toLower) : IsAscii c := by
  unfold Char.toLower at h
  split at h
  · next hupper => exact Nat.lt_of_le_of_lt (UInt32.le_iff_toNat_le.1 hupper.2) (by decide)
  · exact h

theorem ascii_of_takeDigits {s : List Char} (h : ∀ c ∈ (takeDigits s).2, IsAscii c) :
    ∀ c ∈ s, IsAscii c := by
  intro c hc
  rw [← List.takeWhile_append_dropWhile (p := Char.isDigit) (l := s)] at hc
  rcases List.mem_append.1 hc with hc | hc
  · exact isAscii_of_isDigit (List.all_eq_true.1 List.all_takeWhile c hc)
  · exact h c hc

theorem ascii_of_takeSign {s : List Char} (h : ∀ c ∈ (takeSign s).2, IsAscii c) :
    ∀ c ∈ s, IsAscii c := by
  unfold takeSign at h
  split at h
  · exact List.forall_mem_cons.2 ⟨by decide, h⟩
  · exact List.forall_mem_cons.2 ⟨by decide, h⟩
  · exact h

theorem ascii_of_takeExponent {s : List Char} (h : (takeExponent s).2 = []) :
    ∀ c ∈ s, IsAscii c := by
  cases s with
  | nil => nofun
  | cons c r =>
    simp only [takeExponent] at h
    split at h
    · next hletter =>
      refine List.forall_mem_cons.2 ⟨?_, ascii_of_takeSign (ascii_of_takeDigits ?_)⟩
      · rcases hletter.1 with rfl | rfl <;> decide
      · simp only at h
        rw [h]
        nofun
    · cases h

/-- Behind the whole digits stands the exponent, or a point with digits and then the exponent. -/
theorem ascii_of_readDecimal? {s : List Char} (h : (readDecimal? s).isSome) :
    ∀ c ∈ s, IsAscii c := by
  refine ascii_of_takeDigits ?_
  unfold readDecimal? at h
  simp only at h
  split at h
  · next r hpoint =>
    rw [hpoint]
    refine List.forall_mem_cons.2 ⟨by decide, ascii_of_takeDigits ?_⟩
    split at h
    · cases h
    · split at h
      · next hend => exact ascii_of_takeExponent (congrArg Prod.snd hend)
      · cases h
  · split at h
    · cases h
    · split at h
      · next hend => exact ascii_of_takeExponent (congrArg Prod.snd hend)
      · cases h

/-- **Nothing outside ASCII is read** as a number. -/
theorem ascii_of_readSingle? {s : List Char} (h : (readSingle? s).isSome) :
    ∀ c ∈ s, IsAscii c := by
  rw [readSingle?, Option.isSome_map] at h
  refine ascii_of_takeSign ?_
  have hspecial {name : String} (hname : String.ofList ((takeSign s).2.map Char.toLower) = name)
      (hascii : ∀ c ∈ name.toList, IsAscii c) : ∀ c ∈ (takeSign s).2, IsAscii c := by
    rw [← hname, String.toList_ofList] at hascii
    exact fun c hc => isAscii_of_toLower (hascii _ (List.mem_map_of_mem hc))
  unfold readMagnitude? at h
  extract_lets at h
  split_ifs at h with hinf hnan
  · rcases hinf with hname | hname
    · exact hspecial hname (by decide)
    · exact hspecial hname (by decide)
  · exact hspecial hnan (by decide)
  · exact ascii_of_readDecimal? h

end UtilityStyle.Number
