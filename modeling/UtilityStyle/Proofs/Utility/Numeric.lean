/-
  Keys that are numbers.

  * `isNumeric_iff`: a key counts as a number if it is a numeral in digits of any script;
  * `isSome_readSingle?_iff`: it has a value if its digits are those of ASCII;
  * `UtilityToken.numeric_read?`: so the tokens that have a number are those that count as numbers
    and are written in ASCII.  Other digits leave one without a value (`numeric_without_number`).
-/
import UtilityStyle.Proofs.Number.Decimal
import UtilityStyle.Proofs.Utility.Fragment
import UtilityStyle.Proofs.Utility.Token
import UtilityStyle.Utility.Scale

namespace UtilityStyle

open Number Text

variable {s whole fraction : List Char}

/-! ## The test for numbers -/

theorem isDecimalDigit_of_isDigit {c : Char} (h : c.isDigit = true) : isDecimalDigit c = true := by
  have hrange : (0x30, 0x39) ∈ decimalDigitRanges := by decide
  rw [isDecimalDigit, inRanges, List.any_eq_true]
  refine ⟨_, hrange, ?_⟩
  simp only [Char.isDigit, Bool.and_eq_true, decide_eq_true_eq, UInt32.le_iff_toNat_le] at h ⊢
  exact h

/-- The decimal digits of ASCII are the usual ones. -/
theorem isDigit_of_isAscii {c : Char} (h : isDecimalDigit c = true) (hascii : IsAscii c) :
    c.isDigit = true := by
  have hall : ∀ n < 128, inRanges decimalDigitRanges n = true → 48 ≤ n ∧ n ≤ 57 := by
    decide +kernel
  exact Char.isDigit_iff_toNat.2 (hall c.toNat hascii h)

/-- **A key counts as a number** if it is a numeral in decimal digits of any script. -/
theorem isNumeric_iff :
    isNumeric s = true ↔ ∃ whole fraction, Numeral isDecimalDigit whole fraction s := by
  have hsplit := List.takeWhile_append_dropWhile (p := isDecimalDigit) (l := s)
  constructor
  · intro h
    rw [isNumeric, Bool.and_eq_true, Bool.not_eq_true', List.isEmpty_eq_false_iff] at h
    obtain ⟨hne, hrest⟩ := h
    have hwhole : IsRun isDecimalDigit (s.takeWhile isDecimalDigit) :=
      ⟨hne, List.all_eq_true.1 List.all_takeWhile⟩
    split at hrest
    · next hnil =>
      rw [hnil, List.append_nil] at hsplit
      rw [hsplit] at hwhole
      exact ⟨s, [], .whole hwhole⟩
    · next fraction hpoint =>
      rw [Bool.and_eq_true, Bool.not_eq_true', List.isEmpty_eq_false_iff, List.all_eq_true] at hrest
      rw [hpoint] at hsplit
      rw [← hsplit]
      exact ⟨_, fraction, .pointed hwhole hrest⟩
    · cases hrest
  · rintro ⟨whole, fraction, h⟩
    have hpoint : isDecimalDigit '.' = false := by decide +kernel
    cases h with
    | whole hwhole =>
      have htake := takeWhile_run hwhole.2 [] nofun
      rw [List.append_nil] at htake
      simp [isNumeric, htake, hwhole.1]
    | pointed hwhole hfraction =>
      have htake := takeWhile_run hwhole.2 ('.' :: fraction) (by simp [hpoint])
      simp [isNumeric, htake, hwhole.1, hfraction.1, List.all_eq_true.2 hfraction.2]

/-- Numbers have no brackets. -/
theorem isKey_of_isNumeric (h : isNumeric s = true) : IsKey s := by
  obtain ⟨whole, fraction, h⟩ := isNumeric_iff.1 h
  have hbracket : ∀ c ∈ ['[', ']', '(', ')'], isDecimalDigit c = false ∧ c ≠ '.' := by
    decide +kernel
  intro c hc hmem
  rcases h.forall_mem c hmem with hdigit | rfl
  · rw [(hbracket c hc).1] at hdigit
    cases hdigit
  · exact (hbracket '.' hc).2 rfl

/-! ## Their values -/

/-- A numeral is in ASCII digits if all of it is ASCII. -/
theorem numeral_of_ascii (h : Numeral isDecimalDigit whole fraction s)
    (hascii : ∀ c ∈ s, IsAscii c) : Numeral Char.isDigit whole fraction s :=
  h.mono fun c hc hdigit => isDigit_of_isAscii hdigit (hascii c hc)

/-- **A number has a value** if it is written in ASCII. -/
theorem isSome_readSingle?_iff (h : isNumeric s = true) :
    (readSingle? s).isSome ↔ ∀ c ∈ s, IsAscii c := by
  refine ⟨ascii_of_readSingle?, fun hascii => ?_⟩
  obtain ⟨whole, fraction, h⟩ := isNumeric_iff.1 h
  exact Option.isSome_of_mem (readSingle?_of_numeral (numeral_of_ascii h hascii))

/-- What is read behind the test for numbers has a value if it is a number in ASCII. -/
theorem isSome_gated_iff :
    (if isNumeric s then readSingle? s else none).isSome ↔
      isNumeric s = true ∧ ∀ c ∈ s, IsAscii c := by
  by_cases h : isNumeric s = true
  · rw [if_pos h, isSome_readSingle?_iff h, and_iff_right h]
  · simp [h]

namespace Fragment

/-- A fragment counts as a number if its text does. -/
theorem isNumeric_of_read? {f : Fragment} (h : read? s = some f) :
    f.isNumeric = UtilityStyle.isNumeric s := by
  by_cases hkey : IsKey s
  · rw [eq_preset_of_isKey h hkey]
    rfl
  · have hno : UtilityStyle.isNumeric s = false :=
      Bool.eq_false_iff.2 fun hnumeric => hkey (isKey_of_isNumeric hnumeric)
    have hcontent := (isSome_content?_iff h).2 hkey
    rw [hno]
    cases f with
    | preset => cases hcontent
    | arbitrary => rfl
    | customProperty => rfl

end Fragment

namespace UtilityToken

variable {stems : List String} {slashed : Bool} {raw : String} {t : UtilityToken}

/-- The number of a token is that of its value, behind the test for numbers. -/
theorem number?_of_read? (h : read? stems slashed raw = some t) :
    t.number? = if isNumeric t.value.toList then readSingle? t.value.toList else none := by
  rw [number?, Fragment.isNumeric_of_read? (fragment_of_read? h)]

/-- **Which tokens have a number.**  A token counts as a number if its value is a numeral in digits
    of any script, and it has a number if besides its value is ASCII; that number is the decimal
    value of its digits.  The keys of scales are held to the same. -/
theorem numeric_read? (h : read? stems slashed raw = some t) :
    (t.fragment.isNumeric = true ↔
      ∃ whole fraction, Numeral isDecimalDigit whole fraction t.value.toList) ∧
    (t.number?.isSome ↔ t.fragment.isNumeric = true ∧ ∀ c ∈ t.value.toList, IsAscii c) ∧
    (∀ whole fraction, Numeral Char.isDigit whole fraction t.value.toList →
      t.number? = some (ofDecimal (digitsValue (whole ++ fraction)) (-fraction.length))) ∧
    ∀ key, (Scale.readNumber? key).isSome ↔
      isNumeric key.toList = true ∧ ∀ c ∈ key.toList, IsAscii c := by
  have hnumeric := Fragment.isNumeric_of_read? (fragment_of_read? h)
  refine ⟨?_, ?_, fun whole fraction hnumeral => ?_, fun key => isSome_gated_iff⟩
  · rw [hnumeric]
    exact isNumeric_iff
  · rw [number?_of_read? h, hnumeric]
    exact isSome_gated_iff
  · have hdigits : isNumeric t.value.toList = true :=
      isNumeric_iff.2 ⟨whole, fraction, hnumeral.mono fun _ _ => isDecimalDigit_of_isDigit⟩
    rw [number?_of_read? h, if_pos hdigits]
    exact readSingle?_of_numeral hnumeral

/-- Half a step of padding. -/
theorem numeric_read?_half :
    ∃ t, read? ["p"] false "p-0.5" = some t ∧
      Numeral Char.isDigit ['0'] ['5'] t.value.toList ∧ t.number? = some (ofDecimal 5 (-1)) := by
  have hread : ∃ t, read? ["p"] false "p-0.5" = some t ∧ t.value = "0.5" := by decide +kernel
  obtain ⟨t, ht, hvalue⟩ := hread
  have hrun : IsRun Char.isDigit ['0'] ∧ IsRun Char.isDigit ['5'] := by
    constructor <;> exact ⟨by simp, by decide⟩
  have hnumeral : Numeral Char.isDigit ['0'] ['5'] t.value.toList := by
    rw [hvalue]
    exact .pointed hrun.1 hrun.2
  exact ⟨t, ht, hnumeral, (numeric_read? ht).2.2.1 _ _ hnumeral⟩

/-- An Arabic digit counts as a number and has no value. -/
theorem numeric_without_number :
    (∃ t, read? ["p"] false "p-٣" = some t ∧ t.fragment.isNumeric = true ∧ t.number? = none) ∧
      isNumeric "٣".toList = true ∧ Scale.readNumber? "٣" = none := by
  decide +kernel

end UtilityToken

end UtilityStyle
