/-
  The grammar of hexadecimal colors.

  * `mapM_hexValue?`: a text of hexadecimal digits has the values of its characters, and no other
    text has any;
  * `slice?_of_digits`: in such a text every position is between two characters, so that digits can
    be cut out by bytes;
  * `Color.SpellsHex`: the texts that spell a color, which are any number of marks and then three,
    four, six or eight digits;
  * `Color.ofHex_grammar`: exactly these are read, every other text is reported as it was given, and
    a reading that cuts the digits out by bytes never misses a slice and gives the same.
-/
import UtilityStyle.Color
import UtilityStyle.Proofs.Text.Bytes

namespace UtilityStyle

open String (utf8Len)

/-! ## Digits -/

namespace Text

/-- The hexadecimal digits of either case. -/
def hexDigits : List Char :=
  ['0', '1', '2', '3', '4', '5', '6', '7', '8', '9', 'a', 'b', 'c', 'd', 'e', 'f',
    'A', 'B', 'C', 'D', 'E', 'F']

variable {c : Char} {v start stop : Nat} {s : List Char}

theorem toNat_lt_of_isHexDigit (h : isHexDigit c = true) : c.toNat < 128 := by
  have hle {d : Char} (hd : d.toNat < 128) (hc : c ≤ d) : c.toNat < 128 :=
    Nat.lt_of_le_of_lt (UInt32.le_iff_toNat_le.1 (Char.le_def.1 hc)) hd
  unfold isHexDigit hexValue? at h
  split at h
  · next hc => exact hle (by decide) hc.2
  · split at h
    · next hc => exact hle (by decide) hc.2
    · split at h
      · next hc => exact hle (by decide) hc.2
      · cases h

theorem isHexDigit_iff : isHexDigit c = true ↔ c ∈ hexDigits := by
  constructor
  · intro h
    have hascii : ∀ n < 128, isHexDigit (Char.ofNat n) = true → Char.ofNat n ∈ hexDigits := by
      decide
    have hc := hascii c.toNat (toNat_lt_of_isHexDigit h)
    rw [Char.ofNat_toNat] at hc
    exact hc h
  · exact List.all_eq_true.1 (by decide : hexDigits.all isHexDigit = true) c

theorem mark_not_mem_hexDigits : '#' ∉ hexDigits := by decide

/-- The value of a hexadecimal digit. -/
def hexValue (c : Char) : Nat := (hexValue? c).getD 0

theorem hexValue?_eq (c : Char) :
    hexValue? c = if isHexDigit c then some (hexValue c) else none := by
  rw [isHexDigit, hexValue]
  cases hexValue? c <;> rfl

/-- **The values of a text** are those of its characters, if all of them are digits. -/
theorem mapM_hexValue? (s : List Char) :
    s.mapM hexValue? = if s.all isHexDigit then some (s.map hexValue) else none := by
  induction s with
  | nil => rfl
  | cons c s ih =>
    rw [List.mapM_cons, ih, hexValue?_eq]
    by_cases hc : isHexDigit c = true
    · by_cases hs : s.all isHexDigit = true <;> simp [hc, hs]
    · simp [hc]

theorem utf8Size_of_isHexDigit (h : isHexDigit c = true) : c.utf8Size = 1 := by
  have hsize : (hexDigits.all fun c => c.utf8Size == 1) = true := by decide
  exact beq_iff_eq.1 (List.all_eq_true.1 hsize c (isHexDigit_iff.1 h))

theorem utf8Len_of_digits (h : ∀ c ∈ s, isHexDigit c = true) : utf8Len s = s.length := by
  induction s with
  | nil => rfl
  | cons c s ih =>
    obtain ⟨hc, hs⟩ := List.forall_mem_cons.1 h
    rw [String.utf8Len_cons, ih hs, utf8Size_of_isHexDigit hc, List.length_cons]

/-- **Digits are cut out by bytes** as by characters. -/
theorem slice?_of_digits (h : ∀ c ∈ s, isHexDigit c = true) (hstart : start ≤ stop)
    (hstop : stop ≤ s.length) : slice? s start stop = some ((s.take stop).drop start) := by
  have htake (n : Nat) (hn : n ≤ s.length) : utf8Len (s.take n) = n := by
    rw [utf8Len_of_digits fun c hc => h c (List.mem_of_mem_take hc), List.length_take,
      Nat.min_eq_left hn]
  have hfront : s.take start ++ (s.take stop).drop start = s.take stop := by
    have htaken : s.take start = (s.take stop).take start := by
      rw [List.take_take, Nat.min_eq_left hstart]
    rw [htaken, List.take_append_drop]
  refine slice?_eq_some_iff.2 ⟨s.take start, s.drop stop, ?_, htake start (by omega), ?_⟩
  · rw [hfront, List.take_append_drop]
  · rw [hfront, htake stop hstop]

end Text

open Text

namespace Color

variable {s : String} {c : Color} {marks : Nat} {digits hex : List Char} {values : List Nat}

/-! ## The grammar -/

/-- The texts that spell a color: marks, and then three, four, six or eight hexadecimal digits. -/
structure SpellsHex (s : String) (marks : Nat) (digits : List Char) : Prop where
  text : s.toList = List.replicate marks '#' ++ digits
  areDigits : ∀ c ∈ digits, c ∈ hexDigits
  count : digits.length ∈ [3, 4, 6, 8]

theorem isSome_ofHexDigits?_iff : (ofHexDigits? values).isSome ↔ values.length ∈ [3, 4, 6, 8] := by
  rcases values with _ | ⟨_, _ | ⟨_, _ | ⟨_, _ | ⟨_, _ | ⟨_, _ | ⟨_, _ | ⟨_, _ | ⟨_, _ | _⟩⟩⟩⟩⟩⟩⟩⟩
  all_goals simp [ofHexDigits?]

/-- What a text spells is left behind its marks. -/
theorem SpellsHex.dropWhile (h : SpellsHex s marks digits) :
    s.toList.dropWhile (· == '#') = digits := by
  rw [h.text, List.dropWhile_append_of_pos fun c hc => by simp [(List.mem_replicate.1 hc).2]]
  cases digits with
  | nil => rfl
  | cons c digits =>
    refine List.dropWhile_cons_of_neg ?_
    have hne : c ≠ '#' := fun heq =>
      mark_not_mem_hexDigits (heq ▸ h.areDigits c List.mem_cons_self)
    simpa using hne

theorem exists_spellsHex_iff :
    (∃ marks digits, SpellsHex s marks digits) ↔
      (s.toList.dropWhile (· == '#')).all isHexDigit = true ∧
        (s.toList.dropWhile (· == '#')).length ∈ [3, 4, 6, 8] := by
  simp only [List.all_eq_true, isHexDigit_iff]
  constructor
  · rintro ⟨marks, digits, h⟩
    rw [h.dropWhile]
    exact ⟨h.areDigits, h.count⟩
  · rintro ⟨hdigits, hcount⟩
    refine ⟨(s.toList.takeWhile (· == '#')).length, _, ?_, hdigits, hcount⟩
    have hmarks : s.toList.takeWhile (· == '#') =
        List.replicate (s.toList.takeWhile (· == '#')).length '#' :=
      List.eq_replicate_of_mem fun c hc => by
        simpa using List.all_eq_true.1 List.all_takeWhile c hc
    rw [← hmarks, List.takeWhile_append_dropWhile]

/-- **A text has a color** if it spells one. -/
theorem isSome_ofHex?_iff : (ofHex? s).isSome ↔ ∃ marks digits, SpellsHex s marks digits := by
  rw [exists_spellsHex_iff, ofHex?, mapM_hexValue?]
  split
  · next h => simp only [Option.bind_some, isSome_ofHexDigits?_iff, List.length_map, h, true_and]
  · next h => simp [h]

/-! ## Reading by bytes -/

/-- The number that the digits between two byte positions spell.  There is none without such a
    slice, and no number if it has anything but digits. -/
def number? (hex : List Char) (start stop : Nat) : Option (Option Nat) :=
  (slice? hex start stop).map fun digits =>
    (digits.mapM hexValue?).map fun values => values.foldl (16 * · + ·) 0

/-- The channel that one digit gives by its double. -/
def single? (hex : List Char) (start : Nat) : Option (Option Nat) :=
  (number? hex start (start + 1)).map (·.map (17 * ·))

/-- The channel that two digits give. -/
def double? (hex : List Char) (start : Nat) : Option (Option Nat) := number? hex start (start + 2)

/-- The color of four channels, if all of them are numbers. -/
def ofNumbers? : List (Option Nat) → Option Color
  | [some r, some g, some b, some a] => some (ofBytes r g b a)
  | _ => none

/-- The color of digits that are cut out by bytes.  There is no answer if a slice is missing. -/
def ofSlices? (hex : List Char) : Option (Option Color) :=
  match utf8Len hex with
  | 3 => do return ofNumbers? [← single? hex 0, ← single? hex 1, ← single? hex 2, some 255]
  | 4 => do
    return ofNumbers? [← single? hex 0, ← single? hex 1, ← single? hex 2, ← single? hex 3]
  | 6 => do return ofNumbers? [← double? hex 0, ← double? hex 2, ← double? hex 4, some 255]
  | 8 => do
    return ofNumbers? [← double? hex 0, ← double? hex 2, ← double? hex 4, ← double? hex 6]
  | _ => some none

/-- The reading of a text that scans it for other characters than digits, and then cuts it by
    bytes. -/
def ofHexByBytes? (input : String) : Option (Except ColorError Color) :=
  let hex := input.toList.dropWhile (· == '#')
  let answer : Option Color → Except ColorError Color
    | some color => .ok color
    | none => .error (.invalidHex input)
  if hex.all isHexDigit then (ofSlices? hex).map answer else some (answer none)

theorem number?_of_digits {start stop : Nat} (h : ∀ c ∈ hex, isHexDigit c = true)
    (hstart : start ≤ stop) (hstop : stop ≤ hex.length) :
    number? hex start stop =
      some (some ((((hex.take stop).drop start).map hexValue).foldl (16 * · + ·) 0)) := by
  have hall : ((hex.take stop).drop start).all isHexDigit = true :=
    List.all_eq_true.2 fun c hc => h c (List.mem_of_mem_take (List.mem_of_mem_drop hc))
  rw [number?, slice?_of_digits h hstart hstop, Option.map_some, mapM_hexValue?, if_pos hall,
    Option.map_some]

/-- **In a text of digits** no slice is missing. -/
theorem ofSlices?_of_digits (h : ∀ c ∈ hex, isHexDigit c = true) :
    ofSlices? hex = some (ofHexDigits? (hex.map hexValue)) := by
  have hsingle (i : Nat) (hi : i + 1 ≤ hex.length) := number?_of_digits h (Nat.le_succ i) hi
  have hdouble (i : Nat) (hi : i + 2 ≤ hex.length) :=
    number?_of_digits h (Nat.le_add_right i 2) hi
  rw [ofSlices?, utf8Len_of_digits h]
  clear h
  rcases hex with _ | ⟨_, _ | ⟨_, _ | ⟨_, _ | ⟨_, _ | ⟨_, _ | ⟨_, _ | ⟨_, _ | ⟨_, _ | _⟩⟩⟩⟩⟩⟩⟩⟩
  all_goals simp [single?, double?, hsingle, hdouble, ofNumbers?, ofHexDigits?]

theorem ofHexByBytes?_eq (s : String) : ofHexByBytes? s = some (ofHex s) := by
  dsimp only [ofHexByBytes?]
  rw [ofHex, ofHex?, mapM_hexValue?]
  by_cases h : (s.toList.dropWhile (· == '#')).all isHexDigit = true
  · have hslices := ofSlices?_of_digits (List.all_eq_true.1 h)
    cases hcolor : ofHexDigits? ((s.toList.dropWhile (· == '#')).map hexValue) <;>
      simp only [if_pos h, hslices, hcolor, Option.map_some, Option.bind_some]
  · simp only [if_neg h, Option.bind_none]

/-! ## What is read -/

theorem ofHex_eq_ok_iff : ofHex s = .ok c ↔ ofHex? s = some c := by
  rw [ofHex]
  cases ofHex? s <;> simp

theorem ofHex_eq_error_iff : ofHex s = .error (.invalidHex s) ↔ ofHex? s = none := by
  rw [ofHex]
  cases ofHex? s <;> simp

/-- **The grammar of hexadecimal colors.**  A text has a color exactly if it is any number of marks
    and then three, four, six or eight hexadecimal digits.  Every other text is reported as it was
    given.  Cutting the digits out by bytes never misses a slice and comes to the same answer. -/
theorem ofHex_grammar (s : String) :
    ((∃ c, ofHex s = .ok c) ↔ ∃ marks digits, SpellsHex s marks digits) ∧
      (ofHex s = .error (.invalidHex s) ↔ ¬∃ marks digits, SpellsHex s marks digits) ∧
        ofHexByBytes? s = some (ofHex s) := by
  refine ⟨?_, ?_, ofHexByBytes?_eq s⟩
  · simp only [ofHex_eq_ok_iff, ← Option.isSome_iff_exists, isSome_ofHex?_iff]
  · rw [ofHex_eq_error_iff, ← isSome_ofHex?_iff, Option.not_isSome_iff_eq_none]

/-- A second mark does no harm, although one is enough for any color. -/
theorem ofHex_second_mark :
    ofHex "##fff" = .ok white ∧ ¬∃ marks digits, marks ≤ 1 ∧ SpellsHex "##fff" marks digits := by
  refine ⟨by decide +kernel, ?_⟩
  rintro ⟨marks, digits, hmarks, h⟩
  have hdigits : digits = ['f', 'f', 'f'] := h.dropWhile.symm.trans (by decide)
  have hlen := congrArg List.length h.text
  rw [List.length_append, List.length_replicate, hdigits] at hlen
  have hfive : marks + 3 = 5 := hlen.symm
  omega

end Color

end UtilityStyle
