/-
  The canonical text of a hexadecimal color.

  * `Color.byte_ofNat_div`: a byte comes back from the channel that it makes, although channels are
    rounded to single precision;
  * `Color.canonicalHex`: the one way in which the color of a text is written, from the characters
    of the text;
  * `Color.toHex_canonical`: a color that was read is written so, and is read again from there.
-/
import UtilityStyle.Proofs.Color.Hex

namespace UtilityStyle

/-! ## Digits -/

namespace Text

variable {c : Char}

theorem hexValue_lt (h : isHexDigit c = true) : hexValue c < 16 := by
  have hlt : (hexDigits.all fun c => hexValue c < 16) = true := by decide
  exact of_decide_eq_true (List.all_eq_true.1 hlt c (isHexDigit_iff.1 h))

/-- The digit that is written for the value of a digit is this one in lower case. -/
theorem hexDigit_hexValue (h : isHexDigit c = true) : hexDigit (hexValue c) = c.toLower := by
  have heq : (hexDigits.all fun c => hexDigit (hexValue c) == c.toLower) = true := by decide
  exact beq_iff_eq.1 (List.all_eq_true.1 heq c (isHexDigit_iff.1 h))

theorem isHexDigit_hexDigit : ∀ v < 16, isHexDigit (hexDigit v) = true := by decide

theorem hexValue_hexDigit : ∀ v < 16, hexValue (hexDigit v) = v := by decide

theorem hexDigit_eq_f_iff : ∀ v < 16, hexDigit v = 'f' ↔ v = 15 := by decide

end Text

open Text

namespace Color

variable {s : String} {c : Color} {n r g b a v w marks : Nat} {digits front : List Char}
  {values : List Nat}

/-! ## Bytes -/

/-- **Rounding gives a byte back** from its share of 255. -/
theorem byte_ofNat_div : ∀ n < 256, byte (Float32.ofNat n / 255) = n := by decide +kernel

theorem hexPair_eq (v : Nat) (hw : w < 16) : hexPair (16 * v + w) = [hexDigit v, hexDigit w] := by
  have hdiv : (16 * v + w) / 16 = v := by omega
  have hmod : (16 * v + w) % 16 = w := by omega
  rw [hexPair, hdiv, hmod]

theorem hexPair_double (hv : v < 16) : hexPair (17 * v) = [hexDigit v, hexDigit v] := by
  have hdouble : 17 * v = 16 * v + v := by omega
  rw [hdouble, hexPair_eq v hv]

theorem isHexDigit_of_mem_hexPair (h : n < 256) : ∀ c ∈ hexPair n, isHexDigit c = true :=
  List.forall_mem_cons.2 ⟨isHexDigit_hexDigit _ (by omega),
    List.forall_mem_singleton.2 (isHexDigit_hexDigit _ (by omega))⟩

theorem map_hexValue_hexPair (h : n < 256) : (hexPair n).map hexValue = [n / 16, n % 16] := by
  rw [hexPair, List.map_cons, List.map_singleton, hexValue_hexDigit _ (by omega),
    hexValue_hexDigit _ (by omega)]

theorem hexPair_eq_ff_iff (h : n < 256) : hexPair n = ['f', 'f'] ↔ n = 255 := by
  simp only [hexPair, List.cons.injEq, and_true]
  rw [hexDigit_eq_f_iff _ (by omega), hexDigit_eq_f_iff _ (by omega)]
  omega

theorem toHex_ofBytes (hr : r < 256) (hg : g < 256) (hb : b < 256) (ha : a < 256) :
    toHex (ofBytes r g b a) = String.ofList ('#' :: (hexPair r ++ hexPair g ++ hexPair b ++
      if a = 255 then [] else hexPair a)) := by
  simp only [toHex, ofBytes, byte_ofNat_div _ hr, byte_ofNat_div _ hg, byte_ofNat_div _ hb,
    byte_ofNat_div _ ha]

/-- The color of a text is that of the values of its digits. -/
theorem SpellsHex.ofHex?_eq (h : SpellsHex s marks digits) :
    ofHex? s = ofHexDigits? (digits.map hexValue) := by
  have hall : digits.all isHexDigit = true :=
    List.all_eq_true.2 fun c hc => isHexDigit_iff.2 (h.areDigits c hc)
  rw [ofHex?, h.dropWhile, mapM_hexValue?, if_pos hall, Option.bind_some]

/-- The digits of a text are what it has besides its marks. -/
theorem SpellsHex.filter (h : SpellsHex s marks digits) :
    s.toList.filter (· ≠ '#') = digits := by
  have hmarks : (List.replicate marks '#').filter (· ≠ '#') = [] :=
    List.filter_eq_nil_iff.2 fun c hc => by simp [(List.mem_replicate.1 hc).2]
  have hdigits : digits.filter (· ≠ '#') = digits :=
    List.filter_eq_self.2 fun c hc => decide_eq_true fun heq =>
      mark_not_mem_hexDigits (heq ▸ h.areDigits c hc)
  rw [h.text, List.filter_append, hmarks, hdigits, List.nil_append]

/-- A color of four bytes is read again from its text. -/
theorem ofHex_toHex_ofBytes (hr : r < 256) (hg : g < 256) (hb : b < 256) (ha : a < 256) :
    ofHex (toHex (ofBytes r g b a)) = .ok (ofBytes r g b a) := by
  have hpairs : ∀ c ∈ hexPair r ++ hexPair g ++ hexPair b, c ∈ hexDigits := by
    simp only [List.forall_mem_append, ← isHexDigit_iff]
    exact ⟨⟨isHexDigit_of_mem_hexPair hr, isHexDigit_of_mem_hexPair hg⟩,
      isHexDigit_of_mem_hexPair hb⟩
  rw [toHex_ofBytes hr hg hb ha, ofHex_eq_ok_iff]
  split
  · next halpha =>
    have hspells : SpellsHex (String.ofList ('#' :: (hexPair r ++ hexPair g ++ hexPair b ++ []))) 1
        (hexPair r ++ hexPair g ++ hexPair b) :=
      ⟨by simp, hpairs, by simp [hexPair]⟩
    rw [hspells.ofHex?_eq, List.map_append, List.map_append, map_hexValue_hexPair hr,
      map_hexValue_hexPair hg, map_hexValue_hexPair hb, halpha]
    simp only [List.cons_append, List.nil_append, ofHexDigits?, Nat.div_add_mod]
  · next halpha =>
    have hspells : SpellsHex (String.ofList ('#' :: (hexPair r ++ hexPair g ++ hexPair b ++
        hexPair a))) 1 (hexPair r ++ hexPair g ++ hexPair b ++ hexPair a) := by
      refine ⟨by simp, List.forall_mem_append.2 ⟨hpairs, ?_⟩, by simp [hexPair]⟩
      exact fun c hc => isHexDigit_iff.1 (isHexDigit_of_mem_hexPair ha c hc)
    rw [hspells.ofHex?_eq, List.map_append, List.map_append, List.map_append,
      map_hexValue_hexPair hr, map_hexValue_hexPair hg, map_hexValue_hexPair hb,
      map_hexValue_hexPair ha]
    simp only [List.cons_append, List.nil_append, ofHexDigits?, Nat.div_add_mod]

/-! ## The canonical text -/

/-- All digits of a color: three or four of them are doubled. -/
def spelledOut {α : Type} (digits : List α) : List α :=
  if digits.length = 3 ∨ digits.length = 4 then digits.flatMap fun d => [d, d] else digits

/-- The digits of a color without those of an opaque alpha. -/
def withoutOpaque (digits : List Char) : List Char :=
  if digits.drop 6 = ['f', 'f'] then digits.take 6 else digits

/-- A mark and the digits of a text in lower case, each one doubled if there are three or four, and
    without the two of an opaque alpha. -/
def canonicalHex (s : String) : String :=
  let digits := s.toList.filter (· ≠ '#')
  String.ofList ('#' :: withoutOpaque (spelledOut (digits.map Char.toLower)))

theorem withoutOpaque_append (hfront : front.length = 6) (ha : a < 256) :
    withoutOpaque (front ++ hexPair a) = front ++ if a = 255 then [] else hexPair a := by
  rw [withoutOpaque, ← hfront, List.drop_left, List.take_left]
  simp only [hexPair_eq_ff_iff ha]
  split
  · rw [List.append_nil]
  · rfl

theorem withoutOpaque_of_six (hfront : front.length = 6) :
    withoutOpaque front = front ++ if 255 = 255 then [] else hexPair 255 := by
  rw [withoutOpaque, ← hfront, List.drop_length]
  simp

/-- The bytes of a color, and the digits that are written for them. -/
theorem exists_bytes_of_ofHexDigits? (hvalues : ∀ v ∈ values, v < 16)
    (h : ofHexDigits? values = some c) :
    ∃ r g b a, (r < 256 ∧ g < 256 ∧ b < 256 ∧ a < 256) ∧ c = ofBytes r g b a ∧
      withoutOpaque (spelledOut (values.map hexDigit)) =
        hexPair r ++ hexPair g ++ hexPair b ++ if a = 255 then [] else hexPair a := by
  unfold ofHexDigits? at h
  split at h
  · next r g b =>
    obtain rfl := Option.some.inj h
    simp only [List.forall_mem_cons, List.not_mem_nil, false_implies, implies_true] at hvalues
    obtain ⟨hr, hg, hb, -⟩ := hvalues
    refine ⟨_, _, _, _, ⟨by omega, by omega, by omega, by omega⟩, rfl, ?_⟩
    rw [← withoutOpaque_of_six (by simp [hexPair]), hexPair_double hr, hexPair_double hg,
      hexPair_double hb]
    rfl
  · next r g b a =>
    obtain rfl := Option.some.inj h
    simp only [List.forall_mem_cons, List.not_mem_nil, false_implies, implies_true] at hvalues
    obtain ⟨hr, hg, hb, ha, -⟩ := hvalues
    refine ⟨_, _, _, _, ⟨by omega, by omega, by omega, by omega⟩, rfl, ?_⟩
    rw [← withoutOpaque_append (by simp [hexPair]) (by omega), hexPair_double hr,
      hexPair_double hg, hexPair_double hb, hexPair_double ha]
    rfl
  · next r r' g g' b b' =>
    obtain rfl := Option.some.inj h
    simp only [List.forall_mem_cons, List.not_mem_nil, false_implies, implies_true] at hvalues
    obtain ⟨hr, hr', hg, hg', hb, hb', -⟩ := hvalues
    refine ⟨_, _, _, _, ⟨by omega, by omega, by omega, by omega⟩, rfl, ?_⟩
    rw [← withoutOpaque_of_six (by simp [hexPair]), hexPair_eq _ hr', hexPair_eq _ hg',
      hexPair_eq _ hb']
    rfl
  · next r r' g g' b b' a a' =>
    obtain rfl := Option.some.inj h
    simp only [List.forall_mem_cons, List.not_mem_nil, false_implies, implies_true] at hvalues
    obtain ⟨hr, hr', hg, hg', hb, hb', ha, ha', -⟩ := hvalues
    refine ⟨_, _, _, _, ⟨by omega, by omega, by omega, by omega⟩, rfl, ?_⟩
    rw [← withoutOpaque_append (by simp [hexPair]) (by omega), hexPair_eq _ hr', hexPair_eq _ hg',
      hexPair_eq _ hb', hexPair_eq _ ha']
    rfl
  · cases h

/-- **The canonical text of a color.**  A color that was read from a text is written as a mark and
    the digits of the text in lower case, each one doubled if there are three or four, without an
    alpha that is `ff` or absent.  What is written is read as the same color. -/
theorem toHex_canonical (h : ofHex s = .ok c) :
    toHex c = canonicalHex s ∧ ofHex (toHex c) = .ok c := by
  rw [ofHex_eq_ok_iff] at h
  obtain ⟨marks, digits, hspells⟩ := isSome_ofHex?_iff.1 (Option.isSome_of_mem h)
  have hdigits : ∀ c ∈ digits, isHexDigit c = true :=
    fun c hc => isHexDigit_iff.2 (hspells.areDigits c hc)
  have hvalues : ∀ v ∈ digits.map hexValue, v < 16 :=
    List.forall_mem_map.2 fun c hc => hexValue_lt (hdigits c hc)
  rw [hspells.ofHex?_eq] at h
  obtain ⟨r, g, b, a, ⟨hr, hg, hb, ha⟩, rfl, htext⟩ := exists_bytes_of_ofHexDigits? hvalues h
  have hlower : (digits.map hexValue).map hexDigit = digits.map Char.toLower := by
    rw [List.map_map]
    exact List.map_congr_left fun c hc => hexDigit_hexValue (hdigits c hc)
  refine ⟨?_, ofHex_toHex_ofBytes hr hg hb ha⟩
  rw [toHex_ofBytes hr hg hb ha, ← htext, hlower, canonicalHex, hspells.filter]

/-- Digits of either case behind two marks, with an alpha that is kept. -/
theorem toHex_canonical_translucent :
    ofHex "##F0a8" = .ok (ofBytes 255 0 170 136) ∧
      toHex (ofBytes 255 0 170 136) = "#ff00aa88" ∧
        ofHex (toHex (ofBytes 255 0 170 136)) = .ok (ofBytes 255 0 170 136) := by
  have hread : ofHex "##F0a8" = .ok (ofBytes 255 0 170 136) := by decide +kernel
  obtain ⟨htext, hagain⟩ := toHex_canonical hread
  exact ⟨hread, htext.trans (by decide), hagain⟩

end Color

end UtilityStyle
