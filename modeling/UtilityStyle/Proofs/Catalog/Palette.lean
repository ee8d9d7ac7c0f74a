/-
  The palette and the keys that it takes.

  * `Palette.IsCell`: the color in the row of a hue and the column of a shade.
    `Palette.existsUnique_isCell`: the table has one for every hue and shade;
  * `Palette.Spells`: a key is a hue, a dash and any spelling of a shade.  No key spells two cells
    (`Spells.unique`);
  * `Palette.color?_eq_some_iff`: the keys of the palette are these and the plain names.
    `isSome_color?_iff_isDecimalKey_iff`: the decimal keys are all of them but for other spellings
    of a shade;
  * `Catalog.palette_exact`: so the families of colors take these keys from the palette and no
    others.  A shade may have zeros or a plus sign in front (`padded_shade_accepted`).
-/
import Mathlib.Data.List.Nodup
import UtilityStyle.Proofs.Number.Decimal
import UtilityStyle.Proofs.Text.Pieces
import UtilityStyle.Proofs.Utility.ColorFamily

namespace UtilityStyle

open Number Text

namespace Palette

variable {key hue : String} {shade : Nat} {c : Color}

/-! ## The table -/

/-- The names that are keys by themselves. -/
def named : List (String × Color) :=
  [("black", .black), ("white", .white), ("transparent", .transparent)]

/-- The color is in the row of a hue and the column of a shade. -/
def IsCell (hue : String) (shade : Nat) (c : Color) : Prop :=
  ∃ (row : List String) (column : Nat) (digits : String), (hue, row) ∈ hues ∧
    shades[column]? = some shade ∧ row[column]? = some digits ∧ Color.ofHex? digits = some c

/-- In a list without repetitions an element has one index. -/
theorem idxOf?_eq_some_iff_of_nodup {α : Type} [BEq α] [LawfulBEq α] {l : List α} (h : l.Nodup)
    {a : α} {i : Nat} : l.idxOf? a = some i ↔ l[i]? = some a := by
  rw [List.idxOf?_eq_some_iff, List.getElem?_eq_some_iff]
  constructor
  · rintro ⟨hi, ha, -⟩
    exact ⟨hi, ha⟩
  · rintro ⟨hi, rfl⟩
    refine ⟨hi, rfl, fun j hj heq => ?_⟩
    have hsame : j = i := h.getElem_inj_iff.1 heq
    omega

theorem lookup_hues {row : List String} : hues.lookup hue = some row ↔ (hue, row) ∈ hues := by
  have hall : ∀ entry ∈ hues, hues.lookup entry.1 = some entry.2 := by decide +kernel
  exact ⟨mem_of_lookup, fun h => hall _ h⟩

theorem shade?_eq_some_iff : shade? hue shade = some c ↔ IsCell hue shade c := by
  have hnodup : shades.Nodup := by decide
  simp only [shade?, Option.bind_eq_bind, Option.bind_eq_some_iff, lookup_hues,
    idxOf?_eq_some_iff_of_nodup hnodup]
  constructor
  · rintro ⟨row, hrow, column, hcolumn, digits, hdigits, hc⟩
    exact ⟨row, column, digits, hrow, hcolumn, hdigits, hc⟩
  · rintro ⟨row, column, digits, hrow, hcolumn, hdigits, hc⟩
    exact ⟨row, hrow, column, hcolumn, digits, hdigits, hc⟩

/-- The table is complete. -/
theorem existsUnique_isCell (hhue : hue ∈ hues.map (·.1)) (hshade : shade ∈ shades) :
    ∃! c, IsCell hue shade c := by
  have hall : ∀ hue ∈ hues.map (·.1), ∀ shade ∈ shades, (shade? hue shade).isSome := by
    decide +kernel
  obtain ⟨c, hc⟩ := Option.isSome_iff_exists.1 (hall hue hhue shade hshade)
  refine ⟨c, shade?_eq_some_iff.1 hc, fun c' hc' => ?_⟩
  exact Option.some.inj ((shade?_eq_some_iff.2 hc').symm.trans hc)

theorem IsCell.mem (h : IsCell hue shade c) : hue ∈ hues.map (·.1) ∧ shade ∈ shades := by
  obtain ⟨row, column, digits, hrow, hcolumn, -⟩ := h
  exact ⟨List.mem_map_of_mem hrow, List.mem_of_getElem? hcolumn⟩

theorem IsCell.lt (h : IsCell hue shade c) : shade < Nat.pow 2 16 := by
  have hall : ∀ shade ∈ shades, shade < Nat.pow 2 16 := by decide
  exact hall shade h.mem.2

/-! ## Keys -/

/-- The key is a hue, a dash and a spelling of a shade. -/
def Spells (key hue : String) (shade : Nat) : Prop :=
  ∃ text, SpellsNat shade text ∧ key.toList = hue.toList ++ '-' :: text

/-- A shade has no dash. -/
theorem dash_not_mem {text : List Char} (h : SpellsNat shade text) : '-' ∉ text := by
  have hdigits {digits : List Char} (h : Padded shade digits) : '-' ∉ digits :=
    fun hmem => absurd (h.isRun.2 _ hmem) (by decide)
  rcases h with h | h
  · exact hdigits h
  · exact List.not_mem_cons_of_ne_of_not_mem (by decide) (hdigits h)

theorem Spells.dash_mem (h : Spells key hue shade) : '-' ∈ key.toList := by
  obtain ⟨text, -, hkey⟩ := h
  simp [hkey]

/-- A key is cut where its shade begins. -/
theorem splitLast?_of_spells {text : List Char} (h : SpellsNat shade text)
    (hkey : key.toList = hue.toList ++ '-' :: text) :
    splitLast? '-' key.toList = some (hue.toList, text) :=
  splitLast?_eq_some_iff.2 ⟨hkey, dash_not_mem h⟩

/-- **No key spells two cells.** -/
theorem Spells.unique {hue' : String} {shade' : Nat} (h : Spells key hue shade)
    (h' : Spells key hue' shade') : hue = hue' ∧ shade = shade' := by
  obtain ⟨text, hspells, hkey⟩ := h
  obtain ⟨text', hspells', hkey'⟩ := h'
  have hcut := splitLast?_of_spells hspells hkey
  rw [splitLast?_of_spells hspells' hkey'] at hcut
  obtain ⟨hhue, rfl⟩ := Prod.mk.inj (Option.some.inj hcut)
  exact ⟨String.toList_inj.1 hhue.symm, hspells.unique hspells'⟩

theorem spells_toString (hue : String) (shade : Nat) :
    Spells (hue ++ "-" ++ toString shade) hue shade := by
  refine ⟨Nat.toDigits 10 shade, .plain ⟨0, rfl⟩, ?_⟩
  rw [Nat.toString_eq_ofList_toDigits]
  simp

/-- **The keys of the palette** are the plain names and the spelled cells. -/
theorem color?_eq_some_iff :
    color? key = some c ↔
      (key, c) ∈ named ∨ ∃ hue shade, Spells key hue shade ∧ IsCell hue shade c := by
  constructor
  · intro h
    unfold color? at h
    split at h
    case h_4 =>
      simp only [Option.bind_eq_bind, Option.bind_eq_some_iff, Prod.exists] at h
      obtain ⟨hue, text, hcut, shade, hshade, hc⟩ := h
      obtain ⟨hkey, -⟩ := splitLast?_eq_some_iff.1 hcut
      obtain ⟨hspells, -⟩ := readNat?_eq_some_iff.1 hshade
      refine .inr ⟨String.ofList hue, shade, ⟨text, hspells, ?_⟩, shade?_eq_some_iff.1 hc⟩
      rwa [String.toList_ofList]
    all_goals
      obtain rfl := Option.some.inj h
      exact .inl (by simp [named])
  · rintro (hnamed | ⟨hue, shade, hspells, hcell⟩)
    · simp only [named, List.mem_cons, Prod.mk.injEq, List.not_mem_nil, or_false] at hnamed
      rcases hnamed with ⟨rfl, rfl⟩ | ⟨rfl, rfl⟩ | ⟨rfl, rfl⟩
      all_goals rfl
    · have hdash := hspells.dash_mem
      obtain ⟨text, hspells, hkey⟩ := hspells
      unfold color?
      split
      case h_4 =>
        simp only [Option.bind_eq_bind, Option.bind_eq_some_iff, Prod.exists]
        refine ⟨hue.toList, text, splitLast?_of_spells hspells hkey, shade,
          readNat?_eq_some_iff.2 ⟨hspells, hcell.lt⟩, ?_⟩
        rw [String.ofList_toList]
        exact shade?_eq_some_iff.2 hcell
      -- a plain name has no dash
      all_goals exact absurd hdash (by decide)

/-! ## Decimal keys -/

/-- A plain name, or a hue, a dash and the decimal digits of a shade. -/
def IsDecimalKey (key : String) : Prop :=
  key ∈ named.map (·.1) ∨
    ∃ hue ∈ hues.map (·.1), ∃ shade ∈ shades, key = hue ++ "-" ++ toString shade

instance : DecidablePred IsDecimalKey := fun _ => inferInstanceAs (Decidable (_ ∨ _))

/-- A cell is selected by its decimal key. -/
theorem color?_toString (h : IsCell hue shade c) :
    color? (hue ++ "-" ++ toString shade) = some c :=
  color?_eq_some_iff.2 (.inr ⟨hue, shade, spells_toString hue shade, h⟩)

theorem isSome_color?_of_isDecimalKey (h : IsDecimalKey key) : (color? key).isSome := by
  rcases h with hnamed | ⟨hue, hhue, shade, hshade, rfl⟩
  · obtain ⟨⟨name, c⟩, hmem, rfl⟩ := List.mem_map.1 hnamed
    exact Option.isSome_of_mem (color?_eq_some_iff.2 (.inl hmem))
  · obtain ⟨c, hcell, -⟩ := existsUnique_isCell hhue hshade
    exact Option.isSome_of_mem (color?_toString hcell)

/-- **The decimal keys are all keys** but for other spellings of a shade. -/
theorem isSome_color?_iff_isDecimalKey_iff :
    ((color? key).isSome ↔ IsDecimalKey key) ↔
      ∀ hue shade c, IsCell hue shade c → Spells key hue shade →
        key = hue ++ "-" ++ toString shade := by
  constructor
  · intro hkey hue shade c hcell hspells
    have hcolor := color?_eq_some_iff.2 (.inr ⟨hue, shade, hspells, hcell⟩)
    rcases hkey.1 (Option.isSome_of_mem hcolor) with hnamed | ⟨hue', -, shade', -, rfl⟩
    · have hplain : ∀ name ∈ named.map (·.1), '-' ∉ name.toList := by decide
      exact absurd hspells.dash_mem (hplain key hnamed)
    · obtain ⟨rfl, rfl⟩ := hspells.unique (spells_toString hue' shade')
      rfl
  · intro hdecimal
    refine ⟨fun hsome => ?_, isSome_color?_of_isDecimalKey⟩
    obtain ⟨c, hc⟩ := Option.isSome_iff_exists.1 hsome
    rcases color?_eq_some_iff.1 hc with hnamed | ⟨hue, shade, hspells, hcell⟩
    · exact .inl (List.mem_map_of_mem hnamed)
    · exact .inr ⟨hue, hcell.mem.1, shade, hcell.mem.2, hdecimal hue shade c hcell hspells⟩

end Palette

/-! ## Families of colors -/

namespace Family

variable {family : Family} {token : UtilityToken} {preset : Option String} {c : Color}

/-- Without a theme a key is a color if the palette has it. -/
theorem IsColor.builtInValue?_color_iff (h : family.IsColor) {key : String} :
    family.builtInValue? key = some (.color preset c) ↔
      preset = some key ∧ Palette.color? key = some c := by
  have hempty : Palette.color? defaultKey = none ∧ Palette.color? "" = none := by decide +kernel
  have hsource {key : String} :
      ((Scale.palette.value? key).or ((family.keywords.lookup key).map .keyword)) =
        some (.color preset c) ↔ preset = some key ∧ Palette.color? key = some c := by
    rw [Scale.value?]
    cases hcolor : Palette.color? key with
    | none => simp
    | some c' => simp [eq_comm]
  rw [builtInValue?_of_ownScale h.ownScale_eq, h.scale_eq, Option.bind_some, hsource]
  by_cases hkey : key = ""
  · subst hkey
    simp [hempty]
  · rw [if_neg hkey]

/-- Without a theme the value of a key is a built-in one. -/
theorem value?_empty_of_isPreset (hpreset : token.fragment.isPreset = true) :
    family.value? .empty token = (family.builtInValue? token.value).map (·, .preset) := by
  unfold value?
  split
  · rw [presetValue?_empty]
  · next hfragment =>
    rw [hfragment] at hpreset
    cases hpreset
  · next hfragment =>
    rw [hfragment] at hpreset
    cases hpreset

/-- **Without a theme a family of colors** takes a color by its key exactly from the palette. -/
theorem IsColor.declare?_color_iff (h : family.IsColor) (hpreset : token.fragment.isPreset = true) :
    (∃ d, family.declare? .empty token = some d ∧ d.value = .color preset c) ↔
      token.negative = false ∧ token.opacity?.isSome ∧ preset = some token.value ∧
        Palette.color? token.value = some c := by
  rw [← h.builtInValue?_color_iff]
  constructor
  · rintro ⟨d, hdeclare, hd⟩
    obtain ⟨hn, opacity, value, origin, ho, hv, rfl⟩ := h.declare?_eq_some_iff.1 hdeclare
    rw [value?_empty_of_isPreset hpreset] at hv
    obtain ⟨value, hkey, heq⟩ := Option.map_eq_some_iff.1 hv
    obtain ⟨rfl, -⟩ := Prod.mk.inj heq
    exact ⟨hn, Option.isSome_of_mem ho, hkey.trans (congrArg some hd)⟩
  · rintro ⟨hn, ho, hkey⟩
    obtain ⟨opacity, ho⟩ := Option.isSome_iff_exists.1 ho
    have hv : family.value? .empty token = some (.color preset c, .preset) := by
      rw [value?_empty_of_isPreset hpreset, hkey]
      rfl
    exact ⟨_, h.declare?_eq_some_iff.2 ⟨hn, opacity, _, .preset, ho, hv, rfl⟩, rfl⟩

end Family

namespace Catalog

open Palette

/-- **The palette takes its plain names and the spellings of its cells**, and no other keys.  No key
    spells two cells, so a key is decimal unless it spells a shade in another way.  Every hue and
    shade have a cell, which their decimal key selects.  Where there is no theme, the families of
    colors take a color by a key exactly if the palette has the key. -/
theorem palette_exact (key : String) :
    (∀ c, color? key = some c ↔
      (key, c) ∈ named ∨ ∃ hue shade, Spells key hue shade ∧ IsCell hue shade c) ∧
    (∀ hue hue' shade shade', Spells key hue shade → Spells key hue' shade' →
      hue = hue' ∧ shade = shade') ∧
    (((color? key).isSome ↔ IsDecimalKey key) ↔
      ∀ hue shade c, IsCell hue shade c → Spells key hue shade →
        key = hue ++ "-" ++ toString shade) ∧
    (∀ hue ∈ hues.map (·.1), ∀ shade ∈ shades, ∃! c, IsCell hue shade c ∧
      color? (hue ++ "-" ++ toString shade) = some c) ∧
    ∀ family : Family, family.IsColor → ∀ raw token, family.read? raw = some token →
      token.fragment.isPreset = true → token.value = key → ∀ preset c,
        ((∃ d, family.resolve? .empty raw = some d ∧ d.value = .color preset c) ↔
          token.negative = false ∧ token.opacity?.isSome ∧ preset = some key ∧
            color? key = some c) := by
  refine ⟨fun _ => color?_eq_some_iff, fun _ _ _ _ h h' => h.unique h',
    isSome_color?_iff_isDecimalKey_iff, fun hue hhue shade hshade => ?_, ?_⟩
  · obtain ⟨c, hcell, hunique⟩ := existsUnique_isCell hhue hshade
    exact ⟨c, ⟨hcell, color?_toString hcell⟩, fun c' hc' => hunique c' hc'.1⟩
  · rintro family hcolor raw token hread hpreset rfl preset c
    rw [Family.resolve?, hread, Option.bind_some]
    exact hcolor.declare?_color_iff hpreset

/-- A blue background, by the decimal key. -/
theorem palette_exact_blue :
    ∃ token c, backgroundColor.read? "bg-blue-500" = some token ∧
      token.fragment.isPreset = true ∧ token.value = "blue-500" ∧ IsCell "blue" 500 c ∧
        ∃ d, backgroundColor.resolve? .empty "bg-blue-500" = some d ∧
          d.value = .color (some "blue-500") c := by
  have hread : ∃ token, backgroundColor.read? "bg-blue-500" = some token ∧
      token.fragment.isPreset = true ∧ token.value = "blue-500" ∧ token.negative = false ∧
        token.opacity?.isSome := by
    decide +kernel
  have hcolor : backgroundColor.IsColor := isColor_of_suffix (by simp [families]) rfl
  obtain ⟨-, -, -, hcells, hfamilies⟩ := palette_exact "blue-500"
  obtain ⟨token, hread, hpreset, hvalue, hn, ho⟩ := hread
  obtain ⟨c, ⟨hcell, hkey⟩, -⟩ := hcells "blue" (by decide) 500 (by decide)
  refine ⟨token, c, hread, hpreset, hvalue, hcell, ?_⟩
  exact (hfamilies _ hcolor _ token hread hpreset hvalue _ c).2 ⟨hn, ho, rfl, hkey⟩

/-- A zero or a plus sign in front of a shade does no harm, in the palette and in a utility. -/
theorem padded_shade_accepted :
    ∃ c, color? "blue-500" = some c ∧ ∀ key ∈ ["blue-0500", "blue-+500"],
      ¬IsDecimalKey key ∧ color? key = some c ∧
        ∃ d, builtIn.read? .empty ("bg-" ++ key) = some d ∧ d.property = .backgroundColor ∧
          d.value = .color (some key) c := by
  decide +kernel

end Catalog

end UtilityStyle
