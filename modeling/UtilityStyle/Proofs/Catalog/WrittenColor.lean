/-
  Colors in square brackets.

  A color is written in square brackets with underscores for its spaces.

  * `Form.read?_underscored`: how the content is read.  Underscores stay in a call of `rgb` or
    `rgba` and in a content that mentions an address (`KeepsUnderscores`), elsewhere the spaces come
    back;
  * `Catalog.resolve?_underscored`: so a color is lost if its underscores stay, unless they are in
    comments.
-/
import UtilityStyle.Proofs.Catalog
import UtilityStyle.Proofs.Css.Color
import UtilityStyle.Proofs.Utility.Call
import UtilityStyle.Proofs.Utility.Outline
import UtilityStyle.Proofs.Utility.Underscored

namespace UtilityStyle

open Text

variable {s : List Char} {k : Color}

/-- A text that square brackets can hold once its spaces are written as underscores.  Every text of
    printable ASCII with nested brackets is one, if it has no underscores, backslashes and
    colons. -/
structure IsBracketable (s : List Char) : Prop where
  nested : Nested s
  eq_space : ∀ c ∈ s, isSpace c = true → c = ' '
  not_mem : ∀ c ∈ ['_', '\\', ':'], c ∉ s

/-- A content whose underscores stay: a whole call of `rgb` or `rgba`, or one that mentions an
    address. -/
def KeepsUnderscores (s : List Char) : Prop :=
  (∃ name ∈ ["rgba", "rgb"], ∃ arguments, IsCall name s arguments) ∨ "url(".toList <:+: s

theorem keepsUnderscores_iff :
    KeepsUnderscores s ↔ (∃ name ∈ ["rgba", "rgb"], (callArguments? name s).isSome) ∨
      hasPiece "url(".toList s = true := by
  simp only [KeepsUnderscores, ← callArguments?_eq_some_iff, Option.isSome_iff_exists, hasPiece_iff]

instance : DecidablePred KeepsUnderscores := fun _ =>
  decidable_of_iff _ keepsUnderscores_iff.symm

/-- What is kept of the content that is written for a text. -/
def IsKept (s kept : List Char) : Prop :=
  KeepsUnderscores s ∧ kept = underscored s ∨ ¬KeepsUnderscores s ∧ kept = s

namespace IsBracketable

section
variable (hs : IsBracketable s)
include hs

theorem underscore_not_mem : '_' ∉ s := hs.not_mem '_' (by decide)

theorem backslash_not_mem : '\\' ∉ s := hs.not_mem '\\' (by decide)

/-- The written text has no white space. -/
theorem isSpace_underscored : ∀ c ∈ underscored s, isSpace c = false :=
  UtilityStyle.isSpace_underscored hs.eq_space

end

variable (hs : IsBracketable s) (hk : Css.color? (String.ofList s) = some k)
include hs hk

theorem isBlank_underscored : isBlank (underscored s) = false := by
  refine isBlank_of_no_space hs.isSpace_underscored fun hnil => ?_
  have hempty : Css.color? (String.ofList []) = none := by decide +kernel
  rw [List.map_eq_nil_iff.1 hnil, hempty] at hk
  cases hk

/-- A call of another function is no color. -/
theorem not_isCall_of_color {form : Form} (hform : form ∈ [Form.url, .var, .calculation, .theme])
    (arguments : List Char) : ¬IsCall form.name s arguments := by
  have hname : ∀ form ∈ [Form.url, .var, .calculation, .theme], form.name.toList ≠ [] ∧
      (∀ c ∈ form.name.toList, isAsciiLetter c = true) ∧
        lowerAscii (String.ofList form.name.toList) ∉ Css.colorFunctions := by
    decide
  obtain ⟨hne, hletters, hother⟩ := hname form hform
  rintro ⟨_, rfl, rfl, -⟩
  have hback : '\\' ∉ arguments ++ [')'] := fun hmem =>
    hs.backslash_not_mem (List.mem_append_right _ (List.mem_cons_of_mem _ hmem))
  have hnone := Css.color?_of_call hne hletters hback hother
  change Css.color? (String.ofList (form.name.toList ++ '(' :: (arguments ++ [')']))) = some k at hk
  rw [hnone] at hk
  cases hk

/-- A call of `rgb` with nothing in it is no color. -/
theorem isBlank_arguments {form : Form} (hform : form ∈ [Form.rgba, .rgb]) {arguments : List Char}
    (hcall : IsCall form.name s arguments) : isBlank (underscored arguments) = false := by
  have hempty : ∀ form ∈ [Form.rgba, .rgb],
      Css.color? (String.ofList (form.name.toList ++ ['(', ')'])) = none := by
    decide +kernel
  obtain ⟨_, rfl, rfl, -⟩ := hcall
  refine isBlank_of_no_space (fun c hc => ?_) fun hnil => ?_
  · refine UtilityStyle.isSpace_underscored (fun d hd => hs.eq_space d ?_) c hc
    simp [hd]
  · have hnone := hempty form hform
    rw [List.map_eq_nil_iff.1 hnil] at hk
    change Css.color? (String.ofList (form.name.toList ++ ['(', ')'])) = some k at hk
    rw [hnone] at hk
    cases hk

end IsBracketable

/-! ## Forms -/

/-- The forms that may hold colors. -/
def Form.ofColors : List Form := [.hex, .rgb, .rgba, .plain]

theorem isSolid_of_mem_calls : ∀ form ∈ Form.calls, ∀ c ∈ form.name.toList, IsSolid c := by decide

theorem underscore_not_mem_of_isHexColor (h : isHexColor s = true) : '_' ∉ s := by
  unfold isHexColor at h
  split at h
  · next digits =>
    rw [Bool.and_eq_true, List.all_eq_true] at h
    intro hmem
    refine (List.mem_cons.1 hmem).elim (by decide) fun hdigit => ?_
    exact absurd (h.1 '_' hdigit) (by decide)
  · cases h

/-- Calls of `rgb` and `rgba` keep their text, and other calls are in other forms. -/
theorem Form.kept_of_mem {form : Form} (h : form ∈ [rgba, rgb]) :
    form ∈ ofColors ∧ form.name ∈ ["rgba", "rgb"] ∧
      ∀ content arguments, form.kept content arguments = content := by
  simp only [List.mem_cons, List.not_mem_nil, or_false] at h
  rcases h with rfl | rfl
  · exact ⟨by decide, by decide, fun _ _ => rfl⟩
  · exact ⟨by decide, by decide, fun _ _ => rfl⟩

/-- **How a written color is read**: in a form of colors, and with its spaces unless its underscores
    stay. -/
theorem Form.read?_underscored (hs : IsBracketable s)
    (hk : Css.color? (String.ofList s) = some k) :
    ∃ form ∈ ofColors, ∃ kept, IsKept s kept ∧ read? (underscored s) = some (form, kept) := by
  have hforms : ∀ form ∈ calls, form ∈ [rgba, rgb] ∨ form ∈ [url, var, calculation, theme] := by
    decide
  by_cases hcall : ∃ form ∈ calls, ∃ arguments, IsCall form.name s arguments
  · obtain ⟨form, hform, arguments, hcall⟩ := hcall
    have hcolor : form ∈ [rgba, rgb] := (hforms form hform).resolve_right fun hother =>
      hs.not_isCall_of_color hk hother arguments hcall
    obtain ⟨hof, hname, hkept⟩ := kept_of_mem hcolor
    have hwritten : IsCall form.name (underscored s) (underscored arguments) :=
      (isCall_underscored_iff (isSolid_of_mem_calls form hform)).2 ⟨arguments, hcall, rfl⟩
    refine ⟨form, hof, underscored s, .inl ⟨.inl ⟨form.name, hname, arguments, hcall⟩, rfl⟩, ?_⟩
    rw [read?_of_isCall hform hwritten (hs.isBlank_arguments hk hcolor hcall), hkept]
  · have hwritten : ∀ form ∈ calls, ∀ arguments, ¬IsCall form.name (underscored s) arguments := by
      intro form hform arguments h
      obtain ⟨inner, h, -⟩ := (isCall_underscored_iff (isSolid_of_mem_calls form hform)).1 h
      exact hcall ⟨form, hform, inner, h⟩
    have hkeeps : KeepsUnderscores s ↔ hasPiece "url(".toList s = true := by
      rw [hasPiece_iff]
      refine ⟨fun h => h.resolve_left ?_, .inr⟩
      rintro ⟨name, hname, arguments, h⟩
      simp only [List.mem_cons, List.not_mem_nil, or_false] at hname
      rcases hname with rfl | rfl
      · exact hcall ⟨.rgba, by decide, arguments, h⟩
      · exact hcall ⟨.rgb, by decide, arguments, h⟩
    rw [read?_of_not_isCall hwritten, hasPiece_underscored (by decide)]
    unfold IsKept
    rw [hkeeps]
    cases hhex : isHexColor (underscored s) with
    | true =>
      -- A hexadecimal color has nothing that could stay or come back.
      have hspace : ' ' ∉ s := fun hmem =>
        underscore_not_mem_of_isHexColor hhex (underscore_mem_underscored hmem)
      refine ⟨.hex, by decide, underscored s, ?_, rfl⟩
      rw [underscored_of_no_space hspace]
      tauto
    | false =>
      cases hpiece : hasPiece "url(".toList s with
      | true => exact ⟨.plain, by decide, underscored s, .inl ⟨rfl, rfl⟩, rfl⟩
      | false =>
        refine ⟨.plain, by decide, s, .inr ⟨Bool.false_ne_true, rfl⟩, ?_⟩
        rw [spaced_underscored hs.underscore_not_mem hs.backslash_not_mem]
        rfl

namespace IsKept

variable {kept : List Char} (h : IsKept s kept)
include h

/-- White space in what is kept is spaces, as in the text. -/
theorem clean (hs : IsBracketable s) :
    '\\' ∉ kept ∧ ∀ c ∈ kept, isSpace c = true → c = ' ' := by
  rcases h with ⟨-, rfl⟩ | ⟨-, rfl⟩
  · refine ⟨fun hmem => hs.backslash_not_mem ((mem_underscored_iff (by decide)).1 hmem), ?_⟩
    intro c hc hspace
    rw [hs.isSpace_underscored c hc] at hspace
    cases hspace
  · exact ⟨hs.backslash_not_mem, hs.eq_space⟩

theorem eq_of_no_space (hspace : ' ' ∉ s) : kept = s := by
  rcases h with ⟨-, rfl⟩ | ⟨-, rfl⟩
  · exact underscored_of_no_space hspace
  · rfl

end IsKept

/-! ## Fragments and values -/

/-- The text of a color in square brackets. -/
def colorText (s : List Char) : List Char := '[' :: (underscored s ++ [']'])

theorem isOneGroup_colorText (hs : IsBracketable s) : IsOneGroup (colorText s) :=
  ⟨.square, underscored s, rfl, hs.nested.underscored⟩

theorem Fragment.read?_colorText (hs : IsBracketable s)
    (hk : Css.color? (String.ofList s) = some k) :
    ∃ form ∈ Form.ofColors, ∃ kept, IsKept s kept ∧
      read? (colorText s) = some (arbitrary none form (String.ofList kept)) := by
  obtain ⟨form, hform, kept, hkept, hread⟩ := Form.read?_underscored hs hk
  refine ⟨form, hform, kept, hkept, ?_⟩
  have hblank := hs.isBlank_underscored hk
  have henclosed : enclosed? (colorText s) = some (underscored s) :=
    (enclosed?_eq_some_iff .square rfl).2 ⟨⟨rfl, hs.nested.underscored⟩, hblank⟩
  have hcolon : ':' ∉ underscored s := fun hmem =>
    hs.not_mem ':' (by decide) ((mem_underscored_iff (by decide)).1 hmem)
  have hhint : Hinted (underscored s) none (underscored s) := by
    refine .plain fun hint _ rest heq => hcolon ?_
    rw [heq]
    simp [hintText]
  show readArbitrary? _ = _
  rw [readArbitrary?, henclosed, Option.bind_eq_bind, Option.bind_some, takeHint_eq_iff.2 hhint]
  simp [hblank, hread]

/-- A shape of colors reads what is a color between spaces. -/
theorem Shape.read?_color (hbackslash : '\\' ∉ s)
    (hspace : ∀ c ∈ s, isSpace c = true → c = ' ') :
    Shape.color.read? (String.ofList s) =
      (Css.color? (String.ofList s)).map (.color none) := by
  rw [← Css.color?_trim hbackslash hspace, read?, String.toList_ofList]
  split
  · next hempty =>
    rw [hempty]
    decide +kernel
  · rw [show Shape.color.acceptsCalculation = false from rfl, Bool.and_false,
      if_neg Bool.false_ne_true]
    rfl

/-- In a form of colors a family of colors takes what is a color. -/
theorem Family.value?_color {family : Family} (hfamily : family.shape = some .color) {theme : Theme}
    {token : UtilityToken} {form : Form} (hform : form ∈ Form.ofColors)
    (htoken : token.fragment = .arbitrary none form (String.ofList s)) (hbackslash : '\\' ∉ s)
    (hspace : ∀ c ∈ s, isSpace c = true → c = ' ') :
    family.value? theme token =
      (Css.color? (String.ofList s)).map fun k => (.color none k, .arbitrary) := by
  rw [value?, htoken]
  dsimp only
  rw [hfamily, Option.bind_some]
  simp only [Form.ofColors, List.mem_cons, List.not_mem_nil, or_false] at hform
  rcases hform with rfl | rfl | rfl | rfl
  · rfl
  · rfl
  · rfl
  · show (Shape.color.read? (String.ofList s)).map (·, Origin.arbitrary) = _
    rw [Shape.read?_color hbackslash hspace, Option.map_map]
    rfl

/-! ## The catalog -/

/-- The declaration of a background color. -/
def colorDeclaration (k : Color) (raw : String) : Declaration where
  property := .backgroundColor
  value := .color none k
  origin := .arbitrary
  raw := raw

namespace Catalog

/-- A background color in square brackets is taken for the text that is kept. -/
theorem hasGroup_colorText (hs : IsBracketable s) (hk : Css.color? (String.ofList s) = some k) :
    ∃ kept, IsKept s kept ∧ ∀ theme raw, raw.toList = "bg-".toList ++ colorText s →
      backgroundColor.HasGroup theme "bg-".toList [] raw
        (Css.color? (String.ofList kept)).isSome
        (.color none ((Css.color? (String.ofList kept)).getD k)) .arbitrary := by
  obtain ⟨form, hform, kept, hkept, hread⟩ := Fragment.read?_colorText hs hk
  refine ⟨kept, hkept, fun theme raw hraw => ⟨.color none _, _, _, isOneGroup_colorText hs, ?_,
    hread, fun token htoken => ?_⟩⟩
  · rw [hraw, List.append_nil]
  · have hclean := hkept.clean hs
    rw [Family.value?_color rfl hform htoken hclean.1 hclean.2]
    cases Css.color? (String.ofList kept) <;> rfl

/-- A background color in square brackets is the color of the text that is kept. -/
theorem resolve?_colorText (hs : IsBracketable s) (hk : Css.color? (String.ofList s) = some k)
    (theme : Theme) {raw : String} (hraw : raw.toList = "bg-".toList ++ colorText s) :
    ∃ kept, IsKept s kept ∧ backgroundColor.resolve? theme raw =
      (Css.color? (String.ofList kept)).map (colorDeclaration · raw) := by
  have hmem : backgroundColor ∈ families := by simp [families]
  have hstems := isBracket_of_mem_stem hmem
  have hfront : ∀ c ∈ "bg-".toList, isBracket c = false ∧ c ≠ '/' := by decide
  obtain ⟨kept, hkept, hgroup⟩ := hasGroup_colorText hs hk
  refine ⟨kept, hkept, ?_⟩
  have hgroup := hgroup theme raw hraw
  cases hcolor : Css.color? (String.ofList kept) with
  | none =>
    rw [hcolor] at hgroup
    exact Family.resolve?_of_not_taken hstems hfront hgroup
  | some k' =>
    rw [hcolor] at hgroup
    have hred : IsBracketable "red".toList :=
      ⟨nested_of_forall_not_isBracket (by decide), by decide, by decide⟩
    have hredColor : Css.color? "red" = some (Color.ofBytes 255 0 0 255) := by decide +kernel
    obtain ⟨keptRed, hkeptRed, hsample⟩ := hasGroup_colorText hred
      (k := Color.ofBytes 255 0 0 255) (by rwa [String.ofList_toList])
    obtain rfl : keptRed = "red".toList := hkeptRed.eq_of_no_space (by decide)
    have hsample := hsample .empty "bg-[red]" (by decide)
    rw [String.ofList_toList, hredColor] at hsample
    have hresolve : backgroundColor.resolve? .empty "bg-[red]" =
        some (colorDeclaration (Color.ofBytes 255 0 0 255) "bg-[red]") := by
      decide +kernel
    rw [Family.resolve?_of_sample hstems hfront hgroup hsample, hresolve]
    rfl

/-- **Which colors can be written in square brackets.**  With underscores for its spaces a color is
    read as the background color it is, under every theme, unless its underscores stay; then it is
    read as the color that the written text is.  Outside of comments that is none if there was a
    space.  So a call of `rgb` with spaces cannot be written, and other colors can. -/
theorem resolve?_underscored {c : String} (hc : IsBracketable c.toList)
    (hk : Css.color? c = some k) (theme : Theme) :
    let written := String.ofList (underscored c.toList)
    let raw := "bg-[" ++ written ++ "]"
    (backgroundColor.resolve? theme raw =
      (if KeepsUnderscores c.toList then Css.color? written else some k).map
        (colorDeclaration · raw)) ∧
      (¬['/', '*'] <:+: c.toList →
        Css.color? written = if ' ' ∈ c.toList then none else some k) := by
  intro written raw
  have hself : Css.color? (String.ofList c.toList) = some k := by rwa [String.ofList_toList]
  constructor
  · have hraw : raw.toList = "bg-".toList ++ colorText c.toList := by
      simp [raw, written, colorText]
    obtain ⟨kept, hkept, hresolve⟩ := resolve?_colorText hc hself theme hraw
    rw [hresolve]
    rcases hkept with ⟨hkeeps, rfl⟩ | ⟨hkeeps, rfl⟩
    · rw [if_pos hkeeps]
    · rw [if_neg hkeeps, hself]
  · intro hcomment
    split
    · next hspace =>
      have hslash : ¬['/', '*'] <:+: underscored c.toList := by
        rwa [← hasPiece_iff, hasPiece_underscored (by decide), hasPiece_iff]
      exact Css.color?_of_underscore
        (fun hmem => hc.backslash_not_mem ((mem_underscored_iff (by decide)).1 hmem)) hslash
        (underscore_mem_underscored hspace)
    · next hspace =>
      have hsame : written = c := by
        rw [← String.toList_inj, String.toList_ofList, underscored_of_no_space hspace]
      rwa [hsame]

/-- Half transparent black by its hue. -/
theorem resolve?_underscored_hsl :
    let c := "hsl(0 0% 0% / 50%)"
    ∃ k, IsBracketable c.toList ∧ ¬KeepsUnderscores c.toList ∧ Css.color? c = some k ∧
      backgroundColor.resolve? .empty "bg-[hsl(0_0%_0%_/_50%)]" =
        some (colorDeclaration k "bg-[hsl(0_0%_0%_/_50%)]") := by
  intro c
  have hc : IsBracketable c.toList := ⟨by decide, by decide, by decide⟩
  have hkeeps : ¬KeepsUnderscores c.toList := by decide
  have hcolor : (Css.color? c).isSome := by decide +kernel
  obtain ⟨k, hk⟩ := Option.isSome_iff_exists.1 hcolor
  refine ⟨k, hc, hkeeps, hk, ?_⟩
  have hwritten : "bg-[" ++ String.ofList (underscored c.toList) ++ "]" =
      "bg-[hsl(0_0%_0%_/_50%)]" := by decide
  have hresolve := (resolve?_underscored hc hk .empty).1
  rwa [if_neg hkeeps, hwritten] at hresolve

/-- The same color in a call of `rgb` is lost: its underscores stay. -/
theorem rgb_with_spaces_lost :
    let c := "rgb(0 0 0 / 50%)"
    IsBracketable c.toList ∧ (Css.color? c).isSome ∧
      Css.color? c = Css.color? "hsl(0 0% 0% / 50%)" ∧
        backgroundColor.resolve? .empty "bg-[rgb(0_0_0_/_50%)]" = none := by
  refine ⟨⟨by decide, by decide, by decide⟩, ?_⟩
  decide +kernel

end Catalog

end UtilityStyle
