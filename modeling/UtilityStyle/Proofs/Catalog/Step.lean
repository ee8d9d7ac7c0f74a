/-
  Utilities for spacing steps.

  * `Scale.value?_of_isStep` and `Scale.leading?_of_isStep`: what scales make of a number of steps;
  * `Family.ReadsStep`: a utility whose key is a number of steps that the theme leaves alone;
  * `Catalog.style_step`: the utilities for space and size follow the step of the options, line
    heights follow the step of the scale.
-/
import UtilityStyle.Proofs.Catalog
import UtilityStyle.Proofs.Lowering.Step
import UtilityStyle.Proofs.Utility.Fragment
import UtilityStyle.Proofs.Utility.Numeric
import UtilityStyle.Proofs.Utility.Token
import UtilityStyle.Proofs.Utility.Vocabulary

namespace UtilityStyle

open Text

/-! ## Scales -/

namespace Scale

/-- The key is a number of steps on the spacing scale. -/
structure IsStep (key : String) (n : Float32) : Prop where
  number : readNumber? key = some n
  onScale : (spacing? n).isSome

variable {key : String} {n : Float32}

theorem spacing?_of_isSome (h : (spacing? n).isSome) :
    spacing? n = some (.rem (n * defaultStep)) := by
  obtain ⟨l, hl⟩ := Option.isSome_iff_exists.1 h
  obtain ⟨-, heq⟩ := Option.ite_none_right_eq_some.1 hl
  rw [hl, heq]

namespace IsStep

theorem isKey (h : IsStep key n) : IsKey key.toList :=
  isKey_of_isNumeric (Option.ite_none_right_eq_some.1 h.number).1

theorem ne (h : IsStep key n) {word : String} (hword : readNumber? word = none) : key ≠ word := by
  rintro rfl
  rw [h.number] at hword
  cases hword

/-- A table of words has no numbers. -/
theorem lookup_eq_none {α : Type} {table : List (String × α)} (h : IsStep key n)
    (htable : ∀ entry ∈ table, readNumber? entry.1 = none) : table.lookup key = none := by
  cases hlookup : table.lookup key with
  | none => rfl
  | some a => exact absurd rfl (h.ne (htable (key, a) (mem_of_lookup hlookup)))

theorem spacingKey?_eq (h : IsStep key n) : spacingKey? key = some (.number n) := by
  have hpx : readNumber? "px" = none := by decide +kernel
  rw [spacingKey?, if_neg (h.ne hpx), h.number]
  dsimp only [Option.bind_eq_bind, Option.bind_some]
  rw [spacing?_of_isSome h.onScale]
  rfl

theorem container?_eq_none (h : IsStep key n) : container? key = none := by
  unfold container?
  split
  · next screen hscreen =>
    obtain ⟨c, r, hkey, hdigit⟩ := beginsWithDigit_of_readNumber? h.number
    rw [toList_eq_of_after? hscreen] at hkey
    obtain ⟨rfl, -⟩ := List.cons.inj hkey
    exact absurd hdigit (by decide +kernel)
  · exact h.lookup_eq_none (by decide +kernel)

end IsStep

/-- The scales that keep a number of steps as it is. -/
def stepped : List Scale := [.spacing, .spacingOrFraction, .container]

/-- **A number of steps** is itself on the scales for space and size. -/
theorem value?_of_isStep (h : IsStep key n) {scale : Scale} (hs : scale ∈ stepped) :
    scale.value? key = some (.number n) := by
  simp only [stepped, List.mem_cons, List.not_mem_nil, or_false] at hs
  rcases hs with rfl | rfl | rfl
  · exact h.spacingKey?_eq
  · rw [value?, h.spacingKey?_eq]
    rfl
  · rw [value?, h.container?_eq_none, h.spacingKey?_eq]
    rfl

/-- Among line heights a number of steps is a length, of the step that the scale has. -/
theorem leading?_of_isStep (h : IsStep key n) :
    leading? key = some (.length (.rem (n * defaultStep))) := by
  rw [leading?, h.lookup_eq_none (by decide +kernel), h.number, Option.bind_some,
    spacing?_of_isSome h.onScale]
  rfl

end Scale

/-! ## Families -/

namespace Family

/-- The utility has a number of steps for its key, to which the theme gives no value, and it has a
    sign only if the family takes one. -/
structure ReadsStep (family : Family) (theme : Theme) (raw : String) (token : UtilityToken)
    (n : Float32) : Prop where
  read : family.read? raw = some token
  step : Scale.IsStep token.value n
  unthemed : family.themeValue? theme token.value = none
  sign : token.negative = true → family.signed = true

variable {family : Family} {theme : Theme} {raw : String} {token : UtilityToken} {n : Float32}

/-- The declaration of a preset value. -/
def declaration (family : Family) (token : UtilityToken) (value : Value) : Declaration where
  property := family.property
  value := value
  side := family.side? token.stem
  negative := token.negative
  important := token.important
  raw := token.raw

theorem ReadsStep.isPreset (h : family.ReadsStep theme raw token n) :
    ∃ numeric, token.fragment = .preset numeric :=
  ⟨_, Fragment.eq_preset_of_isKey (UtilityToken.fragment_of_read? h.read) h.step.isKey⟩

/-- A family without suffixes declares the value that its scale gives to a number of steps. -/
theorem ReadsStep.resolve?_eq (h : family.ReadsStep theme raw token n)
    (hsuffix : family.suffix = .absent) {value : Value}
    (hvalue : family.scale.bind (·.value? token.value) = some value)
    (hsignable : value.isSignable = true) :
    family.resolve? theme raw = some (family.declaration token value) := by
  obtain ⟨numeric, hfragment⟩ := h.isPreset
  have hempty : Scale.readNumber? "" = none := by decide +kernel
  have hpreset : family.presetValue? theme token.value = some value := by
    rw [presetValue?, h.unthemed, Option.none_or, builtInValue?, if_neg (h.step.ne hempty),
      hvalue]
    rfl
  rw [resolve?, h.read, Option.bind_some, declare?_eq_some_iff]
  refine ⟨h.sign, none, value, .preset, value, ?_, ?_, fun _ => hsignable, ?_, rfl⟩
  · rw [opacity?, hsuffix]
    rfl
  · simp only [value?, hfragment, hpreset, Option.map_some]
  · rw [suffixed?, hsuffix]
    rfl

/-- A suffix of a number of steps is a line height, of the step that the scale has. -/
theorem leadingSuffix?_of_number {suffix : String} (hplain : between? "[" "]" suffix = none)
    (hnumber : Number.readSingle? suffix.toList = some n) (hscale : (Scale.spacing? n).isSome) :
    leadingSuffix? suffix = some (.length (.rem (n * Scale.defaultStep))) := by
  rw [leadingSuffix?, hplain]
  dsimp only
  rw [hnumber, Option.bind_some, Scale.spacing?_of_isSome hscale]
  rfl

end Family

/-! ## The catalog -/

namespace Catalog

theorem suffix_of_stepped : ∀ family ∈ families, ∀ scale ∈ Scale.stepped,
    family.scale = some scale → family.suffix = .absent := by
  decide +kernel

theorem exists_pixelEdit {family : Family} (hm : family ∈ families) {scale : Scale}
    (hs : scale ∈ Scale.stepped) (h : family.scale = some scale) (side : Side) (px : Float32) :
    ∃ edit, family.property.pixelEdit? side px = some edit := by
  have hall : ∀ family ∈ families, ∀ scale ∈ Scale.stepped, family.scale = some scale →
      family.property ∈ [Property.margin, .padding, .gap, .spaceBetween, .inset, .width, .height,
        .size, .minWidth, .minHeight, .maxWidth, .maxHeight, .flexBasis, .translate] := by
    decide +kernel
  have hmem := hall family hm scale hs h
  generalize family.property = property at hmem
  simp only [List.mem_cons, List.not_mem_nil, or_false] at hmem
  rcases hmem with rfl | rfl | rfl | rfl | rfl | rfl | rfl | rfl | rfl | rfl | rfl | rfl | rfl | rfl
  all_goals exact ⟨_, rfl⟩

variable {theme : Theme} {raw : String} {token : UtilityToken} {n : Float32}

/-- **Space and size** take the size of a step from the options. -/
theorem style_stepped (options : LoweringOptions) (layer : Layer) {family : Family}
    (hm : family ∈ families) {scale : Scale} (hs : scale ∈ Scale.stepped)
    (hscale : family.scale = some scale) (h : family.ReadsStep theme raw token n) :
    ∃ d edit, family.resolve? theme raw = some d ∧
      family.property.pixelEdit? d.sideOrAll
        (d.signed (n * options.spacingStep * options.rootFontSize)) = some edit ∧
      layer.style options d = edit.apply layer := by
  have hvalue : family.scale.bind (·.value? token.value) = some (.number n) := by
    rw [hscale]
    exact Scale.value?_of_isStep h.step hs
  have hresolve := h.resolve?_eq (suffix_of_stepped family hm scale hs hscale) hvalue rfl
  generalize hd : family.declaration token (.number n) = d at hresolve
  have hproperty : d.property = family.property := by rw [← hd, Family.declaration]
  have hnumber : d.value = .number n := by rw [← hd, Family.declaration]
  obtain ⟨edit, hedit⟩ := exists_pixelEdit hm hs hscale d.sideOrAll (d.signed (options.spacingPx n))
  refine ⟨d, edit, hresolve, hedit, ?_⟩
  rw [← hproperty] at hedit
  exact Layer.style_of_plan_ok (Declaration.plan_of_number hnumber hedit) layer

/-- A line height takes the size of a step from the scale. -/
theorem style_lineHeight (options : LoweringOptions) (layer : Layer)
    (h : lineHeight.ReadsStep theme raw token n) :
    ∃ d, lineHeight.resolve? theme raw = some d ∧
      layer.style options d = { layer with
        lineHeight := some (.pixels (n * Scale.defaultStep * options.rootFontSize)) } :=
  ⟨_, h.resolve?_eq rfl (Scale.leading?_of_isStep h.step) rfl,
    Layer.style_of_plan_ok (Declaration.plan_of_rem rfl rfl) layer⟩

/-- The utility is a font size of some pixels, with a number of steps behind the slash. -/
structure ReadsLeadingStep (options : LoweringOptions) (theme : Theme) (raw : String)
    (token : UtilityToken) (n px : Float32) : Prop where
  read : fontSize.read? raw = some token
  unsigned : token.negative = false
  number : ∃ suffix, token.slash = some suffix ∧ between? "[" "]" suffix = none ∧
    Number.readSingle? suffix.toList = some n
  onScale : (Scale.spacing? n).isSome
  size : ∃ size height origin, fontSize.value? theme token = some (.font size height, origin) ∧
    size.unit ≠ .percent ∧ size.toPx? options.rootFontSize = some px

/-- So does the line height next to a font size. -/
theorem style_fontSize {options : LoweringOptions} (layer : Layer) {px : Float32}
    (h : ReadsLeadingStep options theme raw token n px) :
    ∃ d, fontSize.resolve? theme raw = some d ∧
      layer.style options d = { layer with
        fontSize := some px
        lineHeight := some (.pixels (n * Scale.defaultStep * options.rootFontSize)) } := by
  obtain ⟨suffix, hslash, hplain, hnumber⟩ := h.number
  obtain ⟨size, height, origin, hvalue, hunit, hpx⟩ := h.size
  let d : Declaration :=
    { fontSize.declaration token (.font size (some (.length (.rem (n * Scale.defaultStep)))))
      with origin }
  have hresolve : fontSize.resolve? theme raw = some d := by
    rw [Family.resolve?, h.read, Option.bind_some, Family.declare?_eq_some_iff]
    refine ⟨fun hn => ?_, none, _, origin, _, rfl, hvalue, fun _ => rfl, ?_, rfl⟩
    · rw [h.unsigned] at hn
      cases hn
    · have hsuffix : fontSize.suffix = .leading := rfl
      rw [Family.suffixed?, if_pos hsuffix, hslash, Family.withLeading?,
        Family.leadingSuffix?_of_number hplain hnumber h.onScale]
      rfl
  exact ⟨d, hresolve, Layer.style_of_plan_ok (Declaration.plan_of_font rfl rfl hunit hpx) layer⟩

/-- **What a number of steps lowers to.**  The utilities for space and size take the size of a step
    from the options.  Line heights, alone or next to a font size, take it from the scale, so they
    agree with the others only where the options leave it as it is. -/
theorem style_step (options : LoweringOptions) (theme : Theme) (layer : Layer) (raw : String)
    (token : UtilityToken) (n : Float32) :
    (∀ family ∈ families, ∀ scale ∈ Scale.stepped, family.scale = some scale →
      family.ReadsStep theme raw token n →
        ∃ d edit, family.resolve? theme raw = some d ∧
          family.property.pixelEdit? d.sideOrAll
            (d.signed (n * options.spacingStep * options.rootFontSize)) = some edit ∧
          layer.style options d = edit.apply layer) ∧
    (lineHeight.ReadsStep theme raw token n →
      ∃ d, lineHeight.resolve? theme raw = some d ∧
        layer.style options d = { layer with
          lineHeight := some (.pixels (n * Scale.defaultStep * options.rootFontSize)) }) ∧
    ∀ px, ReadsLeadingStep options theme raw token n px →
      ∃ d, fontSize.resolve? theme raw = some d ∧
        layer.style options d = { layer with
          fontSize := some px
          lineHeight := some (.pixels (n * Scale.defaultStep * options.rootFontSize)) } :=
  ⟨fun _ hm _ hs hscale h => style_stepped options layer hm hs hscale h,
    style_lineHeight options layer, fun _ => style_fontSize layer⟩

/-- Options under which a step is twice as large as the scale says. -/
def wideSteps : LoweringOptions := { spacingStep := 0.5 }

/-- Six steps as a padding, as a line height, and as the line height of a font size. -/
theorem style_step_six :
    (∃ d edit, padding.resolve? .empty "p-6" = some d ∧
      Property.padding.pixelEdit? d.sideOrAll
        (d.signed (6 * wideSteps.spacingStep * wideSteps.rootFontSize)) = some edit ∧
      Layer.empty.style wideSteps d = edit.apply .empty) ∧
    (∃ d, lineHeight.resolve? .empty "leading-6" = some d ∧
      Layer.empty.style wideSteps d = { Layer.empty with
        lineHeight := some (.pixels (6 * Scale.defaultStep * wideSteps.rootFontSize)) }) ∧
    ∃ d, fontSize.resolve? .empty "text-sm/6" = some d ∧
      Layer.empty.style wideSteps d = { Layer.empty with
        fontSize := some (0.875 * 16)
        lineHeight := some (.pixels (6 * Scale.defaultStep * wideSteps.rootFontSize)) } := by
  have hstep : Scale.IsStep "6" 6 := ⟨by decide +kernel, by decide +kernel⟩
  have hpadding : ∃ token, padding.read? "p-6" = some token ∧ token.value = "6" ∧
      token.negative = false := by
    decide +kernel
  have hleading : ∃ token, lineHeight.read? "leading-6" = some token ∧ token.value = "6" ∧
      token.negative = false := by
    decide +kernel
  have hfont : ∃ token, fontSize.read? "text-sm/6" = some token ∧ token.negative = false ∧
      token.slash = some "6" ∧
      fontSize.value? .empty token =
        some (.font (.rem 0.875) (some (.length (.rem 1.25))), .preset) := by
    decide +kernel
  refine ⟨?_, ?_, ?_⟩
  · obtain ⟨token, hread, hvalue, hminus⟩ := hpadding
    exact (style_step wideSteps .empty .empty "p-6" token 6).1 padding (by simp [families])
      .spacing (by simp [Scale.stepped]) rfl ⟨hread, hvalue ▸ hstep, by simp, by simp [hminus]⟩
  · obtain ⟨token, hread, hvalue, hminus⟩ := hleading
    exact (style_step wideSteps .empty .empty "leading-6" token 6).2.1
      ⟨hread, hvalue ▸ hstep, by simp, by simp [hminus]⟩
  · obtain ⟨token, hread, hminus, hslash, hvalue⟩ := hfont
    exact (style_step wideSteps .empty .empty "text-sm/6" token 6).2.2 (0.875 * 16)
      ⟨hread, hminus, ⟨"6", hslash, by decide +kernel, hstep.number⟩, hstep.onScale,
        .rem 0.875, _, _, hvalue, by simp [Length.rem], rfl⟩

/-- With wide steps a padding of six steps has their size, and a line height of six has not. -/
theorem step_sizes_differ :
    (∃ d, padding.resolve? .empty "p-6" = some d ∧
      (Layer.empty.style wideSteps d).padding =
        .all (some (6 * wideSteps.spacingStep * wideSteps.rootFontSize))) ∧
    ∃ d, lineHeight.resolve? .empty "leading-6" = some d ∧
      (Layer.empty.style wideSteps d).lineHeight ≠
        some (.pixels (6 * wideSteps.spacingStep * wideSteps.rootFontSize)) := by
  decide +kernel

end Catalog

end UtilityStyle
