/-
  Errors of lowering.

  * `Declaration.Explains`: what an error says of the declaration that has it;
  * `Explained`: all errors of a measure or a plan do, with one lemma per way to put measures
    together;
  * `Declaration.explains_of_lower`: every error of a lowering names the property and the text of
    its declaration, and a zero denominator is complained about only where there is one.
-/
import UtilityStyle.Proofs.Lowering.Atomic

namespace UtilityStyle

namespace Declaration

/-- The error is about the declaration: it names the property, with the text that has no
    counterpart or with a fault, and the declaration has the zero denominator if that is it. -/
inductive Explains (d : Declaration) : LoweringError → Prop
  | unsupported : Explains d (.unsupported d.property d.raw)
  | fault {fault : ValueFault} : fault ≠ .zeroDenominator →
      Explains d (.invalidValue d.property fault)
  | zeroDenominator {n : Nat} : d.value = .fraction n 0 →
      Explains d (.invalidValue d.property .zeroDenominator)

/-- All errors are about the declaration. -/
def Explained {α : Type} (d : Declaration) (x : Except LoweringError α) : Prop :=
  ∀ error, x = .error error → d.Explains error

/-! ## Putting measures together -/

namespace Explained
variable {α β : Type} {d : Declaration}

theorem ok {a : α} : d.Explained (.ok a) := nofun

theorem unsupported : d.Explained (d.unsupported : Except LoweringError α) := by
  rintro _ ⟨⟩
  exact .unsupported

theorem invalid {fault : ValueFault} (h : fault ≠ .zeroDenominator) :
    d.Explained (d.invalid fault : Except LoweringError α) := by
  rintro _ ⟨⟩
  exact .fault h

theorem bind {x : Except LoweringError α} {f : α → Except LoweringError β} (hx : d.Explained x)
    (hf : ∀ a, d.Explained (f a)) : d.Explained (x >>= f) := by
  cases x with
  | error => rintro _ ⟨⟩; exact hx _ rfl
  | ok a => exact hf a

/-- What is made of a measure has no errors of its own. -/
theorem map {x : Except LoweringError α} (hx : d.Explained x) (f : α → β) :
    d.Explained (x.map f) := by
  cases x with
  | error => rintro _ ⟨⟩; exact hx _ rfl
  | ok a => exact ok

theorem orUnsupported (found : Option α) : d.Explained (d.orUnsupported found) := by
  cases found with
  | none => exact unsupported
  | some a => exact ok

theorem keywordIn (table : String → Option α) : d.Explained (d.keywordIn table) := orUnsupported _

theorem plainNumber : d.Explained d.plainNumber := orUnsupported _

end Explained

variable {d : Declaration} {options : LoweringOptions}

/-! ## Measures -/

theorem explained_px (l : Length) : d.Explained (d.px options l) := by
  unfold px
  split
  · exact .ok
  · exact .invalid (by simp)

theorem explained_spacingMagnitude : d.Explained (d.spacingMagnitude options) := by
  unfold spacingMagnitude
  split
  · exact .ok
  · exact .ok
  · exact explained_px _
  · exact .unsupported

theorem explained_spacing : d.Explained (d.spacing options) := explained_spacingMagnitude.map _

/-- This is the one measure that complains about a denominator. -/
theorem explained_dimension : d.Explained (d.dimension options) := by
  refine .map ?_ _
  unfold dimensionMagnitude
  split
  · exact .ok
  · exact .ok
  · exact .ok
  · next n m hvalue =>
    split
    · exact .ok
    · next hpercent =>
      have hm : m = 0 := by
        rw [hvalue, Value.percent?] at hpercent
        by_contra hm
        rw [if_neg hm] at hpercent
        cases hpercent
      subst hm
      rintro _ ⟨⟩
      exact .zeroDenominator hvalue
  · exact explained_spacingMagnitude.map _

theorem explained_lineWidth (bare : Float32) : d.Explained (d.lineWidth options bare) := by
  unfold lineWidth
  split
  · split
    · exact .ok
    · exact .unsupported
  · exact .ok
  · exact explained_px _
  · exact .unsupported

theorem explained_sizeAndMode : d.Explained (d.sizeAndMode options) := by
  have hmeasured : d.Explained (d.dimension options) := explained_dimension
  unfold sizeAndMode
  split
  · exact hmeasured.map _
  · exact hmeasured.map _
  · exact .ok
  · split
    · exact .ok
    · exact .unsupported
  · exact .ok
  · exact .ok
  · exact .ok
  · exact .ok
  · exact .unsupported

theorem explained_sizeBound : d.Explained (d.sizeBound options) := by
  have hmeasured : d.Explained (d.dimension options) := explained_dimension
  unfold sizeBound
  split
  · exact hmeasured.map _
  · exact hmeasured.map _
  · exact hmeasured.map _
  · exact .ok
  · split
    · exact (explained_px _).map _
    · exact .unsupported

theorem explained_ratio : d.Explained d.ratio := by
  unfold ratio
  split
  · exact .ok
  · split
    · exact .invalid (by simp)
    · exact .ok
  · split
    · exact .ok
    · exact .invalid (by simp)
  · exact .unsupported

theorem explained_cornerRadius : d.Explained (d.cornerRadius options) := by
  unfold cornerRadius
  split
  · split
    · exact explained_px _
    · exact .unsupported
  · split
    · exact .unsupported
    · exact explained_px _
  · exact .unsupported

theorem explained_degrees : d.Explained d.degrees := by
  unfold degrees
  split
  · exact .ok
  · exact .unsupported

theorem explained_offset : d.Explained (d.offset options) := by
  refine explained_dimension.bind fun offset => ?_
  split
  · exact .unsupported
  · exact .ok

theorem explained_wholeNumber : d.Explained d.wholeNumber := Explained.plainNumber.map _

theorem explained_count : d.Explained d.count := by
  unfold count
  split
  · split
    · exact .ok
    · exact .unsupported
  · exact .unsupported

theorem explained_trackCount : d.Explained d.trackCount := by
  unfold trackCount
  split
  · exact .ok
  · exact explained_count.map _

/-! ### The flex shorthand -/

theorem explained_flexFactor (text : String) (word : List Char) :
    d.Explained (d.flexFactor text word) := by
  unfold flexFactor
  split
  · exact .ok
  · exact .invalid (by simp)

theorem explained_flexBasis (text : String) (word : List Char) :
    d.Explained (d.flexBasis options text word) := by
  unfold flexBasis
  split
  · exact .ok
  · split
    · exact .invalid (by simp)
    · exact .ok
    · exact (explained_px _).map _

theorem explained_flexText (text : String) : d.Explained (d.flexText options text) := by
  unfold flexText
  split
  · exact (explained_flexFactor _ _).bind fun _ => .ok
  · exact (explained_flexFactor _ _).bind fun _ => (explained_flexFactor _ _).bind fun _ => .ok
  · refine (explained_flexBasis _ _).bind fun _ => ?_
    exact (explained_flexFactor _ _).bind fun _ => (explained_flexFactor _ _).bind fun _ => .ok
  · exact .invalid (by simp)

theorem explained_flexParts : d.Explained (d.flexParts options) := by
  unfold flexParts
  split
  · exact .ok
  · exact .ok
  · exact explained_flexText _
  · exact explained_flexText _
  · exact .unsupported

/-! ### Paint -/

theorem explained_color : d.Explained d.color := .orUnsupported _

theorem explained_paint : d.Explained d.paint := explained_color.map _

theorem explained_image : d.Explained d.image := by
  unfold image
  split
  · exact .ok
  · exact (Explained.orUnsupported _).map _
  · exact .unsupported

theorem explained_shadowsOf (css : String) : d.Explained (d.shadowsOf options css) := by
  unfold shadowsOf
  split
  · exact .ok
  · exact .invalid (by simp)

theorem explained_shadows : d.Explained (d.shadows options) := by
  unfold shadows
  split
  · split
    · exact explained_shadowsOf _
    · exact .unsupported
  · exact explained_shadowsOf _
  · exact .unsupported

theorem explained_blurRadius : d.Explained (d.blurRadius options) := by
  unfold blurRadius
  split
  · exact .orUnsupported _
  · split
    · exact .unsupported
    · exact explained_px _
  · exact .unsupported

/-! ### Lettering -/

theorem explained_leading (value : Leading) : d.Explained (d.leading options value) := by
  unfold leading
  split
  · exact .ok
  · exact .ok
  · exact (explained_px _).map _

theorem explained_lineHeight : d.Explained (d.lineHeight options) := by
  unfold lineHeight
  split
  · exact explained_leading _
  · exact explained_leading _
  · exact .unsupported

theorem explained_tracking : d.Explained (d.tracking options) := by
  refine .map ?_ _
  unfold trackingMagnitude
  split
  · exact .ok
  · exact .ok
  · exact (explained_px _).map _
  · exact .unsupported

theorem explained_fontMeasure : d.Explained (d.fontMeasure options) := by
  unfold fontMeasure
  split
  · split
    · exact .unsupported
    · refine (explained_px _).bind fun px => ?_
      split
      · exact .ok
      · exact (explained_leading _).bind fun _ => .ok
  · exact .unsupported

theorem explained_lineLimit : d.Explained d.lineLimit := by
  unfold lineLimit
  split
  · exact .ok
  · split
    · exact .ok
    · exact .invalid (by simp)
  · exact .unsupported

theorem explained_fontFamilies : d.Explained d.fontFamilies := by
  unfold fontFamilies
  split
  · exact .ok
  · exact .unsupported

/-! ## Plans -/

section
variable (d : Declaration) (options : LoweringOptions)

theorem explained_boxPlan : d.Explained (d.boxPlan options) := by
  obtain ⟨property, value, origin, side, opacity, negative, important, raw⟩ := d
  cases property
  case padding | gap | spaceBetween => exact explained_spacing.bind fun _ => .ok
  case margin | inset => exact explained_dimension.bind fun _ => .ok
  case width | height | size => exact explained_sizeAndMode.map _
  case minWidth | minHeight | maxWidth | maxHeight => exact explained_sizeBound.bind fun _ => .ok
  case aspectRatio => exact explained_ratio.bind fun _ => .ok
  case borderWidth => exact (explained_lineWidth _).bind fun _ => .ok
  case borderStyle => exact (Explained.keywordIn _).bind fun _ => .ok
  case borderRadius =>
    refine explained_cornerRadius.bind fun px => ?_
    split
    · exact .unsupported
    · exact .ok
  case rotate => exact explained_degrees.bind fun _ => .ok
  case scale => exact Explained.plainNumber.bind fun _ => .ok
  case translate => exact explained_offset.bind fun _ => .ok
  all_goals exact .unsupported

theorem explained_layoutPlan : d.Explained (d.layoutPlan options) := by
  obtain ⟨property, value, origin, side, opacity, negative, important, raw⟩ := d
  cases property
  case display | position | overflow | visibility | flexDirection | flexWrap | justifyContent |
      alignItems =>
    exact (Explained.keywordIn _).bind fun _ => .ok
  case zIndex =>
    dsimp only [layoutPlan]
    split
    · exact .ok
    · exact explained_wholeNumber.bind fun _ => .ok
  case alignSelf =>
    dsimp only [layoutPlan]
    split
    · exact .ok
    · exact (Explained.keywordIn _).bind fun _ => .ok
  case order => exact explained_wholeNumber.bind fun _ => .ok
  case flex => exact explained_flexParts.bind fun _ => .ok
  case flexGrow | flexShrink => exact Explained.plainNumber.bind fun _ => .ok
  case flexBasis => exact explained_dimension.bind fun _ => .ok
  case gridTemplateColumns | gridTemplateRows => exact explained_trackCount.bind fun _ => .ok
  case gridColumn | gridRow => exact explained_count.bind fun _ => .ok
  all_goals exact .unsupported

theorem explained_paintPlan : d.Explained (d.paintPlan options) := by
  obtain ⟨property, value, origin, side, opacity, negative, important, raw⟩ := d
  cases property
  case backgroundColor | textColor => exact explained_paint.bind fun _ => .ok
  case backgroundImage => exact explained_image.bind fun _ => .ok
  case borderColor =>
    dsimp only [paintPlan]
    split
    · exact .unsupported
    · exact explained_paint.bind fun _ => .ok
  case ringColor | ringOffsetColor | shadowColor => exact explained_color.bind fun _ => .ok
  case ringWidth | ringOffsetWidth => exact (explained_lineWidth _).bind fun _ => .ok
  case boxShadow => exact explained_shadows.bind fun _ => .ok
  case opacity => exact Explained.plainNumber.bind fun _ => .ok
  case blur | backdropBlur => exact explained_blurRadius.bind fun _ => .ok
  case mixBlendMode => exact (Explained.orUnsupported _).bind fun _ => .ok
  all_goals exact .unsupported

theorem explained_letteringPlan : d.Explained (d.letteringPlan options) := by
  obtain ⟨property, value, origin, side, opacity, negative, important, raw⟩ := d
  cases property
  case fontSize => exact explained_fontMeasure.map _
  case fontWeight => exact Explained.plainNumber.bind fun _ => .ok
  case fontFamily => exact explained_fontFamilies.bind fun _ => .ok
  case fontStyle | textAlign | textDecorationLine | textTransform | textOverflow =>
    exact (Explained.keywordIn _).bind fun _ => .ok
  case lineHeight => exact explained_lineHeight.bind fun _ => .ok
  case letterSpacing => exact explained_tracking.bind fun _ => .ok
  case lineClamp => exact explained_lineLimit.bind fun _ => .ok
  all_goals exact .unsupported

theorem explained_literalPlan : d.Explained (d.literalPlan options) := by
  have hbox := d.explained_boxPlan options
  have hlayout := d.explained_layoutPlan options
  have hpaint := d.explained_paintPlan options
  have hlettering := d.explained_letteringPlan options
  unfold literalPlan
  generalize d.property = property
  cases property
  all_goals first | exact hbox | exact hlayout | exact hpaint | exact hlettering | exact .unsupported

/-- **Errors of a plan** are about its declaration. -/
theorem explained_plan : d.Explained (d.plan options) := by
  unfold plan
  split
  · exact (Explained.orUnsupported _).map _
  · exact d.explained_literalPlan options

end

/-- **Every error of a lowering is about its declaration**, on every layer, and leaves the layer as
    it was. -/
theorem explains_of_lower {layer layer' : Layer} {error : LoweringError}
    (h : (d.lower options).run layer = .error error layer') : d.Explains error ∧ layer' = layer := by
  cases hplan : d.plan options with
  | ok edits => rw [lower_run_of_plan_ok hplan] at h; cases h
  | error error' =>
    rw [lower_run_of_plan_error hplan] at h
    cases h
    exact ⟨d.explained_plan options error hplan, rfl⟩

/-- Only a fraction that divides by zero has a zero denominator to complain about. -/
theorem eq_fraction_of_explains {property : Property}
    (h : d.Explains (.invalidValue property .zeroDenominator)) : ∃ n, d.value = .fraction n 0 := by
  cases h with
  | fault h => exact absurd rfl h
  | zeroDenominator h => exact ⟨_, h⟩

end Declaration

end UtilityStyle
