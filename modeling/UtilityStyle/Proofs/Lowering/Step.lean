/-
  Lowering of spacing steps.

  * `Property.pixelEdit?`: what gives a property for space or size some pixels;
  * `Declaration.plan_of_number`: a declaration of `n` steps gives `n` times the size of a step that
    the options set, whatever its property;
  * `Declaration.plan_of_rem` and `Declaration.plan_of_font`: line heights are lengths, and the
    options set only the root font size.
-/
import UtilityStyle.Proofs.Lowering.Atomic

namespace UtilityStyle

/-- The edit that gives a property for space or size some pixels, on the sides that it has. -/
def Property.pixelEdit? (property : Property) (side : Side) (px : Float32) : Option Edit :=
  match property with
  | padding => some (.padding side.edges px)
  | margin => some (.margin side.edges (.pixels px))
  | inset => some (.inset side.edges (.pixels px))
  | gap | spaceBetween => some (.gap side.axes px)
  | width => some (.size Declaration.onlyX (some (.pixels px)) .fixed)
  | height => some (.size Declaration.onlyY (some (.pixels px)) .fixed)
  | size => some (.size (.both true) (some (.pixels px)) .fixed)
  | minWidth => some (.minWidth (some (.pixels px)))
  | minHeight => some (.minHeight (some (.pixels px)))
  | maxWidth => some (.maxWidth (some (.pixels px)))
  | maxHeight => some (.maxHeight (some (.pixels px)))
  | flexBasis => some (.flexBasis (.pixels px))
  | translate => some (.displacement side.axes (.pixels px))
  | _ => none

namespace Declaration
variable {d : Declaration} {options : LoweringOptions} {n : Float32}

/-! ## Numbers of steps -/

theorem binding?_of_number (hvalue : d.value = .number n) : d.binding? = none := by
  rw [binding?, opaqueBinding?, hvalue]
  rfl

theorem spacing_of_number (hvalue : d.value = .number n) :
    d.spacing options = .ok (d.signed (options.spacingPx n)) := by
  rw [spacing, spacingMagnitude, hvalue]
  rfl

theorem dimension_of_number (hvalue : d.value = .number n) :
    d.dimension options = .ok (.pixels (d.signed (options.spacingPx n))) := by
  rw [dimension, dimensionMagnitude, spacingMagnitude, hvalue, signed]
  cases d.negative <;> rfl

theorem sizePlan_of_number (hvalue : d.value = .number n) (axes : Axes Bool) :
    d.sizePlan options axes =
      .ok [.size axes (some (.pixels (d.signed (options.spacingPx n)))) .fixed] := by
  rw [sizePlan, sizeAndMode, dimension_of_number hvalue, hvalue]
  rfl

theorem sizeBound_of_number (hvalue : d.value = .number n) :
    d.sizeBound options = .ok (some (.pixels (d.signed (options.spacingPx n)))) := by
  rw [sizeBound, dimension_of_number hvalue, hvalue]
  rfl

theorem offset_of_number (hvalue : d.value = .number n) :
    d.offset options = .ok (.pixels (d.signed (options.spacingPx n))) := by
  rw [offset, dimension_of_number hvalue]
  rfl

/-- **A number of steps** gives a property for space or size as many pixels as the options say. -/
theorem plan_of_number (hvalue : d.value = .number n) {edit : Edit}
    (hedit : d.property.pixelEdit? d.sideOrAll (d.signed (options.spacingPx n)) = some edit) :
    d.plan options = .ok [edit] := by
  rw [plan_of_unbound (binding?_of_number hvalue)]
  have hspacing : d.spacing options = _ := spacing_of_number hvalue
  have hdimension : d.dimension options = _ := dimension_of_number hvalue
  have hsize : ∀ axes, d.sizePlan options axes = _ := sizePlan_of_number hvalue
  have hbound : d.sizeBound options = _ := sizeBound_of_number hvalue
  have hoffset : d.offset options = _ := offset_of_number hvalue
  generalize hproperty : d.property = property at hedit
  cases property <;> cases hedit
  case width | height | size => simp only [literalPlan, boxPlan, hproperty, hsize]
  all_goals
    simp only [literalPlan, boxPlan, layoutPlan, hproperty, hspacing, hdimension, hbound, hoffset]
    rfl

/-! ## Line heights -/

/-- A line height in root font sizes. -/
theorem plan_of_rem {x : Float32} (hproperty : d.property = .lineHeight)
    (hvalue : d.value = .length (.rem x)) :
    d.plan options = .ok [.lineHeight (.pixels (x * options.rootFontSize))] := by
  have hbinding : d.binding? = none := by
    rw [binding?, opaqueBinding?, hvalue]
    rfl
  rw [plan_of_unbound hbinding, literalPlan, hproperty, letteringPlan, hproperty, lineHeight,
    hvalue]
  rfl

/-- A font size with a line height in root font sizes. -/
theorem plan_of_font {size : Length} {x px : Float32} (hproperty : d.property = .fontSize)
    (hvalue : d.value = .font size (some (.length (.rem x)))) (hunit : size.unit ≠ .percent)
    (hpx : size.toPx? options.rootFontSize = some px) :
    d.plan options = .ok [.fontSize px, .lineHeight (.pixels (x * options.rootFontSize))] := by
  have hbinding : d.binding? = none := by
    rw [binding?, opaqueBinding?, hvalue]
    rfl
  have hsize : d.px options size = .ok px := by rw [Declaration.px, hpx]
  have hmeasure : d.fontMeasure options =
      .ok (px, some (.pixels (x * options.rootFontSize))) := by
    rw [fontMeasure, hvalue]
    dsimp only
    rw [if_neg hunit, hsize]
    rfl
  rw [plan_of_unbound hbinding, literalPlan, hproperty]
  dsimp only
  rw [letteringPlan, hproperty]
  dsimp only
  rw [hmeasure]
  rfl

end Declaration

end UtilityStyle
