/-
  Lowering is atomic.

  `style_atomic`: whether a declaration can be lowered, and the error if not, are the same on every
  layer.  Success leaves the CSS of the layer alone.  An error changes nothing but, at most, the
  entry of the declaration's CSS property.
-/
import UtilityStyle.Proofs.Lowering.Footprint

namespace UtilityStyle

namespace Declaration

variable {d : Declaration} {options : LoweringOptions}

/-- Lowering never writes CSS. -/
theorem cell_ne_css_of_mem_plan {edits : List Edit} (h : d.plan options = .ok edits)
    {edit : Edit} (he : edit ∈ edits) : .css ≠ edit.cell := by
  rcases mem_plan h he with ho | ⟨_, _, _, -, -, rfl⟩
  · exact Edit.cell_ne_of_group? ho rfl nofun
  · nofun

theorem css_editAll_of_plan {edits : List Edit} (h : d.plan options = .ok edits) (layer : Layer) :
    (layer.editAll edits).css = layer.css :=
  Layer.cell_editAll_of_ne (c := .css) (fun _ he => cell_ne_css_of_mem_plan h he) layer

theorem lower_run_of_plan_ok {edits : List Edit} (h : d.plan options = .ok edits)
    (layer : Layer) : (d.lower options).run layer = .ok () (layer.editAll edits) := by
  rw [lower_eq_ofPlan, h]; rfl

theorem lower_run_of_plan_error {error : LoweringError} (h : d.plan options = .error error)
    (layer : Layer) : (d.lower options).run layer = .error error layer := by
  rw [lower_eq_ofPlan, h]; rfl

theorem edits_of_plan_ok {edits : List Edit} (h : d.plan options = .ok edits) :
    d.edits options = edits := by
  rw [Declaration.edits, h]

theorem edits_of_plan_error {error : LoweringError} (h : d.plan options = .error error) :
    d.edits options = ((d.keptCss? options error).map (.css d.cssProperty)).toList := by
  rw [Declaration.edits, h]

end Declaration

/-! ## Styling from a plan -/

section
variable {d : Declaration} {options : LoweringOptions}

theorem Layer.style_of_plan_ok {edits : List Edit} (h : d.plan options = .ok edits)
    (layer : Layer) : layer.style options d = layer.editAll edits := by
  rw [style_eq_editAll, Declaration.edits_of_plan_ok h]

/-- A declaration that no part of a layer stands for is kept as CSS. -/
theorem Layer.style_of_unsupported {property : Property} {raw text : String}
    (hplan : d.plan options = .error (.unsupported property raw)) (hkeep : options.keepCss = true)
    (hcss : d.cssValue? options = some text) (layer : Layer) :
    layer.style options d = { layer with css := layer.css.insert d.cssProperty text } := by
  have hkept : d.keptCss? options (.unsupported property raw) = some text := by
    rw [Declaration.keptCss?, if_pos hkeep, hcss]
  rw [style_eq_editAll, Declaration.edits_of_plan_error hplan, hkept]
  rfl

end

/-- **Lowering is atomic.**  A declaration that can be lowered by itself can be lowered into every
    layer, and the CSS of the layer stays.  One that cannot has the same error on every layer.  It
    leaves the layer as it was but for the entry of its CSS property, which holds the CSS text of
    the declaration when that is kept (`Declaration.keptCss?`). -/
theorem Layer.style_atomic (options : LoweringOptions) (layer : Layer) (d : Declaration) :
    match d.layer? options with
    | .ok fresh =>
      fresh = Layer.empty.style options d ∧
        (d.lower options).run layer = .ok () (layer.style options d) ∧
        (layer.style options d).css = layer.css
    | .error error =>
      (d.lower options).run layer = .error error layer ∧
        { layer.style options d with css := layer.css } = layer ∧
        ∀ name, (layer.style options d).css.get? name =
          if name = d.cssProperty then (d.keptCss? options error).or (layer.css.get? name)
          else layer.css.get? name := by
  simp only [d.layer?_eq_map, Layer.style_eq_editAll]
  cases h : d.plan options with
  | ok edits =>
    rw [Declaration.edits_of_plan_ok h]
    exact ⟨rfl, Declaration.lower_run_of_plan_ok h layer, Declaration.css_editAll_of_plan h layer⟩
  | error error =>
    refine ⟨Declaration.lower_run_of_plan_error h layer, ?_⟩
    rw [Declaration.edits_of_plan_error h]
    cases d.keptCss? options error with
    | none => exact ⟨rfl, fun name => by simp⟩
    | some text => exact ⟨rfl, fun name => Text.Dictionary.get?_insert⟩

end UtilityStyle
