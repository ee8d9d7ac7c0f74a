/-
  The opacity of color utilities.

  * `Layer.painted` is a layer with a color where a property puts it, and `Layer.driven` is one with
    a binding there;
  * `style_color` and `style_variable`: a color utility paints its color, with the opacity folded
    into the alpha, or drives its parts with its custom property, mixed with the opacity;
  * `style_keyword`: a keyword is kept without its opacity;
  * `Catalog.style_opacity`: so the suffix of a utility counts once, unless its value is a keyword.
-/
import UtilityStyle.Proofs.Lowering.Atomic
import UtilityStyle.Proofs.Utility.ColorFamily

namespace UtilityStyle

/-! ## Where colors go -/

/-- The binding mixed with transparency for an opacity in percent. -/
def Binding.mixed (binding : Binding) : Option Nat → Binding
  | some percent => .expression (translucent (some percent) binding.toCss)
  | none => binding

theorem Binding.toCss_mixed (binding : Binding) (opacity : Option Nat) :
    (binding.mixed opacity).toCss = translucent opacity binding.toCss := by
  cases opacity <;> rfl

namespace Layer

/-- The layer with a color where the declaration's property puts it: in a paint, in the ring, in
    the shadows, or in the CSS.  The color of a paint is opaque, and its alpha is the opacity of the
    paint. -/
def painted (layer : Layer) (d : Declaration) (c : Color) : Layer :=
  let solid : Paint := .solid ⟨c.r, c.g, c.b, 1⟩ c.a
  let inCss : Layer := { layer with css := layer.css.insert d.cssProperty c.toHex }
  match d.property with
  | .backgroundColor => { layer with fills := layer.fills ++ [solid] }
  | .textColor => { layer with textFill := some solid }
  | .borderColor => if d.sideOrAll = .all then { layer with strokes := [solid] } else inCss
  | .ringColor => { layer with ring? := some { layer.ring with color := some c } }
  | .ringOffsetColor => { layer with ring? := some { layer.ring with offsetColor := some c } }
  | .shadowColor =>
    { layer with
      effects := layer.effects.map fun
        | .dropShadow shadow => .dropShadow { shadow with color := c }
        | .innerShadow shadow => .innerShadow { shadow with color := c }
        | blur => blur
      shadowColor := some c }
  | _ => inCss

/-- The layer with a binding where the declaration's property puts it: in parts, or in the CSS. -/
def driven (layer : Layer) (d : Declaration) (binding : Binding) : Layer :=
  match d.boundParts? with
  | some parts =>
    { layer with bindings := parts.foldl (·.insert · binding) layer.bindings }
  | none => { layer with css := layer.css.insert d.cssProperty binding.toCss }

end Layer

section
variable {options : LoweringOptions} {d : Declaration}

theorem Layer.editAll_bind (layer : Layer) (parts : List String) (binding : Binding) :
    layer.editAll (parts.map (.bind · binding)) =
      { layer with bindings := parts.foldl (·.insert · binding) layer.bindings } := by
  induction parts generalizing layer with
  | nil => rfl
  | cons part parts ih => exact ih _

/-! ## Colors -/

namespace Declaration

theorem cssValue?_of_not_negative (h : d.negative = false) :
    d.cssValue? options = d.cssMagnitude? options := by
  rw [cssValue?, h]
  cases d.cssMagnitude? options <;> rfl

variable {preset : Option String} {color c : Color}

theorem plan_of_color (hvalue : d.value = .color preset color) :
    d.plan options = d.literalPlan options := by
  refine plan_of_unbound ?_
  rw [binding?, opaqueBinding?, hvalue]
  rfl

theorem cssValue?_of_color (h : d.negative = false) (hvalue : d.value = .color preset color)
    (hc : d.fadedColor? = some c) : d.cssValue? options = some c.toHex := by
  rw [cssValue?_of_not_negative h, cssMagnitude?, hvalue]
  dsimp only
  rw [hc]
  rfl

end Declaration

/-- **A color is painted** where the property puts it, with the opacity in its alpha. -/
theorem Layer.style_color (hd : d.IsColor) (hkeep : options.keepCss = true)
    {preset : Option String} {color c : Color} (hvalue : d.value = .color preset color)
    (hc : d.fadedColor? = some c) (layer : Layer) :
    layer.style options d = layer.painted d c := by
  have hplan : d.plan options = d.literalPlan options := Declaration.plan_of_color hvalue
  have hcss : d.cssValue? options = some c.toHex :=
    Declaration.cssValue?_of_color hd.negative_eq hvalue hc
  have hpaint (f : Paint → Edit) :
      (do return [f (← d.paint)] : Except LoweringError (List Edit)) = .ok [f (.ofColor c)] := by
    rw [Declaration.paint, Declaration.color, hc]
    rfl
  have hcolor (f : Color → Edit) :
      (do return [f (← d.color)] : Except LoweringError (List Edit)) = .ok [f c] := by
    rw [Declaration.color, hc]
    rfl
  have hmem := hd.property_mem
  simp only [Property.colors, List.mem_cons, List.not_mem_nil, or_false] at hmem
  obtain ⟨property, value, origin, side, opacity, negative, important, raw⟩ := d
  dsimp only at hmem
  cases property
  case backgroundColor => exact style_of_plan_ok (hplan.trans (hpaint .addFill)) layer
  case textColor => exact style_of_plan_ok (hplan.trans (hpaint .textFill)) layer
  case borderColor =>
    by_cases hside : side.getD .all = .all
    · refine Eq.trans ?_ (if_pos hside).symm
      exact style_of_plan_ok (hplan.trans ((if_neg (not_not.2 hside)).trans (hpaint .stroke))) layer
    · refine Eq.trans ?_ (if_neg hside).symm
      exact style_of_unsupported (hplan.trans (if_pos hside)) hkeep hcss layer
  case ringColor => exact style_of_plan_ok (hplan.trans (hcolor .ringColor)) layer
  case ringOffsetColor => exact style_of_plan_ok (hplan.trans (hcolor .ringOffsetColor)) layer
  case shadowColor => exact style_of_plan_ok (hplan.trans (hcolor .shadowColor)) layer
  case outlineColor | divideColor | fill | stroke | accentColor | caretColor | placeholderColor |
      textDecorationColor =>
    -- No part of a layer holds these colors.
    exact style_of_unsupported hplan hkeep hcss layer
  all_goals simp at hmem

/-! ## Custom properties -/

theorem Declaration.binding?_of_variable (h : d.negative = false) {name : String}
    (hvalue : d.value = .variable name) :
    d.binding? = some ((Binding.variable name).mixed d.opacity) := by
  rw [binding?, opaqueBinding?, hvalue, h]
  cases d.opacity <;> rfl

/-- **A custom property drives** the parts that the property stands for, or is kept as CSS, mixed
    with the opacity. -/
theorem Layer.style_variable (hd : d.IsColor) (hkeep : options.keepCss = true) {name : String}
    (hvalue : d.value = .variable name) (layer : Layer) :
    layer.style options d = layer.driven d ((Binding.variable name).mixed d.opacity) := by
  have hb := Declaration.binding?_of_variable hd.negative_eq hvalue
  rw [driven]
  cases hparts : d.boundParts? with
  | some parts =>
    rw [style_of_plan_ok (Declaration.plan_of_boundParts hb hparts), editAll_bind]
  | none =>
    refine style_of_unsupported (Declaration.plan_of_no_parts hb hparts) hkeep ?_ layer
    rw [Declaration.cssValue?_of_not_negative hd.negative_eq, Declaration.cssMagnitude?, hvalue,
      Binding.toCss_mixed]
    rfl

/-! ## Keywords -/

/-- A keyword is kept as CSS without its opacity. -/
theorem Layer.style_keyword (hd : d.IsColor) {keyword : String}
    (hvalue : d.value = .keyword keyword) (layer : Layer) :
    layer.style options d = layer.style options { d with opacity := none } := by
  have hmem := hd.property_mem
  simp only [Property.colors, List.mem_cons, List.not_mem_nil, or_false] at hmem
  obtain ⟨property, value, origin, side, opacity, negative, important, raw⟩ := d
  dsimp only at hmem hvalue
  subst hvalue
  -- The error and the CSS text of a keyword are read without a look at the opacity.
  cases property
  case backgroundColor | textColor | borderColor | ringColor | ringOffsetColor | shadowColor |
      outlineColor | divideColor | fill | stroke | accentColor | caretColor | placeholderColor |
      textDecorationColor =>
    rfl
  all_goals simp at hmem

end

/-! ## Suffixes -/

/-- **A suffix counts once**, unless the value is a keyword.  A utility with an opacity is one of a
    family of colors.  Its color is painted like that of the same utility without the suffix, with
    the opacity as one more factor of the alpha.  Its custom property drives what it drives
    without the suffix, mixed with transparency.  A keyword loses the opacity. -/
theorem Catalog.style_opacity (options : LoweringOptions) (layer : Layer) {theme : Theme}
    {raw : String} {d : Declaration} {percent : Nat} (hread : builtIn.read? theme raw = some d)
    (hopacity : d.opacity = some percent) (hkeep : options.keepCss = true) :
    let plain := { d with opacity := none }
    (∃ family ∈ families, ∃ token, family.read? raw = some token ∧
      family.declare? theme token = some d ∧
        family.declare? theme token.unsuffixed = some plain) ∧
    ((∃ preset color, d.value = .color preset color ∧
        layer.style options plain = layer.painted d color ∧
        layer.style options d =
          layer.painted d { color with a := color.a * Float32.ofNat percent / 100 }) ∨
      (∃ name, d.value = .variable name ∧
        layer.style options plain = layer.driven d (.variable name) ∧
        layer.style options d = layer.driven d (.expression ("color-mix(in srgb, " ++
          ("var(" ++ name ++ ")") ++ " " ++ toString percent ++ "%, transparent)"))) ∨
      ∃ keyword, d.value = .keyword keyword ∧
        layer.style options d = layer.style options plain) := by
  intro plain
  obtain ⟨family, hm, hfamily, token, htoken, hd⟩ :=
    exists_family_of_opacity hread (hopacity ▸ nofun)
  refine ⟨⟨family, hm, token, htoken, hd, hfamily.declare?_unsuffixed hd⟩, ?_⟩
  have hcolor : d.IsColor := hfamily.isColor_of_declare? hd
  have hplain : plain.IsColor := hfamily.isColor_of_declare? (hfamily.declare?_unsuffixed hd)
  have hcoloring := hcolor.coloring
  generalize hvalue : d.value = value at hcoloring
  cases hcoloring with
  | color preset color =>
    refine .inl ⟨preset, color, rfl, ?_, ?_⟩
    · exact Layer.style_color hplain hkeep hvalue (by simp [Declaration.fadedColor?, plain, hvalue,
        Value.color?]) layer
    · exact Layer.style_color hcolor hkeep hvalue (by simp [Declaration.fadedColor?, hvalue,
        Value.color?, hopacity, Color.faded, Color.withAlpha]) layer
  | reference name =>
    refine .inr (.inl ⟨name, rfl, Layer.style_variable hplain hkeep hvalue layer, ?_⟩)
    rw [Layer.style_variable hcolor hkeep hvalue, hopacity]
    rfl
  | keyword keyword => exact .inr (.inr ⟨keyword, rfl, Layer.style_keyword hcolor hvalue layer⟩)

/-- A translucent color at half its opacity makes a ring of a quarter. -/
theorem Catalog.style_opacity_ring :
    ∃ d color, builtIn.read? .empty "ring-[#ff000080]/50" = some d ∧ d.opacity = some 50 ∧
      d.value = .color none color ∧
      Layer.empty.style {} d = { Layer.empty with
        ring? := some { color := some { color with a := color.a * Float32.ofNat 50 / 100 } } } := by
  have hd : ∃ d, builtIn.read? .empty "ring-[#ff000080]/50" = some d ∧ d.opacity = some 50 ∧
      d.property = .ringColor ∧ d.value = .color none (.ofBytes 255 0 0 128) := by
    decide +kernel
  obtain ⟨d, hread, hopacity, hproperty, hvalue⟩ := hd
  refine ⟨d, .ofBytes 255 0 0 128, hread, hopacity, hvalue, ?_⟩
  rcases (style_opacity {} .empty hread hopacity rfl).2 with
    ⟨_, color, hcolor, -, hstyle⟩ | ⟨_, hname, -⟩ | ⟨_, hkeyword, -⟩
  · obtain ⟨-, rfl⟩ := Value.color.inj (hvalue.symm.trans hcolor)
    rw [hstyle, Layer.painted, hproperty]
    rfl
  · cases hvalue.symm.trans hname
  · cases hvalue.symm.trans hkeyword

/-- Half the opacity of the text's own color is lost: it is kept as if it had all of it. -/
theorem Catalog.opacity_of_keyword_lost :
    ∃ d, builtIn.read? .empty "bg-current/50" = some d ∧ d.opacity = some 50 ∧
      let layer := Layer.empty.style {} d
      layer.bindings = .empty ∧ layer.css.get? "background-color" = some "currentColor" ∧
        layer.css.get? "background-color" ≠
          some "color-mix(in srgb, currentColor 50%, transparent)" := by
  decide +kernel

end UtilityStyle
