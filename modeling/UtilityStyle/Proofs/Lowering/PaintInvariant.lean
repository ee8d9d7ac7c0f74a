/-
  Paints and effects of reachable layers.

  `Reachable.paintsSound`: shadows have the color that was set for all of them, there is at most one
  blur of each kind and its radius is positive, there is at most one stroke, and the color of a
  solid paint is opaque.
-/
import UtilityStyle.Proofs.Css.Shadow
import UtilityStyle.Proofs.Lowering.Footprint
import UtilityStyle.Proofs.Lowering.Reachable

namespace UtilityStyle

/-! ## Sound paints and effects -/

/-- The color of a solid paint has alpha one. -/
def Paint.IsOpaque (paint : Paint) : Prop := ∀ color ∈ paint.color?, color.a = 1

theorem Paint.isOpaque_ofColor (color : Color) : (ofColor color).IsOpaque := by
  rintro _ ⟨⟩
  rfl

theorem Paint.isOpaque_image (url : String) (mode : ScaleMode) : (image url mode).IsOpaque := nofun

namespace Effect

/-- The color of a shadow. -/
def shadowColor? : Effect → Option Color
  | dropShadow shadow | innerShadow shadow => some shadow.color
  | layerBlur _ | backgroundBlur _ => none

/-- The radius of a blur. -/
def blurRadius? : Effect → Option Float32
  | layerBlur radius | backgroundBlur radius => some radius
  | dropShadow _ | innerShadow _ => none

@[simp] theorem shadowColor?_recolored (color : Color) (effect : Effect) :
    (effect.recolored color).shadowColor? = effect.shadowColor?.map fun _ => color := by
  cases effect <;> rfl

@[simp] theorem blurRadius?_recolored (color : Color) (effect : Effect) :
    (effect.recolored color).blurRadius? = effect.blurRadius? := by
  cases effect <;> rfl

theorem isShadow_recolored (color : Color) (effect : Effect) :
    (effect.recolored color).isShadow = effect.isShadow := by
  cases effect <;> rfl

theorem blurRadius?_of_isShadow {effect : Effect} (h : effect.isShadow = true) :
    effect.blurRadius? = none := by
  cases effect <;> first | rfl | cases h

end Effect

/-- What a blur is applied to. -/
inductive BlurKind where
  | layer
  | background

namespace BlurKind

/-- The blur of a kind. -/
def blur : BlurKind → Float32 → Effect
  | layer => .layerBlur
  | background => .backgroundBlur

/-- Whether an effect is a blur of a kind. -/
def holds : BlurKind → Effect → Bool
  | layer => Effect.isLayerBlur
  | background => Effect.isBackgroundBlur

theorem blurRadius?_blur (kind : BlurKind) (radius : Float32) :
    (kind.blur radius).blurRadius? = some radius := by
  cases kind <;> rfl

theorem shadowColor?_blur (kind : BlurKind) (radius : Float32) :
    (kind.blur radius).shadowColor? = none := by
  cases kind <;> rfl

theorem holds_blur_of_ne {kind kind' : BlurKind} (h : kind ≠ kind') (radius : Float32) :
    kind.holds (kind'.blur radius) = false := by
  cases kind <;> cases kind' <;> first | rfl | exact absurd rfl h

theorem holds_recolored (kind : BlurKind) (color : Color) (effect : Effect) :
    kind.holds (effect.recolored color) = kind.holds effect := by
  cases kind <;> cases effect <;> rfl

theorem holds_of_isShadow (kind : BlurKind) {effect : Effect} (h : effect.isShadow = true) :
    kind.holds effect = false := by
  cases kind <;> cases effect <;> first | rfl | cases h

theorem filter_of_isShadow (kind : BlurKind) {shadows : List Effect}
    (hs : ∀ effect ∈ shadows, effect.isShadow = true) : shadows.filter kind.holds = [] := by
  refine List.filter_eq_nil_iff.2 fun effect he => ?_
  rw [kind.holds_of_isShadow (hs effect he)]
  exact Bool.false_ne_true

end BlurKind

/-- Effects that agree with the color of all shadows, no two of which blur the same. -/
structure EffectsSound (effects : List Effect) (shadowColor : Option Color) : Prop where
  /-- Shadows have the color that was set for all of them. -/
  shadows : ∀ color ∈ shadowColor, ∀ effect ∈ effects, ∀ c ∈ effect.shadowColor?, c = color
  /-- There is at most one blur of each kind. -/
  blurs : ∀ kind : BlurKind, (effects.filter kind.holds).length ≤ 1
  radii : ∀ effect ∈ effects, ∀ radius ∈ effect.blurRadius?, radius > 0

namespace EffectsSound
variable {effects : List Effect} {shadowColor : Option Color}

theorem sublist (h : EffectsSound effects shadowColor) {effects' : List Effect}
    (hs : effects'.Sublist effects) : EffectsSound effects' shadowColor where
  shadows color hc effect he := h.shadows color hc effect (hs.subset he)
  blurs kind := Nat.le_trans (hs.filter _).length_le (h.blurs kind)
  radii effect he := h.radii effect (hs.subset he)

/-- Recoloring all shadows sets their color. -/
theorem recolor (h : EffectsSound effects shadowColor) (color : Color) :
    EffectsSound (effects.map (Effect.recolored color)) (some color) where
  shadows := by
    rintro _ ⟨⟩ effect he c hc
    obtain ⟨before, -, rfl⟩ := List.mem_map.1 he
    rw [Effect.shadowColor?_recolored] at hc
    obtain ⟨_, -, rfl⟩ := Option.map_eq_some_iff.1 hc
    rfl
  blurs := by
    intro kind
    have hkind : kind.holds ∘ Effect.recolored color = kind.holds :=
      funext (kind.holds_recolored color)
    rw [List.filter_map, hkind, List.length_map]
    exact h.blurs kind
  radii := by
    intro effect he radius hr
    obtain ⟨before, hb, rfl⟩ := List.mem_map.1 he
    rw [Effect.blurRadius?_recolored] at hr
    exact h.radii before hb radius hr

/-- Effects may follow others that do not blur the same. -/
theorem append {more : List Effect} (h : EffectsSound effects shadowColor)
    (h' : EffectsSound more shadowColor)
    (hblurs : ∀ kind : BlurKind, effects.filter kind.holds = [] ∨ more.filter kind.holds = []) :
    EffectsSound (effects ++ more) shadowColor where
  shadows := by
    intro color hc effect he
    rcases List.mem_append.1 he with he | he
    · exact h.shadows color hc effect he
    · exact h'.shadows color hc effect he
  blurs := by
    intro kind
    rw [List.filter_append]
    rcases hblurs kind with hk | hk
    · rw [hk, List.nil_append]
      exact h'.blurs kind
    · rw [hk, List.append_nil]
      exact h.blurs kind
  radii := by
    intro effect he
    rcases List.mem_append.1 he with he | he
    · exact h.radii effect he
    · exact h'.radii effect he

section
variable {shadows : List Effect} (hs : ∀ effect ∈ shadows, effect.isShadow = true)
include hs

/-- Shadows alone are sound when no color is set. -/
theorem of_isShadow : EffectsSound shadows none where
  shadows := nofun
  blurs := by
    intro kind
    rw [kind.filter_of_isShadow hs]
    exact Nat.zero_le 1
  radii := by
    intro effect he radius hr
    rw [Effect.blurRadius?_of_isShadow (hs effect he)] at hr
    cases hr

theorem isShadow_of_mem_inShadowColor (color : Option Color) :
    ∀ effect ∈ Effect.inShadowColor color shadows, effect.isShadow = true := by
  cases color with
  | none => exact hs
  | some color =>
    intro effect he
    obtain ⟨before, hb, rfl⟩ := List.mem_map.1 he
    rw [Effect.isShadow_recolored]
    exact hs before hb

/-- Further shadows take on the color that was set. -/
theorem addShadows (h : EffectsSound effects shadowColor) :
    EffectsSound (effects ++ Effect.inShadowColor shadowColor shadows) shadowColor := by
  have hnew : EffectsSound (Effect.inShadowColor shadowColor shadows) shadowColor := by
    cases shadowColor with
    | none => exact of_isShadow hs
    | some color => exact (of_isShadow hs).recolor color
  refine h.append hnew fun kind => .inr ?_
  exact kind.filter_of_isShadow (isShadow_of_mem_inShadowColor hs shadowColor)

end

/-- A blur with a positive radius is sound. -/
theorem of_blur (kind : BlurKind) {radius : Float32} (hr : radius > 0) :
    EffectsSound [kind.blur radius] shadowColor where
  shadows := by
    intro color _ effect he c hc
    cases List.mem_singleton.1 he
    rw [kind.shadowColor?_blur] at hc
    cases hc
  blurs _ := List.length_filter_le ..
  radii := by
    intro effect he r hr'
    cases List.mem_singleton.1 he
    rw [kind.blurRadius?_blur] at hr'
    cases hr'
    exact hr

/-- A blur takes the place of the earlier one of its kind. -/
theorem replaceBlur (h : EffectsSound effects shadowColor) (kind : BlurKind) (radius : Float32) :
    EffectsSound (Edit.replaceBlur kind.holds radius (kind.blur radius) effects) shadowColor := by
  have hothers : EffectsSound (effects.filter (!kind.holds ·)) shadowColor :=
    h.sublist List.filter_sublist
  unfold Edit.replaceBlur
  split
  · next hr =>
    refine hothers.append (of_blur kind hr) fun kind' => ?_
    -- Of its own kind no other blur is left, and it is the only new one.
    by_cases hk : kind' = kind
    · refine .inl (List.filter_eq_nil_iff.2 fun effect he => ?_)
      simpa [hk] using (List.mem_filter.1 he).2
    · exact .inr (by rw [List.filter_cons, kind'.holds_blur_of_ne hk]; rfl)
  · exact hothers

end EffectsSound

/-- Paints and effects that are sound. -/
structure Layer.PaintsSound (layer : Layer) : Prop where
  fills : ∀ paint ∈ layer.fills, paint.IsOpaque
  strokes : ∀ paint ∈ layer.strokes, paint.IsOpaque
  oneStroke : layer.strokes.length ≤ 1
  textFill : ∀ paint ∈ layer.textFill, paint.IsOpaque
  effects : EffectsSound layer.effects layer.shadowColor

theorem Layer.paintsSound_empty : empty.PaintsSound where
  fills := nofun
  strokes := nofun
  oneStroke := Nat.zero_le 1
  textFill := nofun
  effects := .of_isShadow nofun

/-! ## Sound edits -/

namespace Edit

/-- The edit puts only opaque paints among the paints, and only shadows among the shadows. -/
def IsSound : Edit → Prop
  | addFill paint | stroke paint | textFill paint => paint.IsOpaque
  | addShadows shadows => ∀ effect ∈ shadows, effect.isShadow = true
  | _ => True

/-! What an edit does, by the cell that it changes. -/

section
variable {edit : Edit}

theorem of_cell_eq_fills (h : edit.cell = .fills) :
    (∃ paint, edit = addFill paint) ∨ edit = clearImages := by
  cases edit <;> cases h
  · exact .inl ⟨_, rfl⟩
  · exact .inr rfl

theorem of_cell_eq_strokes (h : edit.cell = .strokes) : ∃ paint, edit = stroke paint := by
  cases edit <;> cases h
  exact ⟨_, rfl⟩

theorem of_cell_eq_textFill (h : edit.cell = .textFill) : ∃ paint, edit = textFill paint := by
  cases edit <;> cases h
  exact ⟨_, rfl⟩

theorem of_cell_eq_effects (h : edit.cell = .effects) :
    (∃ shadows, edit = addShadows shadows) ∨ edit = clearShadows ∨
      (∃ color, edit = shadowColor color) ∨ (∃ radius, edit = layerBlur radius) ∨
      ∃ radius, edit = backgroundBlur radius := by
  cases edit <;> cases h
  all_goals simp

end

section
variable {edit : Edit} {layer : Layer} (hs : edit.IsSound) (h : layer.PaintsSound)
include hs h

theorem IsSound.fills : ∀ paint ∈ (edit.apply layer).fills, paint.IsOpaque := by
  by_cases hc : Cell.fills = edit.cell
  · obtain ⟨paint, rfl⟩ | rfl := of_cell_eq_fills hc.symm
    · intro other ho
      rcases List.mem_append.1 ho with ho | ho
      · exact h.fills other ho
      · cases List.mem_singleton.1 ho
        exact hs
    · exact fun other ho => h.fills other (List.mem_filter.1 ho).1
  · have he : (edit.apply layer).fills = layer.fills := cell_apply_of_ne hc layer
    rw [he]
    exact h.fills

theorem IsSound.strokes :
    (∀ paint ∈ (edit.apply layer).strokes, paint.IsOpaque) ∧
      (edit.apply layer).strokes.length ≤ 1 := by
  by_cases hc : Cell.strokes = edit.cell
  · obtain ⟨paint, rfl⟩ := of_cell_eq_strokes hc.symm
    exact ⟨fun other ho => List.mem_singleton.1 ho ▸ hs, Nat.le_refl 1⟩
  · have he : (edit.apply layer).strokes = layer.strokes := cell_apply_of_ne hc layer
    rw [he]
    exact ⟨h.strokes, h.oneStroke⟩

theorem IsSound.textFill : ∀ paint ∈ (edit.apply layer).textFill, paint.IsOpaque := by
  by_cases hc : Cell.textFill = edit.cell
  · obtain ⟨paint, rfl⟩ := of_cell_eq_textFill hc.symm
    rintro _ ⟨⟩
    exact hs
  · have he : (edit.apply layer).textFill = layer.textFill := cell_apply_of_ne hc layer
    rw [he]
    exact h.textFill

theorem IsSound.effects :
    EffectsSound (edit.apply layer).effects (edit.apply layer).shadowColor := by
  by_cases hc : Cell.effects = edit.cell
  · obtain ⟨shadows, rfl⟩ | rfl | ⟨color, rfl⟩ | ⟨radius, rfl⟩ | ⟨radius, rfl⟩ :=
      of_cell_eq_effects hc.symm
    · exact .addShadows hs h.effects
    · exact h.effects.sublist List.filter_sublist
    · exact h.effects.recolor color
    · exact h.effects.replaceBlur .layer radius
    · exact h.effects.replaceBlur .background radius
  · have he : ((edit.apply layer).effects, (edit.apply layer).shadowColor) =
        (layer.effects, layer.shadowColor) := cell_apply_of_ne hc layer
    obtain ⟨heffects, hcolor⟩ := Prod.mk.inj he
    rw [heffects, hcolor]
    exact h.effects

/-- Sound edits preserve sound paints and effects. -/
theorem IsSound.paintsSound_apply : (edit.apply layer).PaintsSound where
  fills := hs.fills h
  strokes := (hs.strokes h).1
  oneStroke := (hs.strokes h).2
  textFill := hs.textFill h
  effects := hs.effects h

end

end Edit

/-! ## The edits of declarations are sound -/

namespace Declaration
variable {d : Declaration} {options : LoweringOptions}

theorem paint_isOpaque {paint : Paint} (h : d.paint = .ok paint) : paint.IsOpaque := by
  unfold Declaration.paint at h
  cases hc : d.color with
  | error => rw [hc] at h; cases h
  | ok color => rw [hc] at h; cases h; exact Paint.isOpaque_ofColor color

theorem shadowsOf_isShadow {css : String} {shadows : List Effect}
    (h : d.shadowsOf options css = .ok shadows) : ∀ effect ∈ shadows, effect.isShadow = true := by
  unfold shadowsOf at h
  split at h
  · next hs => cases h; exact Css.isShadow_of_shadows? hs
  · cases h

theorem shadows_isShadow {shadows : List Effect} (h : d.shadows options = .ok shadows) :
    ∀ effect ∈ shadows, effect.isShadow = true := by
  unfold Declaration.shadows at h
  split at h
  · split at h
    · exact shadowsOf_isShadow h
    · cases h
  · exact shadowsOf_isShadow h
  · cases h

/-- The edits of a declaration that paints are sound. -/
theorem paintPlan_isSound (d : Declaration) (options : LoweringOptions) :
    Plans Edit.IsSound (d.paintPlan options) := by
  obtain ⟨property, value, origin, side, opacity, negative, important, raw⟩ := d
  cases property
  case backgroundColor | textColor => exact .bind fun _ hp => .one (paint_isOpaque hp)
  case borderColor => exact .ite .error (.bind fun _ hp => .one (paint_isOpaque hp))
  case backgroundImage =>
    refine .bind fun url _ => .one ?_
    cases url with
    | none => trivial
    | some url => exact Paint.isOpaque_image url .fill
  case boxShadow =>
    refine .bind fun shadows hs => .one ?_
    unfold shadowEdit
    split
    · trivial
    · exact shadows_isShadow hs
  all_goals first | exact .bind fun _ _ => .one trivial | exact .error

/-- The groups whose edits put paints or shadows into a layer. -/
def paintingGroups : List Property := [.backgroundColor, .borderColor, .textColor, .boxShadow]

theorem isSound_of_group? {edit : Edit} {g : Property} (h : edit.group? = some g)
    (hg : g ∉ paintingGroups) : edit.IsSound := by
  cases edit
  case addFill | stroke | textFill | addShadows => cases h; exact absurd (by decide) hg
  all_goals trivial

theorem literalPlan_eq_paintPlan (d : Declaration) (options : LoweringOptions)
    (h : d.property.group ∈ paintingGroups) : d.literalPlan options = d.paintPlan options := by
  obtain ⟨property, value, origin, side, opacity, negative, important, raw⟩ := d
  replace h : property.group ∈ paintingGroups := h
  cases property
  all_goals first | rfl | exact absurd h (by decide)

theorem literalPlan_isSound (d : Declaration) (options : LoweringOptions) :
    Plans Edit.IsSound (d.literalPlan options) := by
  by_cases hg : d.property.group ∈ paintingGroups
  · rw [literalPlan_eq_paintPlan d options hg]
    exact d.paintPlan_isSound options
  · exact fun edits h edit he => isSound_of_group? (d.literalPlan_owns options edits h edit he) hg

theorem isSound_of_mem_edits {edit : Edit} (he : edit ∈ d.edits options) : edit.IsSound := by
  rcases cases_of_mem_edits he with ⟨edits, h, he⟩ | ⟨_, _, _, -, -, rfl⟩ | ⟨_, rfl⟩
  · exact d.literalPlan_isSound options edits h edit he
  · trivial
  · trivial

end Declaration

/-- **Paints and effects stay sound**, whatever declarations style a layer and in whatever order. -/
theorem Layer.Reachable.paintsSound {layer : Layer} (h : layer.Reachable) : layer.PaintsSound :=
  h.invariant paintsSound_empty fun _ _ _ he _ hl =>
    (Declaration.isSound_of_mem_edits he).paintsSound_apply hl

/-- Shadows, the color of shadows and a blur, which share the list of effects. -/
theorem Layer.paintsSound_shadow_color_blur :
    (ofDeclarations {} [
      { property := .boxShadow, value := .keyword "lg", raw := "shadow-lg" },
      { property := .shadowColor, value := .color (some "white") .white, raw := "shadow-white" },
      { property := .blur, value := .keyword "sm", raw := "blur-sm" }]).PaintsSound :=
  Layer.Reachable.paintsSound (reachable_ofDeclarations _ _)

end UtilityStyle
