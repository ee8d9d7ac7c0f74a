/-
  Shadows under different options.

  A bracketed shadow is checked with the default root font size and lowered with the one of the
  options.

  * `Css.WrittenShadow.Agree`: two effects of a written shadow are alike but for the lengths that
    scale with the root font size;
  * `Declaration.exists_layer?_of_shadow`: a value that the shape of shadows takes can be lowered
    under all options;
  * `Layer.style_of_shadow`: effects are taken away only by the word for none;
  * `Css.shadows?_root`: all of this for one text.
-/
import UtilityStyle.Proofs.Css.Shadow
import UtilityStyle.Proofs.Lowering.Override
import UtilityStyle.Utility.Shape

namespace UtilityStyle

/-! ## Effects of one written shadow -/

namespace Css.WrittenShadow

variable {w : WrittenShadow}

/-- The length at a position does not scale: it is missing or in pixels, as a zero without a unit
    is. -/
def IsFixed (w : WrittenShadow) (i : Nat) : Prop := ∀ l, w.lengths[i]? = some l → l.unit = .px

theorem measure_of_isFixed {i : Nat} (h : w.IsFixed i) (root root' : Float32) :
    w.measure root i = w.measure root' i := by
  unfold measure
  cases hl : w.lengths[i]? with
  | none => rfl
  | some l =>
    show l.pixels root = l.pixels root'
    rw [Length.pixels_of_px (h l hl), Length.pixels_of_px (h l hl)]

/-- Two shadows have the same color, and the same measures where the length is fixed. -/
structure Matches (w : WrittenShadow) (s s' : Shadow) : Prop where
  color : s.color = s'.color
  offsetX : w.IsFixed 0 → s.offsetX = s'.offsetX
  offsetY : w.IsFixed 1 → s.offsetY = s'.offsetY
  blurRadius : w.IsFixed 2 → s.blurRadius = s'.blurRadius
  spreadRadius : w.IsFixed 3 → s.spreadRadius = s'.spreadRadius

/-- Two effects are shadows of one kind that match. -/
inductive Agree (w : WrittenShadow) : Effect → Effect → Prop
  | drop {s s'} : w.Matches s s' → Agree w (.dropShadow s) (.dropShadow s')
  | inner {s s'} : w.Matches s s' → Agree w (.innerShadow s) (.innerShadow s')

/-- **The root font size scales lengths** and changes nothing else. -/
theorem agree_effect (w : WrittenShadow) (root root' : Float32) :
    w.Agree (w.effect root) (w.effect root') := by
  have hmatches : w.Matches
      ⟨w.color?.getD defaultShadowColor, w.measure root 0, w.measure root 1, w.measure root 2,
        w.measure root 3⟩
      ⟨w.color?.getD defaultShadowColor, w.measure root' 0, w.measure root' 1, w.measure root' 2,
        w.measure root' 3⟩ :=
    ⟨rfl, fun h => measure_of_isFixed h _ _, fun h => measure_of_isFixed h _ _,
      fun h => measure_of_isFixed h _ _, fun h => measure_of_isFixed h _ _⟩
  unfold effect
  dsimp only
  split
  · exact .inner hmatches
  · exact .drop hmatches

end Css.WrittenShadow

/-! ## Lowering -/

namespace Declaration

variable {d : Declaration} {options : LoweringOptions}

/-- The CSS text of a shadow list that a value gives. -/
def shadowText? (d : Declaration) : Option String :=
  match d.value with
  | .keyword key => Scale.shadows.lookup key
  | .raw css => some css
  | _ => none

/-- The shadows of a value are those of its text. -/
theorem shadows_eq (d : Declaration) (options : LoweringOptions) :
    d.shadows options =
      match d.shadowText? with
      | some css => d.shadowsOf options css
      | none => d.unsupported := by
  unfold shadows shadowText?
  cases d.value <;> rfl

theorem shadows_eq_ok_iff {es : List Effect} :
    d.shadows options = .ok es ↔
      ∃ css, d.shadowText? = some css ∧ Css.shadows? options.rootFontSize css = some es := by
  rw [shadows_eq]
  cases d.shadowText? with
  | none => exact ⟨nofun, nofun⟩
  | some css =>
    simp only [Option.some.injEq, exists_eq_left', shadowsOf]
    cases Css.shadows? options.rootFontSize css with
    | none => exact ⟨nofun, nofun⟩
    | some es' => rw [Except.ok.injEq, Option.some.injEq]

theorem literalPlan_of_boxShadow (h : d.property = .boxShadow) :
    d.literalPlan options = (d.shadows options).map fun es => [shadowEdit es] := by
  simp only [literalPlan, paintPlan, h]
  cases d.shadows options <;> rfl

theorem boundParts?_of_boxShadow (h : d.property = .boxShadow) :
    d.boundParts? = some [Property.boxShadow.name] := by
  simp only [boundParts?, h]

/-- **A value that the shape of shadows takes** can be lowered under all options. -/
theorem exists_layer?_of_shadow {text : String} {value : Value}
    (h : Shape.read? .shadow text = some value) (hproperty : d.property = .boxShadow)
    (hvalue : d.value = value) (options : LoweringOptions) :
    ∃ fresh, d.layer? options = .ok fresh := by
  rw [layer?_eq_map]
  cases hbinding : d.binding? with
  | some binding =>
    rw [plan_of_boundParts hbinding (boundParts?_of_boxShadow hproperty)]
    exact ⟨_, rfl⟩
  | none =>
    obtain ⟨css, hcss, rfl⟩ : ∃ css, (Css.shadows? 16 css).isSome ∧ value = .raw css := by
      unfold Shape.read? at h
      dsimp only at h
      split at h
      · cases h
      · split at h
        · next hcalculation => exact absurd hcalculation (by simp [Shape.acceptsCalculation])
        · obtain ⟨es, hes, rfl⟩ := Option.map_eq_some_iff.1 h
          exact ⟨_, by rw [hes]; rfl, rfl⟩
    obtain ⟨es, hes⟩ : ∃ es, Css.shadows? options.rootFontSize css = some es := by
      rw [← Option.isSome_iff_exists, Css.isSome_shadows?_congr options.rootFontSize 16]
      exact hcss
    have hshadows : d.shadows options = .ok es :=
      shadows_eq_ok_iff.2 ⟨css, by rw [shadowText?, hvalue], hes⟩
    rw [plan_of_unbound hbinding, literalPlan_of_boxShadow hproperty, hshadows]
    exact ⟨_, rfl⟩

end Declaration

/-- **Only the word for none takes effects away.**  All other declarations of shadows keep them, and
    may add some. -/
theorem Layer.effects_of_boxShadow {options : LoweringOptions} {d : Declaration}
    (hproperty : d.property = .boxShadow) (layer : Layer) :
    layer.effects <+: (layer.style options d).effects ∨
      ∃ css, d.shadowText? = some css ∧ Css.IsNone (Css.tokens css) := by
  cases hbinding : d.binding? with
  | some binding =>
    have heffects : (layer.style options d).literals.effects = layer.literals.effects :=
      congrArg effects (literals_style_of_binding options layer hbinding)
    exact .inl ⟨[], (List.append_nil _).trans heffects.symm⟩
  | none =>
    have hplan : d.plan options = (d.shadows options).map fun es => [Declaration.shadowEdit es] :=
      (Declaration.plan_of_unbound hbinding).trans (Declaration.literalPlan_of_boxShadow hproperty)
    cases hshadows : d.shadows options with
    | error error =>
      have herror : d.plan options = .error error := by rw [hplan, hshadows]; rfl
      have hkept : (layer.style options d).effects = layer.effects := by
        rw [style_eq_editAll, Declaration.edits_of_plan_error herror]
        cases d.keptCss? options error <;> rfl
      exact .inl ⟨[], (List.append_nil _).trans hkept.symm⟩
    | ok es =>
      have hedits : d.plan options = .ok [Declaration.shadowEdit es] := by
        rw [hplan, hshadows]; rfl
      by_cases hes : es = []
      · obtain ⟨css, hcss, hread⟩ := Declaration.shadows_eq_ok_iff.1 hshadows
        exact .inr ⟨css, hcss, Css.shadows?_eq_nil_iff.1 (hes ▸ hread)⟩
      · have hadd : Declaration.shadowEdit es = .addShadows es := if_neg hes
        rw [style_of_plan_ok hedits, hadd]
        exact .inl (List.prefix_append ..)

/-- **Shadows are read alike under all root font sizes.**  Whether a text is a shadow list does not
    hang on the root font size.  It then stands for the same shadows in the same order, whose
    effects agree but for the lengths that scale.  Only the word for none is a list without shadows.
    So a value that the shape of shadows makes of a text can be lowered under all options, and
    nothing but the word for none takes effects from a layer. -/
theorem Css.shadows?_root (text : String) :
    (∀ root root', (shadows? root text).isSome = (shadows? root' text).isSome) ∧
      (∀ root root' es es', shadows? root text = some es → shadows? root' text = some es' →
        ∃ ws : List WrittenShadow,
          (Written (tokens text) ws ∨ IsNone (tokens text) ∧ ws = []) ∧
            es = ws.map (WrittenShadow.effect root) ∧ es' = ws.map (WrittenShadow.effect root') ∧
              ∀ w ∈ ws, w.Agree (w.effect root) (w.effect root')) ∧
      (∀ root, shadows? root text = some [] ↔ IsNone (tokens text)) ∧
      (∀ value, Shape.read? .shadow text = some value →
        ∀ (options : LoweringOptions) (d : Declaration), d.property = .boxShadow →
          d.value = value → ∃ fresh, d.layer? options = .ok fresh) ∧
      ∀ (options : LoweringOptions) (layer : Layer) (d : Declaration), d.property = .boxShadow →
        ¬layer.effects <+: (layer.style options d).effects →
          ∃ css, d.shadowText? = some css ∧ IsNone (tokens css) := by
  refine ⟨fun root root' => isSome_shadows?_congr root root' text, ?_,
    fun root => shadows?_eq_nil_iff, ?_, ?_⟩
  · intro root root' es es' hread hread'
    rcases shadows?_eq_some_iff.1 hread with ⟨hnone, rfl⟩ | ⟨ws, hwritten, hcomplete, rfl⟩
    · rw [shadows?_eq_nil_iff.2 hnone] at hread'
      cases hread'
      exact ⟨[], .inr ⟨hnone, rfl⟩, rfl, rfl, nofun⟩
    · rw [shadows?_eq_some_iff.2 (.inr ⟨ws, hwritten, hcomplete, rfl⟩)] at hread'
      cases hread'
      exact ⟨ws, .inl hwritten, rfl, rfl, fun w _ => w.agree_effect root root'⟩
  · intro value hvalue options d hproperty hd
    exact Declaration.exists_layer?_of_shadow hvalue hproperty hd options
  · intro options layer d hproperty hlost
    exact (Layer.effects_of_boxShadow hproperty layer).resolve_left hlost

end UtilityStyle
