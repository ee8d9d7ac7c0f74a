/-
  Literal values and bindings of a layer.

  A declaration that binds leaves the literal values of a layer as they are, and one that does not
  leaves the bindings, so that neither overrides the other.

  * `Layer.literals` is a layer without its bindings and its CSS, and `Layer.isSet` tells whether it
    holds a literal value for a part of a given name;
  * `ofDeclarations_driven_twice`: the literal values of some declarations are those of the ones
    that do not bind, and the binding of a part is the last one.  So a part is driven by both
    exactly if one of the declarations binds it and the others leave a value in it.
-/
import UtilityStyle.Proofs.Lowering.Atomic
import UtilityStyle.Proofs.Lowering.Names

namespace UtilityStyle

/-! ## Literal values -/

namespace Layer

/-- The layer without its bindings and its CSS. -/
def literals (layer : Layer) : Layer := { layer with bindings := .empty, css := .empty }

/-- The other cells are the same without bindings and CSS. -/
theorem cell_literals_of_ne (layer : Layer) {c : Cell} (hbindings : c ≠ .bindings)
    (hcss : c ≠ .css) : layer.literals.cell c = layer.cell c := by
  cases c
  case bindings => exact absurd rfl hbindings
  case css => exact absurd rfl hcss
  all_goals rfl

/-- Layers have the same literal values if their other cells agree. -/
theorem literals_eq_iff {layer layer' : Layer} :
    layer.literals = layer'.literals ↔
      ∀ c, c ≠ .bindings → c ≠ .css → layer.cell c = layer'.cell c := by
  constructor
  · intro h c hbindings hcss
    rw [← cell_literals_of_ne layer hbindings hcss, h, cell_literals_of_ne layer' hbindings hcss]
  · intro h
    refine ext_cell fun c => ?_
    by_cases hbindings : c = .bindings
    · subst hbindings
      rfl
    · by_cases hcss : c = .css
      · subst hcss
        rfl
      · rw [cell_literals_of_ne layer hbindings hcss, cell_literals_of_ne layer' hbindings hcss,
          h c hbindings hcss]

/-- Edits of bindings and of CSS leave the literal values as they are. -/
theorem literals_editAll_of_cell {edits : List Edit}
    (h : ∀ edit ∈ edits, edit.cell = .bindings ∨ edit.cell = .css) (layer : Layer) :
    (layer.editAll edits).literals = layer.literals := by
  refine literals_eq_iff.2 fun c hbindings hcss => cell_editAll_of_ne (fun edit he => ?_) layer
  rcases h edit he with hcell | hcell
  · exact hcell ▸ hbindings
  · exact hcell ▸ hcss

/-- Edits make the same literal values of the same. -/
theorem literals_editAll_congr {layer layer' : Layer} (h : layer.literals = layer'.literals)
    (edits : List Edit) : (layer.editAll edits).literals = (layer'.editAll edits).literals := by
  induction edits generalizing layer layer' with
  | nil => exact h
  | cons edit edits ih =>
    -- An edit reads no other cell than the one that it changes.
    refine ih (literals_eq_iff.2 fun c hbindings hcss => ?_)
    have hc := literals_eq_iff.1 h c hbindings hcss
    by_cases hcell : c = edit.cell
    · subst hcell
      show (layer.write _ _).cell _ = (layer'.write _ _).cell _
      rw [cell_write, cell_write, Function.update_self, Function.update_self, hc]
    · rw [Edit.cell_apply_of_ne hcell, Edit.cell_apply_of_ne hcell, hc]

/-! ## Parts by name -/

/-- The edges of a layer under the names of their parts, each with whether it has a value. -/
def edgeValues {α : Type} (front back : String) (edges : Edges (Option α)) :
    List (String × Bool) :=
  (Side.all.edgeParts front back).zip (edges.toList.map (·.isSome))

/-- The axes of a layer under two names, each with whether it has a value. -/
def axisValues {α : Type} (x y : String) (axes : Axes (Option α)) : List (String × Bool) :=
  [(x, axes.x.isSome), (y, axes.y.isSome)]

/-- The parts of a layer that a binding may drive, each with whether it has a literal value. -/
def parts (layer : Layer) : List (String × Bool) :=
  edgeValues "padding-" "" layer.padding ++ edgeValues "margin-" "" layer.margin ++
  edgeValues "" "" layer.inset ++ edgeValues "stroke-" "-weight" layer.strokeWeight ++
  (Side.all.cornerParts "-radius").map (·, layer.cornerRadii.isSome) ++
  axisValues "column-gap" "row-gap" layer.gap ++ axisValues "scale-x" "scale-y" layer.scale ++
  axisValues "translate-x" "translate-y" layer.displacement ++
  axisValues "width" "height" layer.size ++
  axisValues "min-width" "min-height" layer.minSize ++
  axisValues "max-width" "max-height" layer.maxSize ++
  axisValues "grid-template-columns" "grid-template-rows" layer.gridTracks ++
  axisValues "grid-column" "grid-row" layer.gridSpan ++ [
  ("aspect-ratio", layer.aspectRatio.isSome), ("rotation", layer.rotation.isSome),
  ("layout-mode", layer.layoutMode.isSome), ("clips-content", layer.clipsContent.isSome),
  ("primary-axis-align", layer.primaryAxisAlign.isSome),
  ("counter-axis-align", layer.counterAxisAlign.isSome),
  ("flex-grow", layer.flexGrow.isSome), ("flex-shrink", layer.flexShrink.isSome),
  ("flex-basis", layer.flexBasis.isSome), ("order", layer.order.isSome),
  ("z-index", layer.zIndex.isSome), ("opacity", layer.opacity.isSome),
  ("fills", !layer.fills.isEmpty), ("strokes", !layer.strokes.isEmpty),
  ("text-fill", layer.textFill.isSome), ("box-shadow", layer.effects.any (·.isShadow)),
  ("shadow-color", layer.shadowColor.isSome), ("layer-blur", layer.effects.any (·.isLayerBlur)),
  ("background-blur", layer.effects.any (·.isBackgroundBlur)),
  ("ring-width", layer.ring.width.isSome), ("ring-color", layer.ring.color.isSome),
  ("ring-offset-width", layer.ring.offsetWidth.isSome),
  ("ring-offset-color", layer.ring.offsetColor.isSome), ("font-size", layer.fontSize.isSome),
  ("font-weight", layer.fontWeight.isSome), ("font-family", layer.fontFamily.isSome),
  ("line-height", layer.lineHeight.isSome), ("letter-spacing", layer.letterSpacing.isSome),
  ("line-clamp", layer.maxLines.isSome)]

/-- Whether the part of a name has a literal value. -/
def isSet (layer : Layer) (part : String) : Bool := (layer.parts.lookup part).getD false

/-- Whether the part of a name has a literal value is a matter of the literal values. -/
theorem isSet_literals (layer : Layer) (part : String) :
    layer.literals.isSet part = layer.isSet part := rfl

theorem map_fst_edgeValues {α : Type} (front back : String) (edges : Edges (Option α)) :
    (edgeValues front back edges).map (·.1) = Side.all.edgeParts front back :=
  List.map_fst_zip (Nat.le_refl 4)

/-- Layers have the same parts. -/
theorem map_fst_parts (layer : Layer) : layer.parts.map (·.1) = empty.parts.map (·.1) := by
  simp only [parts, axisValues, List.map_append, map_fst_edgeValues, List.map_map,
    List.map_cons, List.map_nil, Function.comp_def]

end Layer

/-- Every part that a declaration binds is one of the parts of a layer. -/
theorem Declaration.mem_parts {d : Declaration} {names : List String}
    (h : d.boundParts? = some names) {part : String} (hp : part ∈ names) (layer : Layer) :
    part ∈ layer.parts.map (·.1) := by
  have hall : ∀ p ∈ Property.all, ∀ part ∈ p.parts, part ∈ Layer.empty.parts.map (·.1) := by
    decide +kernel
  rw [Layer.map_fst_parts]
  exact hall d.property d.property.mem_all part (boundParts_subset h hp)

/-! ## Declarations that bind and declarations that do not -/

namespace Declaration

variable {d : Declaration} {options : LoweringOptions} {edit : Edit}

/-- The binding that a declaration gives to a part. -/
def bindingOf? (d : Declaration) (part : String) : Option Binding :=
  d.boundParts?.bind fun parts => if part ∈ parts then d.binding? else none

/-- A declaration that binds makes the edits that bind its parts. -/
theorem edits_of_boundParts {binding : Binding} {parts : List String}
    (hb : d.binding? = some binding) (hp : d.boundParts? = some parts) :
    d.edits options = parts.map (.bind · binding) :=
  edits_of_plan_ok (plan_of_boundParts hb hp)

/-- A declaration that binds no part is kept as CSS at most. -/
theorem cell_of_mem_edits_of_no_parts {binding : Binding} (hb : d.binding? = some binding)
    (hp : d.boundParts? = none) (he : edit ∈ d.edits options) : edit.cell = .css := by
  rw [edits_of_plan_error (plan_of_no_parts hb hp)] at he
  obtain ⟨text, -, rfl⟩ := by simpa using he
  rfl

theorem cell_of_mem_edits_of_binding {binding : Binding} (hb : d.binding? = some binding)
    (he : edit ∈ d.edits options) : edit.cell = .bindings ∨ edit.cell = .css := by
  cases hp : d.boundParts? with
  | none => exact .inr (cell_of_mem_edits_of_no_parts hb hp he)
  | some parts =>
    rw [edits_of_boundParts hb hp] at he
    obtain ⟨part, -, rfl⟩ := List.mem_map.1 he
    exact .inl rfl

/-- A declaration that does not bind leaves the bindings. -/
theorem cell_ne_bindings_of_mem_edits (hb : d.binding? = none) (he : edit ∈ d.edits options) :
    .bindings ≠ edit.cell := by
  cases hplan : d.plan options with
  | ok edits =>
    rw [edits_of_plan_ok hplan] at he
    rw [plan_of_unbound hb] at hplan
    exact Edit.cell_ne_of_group? (d.literalPlan_owns options edits hplan edit he) rfl (by decide)
  | error error =>
    rw [edits_of_plan_error hplan] at he
    obtain ⟨text, -, rfl⟩ := by simpa using he
    exact show Cell.bindings ≠ .css by decide

end Declaration

namespace Layer

variable (options : LoweringOptions)

/-! ## Bindings -/

theorem get?_bindings_bind (layer : Layer) (parts : List String) (binding : Binding)
    (part : String) :
    (layer.editAll (parts.map (.bind · binding))).bindings.get? part =
      if part ∈ parts then some binding else layer.bindings.get? part := by
  induction parts generalizing layer with
  | nil => rfl
  | cons name parts ih =>
    have hone : ((Edit.bind name binding).apply layer).bindings.get? part =
        if part = name then some binding else layer.bindings.get? part :=
      Text.Dictionary.get?_insert
    rw [List.map_cons, editAll_cons, ih, hone]
    by_cases hmem : part ∈ parts
    · rw [if_pos hmem, if_pos (List.mem_cons_of_mem _ hmem)]
    · rw [if_neg hmem]
      exact if_congr (by simp [hmem]) rfl rfl

/-- One declaration gives a part its binding, or leaves it the one that it has. -/
theorem get?_bindings_style (layer : Layer) (d : Declaration) (part : String) :
    (layer.style options d).bindings.get? part =
      (d.bindingOf? part).or (layer.bindings.get? part) := by
  rw [style_eq_editAll, Declaration.bindingOf?]
  have hkept (h : ∀ edit ∈ d.edits options, Cell.bindings ≠ edit.cell) :
      (layer.editAll (d.edits options)).bindings = layer.bindings :=
    cell_editAll_of_ne (c := .bindings) h layer
  cases hb : d.binding? with
  | none =>
    rw [hkept fun edit he => Declaration.cell_ne_bindings_of_mem_edits hb he]
    cases d.boundParts? <;> simp
  | some binding =>
    cases hp : d.boundParts? with
    | none =>
      have hcss (edit : Edit) (he : edit ∈ d.edits options) : edit.cell = .css :=
        Declaration.cell_of_mem_edits_of_no_parts hb hp he
      rw [hkept fun edit he => hcss edit he ▸ by decide]
      rfl
    | some parts =>
      rw [Declaration.edits_of_boundParts hb hp, get?_bindings_bind, Option.bind_some]
      split <;> rfl

/-- **The last binding of a part counts.** -/
theorem get?_bindings_foldl (layer : Layer) (ds : List Declaration) (part : String) :
    (ds.foldl (style options) layer).bindings.get? part =
      (ds.filterMap (·.bindingOf? part)).getLast?.or (layer.bindings.get? part) :=
  foldl_last_write (fun layer : Layer => layer.bindings.get? part)
    (fun layer d => get?_bindings_style options layer d part) layer ds

/-! ## Literal values -/

theorem literals_style_of_binding (layer : Layer) {d : Declaration} {binding : Binding}
    (hb : d.binding? = some binding) : (layer.style options d).literals = layer.literals := by
  rw [style_eq_editAll]
  exact literals_editAll_of_cell (fun _ he => Declaration.cell_of_mem_edits_of_binding hb he) layer

theorem literals_style_congr {layer layer' : Layer} (h : layer.literals = layer'.literals)
    (d : Declaration) :
    (layer.style options d).literals = (layer'.style options d).literals := by
  rw [style_eq_editAll, style_eq_editAll]
  exact literals_editAll_congr h _

/-- **Declarations that bind do not count for the literal values.** -/
theorem literals_foldl {layer layer' : Layer} (h : layer.literals = layer'.literals)
    (ds : List Declaration) :
    (ds.foldl (style options) layer).literals =
      ((ds.filter (·.binding?.isNone)).foldl (style options) layer').literals := by
  induction ds generalizing layer layer' with
  | nil => exact h
  | cons d ds ih =>
    rw [List.foldl_cons, List.filter_cons]
    -- The two layers keep the same literal values, while only one of them takes the bindings.
    cases hb : d.binding? with
    | none => exact ih (literals_style_congr options h d)
    | some binding => exact ih ((literals_style_of_binding options layer hb).trans h)

/-! ## Both at once -/

/-- **Literal values and bindings do not override each other.**  The literal values are those of
    the declarations that do not bind, and the binding of a part is the last that a declaration
    gives it.  So a part has both a literal value and a binding exactly if a declaration binds it
    and those that do not bind leave a value in it. -/
theorem ofDeclarations_driven_twice (ds : List Declaration) :
    let layer := ofDeclarations options ds
    let unbound := ofDeclarations options (ds.filter (·.binding?.isNone))
    layer.literals = unbound.literals ∧
      ∀ part,
        layer.bindings.get? part = (ds.filterMap (·.bindingOf? part)).getLast? ∧
          (layer.isSet part = true ∧ (layer.bindings.get? part).isSome ↔
            unbound.isSet part = true ∧ ∃ d ∈ ds, (d.bindingOf? part).isSome) := by
  intro layer unbound
  have hliterals : layer.literals = unbound.literals := literals_foldl options rfl ds
  refine ⟨hliterals, fun part => ?_⟩
  have hbinding : layer.bindings.get? part = (ds.filterMap (·.bindingOf? part)).getLast? :=
    (get?_bindings_foldl options empty ds part).trans (Option.or_none ..)
  have hset : layer.isSet part = unbound.isSet part := by
    rw [← isSet_literals, hliterals, isSet_literals]
  refine ⟨hbinding, and_congr (by rw [hset]) ?_⟩
  rw [hbinding, List.getLast?_isSome, ne_eq, List.filterMap_eq_nil_iff]
  simp [Option.isSome_iff_ne_none]

/-- A length and a custom property for one edge stay side by side, in either order. -/
theorem padding_driven_twice :
    let literal : Declaration :=
      { property := .padding, value := .number 4, side := some .top, raw := "pt-4" }
    let bound : Declaration :=
      { property := .padding, value := .variable "--x", side := some .top,
        origin := .customProperty, raw := "pt-(--x)" }
    ∀ ds ∈ [[literal, bound], [bound, literal]],
      (ofDeclarations {} ds).isSet "padding-top" = true ∧
        (ofDeclarations {} ds).bindings.get? "padding-top" = some (.variable "--x") := by
  decide +kernel

end Layer

end UtilityStyle
