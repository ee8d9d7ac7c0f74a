/-
  Declarations that override earlier ones.

  * `Declaration.Covers`: a declaration covers the edges, corners or axes that another one covers;
  * `Edit.Hides`: an edit leaves nothing of an earlier one.  Values that are set on more edges hide
    those that were set on fewer (`Edges.set_set`, `Corners.set_set`, `Axes.set_set`), a blur hides
    the one before it (`replaceBlur_replaceBlur`), and so does a shadow color
    (`hides_shadowColor`);
  * `PlanHides`: the same for plans.  Those of literal values (`literalPlan_hides`) and of bindings
    (`boundPlan_hides`) hide the plans of the declarations that they cover;
  * `Layer.style_style_of_covers`: so the later of two declarations overrides the earlier one,
    unless they are of a property that adds up (`Property.cumulative`).
-/
import Mathlib.Data.List.Forall2
import UtilityStyle.Proofs.Lowering.Commute
import UtilityStyle.Proofs.Lowering.Override

namespace UtilityStyle

/-! ## What a declaration covers -/

/-- The properties whose declarations add up.  They add to a list, or write now this and now that
    part of the layer. -/
def Property.cumulative : List Property := [
  .display, .fontSize, .textOverflow, .backgroundColor, .backgroundImage, .boxShadow]

/-- What the first flags select, the others select. -/
def Within (on on' : List Bool) : Prop :=
  List.Forall₂ (fun flag flag' => flag = true → flag' = true) on on'

namespace Declaration

/-- Flags for the edges, corners or axes that a declaration covers, if its property has some. -/
def coverage (d : Declaration) : List Bool :=
  match d.property with
  | .padding | .margin | .inset | .borderWidth => d.sideOrAll.edges.toList
  | .borderRadius => d.sideOrAll.corners.toList
  | .gap | .spaceBetween | .scale | .translate => d.sideOrAll.axes.toList
  | _ => []

/-- A declaration covers what another one does. -/
def Covers (e d : Declaration) : Prop := Within d.coverage e.coverage

end Declaration

/-! ## Values on edges, corners and axes -/

section
variable {α : Type}

theorem ite_ite_of_imp {p q : Bool} (h : p = true → q = true) (a b c : α) :
    (if q then b else if p then a else c) = if q then b else c := by
  cases q with
  | true => rfl
  | false =>
    cases p with
    | true => cases h rfl
    | false => rfl

/-- A value on more axes hides one on fewer. -/
theorem Axes.set_set {on on' : Axes Bool} (h : Within on.toList on'.toList) (s : Axes α)
    (a b : α) : (s.set on a).set on' b = s.set on' b := by
  obtain ⟨hx, hy⟩ : (on.x = true → on'.x = true) ∧ (on.y = true → on'.y = true) := by
    simpa [Within, toList] using h
  simp only [set, ite_ite_of_imp hx, ite_ite_of_imp hy]

/-- A value on more edges hides one on fewer. -/
theorem Edges.set_set {on on' : Edges Bool} (h : Within on.toList on'.toList) (s : Edges α)
    (a b : α) : (s.set on a).set on' b = s.set on' b := by
  obtain ⟨htop, hright, hbottom, hleft⟩ :
      (on.top = true → on'.top = true) ∧ (on.right = true → on'.right = true) ∧
        (on.bottom = true → on'.bottom = true) ∧ (on.left = true → on'.left = true) := by
    simpa [Within, toList] using h
  simp only [set, ite_ite_of_imp htop, ite_ite_of_imp hright, ite_ite_of_imp hbottom,
    ite_ite_of_imp hleft]

/-- A value on more corners hides one on fewer. -/
theorem Corners.set_set {on on' : Corners Bool} (h : Within on.toList on'.toList) (s : Corners α)
    (a b : α) : (s.set on a).set on' b = s.set on' b := by
  obtain ⟨hfront, hright, hback, hleft⟩ :
      (on.topLeft = true → on'.topLeft = true) ∧ (on.topRight = true → on'.topRight = true) ∧
        (on.bottomRight = true → on'.bottomRight = true) ∧
        (on.bottomLeft = true → on'.bottomLeft = true) := by
    simpa [Within, toList] using h
  simp only [set, ite_ite_of_imp hfront, ite_ite_of_imp hright, ite_ite_of_imp hback,
    ite_ite_of_imp hleft]

end

/-- Flags that select more select the same names and others. -/
theorem selected_subset {on on' : List Bool} (h : Within on on') (names : List String) :
    selected on names ⊆ selected on' names := by
  induction h generalizing names with
  | nil => exact List.Subset.refl _
  | @cons flag flag' on on' hflag _ ih =>
    cases names with
    | nil => exact List.Subset.refl _
    | cons name names =>
      have hrest : selected on names ⊆ selected on' names := ih names
      cases flag with
      | true =>
        rw [hflag rfl]
        exact List.cons_subset_cons name hrest
      | false =>
        cases flag' with
        | true => exact List.subset_cons_of_subset name hrest
        | false => exact hrest

/-! ## Effects -/

/-- A blur hides the one of its kind before it. -/
theorem Edit.replaceBlur_replaceBlur {isSame : Effect → Bool} {blur : Effect}
    (h : isSame blur = true) (radius radius' : Float32) (blur' : Effect) (effects : List Effect) :
    replaceBlur isSame radius' blur' (replaceBlur isSame radius blur effects) =
      replaceBlur isSame radius' blur' effects := by
  have hothers : (replaceBlur isSame radius blur effects).filter (!isSame ·) =
      effects.filter (!isSame ·) := by
    dsimp only [replaceBlur]
    split
    · simp [h]
    · simp
  dsimp only [replaceBlur] at hothers ⊢
  rw [hothers]

theorem Effect.recolored_recolored (color color' : Color) (effect : Effect) :
    (effect.recolored color).recolored color' = effect.recolored color' := by
  cases effect <;> rfl

/-! ## Edits -/

namespace Edit

/-- Nothing is left of an edit after another one. -/
def Hides (b a : Edit) : Prop := ∀ layer, b.apply (a.apply layer) = b.apply layer

/-- An edit that does not ask what its cell holds hides the earlier ones of the cell. -/
theorem Hides.of_const {a b : Edit} (c : Cell) (ha : a.cell = c) (hb : b.cell = c)
    (hconst : ∀ x y, b.change x = b.change y) : b.Hides a :=
  fun layer => layer.write_write_of_const (ha.trans hb.symm) a.change hconst

/-- A shadow color hides the one before it, on the shadows that there are and on those to come. -/
theorem hides_shadowColor (color color' : Color) :
    (shadowColor color').Hides (shadowColor color) := fun layer => by
  refine layer.write_write_of_comp (c := .effects) (funext fun (effects, _) => ?_)
  have heffects : (effects.map (Effect.recolored color)).map (Effect.recolored color') =
      effects.map (Effect.recolored color') := by
    rw [List.map_map]
    exact List.map_congr_left fun effect _ => effect.recolored_recolored color color'
  exact congrArg (·, some color') heffects

/-- A binding of a part hides the one before it. -/
theorem hides_bind (part : String) (binding binding' : Binding) :
    (bind part binding').Hides (bind part binding) := fun layer =>
  layer.write_write_of_comp (c := .bindings) (funext fun _ => Text.Dictionary.insert_insert ..)

end Edit

namespace Layer

/-- The parts of a flexible child fill its cell. -/
theorem editAll_flex (layer : Layer) (grow shrink : Float32) (basis : Dimension) :
    layer.editAll [.flexGrow grow, .flexShrink shrink, .flexBasis basis] =
      layer.write .flex fun _ => (some grow, some shrink, some basis) := by
  have hfactors : (Edit.flexShrink shrink).apply ((Edit.flexGrow grow).apply layer) =
      layer.write .flex fun (_, _, basis) => (some grow, some shrink, basis) :=
    layer.write_write .flex ..
  exact (congrArg (Edit.flexBasis basis).apply hfactors).trans (layer.write_write .flex ..)

/-- A bound on the lines of a text, with what becomes of the others, fills its cell. -/
theorem editAll_lineClamp (layer : Layer) (cut : Bool) (limit : Option Nat) :
    layer.editAll [.truncates cut, .maxLines limit] =
      layer.write .overflow fun _ => (some cut, limit) :=
  layer.write_write .overflow ..

/-- Bindings of some parts hide an earlier one of one of them. -/
theorem editAll_bind_of_mem {parts : List String} {part : String} (h : part ∈ parts)
    (binding binding' : Binding) (layer : Layer) :
    ((Edit.bind part binding).apply layer).editAll (parts.map (.bind · binding')) =
      layer.editAll (parts.map (.bind · binding')) := by
  induction parts generalizing layer with
  | nil => cases h
  | cons name parts ih =>
    rw [List.map_cons, editAll_cons, editAll_cons]
    by_cases hname : name = part
    · subst hname
      rw [Edit.hides_bind]
    · rw [Edit.commutes_bind (Ne.symm hname)]
      exact ih (List.mem_of_ne_of_mem (Ne.symm hname) h) _

/-- Bindings of some parts hide the earlier ones of parts among them. -/
theorem editAll_bind_of_subset {parts parts' : List String} (h : parts ⊆ parts')
    (binding binding' : Binding) (layer : Layer) :
    (layer.editAll (parts.map (.bind · binding))).editAll (parts'.map (.bind · binding')) =
      layer.editAll (parts'.map (.bind · binding')) := by
  induction parts generalizing layer with
  | nil => rfl
  | cons part parts ih =>
    obtain ⟨hpart, hparts⟩ := List.cons_subset.1 h
    rw [List.map_cons, editAll_cons, ih hparts, editAll_bind_of_mem hpart]

end Layer

/-! ## Plans -/

/-- If both plans succeed, nothing is left of the one after the other. -/
def PlanHides (y x : Except LoweringError (List Edit)) : Prop :=
  ∀ as, x = .ok as → ∀ bs, y = .ok bs →
    ∀ layer : Layer, (layer.editAll as).editAll bs = layer.editAll bs

namespace PlanHides
variable {α : Type} {x y z : Except LoweringError (List Edit)}

theorem error {e : LoweringError} : PlanHides y (.error e) := nofun

theorem error_left {e : LoweringError} : PlanHides (.error e) x := nofun

theorem ok {as bs : List Edit}
    (h : ∀ layer : Layer, (layer.editAll as).editAll bs = layer.editAll bs) :
    PlanHides (.ok bs) (.ok as) := by
  rintro _ ⟨⟩ _ ⟨⟩
  exact h

theorem one {a b : Edit} (h : b.Hides a) : PlanHides (.ok [b]) (.ok [a]) := ok h

theorem bind_right {x : Except LoweringError α} {f : α → Except LoweringError (List Edit)}
    (h : ∀ a, PlanHides y (f a)) : PlanHides y (x >>= f) := by
  cases x with
  | error => exact error
  | ok a => exact h a

theorem bind_left {y : Except LoweringError α} {g : α → Except LoweringError (List Edit)}
    (h : ∀ b, PlanHides (g b) x) : PlanHides (y >>= g) x := by
  cases y with
  | error => exact error_left
  | ok b => exact h b

theorem bind {x y : Except LoweringError α} {f g : α → Except LoweringError (List Edit)}
    (h : ∀ a b, PlanHides (g b) (f a)) : PlanHides (y >>= g) (x >>= f) :=
  bind_right fun a => bind_left fun b => h a b

theorem map {x y : Except LoweringError α} {f g : α → List Edit}
    (h : ∀ a b, ∀ layer : Layer, (layer.editAll (f a)).editAll (g b) = layer.editAll (g b)) :
    PlanHides (y.map g) (x.map f) := by
  cases x with
  | error => exact error
  | ok a =>
    cases y with
    | error => exact error_left
    | ok b => exact ok (h a b)

theorem ite {c : Prop} [Decidable c] (hx : PlanHides z x) (hy : PlanHides z y) :
    PlanHides z (if c then x else y) := by
  split
  · exact hx
  · exact hy

theorem ite_left {c : Prop} [Decidable c] (hx : PlanHides x z) (hy : PlanHides y z) :
    PlanHides (if c then x else y) z := by
  split
  · exact hx
  · exact hy

end PlanHides

/-! ## Literal values -/

namespace Declaration

section
variable {d e : Declaration} (options : LoweringOptions)

theorem sizePlan_hides (axes : Axes Bool) :
    PlanHides (e.sizePlan options axes) (d.sizePlan options axes) := by
  have hself : Within axes.toList axes.toList := List.forall₂_same.2 fun _ _ h => h
  refine .map fun (size, mode) (size', mode') layer => ?_
  refine layer.write_write_of_comp (funext fun (sizes, modes) => ?_)
  exact congrArg₂ Prod.mk (Axes.set_set hself sizes ..) (Axes.set_set hself modes ..)

theorem boxPlan_hides (hproperty : d.property = e.property) (hcover : e.Covers d) :
    PlanHides (e.boxPlan options) (d.boxPlan options) := by
  obtain ⟨property, value, origin, side, opacity, negative, important, raw⟩ := d
  obtain ⟨_, value', origin', side', opacity', negative', important', raw'⟩ := e
  obtain rfl : property = _ := hproperty
  cases property
  case padding | margin | inset | borderWidth =>
    exact .bind fun _ _ => .one fun layer =>
      layer.write_write_of_comp (funext fun _ => Edges.set_set hcover ..)
  case gap | spaceBetween | scale | translate =>
    exact .bind fun _ _ => .one fun layer =>
      layer.write_write_of_comp (funext fun _ => Axes.set_set hcover ..)
  case width | height | size => exact sizePlan_hides options _
  case borderRadius =>
    refine .bind fun _ _ => .ite .error (.ite_left .error_left (.one fun layer => ?_))
    exact layer.write_write_of_comp (funext fun _ => congrArg some (Corners.set_set hcover ..))
  case minWidth | minHeight | maxWidth | maxHeight | aspectRatio | borderStyle | rotate =>
    exact .bind fun _ _ => .one (.of_const _ rfl rfl fun _ _ => rfl)
  all_goals exact .error

theorem layoutPlan_hides (hproperty : d.property = e.property)
    (hcumulative : e.property ∉ Property.cumulative) :
    PlanHides (e.layoutPlan options) (d.layoutPlan options) := by
  obtain ⟨property, value, origin, side, opacity, negative, important, raw⟩ := d
  obtain ⟨_, value', origin', side', opacity', negative', important', raw'⟩ := e
  obtain rfl : property = _ := hproperty
  cases property
  case display => exact absurd (by simp [Property.cumulative]) hcumulative
  case flex =>
    refine .bind fun parts parts' => .ok fun layer => ?_
    rw [Layer.editAll_flex, Layer.editAll_flex, Layer.editAll_flex]
    exact layer.write_write_of_comp (c := .flex) rfl
  case zIndex | alignSelf =>
    have hconst : ∀ {a b : Edit}, a.cell = b.cell → (∀ x y, b.change x = b.change y) →
        PlanHides (.ok [b]) (.ok [a]) := fun hcell hconst => .one (.of_const _ hcell rfl hconst)
    refine .ite (.ite_left ?_ (.bind_left fun _ => ?_))
      (.bind_right fun _ => .ite_left ?_ (.bind_left fun _ => ?_))
    all_goals exact hconst rfl fun _ _ => rfl
  case flexGrow | flexShrink | flexBasis =>
    exact .bind fun _ _ => .one fun layer => layer.write_write_of_comp (c := .flex) rfl
  case visibility | flexDirection =>
    exact .bind fun _ _ => .one fun layer => layer.write_write_of_comp (c := .display) rfl
  case position | overflow | order | flexWrap | justifyContent | alignItems | gridTemplateColumns
      | gridTemplateRows | gridColumn | gridRow =>
    exact .bind fun _ _ => .one (.of_const _ rfl rfl fun _ _ => rfl)
  all_goals exact .error

theorem paintPlan_hides (hproperty : d.property = e.property)
    (hcumulative : e.property ∉ Property.cumulative) :
    PlanHides (e.paintPlan options) (d.paintPlan options) := by
  obtain ⟨property, value, origin, side, opacity, negative, important, raw⟩ := d
  obtain ⟨_, value', origin', side', opacity', negative', important', raw'⟩ := e
  obtain rfl : property = _ := hproperty
  cases property
  case backgroundColor | backgroundImage | boxShadow =>
    exact absurd (by simp [Property.cumulative]) hcumulative
  case borderColor =>
    exact .ite .error (.ite_left .error_left (.bind fun _ _ => .one
      (.of_const _ rfl rfl fun _ _ => rfl)))
  case shadowColor => exact .bind fun color color' => .one (Edit.hides_shadowColor color color')
  case blur | backdropBlur =>
    refine .bind fun radius radius' => .one fun layer =>
      layer.write_write_of_comp (funext fun (effects, color) => ?_)
    exact congrArg (·, color) (Edit.replaceBlur_replaceBlur rfl radius radius' _ effects)
  case ringColor | ringOffsetColor | ringWidth | ringOffsetWidth =>
    exact .bind fun _ _ => .one fun layer => layer.write_write_of_comp (c := .ring) rfl
  case textColor => exact .bind fun _ _ => .one (.of_const .textFill rfl rfl fun _ _ => rfl)
  case opacity => exact .bind fun _ _ => .one (.of_const .opacity rfl rfl fun _ _ => rfl)
  case mixBlendMode => exact .bind fun _ _ => .one (.of_const .blendMode rfl rfl fun _ _ => rfl)
  all_goals exact .error

theorem letteringPlan_hides (hproperty : d.property = e.property)
    (hcumulative : e.property ∉ Property.cumulative) :
    PlanHides (e.letteringPlan options) (d.letteringPlan options) := by
  obtain ⟨property, value, origin, side, opacity, negative, important, raw⟩ := d
  obtain ⟨_, value', origin', side', opacity', negative', important', raw'⟩ := e
  obtain rfl : property = _ := hproperty
  cases property
  case fontSize | textOverflow => exact absurd (by simp [Property.cumulative]) hcumulative
  case lineClamp =>
    refine .bind fun limit limit' => .ok fun layer => ?_
    rw [Layer.editAll_lineClamp, Layer.editAll_lineClamp, Layer.editAll_lineClamp]
    exact layer.write_write_of_comp (c := .overflow) rfl
  case lineHeight =>
    exact .bind fun _ _ => .one fun layer => layer.write_write_of_comp (c := .font) rfl
  case fontWeight | fontFamily | fontStyle | letterSpacing | textAlign | textDecorationLine
      | textTransform =>
    exact .bind fun _ _ => .one (.of_const _ rfl rfl fun _ _ => rfl)
  all_goals exact .error

/-- **Literal values** hide those that they cover. -/
theorem literalPlan_hides (hproperty : d.property = e.property)
    (hcumulative : e.property ∉ Property.cumulative) (hcover : e.Covers d) :
    PlanHides (e.literalPlan options) (d.literalPlan options) := by
  have hbox := boxPlan_hides options hproperty hcover
  have hlayout := layoutPlan_hides options hproperty hcumulative
  have hpaint := paintPlan_hides options hproperty hcumulative
  have hlettering := letteringPlan_hides options hproperty hcumulative
  unfold literalPlan
  rw [← hproperty]
  generalize d.property = property
  cases property
  all_goals first | exact hbox | exact hlayout | exact hpaint | exact hlettering | exact .error

end

/-! ## Bindings -/

section
variable {d e : Declaration}

/-- A declaration that covers another one binds its parts. -/
theorem boundParts_subset_of_covers (hproperty : d.property = e.property) (hcover : e.Covers d)
    {parts parts' : List String} (hd : d.boundParts? = some parts)
    (he : e.boundParts? = some parts') : parts ⊆ parts' := by
  obtain ⟨property, value, origin, side, opacity, negative, important, raw⟩ := d
  obtain ⟨_, value', origin', side', opacity', negative', important', raw'⟩ := e
  obtain rfl : property = _ := hproperty
  cases property
  case padding | margin | inset | borderWidth | borderRadius =>
    cases hd
    cases he
    exact List.map_subset _ (selected_subset hcover _)
  case gap | spaceBetween | scale | translate =>
    cases hd
    cases he
    exact selected_subset hcover _
  case borderColor =>
    obtain ⟨-, hd⟩ := Option.ite_none_right_eq_some.1 hd
    obtain ⟨-, he⟩ := Option.ite_none_right_eq_some.1 he
    cases hd
    cases he
    exact List.Subset.refl _
  all_goals cases hd
  all_goals
    cases he
    exact List.Subset.refl _

/-- **Bindings** hide those of the parts that they bind. -/
theorem boundPlan_hides (hproperty : d.property = e.property) (hcover : e.Covers d)
    (binding binding' : Binding) : PlanHides (e.boundPlan binding') (d.boundPlan binding) := by
  unfold boundPlan
  cases hd : d.boundParts? with
  | none => exact .error
  | some parts =>
    cases he : e.boundParts? with
    | none => exact .error_left
    | some parts' =>
      have hparts : parts ⊆ parts' := boundParts_subset_of_covers hproperty hcover hd he
      exact .ok (Layer.editAll_bind_of_subset hparts binding binding')

/-! ## All declarations -/

theorem plan_hides (options : LoweringOptions) (hproperty : d.property = e.property)
    (hcumulative : e.property ∉ Property.cumulative)
    (hbound : d.binding?.isSome = e.binding?.isSome) (hcover : e.Covers d) :
    PlanHides (e.plan options) (d.plan options) := by
  unfold plan
  cases hd : d.binding? with
  | none =>
    cases he : e.binding? with
    | none => exact literalPlan_hides options hproperty hcumulative hcover
    | some binding' => simp [hd, he] at hbound
  | some binding =>
    cases he : e.binding? with
    | none => simp [hd, he] at hbound
    | some binding' => exact boundPlan_hides hproperty hcover binding binding'

/-- A declaration that has a layer of its own has a plan. -/
theorem exists_plan_of_layer? {options : LoweringOptions} {fresh : Layer}
    (h : d.layer? options = .ok fresh) : ∃ edits, d.plan options = .ok edits := by
  rw [layer?_eq_map] at h
  cases hplan : d.plan options with
  | error error =>
    rw [hplan] at h
    cases h
  | ok edits => exact ⟨edits, rfl⟩

end

end Declaration

/-- **A later declaration overrides an earlier one that it covers.**  Let both be of one property
    that does not add up, let both be lowered, and let both have literal values or both bind.  If
    the later one covers the edges, corners or axes of the earlier one, the layer is the same as
    without the earlier one. -/
theorem Layer.style_style_of_covers (options : LoweringOptions) (layer : Layer)
    {d e : Declaration} {fresh fresh' : Layer} (hproperty : d.property = e.property)
    (hcumulative : e.property ∉ Property.cumulative) (hd : d.layer? options = .ok fresh)
    (he : e.layer? options = .ok fresh') (hbound : d.binding?.isSome = e.binding?.isSome)
    (hcover : e.Covers d) :
    (layer.style options d).style options e = layer.style options e := by
  obtain ⟨as, has⟩ := Declaration.exists_plan_of_layer? hd
  obtain ⟨bs, hbs⟩ := Declaration.exists_plan_of_layer? he
  rw [style_of_plan_ok has, style_of_plan_ok hbs, style_of_plan_ok hbs]
  exact Declaration.plan_hides options hproperty hcumulative hbound hcover as has bs hbs layer

/-- Square corners at the top hide the radius of one of them, whatever the others are. -/
theorem Layer.style_style_of_covers_top :
    let layer : Layer := { cornerRadii := some (.all 2) }
    let corner : Declaration :=
      { property := .borderRadius, value := .keyword "lg", side := some .topLeft
        raw := "rounded-tl-lg" }
    let top : Declaration :=
      { property := .borderRadius, value := .keyword "none", side := some .top
        raw := "rounded-t-none" }
    top.Covers corner ∧
      (layer.style {} corner).style {} top = layer.style {} top := by
  intro layer corner top
  have hcover : top.Covers corner := by
    unfold Declaration.Covers Within
    decide
  exact ⟨hcover, layer.style_style_of_covers {} rfl (by decide) rfl rfl rfl hcover⟩

end UtilityStyle
