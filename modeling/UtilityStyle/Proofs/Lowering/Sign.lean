/-
  Declarations with a minus sign.

  * `Layer.negated`: a layer with the other sign, number by number.  Measures are negated, whole
    numbers are taken from the negated number, and bindings and CSS texts are put into terms with
    the other sign;
  * `Edit.negated` and `Layer.negated_editAll`: the edits with the other sign make the layer with
    the other sign;
  * `Declaration.plan_negative` and `Declaration.edits_negative`: the edits of a declaration with a
    minus sign are those of the declaration without it, each with the other sign.  Every measure
    takes the sign once (`dimension_negative`, `spacing_negative`, `tracking_negative`,
    `degrees_negative`, `offset_negative`);
  * `Catalog.style_negative`: so the layer of a built-in utility with a minus sign is the one that
    it has without, with the other sign.
-/
import UtilityStyle.Proofs.Catalog
import UtilityStyle.Proofs.Lowering.Atomic

namespace UtilityStyle

/-! ## The other sign -/

section
variable {α β : Type}

/-- A function on both axes. -/
def Axes.map (f : α → β) (s : Axes α) : Axes β := ⟨f s.x, f s.y⟩

theorem Axes.map_set (f : α → β) (s : Axes α) (on : Axes Bool) (a : α) :
    (s.set on a).map f = (s.map f).set on (f a) := by
  simp only [map, set, apply_ite f]

/-- A function on all edges. -/
def Edges.map (f : α → β) (s : Edges α) : Edges β := ⟨f s.top, f s.right, f s.bottom, f s.left⟩

theorem Edges.map_set (f : α → β) (s : Edges α) (on : Edges Bool) (a : α) :
    (s.set on a).map f = (s.map f).set on (f a) := by
  simp only [map, set, apply_ite f]

end

/-- A dimension with a function of its number. -/
def Dimension.map (f : Float32 → Float32) : Dimension → Dimension
  | pixels value => pixels (f value)
  | percent value => percent (f value)
  | auto => auto

theorem Dimension.negated_eq_map (d : Dimension) : d.negated = d.map fun x => -x := by
  cases d <;> rfl

/-- A letter spacing with a function of its number. -/
def LetterSpacing.map (f : Float32 → Float32) : LetterSpacing → LetterSpacing
  | pixels value => pixels (f value)
  | percent value => percent (f value)

theorem LetterSpacing.negated_eq_map (spacing : LetterSpacing) :
    spacing.negated = spacing.map fun x => -x := by
  cases spacing <;> rfl

/-- The second CSS text is the first one with the other sign: without its minus sign, with one
    before a digit or a point, or else as a factor. -/
inductive OppositeCss : String → String → Prop
  | minus (text : String) : OppositeCss ("-" ++ text) text
  | number {text : String} {c : Char} : text.toList.head? = some c → c.isDigit = true ∨ c = '.' →
    OppositeCss text ("-" ++ text)
  | factor {text : String} :
    (∀ c, text.toList.head? = some c → c ≠ '-' ∧ ¬(c.isDigit = true ∨ c = '.')) →
      OppositeCss text ("calc(" ++ text ++ " * -1)")

theorem oppositeCss_negatedCss (text : String) : OppositeCss text (negatedCss text) := by
  unfold negatedCss
  split
  · next r htext =>
    have hminus : text = "-" ++ String.ofList r := by
      rw [← String.toList_inj, htext]
      simp
    rw [hminus]
    exact .minus _
  · next c r hminus htext =>
    have hhead : text.toList.head? = some c := by rw [htext]; rfl
    split
    · next hnumber => exact .number hhead hnumber
    · next hnumber =>
      refine .factor fun c' hc' => ?_
      obtain rfl := Option.some.inj (hhead.symm.trans hc')
      exact ⟨hminus, hnumber⟩
  · next htext =>
    refine .factor fun c hc => ?_
    rw [htext] at hc
    cases hc

/-- The binding as a term with the other sign. -/
def Binding.negated : Binding → Binding
  | .variable name => .expression ("calc(" ++ ("var(" ++ name ++ ")") ++ " * -1)")
  | .expression text => .expression ("calc(" ++ text ++ " * -1)")

/-- A whole number, if there is one, from the negated number.  It is cut off towards zero, and kept
    within the range of 32 bits. -/
def negatedPlace (number? : Option Float32) (place : Option Int) : Option Int :=
  place.bind fun _ => number?.map fun n => (-n).toInt32.toInt

/-- The layer with the other sign.  The number is the one that whole numbers come from. -/
def Layer.negated (number? : Option Float32) (layer : Layer) : Layer :=
  { layer with
    margin := layer.margin.map (Option.map (Dimension.map fun x => -x))
    inset := layer.inset.map (Option.map (Dimension.map fun x => -x))
    displacement := layer.displacement.map (Option.map (Dimension.map fun x => -x))
    gap := layer.gap.map (Option.map fun px => -px)
    rotation := layer.rotation.map fun degrees => -degrees
    scale := layer.scale.map (Option.map fun factor => -factor)
    letterSpacing := layer.letterSpacing.map (LetterSpacing.map fun x => -x)
    order := negatedPlace number? layer.order
    zIndex := negatedPlace number? layer.zIndex
    bindings := layer.bindings.map Binding.negated
    css := layer.css.map negatedCss }

namespace Cell

/-- The cells that have a sign, and those of bindings and CSS. -/
def signed : List Cell := [
  margin, inset, displacement, gap, rotation, scale, letterSpacing, order, zIndex, bindings, css]

/-- What a cell holds in the layer with the other sign. -/
def negate (number? : Option Float32) : (c : Cell) → c.Value → c.Value
  | margin, slots | inset, slots => Edges.map (Option.map (Dimension.map fun x => -x)) slots
  | displacement, slots => Axes.map (Option.map (Dimension.map fun x => -x)) slots
  | gap, slots | scale, slots => Axes.map (Option.map fun x => -x) slots
  | rotation, degrees => Option.map (fun x => -x) degrees
  | letterSpacing, spacing => Option.map (LetterSpacing.map fun x => -x) spacing
  | order, place | zIndex, place => negatedPlace number? place
  | bindings, entries => Text.Dictionary.map Binding.negated entries
  | css, entries => Text.Dictionary.map negatedCss entries
  | _, value => value

end Cell

namespace Property

/-- The properties of utilities that a minus sign may precede. -/
def signed : List Property := [
  margin, spaceBetween, inset, outlineOffset, textUnderlineOffset, letterSpacing, zIndex, order,
  rotate, scale, translate, skew]

/-- The order among siblings is in a group by itself. -/
theorem eq_order_of_group {p : Property} (h : p.group = order) : p = order := by
  cases p <;> first | rfl | cases h

end Property

/-! ## Edits -/

namespace Edit

/-- The edit with the other sign. -/
def negated (number? : Option Float32) : Edit → Edit
  | margin edges distance => margin edges (distance.map fun x => -x)
  | inset edges distance => inset edges (distance.map fun x => -x)
  | displacement axes offset => displacement axes (offset.map fun x => -x)
  | gap axes px => gap axes (-px)
  | rotation degrees => rotation (-degrees)
  | scale axes factor => scale axes (-factor)
  | letterSpacing spacing => letterSpacing (spacing.map fun x => -x)
  | order place => order ((negatedPlace number? (some place)).getD place)
  | zIndex place => zIndex (negatedPlace number? place)
  | bind part binding => bind part binding.negated
  | css property text => css property (negatedCss text)
  | edit => edit

end Edit

namespace Layer

variable {number? : Option Float32}

theorem negated_empty : empty.negated number? = empty := rfl

/-- The other sign is taken cell by cell. -/
theorem cell_negated (layer : Layer) (c : Cell) :
    (layer.negated number?).cell c = c.negate number? (layer.cell c) := by
  cases c <;> rfl

/-- A change to a cell becomes one to the cell with the other sign. -/
theorem negated_write {c : Cell} {f g : c.Value → c.Value}
    (h : ∀ value, c.negate number? (f value) = g (c.negate number? value)) (layer : Layer) :
    (layer.write c f).negated number? = (layer.negated number?).write c g := by
  refine ext_cell fun c' => ?_
  rw [cell_negated, cell_write, cell_write]
  by_cases hc : c' = c
  · subst hc
    rw [Function.update_self, Function.update_self, h, cell_negated]
  · rw [Function.update_of_ne hc, Function.update_of_ne hc, cell_negated]

/-- **The other sign may be taken before or after an edit.**  The order among siblings is the one
    whole number that no edit takes away, so that it needs a number. -/
theorem negated_apply {edit : Edit} (h : edit.cell = .order → number?.isSome) (layer : Layer) :
    (edit.apply layer).negated number? = (edit.negated number?).apply (layer.negated number?) := by
  cases edit
  case margin | inset =>
    refine negated_write (fun _ => ?_) layer
    exact Edges.map_set ..
  case displacement | gap | scale =>
    refine negated_write (fun _ => ?_) layer
    exact Axes.map_set ..
  case order =>
    obtain ⟨n, rfl⟩ := Option.isSome_iff_exists.1 (h rfl)
    refine negated_write (fun _ => ?_) layer
    rfl
  case bind | css =>
    refine negated_write (fun _ => ?_) layer
    exact Text.Dictionary.map_insert ..
  all_goals
    refine negated_write (fun _ => ?_) layer
    rfl

theorem negated_editAll {edits : List Edit}
    (h : ∀ edit ∈ edits, edit.cell = .order → number?.isSome) (layer : Layer) :
    (layer.editAll edits).negated number? =
      (layer.negated number?).editAll (edits.map (Edit.negated number?)) := by
  induction edits generalizing layer with
  | nil => rfl
  | cons edit edits ih =>
    obtain ⟨hedit, hedits⟩ := List.forall_mem_cons.1 h
    rw [List.map_cons, editAll_cons, editAll_cons, ih hedits, negated_apply hedit]

end Layer

/-! ## Measures -/

namespace Declaration

/-- The declaration without its minus sign. -/
def positive (d : Declaration) : Declaration := { d with negative := false }

section
variable {d : Declaration} {options : LoweringOptions}

/-- A measure that takes the sign of its declaration is the negated measure without it. -/
theorem map_negative {α : Type} (h : d.negative = true) (neg : α → α)
    (magnitude : Except LoweringError α) :
    magnitude.map (fun x => if d.negative then neg x else x) =
      (magnitude.map fun x => if d.positive.negative then neg x else x).map neg := by
  rw [h]
  cases magnitude <;> rfl

theorem spacing_negative (h : d.negative = true) :
    d.spacing options = (d.positive.spacing options).map fun px => -px :=
  map_negative h _ (d.spacingMagnitude options)

theorem dimension_negative (h : d.negative = true) :
    d.dimension options = (d.positive.dimension options).map (Dimension.map fun x => -x) := by
  rw [← funext Dimension.negated_eq_map]
  exact map_negative h _ (d.dimensionMagnitude options)

theorem tracking_negative (h : d.negative = true) :
    d.tracking options = (d.positive.tracking options).map (LetterSpacing.map fun x => -x) := by
  rw [← funext LetterSpacing.negated_eq_map]
  exact map_negative h _ (d.trackingMagnitude options)

theorem degrees_negative (h : d.negative = true) :
    d.degrees = d.positive.degrees.map fun degrees => -degrees := by
  obtain ⟨property, value, origin, side, opacity, negative, important, raw⟩ := d
  obtain rfl : negative = true := h
  dsimp only [degrees, positive]
  split <;> rfl

/-- A displacement without a sign is automatic if it is with one. -/
theorem offset_negative (h : d.negative = true) :
    d.offset options = (d.positive.offset options).map (Dimension.map fun x => -x) := by
  rw [offset, offset, dimension_negative h]
  cases d.positive.dimension options with
  | error error => rfl
  | ok offset => cases offset <;> rfl

end

/-! ## Plans -/

section
variable {number? : Option Float32} {options : LoweringOptions}

/-- A plan of one edit has the other sign if its measure has. -/
theorem bind_negative {α : Type} {x y : Except LoweringError α} {neg : α → α}
    {f g : α → Edit} (h : x = y.map neg) (hf : ∀ a, f (neg a) = (g a).negated number?) :
    (x >>= fun a => .ok [f a]) =
      (y >>= fun a => .ok [g a]).map (List.map (Edit.negated number?)) := by
  rw [h]
  cases y with
  | error => rfl
  | ok a =>
    show Except.ok [f (neg a)] = .ok [(g a).negated number?]
    rw [hf]

/-- **Literal values** take the sign of their declaration once. -/
theorem literalPlan_negative {d : Declaration} (hproperty : d.property ∈ Property.signed)
    (h : d.negative = true) :
    d.literalPlan options =
      (d.positive.literalPlan options).map (List.map (Edit.negated d.value.number?)) := by
  obtain ⟨property, value, origin, side, opacity, negative, important, raw⟩ := d
  obtain rfl : negative = true := h
  change property ∈ Property.signed at hproperty
  cases property
  case margin | inset => exact bind_negative (dimension_negative rfl) fun _ => rfl
  case spaceBetween => exact bind_negative (spacing_negative rfl) fun _ => rfl
  case letterSpacing => exact bind_negative (tracking_negative rfl) fun _ => rfl
  case rotate => exact bind_negative (degrees_negative rfl) fun _ => rfl
  case translate => exact bind_negative (offset_negative rfl) fun _ => rfl
  case scale => exact bind_negative (congrFun Except.map_id _).symm fun _ => rfl
  case order => cases value <;> rfl
  case zIndex =>
    -- The word for an automatic place has no sign.
    show (if value.keyword? = some "auto" then _ else _) =
      Except.map _ (if value.keyword? = some "auto" then _ else _)
    split
    · rfl
    · cases value <;> rfl
  case outlineOffset | textUnderlineOffset | skew => rfl
  all_goals exact absurd hproperty (by decide)

/-- **A binding** takes the sign of its declaration once, unless an opacity is mixed into it. -/
theorem binding?_negative {d : Declaration} (hopacity : d.opacity = none)
    (h : d.negative = true) : d.binding? = d.positive.binding?.map Binding.negated := by
  obtain ⟨property, value, origin, side, opacity, negative, important, raw⟩ := d
  obtain rfl : opacity = none := hopacity
  obtain rfl : negative = true := h
  cases value
  case raw text =>
    dsimp only [binding?, opaqueBinding?, positive]
    cases Css.isPassthrough text <;> rfl
  all_goals rfl

theorem boundPlan_negative (d : Declaration) (binding : Binding) :
    d.boundPlan binding.negated =
      (d.positive.boundPlan binding).map (List.map (Edit.negated number?)) := by
  show (d.orUnsupported d.boundParts?).map _ = ((d.orUnsupported d.boundParts?).map _).map _
  cases d.boundParts? with
  | none => rfl
  | some parts =>
    show Except.ok (parts.map (Edit.bind · binding.negated)) =
      .ok ((parts.map (Edit.bind · binding)).map (Edit.negated number?))
    rw [List.map_map]
    rfl

/-- **The plan of a declaration with a minus sign** is the one without it, with the other sign. -/
theorem plan_negative {d : Declaration} (hproperty : d.property ∈ Property.signed)
    (hopacity : d.opacity = none) (h : d.negative = true) :
    d.plan options =
      (d.positive.plan options).map (List.map (Edit.negated d.value.number?)) := by
  unfold plan
  rw [binding?_negative hopacity h]
  cases d.positive.binding? with
  | none => exact literalPlan_negative hproperty h
  | some binding => exact d.boundPlan_negative binding

/-! ## Edits -/

theorem keptCss?_negative {d : Declaration} (h : d.negative = true) (error : LoweringError) :
    d.keptCss? options error = (d.positive.keptCss? options error).map negatedCss := by
  have hvalue : d.cssValue? options = (d.positive.cssValue? options).map negatedCss := by
    show (d.cssMagnitude? options).map _ = ((d.cssMagnitude? options).map _).map _
    rw [h]
    cases d.cssMagnitude? options <;> rfl
  cases error with
  | invalidValue => rfl
  | unsupported =>
    dsimp only [keptCss?]
    rw [hvalue]
    split <;> rfl

/-- The edits of a declaration with a minus sign are those without it, with the other sign. -/
theorem edits_negative {d : Declaration} (hproperty : d.property ∈ Property.signed)
    (hopacity : d.opacity = none) (h : d.negative = true) :
    d.edits options = (d.positive.edits options).map (Edit.negated d.value.number?) := by
  have hplan : d.plan options = _ := plan_negative hproperty hopacity h
  cases hpositive : d.positive.plan options with
  | ok edits =>
    rw [hpositive] at hplan
    rw [edits_of_plan_ok hplan, edits_of_plan_ok hpositive]
  | error error =>
    rw [hpositive] at hplan
    rw [edits_of_plan_error hplan, edits_of_plan_error hpositive, keptCss?_negative h]
    cases d.positive.keptCss? options error <;> rfl

/-- A literal order among siblings comes from a number. -/
theorem isSome_number?_of_mem_literalPlan {d : Declaration} {edits : List Edit}
    (hplan : d.literalPlan options = .ok edits) {edit : Edit} (he : edit ∈ edits)
    (hcell : edit.cell = .order) : d.value.number?.isSome := by
  have hring : edit.cell ≠ .ring := by
    rw [hcell]
    decide
  have hgroup : some Property.order = some d.property.group := by
    rw [← d.literalPlan_owns options edits hplan edit he, Edit.group?_of_cell_ne_ring hring, hcell]
    rfl
  obtain ⟨property, value, origin, side, opacity, negative, important, raw⟩ := d
  obtain rfl : property = .order := Property.eq_order_of_group (Option.some.inj hgroup).symm
  cases value
  case number => rfl
  all_goals cases hplan

theorem isSome_number?_of_mem_edits {d : Declaration} {edit : Edit}
    (he : edit ∈ d.edits options) (hcell : edit.cell = .order) : d.value.number?.isSome := by
  rcases cases_of_mem_edits he with ⟨edits, hplan, he⟩ | ⟨_, _, _, -, -, rfl⟩ | ⟨_, rfl⟩
  · exact isSome_number?_of_mem_literalPlan hplan he hcell
  · cases hcell
  · cases hcell

/-! ## Layers -/

theorem negated_editAll_of_edits (d : Declaration) :
    (Layer.empty.editAll (d.edits options)).negated d.value.number? =
      Layer.empty.editAll ((d.edits options).map (Edit.negated d.value.number?)) := by
  rw [Layer.negated_editAll, Layer.negated_empty]
  exact fun edit he => isSome_number?_of_mem_edits he

theorem style_empty_negative {d : Declaration} (hproperty : d.property ∈ Property.signed)
    (hopacity : d.opacity = none) (h : d.negative = true) :
    Layer.empty.style options d =
      (Layer.empty.style options d.positive).negated d.value.number? := by
  have hpositive : (Layer.empty.editAll (d.positive.edits options)).negated d.value.number? = _ :=
    d.positive.negated_editAll_of_edits
  rw [Layer.style_eq_editAll, Layer.style_eq_editAll, hpositive,
    edits_negative hproperty hopacity h]
  rfl

theorem layer?_negative {d : Declaration} (hproperty : d.property ∈ Property.signed)
    (hopacity : d.opacity = none) (h : d.negative = true) :
    d.layer? options = (d.positive.layer? options).map (Layer.negated d.value.number?) := by
  rw [layer?_eq_map, layer?_eq_map, plan_negative hproperty hopacity h]
  cases hplan : d.positive.plan options with
  | error error => rfl
  | ok edits =>
    have hedits : (Layer.empty.editAll (d.positive.edits options)).negated d.value.number? = _ :=
      d.positive.negated_editAll_of_edits
    rw [edits_of_plan_ok hplan] at hedits
    exact congrArg Except.ok hedits.symm

end

end Declaration

/-! ## Cells -/

/-- The cells of a property that may have a sign have one. -/
theorem Cell.mem_signed_of_group? {c : Cell} {p : Property} (hp : p ∈ Property.signed)
    (h : c.group? = some p.group) : c ∈ signed := by
  have hall : ∀ p ∈ Property.signed, c.group? = some p.group → c ∈ signed := by
    cases c <;> decide
  exact hall p hp h

/-- No part of the ring has a sign. -/
theorem Edit.cell_ne_ring {edit : Edit} {p : Property} (hp : p ∈ Property.signed)
    (h : edit.group? = some p.group) : edit.cell ≠ .ring := by
  have hall : ∀ p ∈ Property.signed,
      ∀ q ∈ [Property.ringWidth, .ringColor, .ringOffsetWidth, .ringOffsetColor],
        q ≠ p.group := by
    decide
  intro hring
  cases edit <;> cases hring
  all_goals exact absurd (Option.some.inj h) (hall p hp _ (by decide))

/-- The edits of a declaration that may have a sign write cells that have one. -/
theorem Declaration.cell_mem_signed {d : Declaration} {options : LoweringOptions}
    (hproperty : d.property ∈ Property.signed) {edit : Edit} (he : edit ∈ d.edits options) :
    edit.cell ∈ Cell.signed := by
  rcases mem_edits he with howns | ⟨_, _, _, -, -, rfl⟩ | ⟨_, rfl⟩
  · have hring : edit.cell ≠ .ring := Edit.cell_ne_ring hproperty howns
    rw [Owns, Edit.group?_of_cell_ne_ring hring] at howns
    exact Cell.mem_signed_of_group? hproperty howns
  · show Cell.bindings ∈ Cell.signed
    decide
  · show Cell.css ∈ Cell.signed
    decide

/-! ## Utilities -/

namespace Catalog

variable {theme : Theme} {raw : String} {d : Declaration}

/-- **The built-in utilities that take a minus sign** are of the properties that may have one, and
    they take no opacity. -/
theorem signed_of_read?_negative (hread : builtIn.read? theme raw = some d)
    (h : d.negative = true) : d.property ∈ Property.signed ∧ d.opacity = none := by
  have hall : ∀ family ∈ families, family.signed = true →
      family.property ∈ Property.signed ∧ family.suffix ≠ .opacity := by
    decide +kernel
  rcases cases_of_read? hread with hfixed | ⟨family, hmem, hresolve⟩
  · obtain ⟨_, -, rfl⟩ := Option.map_eq_some_iff.1 hfixed
    cases h
  · obtain ⟨token, -, hdeclare⟩ := Option.bind_eq_some_iff.1 hresolve
    obtain ⟨hsigned, opacity, value, origin, value', hopacity, -, -, -, rfl⟩ :=
      Family.declare?_eq_some_iff.1 hdeclare
    obtain ⟨hproperty, hsuffix⟩ := hall family hmem (hsigned h)
    rw [Family.opacity?, if_neg hsuffix] at hopacity
    exact ⟨hproperty, (Option.some.inj hopacity).symm⟩

/-- **The minus sign counts once.**  Let a built-in utility have a minus sign, under any theme.
    Without it the declaration can be lowered if and only if it can be with it, and there is the
    same error if not.  Its layer is then the layer without the sign, with the other sign: measures,
    rotations, scales and letter spacings are negated, whole numbers are taken from the negated
    number, and bindings and CSS texts have the other sign.  Nothing else is written. -/
theorem style_negative (options : LoweringOptions) (hread : builtIn.read? theme raw = some d)
    (h : d.negative = true) :
    let positive : Declaration := { d with negative := false }
    d.layer? options = (positive.layer? options).map (Layer.negated d.value.number?) ∧
      Layer.empty.style options d =
        (Layer.empty.style options positive).negated d.value.number? ∧
      (∀ name text, (Layer.empty.style options positive).css.get? name = some text →
        ∃ text', (Layer.empty.style options d).css.get? name = some text' ∧
          OppositeCss text text') ∧
      ∀ c ∉ Cell.signed, (Layer.empty.style options positive).cell c = Layer.empty.cell c := by
  intro positive
  obtain ⟨hproperty, hopacity⟩ := signed_of_read?_negative hread h
  have hstyle : Layer.empty.style options d =
      (Layer.empty.style options positive).negated d.value.number? :=
    Declaration.style_empty_negative hproperty hopacity h
  refine ⟨Declaration.layer?_negative hproperty hopacity h, hstyle, ?_, ?_⟩
  · intro name text htext
    refine ⟨negatedCss text, ?_, oppositeCss_negatedCss text⟩
    rw [hstyle]
    show (Text.Dictionary.map negatedCss _).get? name = _
    rw [Text.Dictionary.get?_map, htext]
    rfl
  · intro c hc
    have hpositive : positive.property ∈ Property.signed := hproperty
    rw [Layer.style_eq_editAll]
    refine Layer.cell_editAll_of_ne (fun edit he => ?_) Layer.empty
    rintro rfl
    exact hc (Declaration.cell_mem_signed hpositive he)

/-- Margins with a minus sign, of a custom property and of a number, and a letter spacing. -/
theorem style_negative_margin :
    (∃ d, builtIn.read? .empty "-mt-(--gap)" = some d ∧ d.negative = true ∧
      (Layer.empty.style {} { d with negative := false }).bindings.get? "margin-top" =
          some (.variable "--gap") ∧
        Layer.empty.style {} d =
          (Layer.empty.style {} { d with negative := false }).negated d.value.number? ∧
        (Layer.empty.style {} d).bindings.get? "margin-top" =
          some (.expression "calc(var(--gap) * -1)")) ∧
    (∃ d, builtIn.read? .empty "-mt-4" = some d ∧ d.negative = true ∧
      (Layer.empty.style {} { d with negative := false }).margin.top = some (.pixels 16) ∧
        (Layer.empty.style {} d).margin.top = some (.pixels (-16))) ∧
    ∃ d, builtIn.read? .empty "-tracking-[2px]" = some d ∧ d.negative = true ∧
      (Layer.empty.style {} { d with negative := false }).letterSpacing = some (.pixels 2) ∧
        (Layer.empty.style {} d).letterSpacing = some (.pixels (-2)) := by
  refine ⟨?_, ?_, ?_⟩
  · have hd : ∃ d, builtIn.read? .empty "-mt-(--gap)" = some d ∧ d.negative = true ∧
        (Layer.empty.style {} { d with negative := false }).bindings.get? "margin-top" =
          some (.variable "--gap") := by
      decide +kernel
    obtain ⟨d, hread, hnegative, hgap⟩ := hd
    obtain ⟨-, hstyle, -, -⟩ := style_negative {} hread hnegative
    refine ⟨d, hread, hnegative, hgap, hstyle, ?_⟩
    rw [hstyle]
    show (Text.Dictionary.map Binding.negated _).get? "margin-top" = _
    rw [Text.Dictionary.get?_map, hgap]
    rfl
  · have hd : ∃ d, builtIn.read? .empty "-mt-4" = some d ∧ d.negative = true ∧
        (Layer.empty.style {} { d with negative := false }).margin.top = some (.pixels 16) := by
      decide +kernel
    obtain ⟨d, hread, hnegative, hmargin⟩ := hd
    obtain ⟨-, hstyle, -, -⟩ := style_negative {} hread hnegative
    refine ⟨d, hread, hnegative, hmargin, ?_⟩
    rw [hstyle]
    show Option.map _ (Layer.empty.style {} { d with negative := false }).margin.top = _
    rw [hmargin]
    rfl
  · have hd : ∃ d, builtIn.read? .empty "-tracking-[2px]" = some d ∧ d.negative = true ∧
        (Layer.empty.style {} { d with negative := false }).letterSpacing = some (.pixels 2) := by
      decide +kernel
    obtain ⟨d, hread, hnegative, hspacing⟩ := hd
    obtain ⟨-, hstyle, -, -⟩ := style_negative {} hread hnegative
    refine ⟨d, hread, hnegative, hspacing, ?_⟩
    rw [hstyle]
    show Option.map _ (Layer.empty.style {} { d with negative := false }).letterSpacing = _
    rw [hspacing]
    rfl

end Catalog

end UtilityStyle
