/-
  Footprints: what the edits of a declaration write.

  * `Property.group` collects the properties that share a part of the layer, and `Edit.group?` is
    the group that an edit belongs to.  Edits of different groups commute (`commutes_of_group_ne`);
  * `mem_plan`: a declaration that is lowered makes edits of its group, or binds parts of the layer;
  * `mem_edits`: otherwise it writes the entry of its CSS property, or nothing.
-/
import UtilityStyle.Proofs.Lowering.Plan

namespace UtilityStyle

/-! ## Groups -/

/-- The group of a property: the first of the properties that share parts of the layer with it. -/
def Property.group : Property → Property
  | spaceBetween => gap
  | height | size => width
  | visibility | flexDirection => display
  | flexGrow | flexShrink | flexBasis => flex
  | backgroundImage => backgroundColor
  | shadowColor | blur | backdropBlur => boxShadow
  | lineHeight => fontSize
  | lineClamp => textOverflow
  | property => property

/-- The group of properties that write to a cell.  The ring is shared by properties of four groups,
    bindings and CSS by all. -/
def Cell.group? : Cell → Option Property
  | padding => some .padding
  | margin => some .margin
  | inset => some .inset
  | gap => some .gap
  | size => some .width
  | minWidth => some .minWidth
  | minHeight => some .minHeight
  | maxWidth => some .maxWidth
  | maxHeight => some .maxHeight
  | aspectRatio => some .aspectRatio
  | strokeWeight => some .borderWidth
  | strokeStyle => some .borderStyle
  | strokes => some .borderColor
  | cornerRadii => some .borderRadius
  | rotation => some .rotate
  | scale => some .scale
  | displacement => some .translate
  | display => some .display
  | positioning => some .position
  | clipsContent => some .overflow
  | zIndex => some .zIndex
  | order => some .order
  | layoutWrap => some .flexWrap
  | flex => some .flex
  | primaryAxisAlign => some .justifyContent
  | counterAxisAlign => some .alignItems
  | alignSelf => some .alignSelf
  | gridColumns => some .gridTemplateColumns
  | gridRows => some .gridTemplateRows
  | columnSpan => some .gridColumn
  | rowSpan => some .gridRow
  | fills => some .backgroundColor
  | textFill => some .textColor
  | effects => some .boxShadow
  | opacity => some .opacity
  | blendMode => some .mixBlendMode
  | font => some .fontSize
  | fontWeight => some .fontWeight
  | fontFamily => some .fontFamily
  | fontStyle => some .fontStyle
  | letterSpacing => some .letterSpacing
  | textAlign => some .textAlign
  | textDecoration => some .textDecorationLine
  | textCase => some .textTransform
  | overflow => some .textOverflow
  | ring | bindings | css => none

namespace Edit

/-- The group of the properties that make an edit of literal values. -/
def group? : Edit → Option Property
  | ringWidth _ => some .ringWidth
  | ringColor _ => some .ringColor
  | ringOffsetWidth _ => some .ringOffsetWidth
  | ringOffsetColor _ => some .ringOffsetColor
  | edit => edit.cell.group?

theorem group?_of_cell_ne_ring {edit : Edit} (h : edit.cell ≠ .ring) :
    edit.group? = edit.cell.group? := by
  cases edit
  case ringWidth | ringColor | ringOffsetWidth | ringOffsetColor => exact absurd rfl h
  all_goals rfl

/-- Edits of the ring commute unless they set the same part of it. -/
theorem commutes_of_cell_eq_ring {a b : Edit} (ha : a.cell = .ring) (hb : b.cell = .ring)
    (h : a.group? ≠ b.group?) : Commutes a b := by
  cases a <;> cases ha
  all_goals cases b <;> cases hb
  all_goals first
    | exact absurd rfl h
    | exact fun layer => layer.write_comm_of_comp (c := .ring) rfl

/-- Edits of different groups commute. -/
theorem commutes_of_group_ne {a b : Edit} {g g' : Property} (ha : a.group? = some g)
    (hb : b.group? = some g') (h : g ≠ g') : Commutes a b := by
  have hne : a.group? ≠ b.group? := by
    rw [ha, hb]
    exact fun he => h (Option.some.inj he)
  by_cases hcell : a.cell = b.cell
  · -- Of the cells with literal values, only the ring is shared by several groups.
    by_cases hring : a.cell = .ring
    · exact commutes_of_cell_eq_ring hring (hcell ▸ hring) hne
    · rw [group?_of_cell_ne_ring hring, group?_of_cell_ne_ring (hcell ▸ hring), hcell] at hne
      exact absurd rfl hne
  · exact .of_cell_ne hcell

/-- An edit of a group writes neither bindings nor CSS. -/
theorem cell_ne_of_group? {edit : Edit} {g : Property} (h : edit.group? = some g) {c : Cell}
    (hc : c.group? = none) (hring : c ≠ .ring) : c ≠ edit.cell := by
  rintro rfl
  rw [group?_of_cell_ne_ring hring, hc] at h
  cases h

end Edit

/-! ## What holds of all edits of a plan -/

/-- Every edit of a plan satisfies `P`. -/
def Plans (P : Edit → Prop) (plan : Except LoweringError (List Edit)) : Prop :=
  ∀ edits, plan = .ok edits → ∀ edit ∈ edits, P edit

namespace Plans
variable {P : Edit → Prop} {α : Type}

theorem error {e : LoweringError} : Plans P (.error e) := nofun

theorem ok {edits : List Edit} (h : ∀ edit ∈ edits, P edit) : Plans P (.ok edits) := by
  rintro _ ⟨⟩
  exact h

theorem one {edit : Edit} (h : P edit) : Plans P (.ok [edit]) :=
  ok fun _ he => List.mem_singleton.1 he ▸ h

theorem two {edit edit' : Edit} (h : P edit) (h' : P edit') : Plans P (.ok [edit, edit']) :=
  ok (List.forall_mem_cons.2 ⟨h, List.forall_mem_singleton.2 h'⟩)

theorem bind {x : Except LoweringError α} {f : α → Except LoweringError (List Edit)}
    (h : ∀ a, x = .ok a → Plans P (f a)) : Plans P (x >>= f) := by
  cases x with
  | error => exact error
  | ok a => exact h a rfl

theorem map {x : Except LoweringError α} {f : α → List Edit}
    (h : ∀ a, x = .ok a → ∀ edit ∈ f a, P edit) : Plans P (x.map f) := by
  cases x with
  | error => exact error
  | ok a => exact ok (h a rfl)

theorem ite {c : Prop} [Decidable c] {x y : Except LoweringError (List Edit)} (hx : Plans P x)
    (hy : Plans P y) : Plans P (if c then x else y) := by
  split
  · exact hx
  · exact hy

end Plans

/-! ## Literal values -/

namespace Declaration

/-- The edit is one of the group of the declaration's property. -/
def Owns (d : Declaration) (edit : Edit) : Prop := edit.group? = some d.property.group

section
variable (d : Declaration) (options : LoweringOptions)

theorem boxPlan_owns : Plans d.Owns (d.boxPlan options) := by
  obtain ⟨property, value, origin, side, opacity, negative, important, raw⟩ := d
  cases property
  case width | height | size => exact .map fun _ _ => by rintro _ (_ | ⟨_, ⟨⟩⟩); rfl
  case borderRadius => exact .bind fun _ _ => .ite .error (.one rfl)
  all_goals first | exact .bind fun _ _ => .one rfl | exact .error

theorem layoutPlan_owns : Plans d.Owns (d.layoutPlan options) := by
  obtain ⟨property, value, origin, side, opacity, negative, important, raw⟩ := d
  cases property
  case display => exact .bind fun choice _ => .one (by cases choice <;> rfl)
  case flex =>
    refine .bind fun parts _ => .ok ?_
    simp only [List.forall_mem_cons]
    exact ⟨rfl, rfl, rfl, List.forall_mem_nil _⟩
  case zIndex | alignSelf => exact .ite (.one rfl) (.bind fun _ _ => .one rfl)
  all_goals first | exact .bind fun _ _ => .one rfl | exact .error

theorem paintPlan_owns : Plans d.Owns (d.paintPlan options) := by
  obtain ⟨property, value, origin, side, opacity, negative, important, raw⟩ := d
  cases property
  case backgroundImage => exact .bind fun url _ => .one (by cases url <;> rfl)
  case borderColor => exact .ite .error (.bind fun _ _ => .one rfl)
  case boxShadow => exact .bind fun shadows _ => .one (by unfold shadowEdit; split <;> rfl)
  all_goals first | exact .bind fun _ _ => .one rfl | exact .error

theorem letteringPlan_owns : Plans d.Owns (d.letteringPlan options) := by
  obtain ⟨property, value, origin, side, opacity, negative, important, raw⟩ := d
  cases property
  case fontSize =>
    refine .map fun (px, height) _ => List.forall_mem_cons.2 ⟨rfl, ?_⟩
    cases height with
    | none => exact List.forall_mem_nil _
    | some height => exact List.forall_mem_singleton.2 rfl
  case textOverflow =>
    refine .bind fun choice _ => ?_
    cases choice with
    | oneLine => exact .two rfl rfl
    | cutOff | shown => exact .one rfl
  case lineClamp => exact .bind fun _ _ => .two rfl rfl
  all_goals first | exact .bind fun _ _ => .one rfl | exact .error

/-- Literal values are written by edits of the group of their property. -/
theorem literalPlan_owns : Plans d.Owns (d.literalPlan options) := by
  have hbox := d.boxPlan_owns options
  have hlayout := d.layoutPlan_owns options
  have hpaint := d.paintPlan_owns options
  have hlettering := d.letteringPlan_owns options
  unfold literalPlan
  generalize d.property = property
  cases property
  all_goals first | exact hbox | exact hlayout | exact hpaint | exact hlettering | exact .error

end

/-! ## All edits -/

/-- The edit lets a binding drive a part that the declaration stands for. -/
def Binds (d : Declaration) (edit : Edit) : Prop :=
  ∃ parts part binding, d.boundParts? = some parts ∧ part ∈ parts ∧ edit = .bind part binding

theorem boundPlan_binds (d : Declaration) (binding : Binding) :
    Plans d.Binds (d.boundPlan binding) := by
  refine .map fun parts hp edit he => ?_
  obtain ⟨part, hm, rfl⟩ := List.mem_map.1 he
  cases h : d.boundParts? with
  | none => rw [h] at hp; cases hp
  | some parts' => rw [h] at hp; cases hp; exact ⟨_, part, binding, h, hm, rfl⟩

/-- **What lowering writes**: the parts of the group of the property, or bindings. -/
theorem mem_plan {d : Declaration} {options : LoweringOptions} {edits : List Edit}
    (h : d.plan options = .ok edits) {edit : Edit} (he : edit ∈ edits) :
    d.Owns edit ∨ d.Binds edit := by
  unfold plan at h
  split at h
  · next binding _ => exact .inr (d.boundPlan_binds binding _ h _ he)
  · exact .inl (d.literalPlan_owns options _ h _ he)

/-- An edit of a declaration writes a literal value, or it binds a part, or it keeps CSS. -/
theorem cases_of_mem_edits {d : Declaration} {options : LoweringOptions} {edit : Edit}
    (he : edit ∈ d.edits options) :
    (∃ edits, d.literalPlan options = .ok edits ∧ edit ∈ edits) ∨ d.Binds edit ∨
      ∃ text, edit = .css d.cssProperty text := by
  unfold edits at he
  split at he
  · next edits h =>
    unfold plan at h
    split at h
    · next binding _ => exact .inr (.inl (d.boundPlan_binds binding edits h edit he))
    · exact .inl ⟨edits, h, he⟩
  · obtain ⟨text, -, rfl⟩ := by simpa using he
    exact .inr (.inr ⟨text, rfl⟩)

/-- **What styling writes**: the parts of the group of the property, bindings, or the entry of the
    CSS property. -/
theorem mem_edits {d : Declaration} {options : LoweringOptions} {edit : Edit}
    (he : edit ∈ d.edits options) :
    d.Owns edit ∨ d.Binds edit ∨ ∃ text, edit = .css d.cssProperty text := by
  refine (cases_of_mem_edits he).imp_left fun ⟨edits, h, he⟩ => ?_
  exact d.literalPlan_owns options edits h edit he

end Declaration

end UtilityStyle
