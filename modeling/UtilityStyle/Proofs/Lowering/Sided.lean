/-
  Declarations for a side: literal values and bindings drive the same slots.

  * `Declaration.slots`: the slots that a declaration of a sided property covers;
  * `boundParts?_of_sided`: the names under which it binds are those of its slots;
  * `slot_apply` and `unslotted_apply`: an edit with slots writes one value into them and leaves all
    else; `plan_of_sided`: a literal value is lowered by such an edit of the slots of its side;
  * `Layer.style_sided`: so both forms drive the same slots.  An axis has no corners, and there the
    literal form is refused while the other one is lowered and binds nothing.
-/
import UtilityStyle.Proofs.Layer.Slot
import UtilityStyle.Proofs.Lowering.Cover
import UtilityStyle.Proofs.Lowering.Override

namespace UtilityStyle

/-! ## Names of slots -/

namespace Side

variable (side : Side)

theorem edgeParts_eq (front back : String) :
    side.edgeParts front back =
      side.edges.selected.map fun edge => front ++ Edges.names.at edge ++ back := by
  cases side <;> rfl

theorem cornerParts_eq (back : String) :
    side.cornerParts back =
      side.corners.selected.map fun corner => Corners.names.at corner ++ back := by
  cases side <;> rfl

theorem axisParts_eq (x y : String) :
    side.axisParts x y = side.axes.selected.map (Axes.mk x y).at := by
  cases side <;> rfl

end Side

/-- The properties whose declarations apply to edges, corners or axes. -/
def Property.sided : List Property :=
  [padding, margin, inset, borderWidth, borderRadius, gap, spaceBetween, scale, translate]

namespace Declaration

variable {d : Declaration} {options : LoweringOptions}

/-- The slots that a declaration of a sided property covers. -/
def slots (d : Declaration) : List Slot :=
  let side := d.sideOrAll
  match d.property with
  | .padding => side.edges.selected.map .padding
  | .margin => side.edges.selected.map .margin
  | .inset => side.edges.selected.map .inset
  | .borderWidth => side.edges.selected.map .strokeWeight
  | .borderRadius => side.corners.selected.map .cornerRadius
  | .gap | .spaceBetween => side.axes.selected.map .gap
  | .scale => side.axes.selected.map .scale
  | .translate => side.axes.selected.map .displacement
  | _ => []

/-- **A binding drives the slots of its side.** -/
theorem boundParts?_of_sided (h : d.property ∈ Property.sided) :
    d.boundParts? = some (d.slots.map (·.name)) := by
  obtain ⟨property, value, origin, side, opacity, negative, important, raw⟩ := d
  replace h : property ∈ Property.sided := h
  cases property
  case padding | margin | inset | borderWidth =>
    show some (Side.edgeParts _ _ _) = some (List.map _ (List.map _ _))
    rw [Side.edgeParts_eq, List.map_map]
    rfl
  case borderRadius =>
    show some (Side.cornerParts _ _) = some (List.map _ (List.map _ _))
    rw [Side.cornerParts_eq, List.map_map]
    rfl
  case gap | spaceBetween | scale | translate =>
    show some (Side.axisParts _ _ _) = some (List.map _ (List.map _ _))
    rw [Side.axisParts_eq, List.map_map]
    rfl
  all_goals exact absurd h (by decide)

/-- Only the corners of an axis are none. -/
theorem slots_eq_nil_iff (h : d.property ∈ Property.sided) :
    d.slots = [] ↔ d.property = .borderRadius ∧ (d.sideOrAll = .x ∨ d.sideOrAll = .y) := by
  have hall : ∀ property ∈ Property.sided, ∀ side ∈ Side.every,
      let d : Declaration := { property, value := .keyword "", side := some side, raw := "" }
      d.slots = [] ↔ property = .borderRadius ∧ (side = .x ∨ side = .y) := by
    decide +kernel
  exact hall d.property h d.sideOrAll (by cases d.sideOrAll <;> decide)

end Declaration

/-! ## Writing slots -/

namespace Edit

/-- The slots that an edit writes, with the value. -/
def slots? : Edit → Option (List Slot × SlotValue)
  | padding on px => some (on.selected.map .padding, .number px)
  | margin on distance => some (on.selected.map .margin, .dimension distance)
  | inset on distance => some (on.selected.map .inset, .dimension distance)
  | strokeWeight on px => some (on.selected.map .strokeWeight, .number px)
  | cornerRadius on px => some (on.selected.map .cornerRadius, .number px)
  | gap on px => some (on.selected.map .gap, .number px)
  | scale on factor => some (on.selected.map .scale, .number factor)
  | displacement on offset => some (on.selected.map .displacement, .dimension offset)
  | _ => none

variable {edit : Edit} {slots : List Slot} {value : SlotValue}

/-- **An edit writes its slots** and no other ones. -/
theorem slot_apply (h : edit.slots? = some (slots, value)) (layer : Layer) (slot : Slot) :
    (edit.apply layer).slot slot = if slot ∈ slots then some value else layer.slot slot := by
  cases edit <;> cases h
  all_goals cases slot
  -- Where the edit and the slot are of one kind, its flags decide.
  case padding.refl.padding | margin.refl.margin | inset.refl.inset |
      strokeWeight.refl.strokeWeight =>
    simp only [List.mem_map, Slot.padding.injEq, Slot.margin.injEq, Slot.inset.injEq,
      Slot.strokeWeight.injEq, exists_eq_right, Edges.mem_selected]
    exact Edges.map_at_set ..
  case cornerRadius.refl.cornerRadius =>
    simp only [List.mem_map, Slot.cornerRadius.injEq, exists_eq_right, Corners.mem_selected]
    exact Corners.map_at_set ..
  case gap.refl.gap | scale.refl.scale | displacement.refl.displacement =>
    simp only [List.mem_map, Slot.gap.injEq, Slot.scale.injEq, Slot.displacement.injEq,
      exists_eq_right, Axes.mem_selected]
    exact Axes.map_at_set ..
  all_goals
    rw [if_neg (by simp)]
    rfl

/-- An edit of slots writes nothing else. -/
theorem unslotted_apply (h : edit.slots? = some (slots, value)) (layer : Layer) :
    (edit.apply layer).unslotted = layer.unslotted := by
  cases edit <;> cases h <;> rfl

end Edit

/-! ## Plans of literal values -/

/-- A computation that follows a measure succeeds if both do. -/
theorem exists_of_bind_eq_ok {α β : Type} {x : Except LoweringError α}
    {f : α → Except LoweringError β} {b : β} (h : x >>= f = .ok b) :
    ∃ a, x = .ok a ∧ f a = .ok b := by
  cases x with
  | error => cases h
  | ok a => exact ⟨a, rfl, h⟩

namespace Declaration

variable {d : Declaration} {options : LoweringOptions}

/-- **A literal value is one edit** of the slots of its side. -/
theorem plan_of_sided (h : d.property ∈ Property.sided) {edits : List Edit}
    (hplan : d.literalPlan options = .ok edits) :
    ∃ edit value, edits = [edit] ∧ edit.slots? = some (d.slots, value) := by
  obtain ⟨property, value, origin, side, opacity, negative, important, raw⟩ := d
  replace h : property ∈ Property.sided := h
  cases property
  case borderRadius =>
    obtain ⟨px, -, hone⟩ := exists_of_bind_eq_ok hplan
    split at hone
    · cases hone
    · cases hone
      exact ⟨_, _, rfl, rfl⟩
  case padding | margin | inset | borderWidth | gap | spaceBetween | scale | translate =>
    obtain ⟨_, -, hone⟩ := exists_of_bind_eq_ok hplan
    cases hone
    exact ⟨_, _, rfl, rfl⟩
  all_goals exact absurd h (by decide)

/-- A literal value without slots is refused, even if it is a radius. -/
theorem plan_of_no_slots (h : d.property ∈ Property.sided) (hslots : d.slots = []) :
    d.literalPlan options = d.cornerRadius options >>= fun _ => d.unsupported := by
  obtain ⟨hproperty, hside⟩ := (slots_eq_nil_iff h).1 hslots
  have hcorners : d.sideOrAll.corners = .all false := by
    rcases hside with hside | hside <;> rw [hside] <;> rfl
  simp only [literalPlan, boxPlan, hproperty, hcorners, if_true]

end Declaration

/-! ## Both forms -/

/-- **Literal values and bindings of a side drive the same slots.**  Let two declarations be of one
    sided property and one side, and let the first one be literal and the second one bind.  The
    second one binds the slots of some names on every layer, and leaves all else.  If the first one
    is lowered, it writes one value into the slots of these names on every layer, and leaves all
    else.  There are no such names exactly for the corners of an axis.  A radius is unsupported
    there, while a binding is lowered. -/
theorem Layer.style_sided (options : LoweringOptions) {d e : Declaration} {binding : Binding}
    (hsided : d.property ∈ Property.sided) (hproperty : e.property = d.property)
    (hside : e.sideOrAll = d.sideOrAll) (hliteral : d.binding? = none)
    (hbound : e.binding? = some binding) :
    ∃ names : List String, e.boundParts? = some names ∧
      (∀ name ∈ names, ∃ slot : Slot, slot.name = name) ∧
      (∀ layer : Layer,
        (e.lower options).run layer = .ok () (layer.style options e) ∧
          (layer.style options e).literals = layer.literals ∧
          (layer.style options e).css = layer.css ∧
          ∀ name, (layer.style options e).bindings.get? name =
            if name ∈ names then some binding else layer.bindings.get? name) ∧
      (∀ fresh, d.layer? options = .ok fresh →
        names ≠ [] ∧ ∃ value, ∀ layer : Layer,
          (d.lower options).run layer = .ok () (layer.style options d) ∧
            (layer.style options d).unslotted = layer.unslotted ∧
            ∀ slot, (layer.style options d).slot slot =
              if slot.name ∈ names then some value else layer.slot slot) ∧
      (names = [] ↔ d.property = .borderRadius ∧ (d.sideOrAll = .x ∨ d.sideOrAll = .y)) ∧
      (names = [] → ∀ px, d.cornerRadius options = .ok px →
        d.layer? options = .error (.unsupported d.property d.raw)) := by
  have hslots : e.slots = d.slots := by
    unfold Declaration.slots
    rw [hproperty, hside]
  have hparts : e.boundParts? = some (d.slots.map (·.name)) :=
    hslots ▸ Declaration.boundParts?_of_sided (hproperty ▸ hsided)
  have hplan : d.plan options = d.literalPlan options := Declaration.plan_of_unbound hliteral
  refine ⟨d.slots.map (·.name), hparts, fun name hname => ?_, fun layer => ?_,
    fun fresh hfresh => ?_, ?_, fun hnone px hpx => ?_⟩
  · obtain ⟨slot, -, hslot⟩ := List.mem_map.1 hname
    exact ⟨slot, hslot⟩
  · have hbinds : e.plan options = .ok ((d.slots.map (·.name)).map (.bind · binding)) :=
      Declaration.plan_of_boundParts hbound hparts
    refine ⟨?_, literals_style_of_binding options layer hbound, ?_, fun name => ?_⟩
    · rw [style_of_plan_ok hbinds]
      exact Declaration.lower_run_of_plan_ok hbinds layer
    · rw [style_of_plan_ok hbinds]
      exact Declaration.css_editAll_of_plan hbinds layer
    · rw [style_of_plan_ok hbinds]
      exact get?_bindings_bind layer _ binding name
  · obtain ⟨edits, hedits⟩ := Declaration.exists_plan_of_layer? hfresh
    refine ⟨fun hnone => ?_, ?_⟩
    · -- Without slots there is no plan.
      rw [hplan, Declaration.plan_of_no_slots hsided (List.map_eq_nil_iff.1 hnone)] at hedits
      obtain ⟨_, -, herror⟩ := exists_of_bind_eq_ok hedits
      cases herror
    · obtain ⟨edit, value, rfl, hedit⟩ := Declaration.plan_of_sided hsided (hplan ▸ hedits)
      refine ⟨value, fun layer => ?_⟩
      rw [style_of_plan_ok hedits]
      refine ⟨Declaration.lower_run_of_plan_ok hedits layer, Edit.unslotted_apply hedit layer,
        fun slot => ?_⟩
      exact (Edit.slot_apply hedit layer slot).trans
        (if_congr (List.mem_map_of_injective Slot.name_injective).symm rfl rfl)
  · rw [List.map_eq_nil_iff]
    exact Declaration.slots_eq_nil_iff hsided
  · rw [Declaration.layer?_eq_map, hplan,
      Declaration.plan_of_no_slots hsided (List.map_eq_nil_iff.1 hnone), hpx]
    rfl

/-- The radius of the two corners at the top, and a custom property for it. -/
theorem Layer.style_sided_top :
    let literal : Declaration :=
      { property := .borderRadius, value := .keyword "lg", side := some .top, raw := "rounded-t-lg" }
    let bound : Declaration :=
      { property := .borderRadius, value := .variable "--r", side := some .top
        raw := "rounded-t-(--r)" }
    literal.property ∈ Property.sided ∧ literal.binding? = none ∧
      bound.binding? = some (.variable "--r") ∧
        ∃ names value, bound.boundParts? = some names ∧
          ∀ (layer : Layer) (slot : Slot), (layer.style {} literal).slot slot =
            if slot.name ∈ names then some value else layer.slot slot := by
  intro literal bound
  have hsided : literal.property ∈ Property.sided := by decide
  have hproperty : bound.property = literal.property := rfl
  have hbound : bound.binding? = some (.variable "--r") := rfl
  obtain ⟨names, hnames, -, -, hwrite, -⟩ := style_sided {} hsided hproperty rfl rfl hbound
  obtain ⟨fresh, hfresh⟩ : ∃ fresh, literal.layer? {} = .ok fresh := ⟨_, rfl⟩
  obtain ⟨-, value, hvalue⟩ := hwrite fresh hfresh
  exact ⟨hsided, rfl, hbound, names, value, hnames, fun layer => (hvalue layer).2.2⟩

/-- A custom property for the corners of an axis is lowered and binds nothing, while a radius is
    unsupported. -/
theorem Layer.style_binds_nothing :
    let bound : Declaration :=
      { property := .borderRadius, value := .variable "--r", side := some .x, raw := "raw" }
    let literal : Declaration := { bound with value := .keyword "lg" }
    bound.layer? { keepCss := false } = .ok .empty ∧
      literal.layer? { keepCss := false } = .error (.unsupported .borderRadius "raw") := by
  decide +kernel

end UtilityStyle
