/-
  Slots: the values of a layer for single edges, corners and axes.

  A `Slot` bears the name under which a binding drives it, and no other one does
  (`Slot.name_injective`).  `Layer.slot` is its literal value, and `Layer.unslotted` the layer
  without these values.  Both together are the layer (`Layer.ext_slot`), except that corners without
  radii have the radius zero in their slots.
-/
import UtilityStyle.Lowering.Bound

namespace UtilityStyle

/-! ## Positions -/

inductive Axis where
  | x
  | y
deriving DecidableEq, Repr

inductive Edge where
  | top
  | right
  | bottom
  | left
deriving DecidableEq, Repr

inductive Corner where
  | topLeft
  | topRight
  | bottomRight
  | bottomLeft
deriving DecidableEq, Repr

section
variable {α : Type}

/-- The value for an axis. -/
def Axes.at (s : Axes α) : Axis → α
  | .x => s.x
  | .y => s.y

/-- The value for an edge. -/
def Edges.at (s : Edges α) : Edge → α
  | .top => s.top
  | .right => s.right
  | .bottom => s.bottom
  | .left => s.left

/-- The value for a corner. -/
def Corners.at (s : Corners α) : Corner → α
  | .topLeft => s.topLeft
  | .topRight => s.topRight
  | .bottomRight => s.bottomRight
  | .bottomLeft => s.bottomLeft

section
variable {β : Type} (f : α → β) (a : α)

theorem Axes.map_at_set (s : Axes (Option α)) (on : Axes Bool) (axis : Axis) :
    ((s.set on (some a)).at axis).map f =
      if on.at axis then some (f a) else (s.at axis).map f := by
  cases axis <;> exact apply_ite ..

theorem Edges.map_at_set (s : Edges (Option α)) (on : Edges Bool) (edge : Edge) :
    ((s.set on (some a)).at edge).map f =
      if on.at edge then some (f a) else (s.at edge).map f := by
  cases edge <;> exact apply_ite ..

theorem Corners.map_at_set (s : Corners α) (on : Corners Bool) (corner : Corner) :
    some (f ((s.set on a).at corner)) =
      if on.at corner then some (f a) else some (f (s.at corner)) := by
  cases corner <;> exact apply_ite (some ∘ f) ..

end

theorem Axes.ext_at {s t : Axes α} (h : ∀ axis, s.at axis = t.at axis) : s = t := by
  obtain ⟨x, y⟩ := s
  obtain rfl : x = t.x := h .x
  obtain rfl : y = t.y := h .y
  rfl

theorem Edges.ext_at {s t : Edges α} (h : ∀ edge, s.at edge = t.at edge) : s = t := by
  obtain ⟨top, right, bottom, left⟩ := s
  obtain rfl : top = t.top := h .top
  obtain rfl : right = t.right := h .right
  obtain rfl : bottom = t.bottom := h .bottom
  obtain rfl : left = t.left := h .left
  rfl

theorem Corners.ext_at {s t : Corners α} (h : ∀ corner, s.at corner = t.at corner) : s = t := by
  obtain ⟨topLeft, topRight, bottomRight, bottomLeft⟩ := s
  obtain rfl : topLeft = t.topLeft := h .topLeft
  obtain rfl : topRight = t.topRight := h .topRight
  obtain rfl : bottomRight = t.bottomRight := h .bottomRight
  obtain rfl : bottomLeft = t.bottomLeft := h .bottomLeft
  rfl

end

/-! ## Positions that flags select -/

/-- The axes that flags select. -/
def Axes.selected (on : Axes Bool) : List Axis := [Axis.x, .y].filter on.at

/-- The edges that flags select, clockwise from the top. -/
def Edges.selected (on : Edges Bool) : List Edge := [Edge.top, .right, .bottom, .left].filter on.at

/-- The corners that flags select, clockwise from the top left. -/
def Corners.selected (on : Corners Bool) : List Corner :=
  [Corner.topLeft, .topRight, .bottomRight, .bottomLeft].filter on.at

@[simp] theorem Axes.mem_selected {on : Axes Bool} {axis : Axis} :
    axis ∈ on.selected ↔ on.at axis = true := by
  cases axis <;> simp [selected]

@[simp] theorem Edges.mem_selected {on : Edges Bool} {edge : Edge} :
    edge ∈ on.selected ↔ on.at edge = true := by
  cases edge <;> simp [selected]

@[simp] theorem Corners.mem_selected {on : Corners Bool} {corner : Corner} :
    corner ∈ on.selected ↔ on.at corner = true := by
  cases corner <;> simp [selected]

/-- A value of a layer for one edge, corner or axis. -/
inductive Slot where
  | padding (edge : Edge)
  | margin (edge : Edge)
  | inset (edge : Edge)
  | strokeWeight (edge : Edge)
  | cornerRadius (corner : Corner)
  | gap (axis : Axis)
  | scale (axis : Axis)
  | displacement (axis : Axis)
deriving DecidableEq, Repr

namespace Slot

/-- The name under which a binding drives a slot. -/
def name : Slot → String
  | padding edge => "padding-" ++ Edges.names.at edge ++ ""
  | margin edge => "margin-" ++ Edges.names.at edge ++ ""
  | inset edge => "" ++ Edges.names.at edge ++ ""
  | strokeWeight edge => "stroke-" ++ Edges.names.at edge ++ "-weight"
  | cornerRadius corner => Corners.names.at corner ++ "-radius"
  | gap axis => (Axes.mk "column-gap" "row-gap").at axis
  | scale axis => (Axes.mk "scale-x" "scale-y").at axis
  | displacement axis => (Axes.mk "translate-x" "translate-y").at axis

/-- Every slot. -/
def all : List Slot :=
  ([Slot.padding, margin, inset, strokeWeight].flatMap (Edges.all true).selected.map) ++
    (Corners.all true).selected.map cornerRadius ++
    [gap, scale, displacement].flatMap (Axes.both true).selected.map

theorem mem_all (slot : Slot) : slot ∈ all := by
  cases slot
  case cornerRadius corner => cases corner <;> decide
  case gap axis | scale axis | displacement axis => cases axis <;> decide
  all_goals next edge => cases edge <;> decide

/-- **The name tells the slot.** -/
theorem name_injective : Function.Injective name := by
  have hall : ∀ s ∈ all, ∀ t ∈ all, s.name = t.name → s = t := by decide +kernel
  exact fun s t h => hall s s.mem_all t t.mem_all h

end Slot

/-! ## Slots of a layer -/

/-- What a slot holds. -/
inductive SlotValue where
  /-- Pixels, or a factor. -/
  | number (x : Float32)
  | dimension (distance : Dimension)
deriving DecidableEq

namespace Layer

/-- The literal value of a slot.  Radii that are not set count as zero. -/
def slot (layer : Layer) : Slot → Option SlotValue
  | .padding edge => (layer.padding.at edge).map .number
  | .margin edge => (layer.margin.at edge).map .dimension
  | .inset edge => (layer.inset.at edge).map .dimension
  | .strokeWeight edge => (layer.strokeWeight.at edge).map .number
  | .cornerRadius corner => some (.number ((layer.cornerRadii.getD (.all 0)).at corner))
  | .gap axis => (layer.gap.at axis).map .number
  | .scale axis => (layer.scale.at axis).map .number
  | .displacement axis => (layer.displacement.at axis).map .dimension

/-- The layer without the literal values of its slots. -/
def unslotted (layer : Layer) : Layer :=
  { layer with
    padding := .all none, margin := .all none, inset := .all none, strokeWeight := .all none
    cornerRadii := none, gap := .both none, scale := .both none, displacement := .both none }

variable {layer layer' : Layer}

/-- **A layer is its slots and the rest**, and whether it has corner radii. -/
theorem ext_slot (hslot : ∀ slot, layer.slot slot = layer'.slot slot)
    (hrest : layer.unslotted = layer'.unslotted)
    (hradii : layer.cornerRadii.isSome = layer'.cornerRadii.isSome) : layer = layer' := by
  have hnumber : Function.Injective (Option.map SlotValue.number) :=
    Option.map_injective fun _ _ => SlotValue.number.inj
  have hdimension : Function.Injective (Option.map SlotValue.dimension) :=
    Option.map_injective fun _ _ => SlotValue.dimension.inj
  have hpadding : layer.padding = layer'.padding :=
    Edges.ext_at fun edge => hnumber (hslot (.padding edge))
  have hmargin : layer.margin = layer'.margin :=
    Edges.ext_at fun edge => hdimension (hslot (.margin edge))
  have hinset : layer.inset = layer'.inset :=
    Edges.ext_at fun edge => hdimension (hslot (.inset edge))
  have hweight : layer.strokeWeight = layer'.strokeWeight :=
    Edges.ext_at fun edge => hnumber (hslot (.strokeWeight edge))
  have hcorners : layer.cornerRadii.getD (.all 0) = layer'.cornerRadii.getD (.all 0) :=
    Corners.ext_at fun corner =>
      SlotValue.number.inj (Option.some.inj (hslot (.cornerRadius corner)))
  have hgap : layer.gap = layer'.gap := Axes.ext_at fun axis => hnumber (hslot (.gap axis))
  have hscale : layer.scale = layer'.scale := Axes.ext_at fun axis => hnumber (hslot (.scale axis))
  have hdisplacement : layer.displacement = layer'.displacement :=
    Axes.ext_at fun axis => hdimension (hslot (.displacement axis))
  have hradii' : layer.cornerRadii = layer'.cornerRadii := by
    cases hl : layer.cornerRadii <;> cases hl' : layer'.cornerRadii <;> simp_all
  calc
    layer = { layer.unslotted with
      padding := layer.padding, margin := layer.margin, inset := layer.inset
      strokeWeight := layer.strokeWeight, cornerRadii := layer.cornerRadii, gap := layer.gap
      scale := layer.scale, displacement := layer.displacement } := rfl
    _ = { layer'.unslotted with
      padding := layer'.padding, margin := layer'.margin, inset := layer'.inset
      strokeWeight := layer'.strokeWeight, cornerRadii := layer'.cornerRadii, gap := layer'.gap
      scale := layer'.scale, displacement := layer'.displacement } := by
        rw [hrest, hpadding, hmargin, hinset, hweight, hradii', hgap, hscale, hdisplacement]
    _ = layer' := rfl

end Layer

end UtilityStyle
