/-
  Numbers of layers within their ranges.

  * `Cell.InRange`: a count is at least one, an opacity is within 0 and 1, and a ratio of width to
    height is one that the declarations give;
  * `Layer.inRange_ofDeclarations`: so are the numbers of every layer that declarations lead to.
-/
import UtilityStyle.Proofs.Lowering.Footprint
import UtilityStyle.Proofs.Lowering.Reachable
import UtilityStyle.Proofs.Number.Normal

namespace UtilityStyle

variable {IsRatio : Float32 → Prop}

/-! ## Cells and layers -/

/-- What a cell holds is within its range, where `IsRatio` says which ratios of width to height
    there may be. -/
def Cell.InRange (IsRatio : Float32 → Prop) : (c : Cell) → c.Value → Prop
  | gridColumns, (count : Option Nat) | gridRows, (count : Option Nat)
  | columnSpan, (count : Option Nat) | rowSpan, (count : Option Nat) => ∀ n ∈ count, 1 ≤ n
  | overflow, (_, lines) => ∀ n ∈ lines, 1 ≤ n
  | opacity, (factor : Option Float32) => ∀ x ∈ factor, ¬x < 0 ∧ ¬1 < x
  | aspectRatio, (ratio : Option Float32) => ∀ r ∈ ratio, IsRatio r
  | _, _ => True

/-- The numbers of a layer are within their ranges. -/
structure Layer.InRange (IsRatio : Float32 → Prop) (layer : Layer) : Prop where
  columns : ∀ n ∈ layer.gridTracks.x, 1 ≤ n
  rows : ∀ n ∈ layer.gridTracks.y, 1 ≤ n
  columnSpan : ∀ n ∈ layer.gridSpan.x, 1 ≤ n
  rowSpan : ∀ n ∈ layer.gridSpan.y, 1 ≤ n
  maxLines : ∀ n ∈ layer.maxLines, 1 ≤ n
  opacity : ∀ x ∈ layer.opacity, ¬x < 0 ∧ ¬1 < x
  aspectRatio : ∀ r ∈ layer.aspectRatio, IsRatio r

theorem Layer.InRange.of_cell {layer : Layer} (h : ∀ c : Cell, c.InRange IsRatio (layer.cell c)) :
    layer.InRange IsRatio where
  columns := h .gridColumns
  rows := h .gridRows
  columnSpan := h .columnSpan
  rowSpan := h .rowSpan
  maxLines := h .overflow
  opacity := h .opacity
  aspectRatio := h .aspectRatio

theorem Cell.inRange_empty (c : Cell) : c.InRange IsRatio (Layer.empty.cell c) := by
  cases c
  case gridColumns | gridRows | columnSpan | rowSpan | overflow | opacity | aspectRatio => nofun
  all_goals trivial

/-! ## Edits -/

namespace Edit

/-- The edit sets a number only to one within its range. -/
def InRange (IsRatio : Float32 → Prop) : Edit → Prop
  | gridColumns count | gridRows count | maxLines count => ∀ n ∈ count, 1 ≤ n
  | columnSpan count | rowSpan count => 1 ≤ count
  | opacity factor => ¬factor < 0 ∧ ¬1 < factor
  | aspectRatio ratio => ∀ r ∈ ratio, IsRatio r
  | _ => True

theorem InRange.mono {IsRatio' : Float32 → Prop} (hratio : ∀ r, IsRatio r → IsRatio' r)
    {edit : Edit} (he : edit.InRange IsRatio) : edit.InRange IsRatio' := by
  cases edit
  case aspectRatio => exact fun r hr => hratio r (he r hr)
  all_goals exact he

/-- What an edit makes of its cell is within the range of the cell. -/
theorem InRange.change {edit : Edit} (he : edit.InRange IsRatio) {value : edit.cell.Value}
    (h : edit.cell.InRange IsRatio value) : edit.cell.InRange IsRatio (edit.change value) := by
  cases edit
  case gridColumns | gridRows | maxLines | aspectRatio => exact he
  case columnSpan | rowSpan | opacity => rintro _ ⟨⟩; exact he
  case truncates => exact h
  all_goals trivial

/-- An edit keeps the numbers of a layer within their ranges. -/
theorem InRange.apply {edit : Edit} (he : edit.InRange IsRatio) {layer : Layer}
    (h : ∀ c : Cell, c.InRange IsRatio (layer.cell c)) (c : Cell) :
    c.InRange IsRatio ((edit.apply layer).cell c) := by
  by_cases hc : c = edit.cell
  · subst hc
    rw [Edit.apply, Layer.cell_write, Function.update_self]
    exact he.change (h _)
  · rw [cell_apply_of_ne hc]
    exact h c

end Edit

/-! ## The edits of declarations -/

namespace Declaration
variable {d : Declaration} {options : LoweringOptions}

/-- A count is at least one, as a smaller number is refused. -/
theorem one_le_of_count {n : Nat} (h : d.count = .ok n) : 1 ≤ n := by
  unfold count at h
  split at h
  · split at h
    · next hone => cases h; exact Number.one_le_wholeCount hone
    · cases h
  · cases h

theorem one_le_of_trackCount {count : Option Nat} (h : d.trackCount = .ok count) :
    ∀ n ∈ count, 1 ≤ n := by
  unfold trackCount at h
  split at h
  · cases h; nofun
  · cases hc : d.count with
    | error => rw [hc] at h; cases h
    | ok n =>
      rw [hc] at h
      cases h
      rintro _ ⟨⟩
      exact one_le_of_count hc

theorem one_le_of_lineLimit {limit : Option Nat} (h : d.lineLimit = .ok limit) :
    ∀ n ∈ limit, 1 ≤ n := by
  unfold lineLimit at h
  split at h
  · cases h; nofun
  · split at h
    · next hone =>
      cases h
      rintro _ ⟨⟩
      exact Number.one_le_wholeCount hone.1
    · cases h
  · cases h

/-- The groups whose edits set numbers within ranges. -/
def rangedGroups : List Property := [
  .aspectRatio, .gridTemplateColumns, .gridTemplateRows, .gridColumn, .gridRow, .opacity,
  .textOverflow]

theorem inRange_of_group? {edit : Edit} {g : Property} (h : edit.group? = some g)
    (hg : g ∉ rangedGroups) : edit.InRange IsRatio := by
  cases edit
  case aspectRatio | gridColumns | gridRows | columnSpan | rowSpan | opacity | maxLines =>
    cases h
    exact absurd (by decide) hg
  all_goals trivial

/-- A ratio that a declaration gives to a layer. -/
def GivesRatio (d : Declaration) (r : Float32) : Prop :=
  d.property = .aspectRatio ∧ d.ratio = .ok (some r)

theorem literalPlan_inRange (d : Declaration) (options : LoweringOptions) :
    Plans (Edit.InRange d.GivesRatio) (d.literalPlan options) := by
  by_cases hg : d.property.group ∈ rangedGroups
  · obtain ⟨property, value, origin, side, opacity, negative, important, raw⟩ := d
    replace hg : property.group ∈ rangedGroups := hg
    cases property
    case aspectRatio => exact .bind fun _ hratio => .one fun r hr => ⟨rfl, hr ▸ hratio⟩
    case gridTemplateColumns | gridTemplateRows =>
      exact .bind fun _ hcount => .one (one_le_of_trackCount hcount)
    case gridColumn | gridRow => exact .bind fun _ hcount => .one (one_le_of_count hcount)
    case opacity =>
      exact .bind fun _ _ => .one (Number.clamp_within (by decide) (by decide) (by decide))
    case textOverflow =>
      refine .bind fun choice _ => ?_
      cases choice with
      | oneLine => exact .two trivial (by rintro _ ⟨⟩; exact Nat.le_refl 1)
      | cutOff | shown => exact .one trivial
    case lineClamp => exact .bind fun _ hlimit => .two trivial (one_le_of_lineLimit hlimit)
    all_goals exact absurd hg (by decide)
  · exact fun edits h edit he => inRange_of_group? (d.literalPlan_owns options edits h edit he) hg

theorem inRange_of_mem_edits {edit : Edit} (he : edit ∈ d.edits options) :
    edit.InRange d.GivesRatio := by
  rcases cases_of_mem_edits he with ⟨edits, h, he⟩ | ⟨_, _, _, -, -, rfl⟩ | ⟨_, rfl⟩
  · exact d.literalPlan_inRange options edits h edit he
  · trivial
  · trivial

end Declaration

/-- **Numbers stay within their ranges**, whatever declarations style a layer: counts are at least
    one, an opacity is within 0 and 1, and a ratio is one that a declaration gives. -/
theorem Layer.inRange_ofDeclarations (options : LoweringOptions) (ds : List Declaration) :
    (ofDeclarations options ds).InRange fun r => ∃ d ∈ ds, d.GivesRatio r := by
  refine .of_cell (ofDeclarations_invariant (P := fun layer => ∀ c : Cell, c.InRange _ _)
    Cell.inRange_empty fun d hd edit he layer hl => ?_)
  exact ((Declaration.inRange_of_mem_edits he).mono fun r hr => ⟨d, hd, hr⟩).apply hl

end UtilityStyle
