/-
  Sizes and sizing modes of reachable layers.

  * `Sized`: the pairs of a sizing mode and a size that belong together on an axis;
  * `sizeAndMode_sized`: a declaration for a size asks for such a pair;
  * `Reachable.isSized`: so every layer that declarations lead to has such a pair on each axis.
-/
import UtilityStyle.Proofs.Lowering.Footprint
import UtilityStyle.Proofs.Lowering.Reachable

namespace UtilityStyle

/-- A sizing mode and the size that belongs to it: nothing is set, the content decides, a share of
    the parent is filled, or the size is fixed. -/
inductive Sized : Option SizingMode → Option Dimension → Prop
  | unset : Sized none none
  | hug : Sized (some .hug) none
  | fill {share} : Sized (some .fill) (some (.percent share))
  | fixed {px} : Sized (some .fixed) (some (.pixels px))

/-! ## What declarations ask for -/

namespace Declaration
variable {d : Declaration} {options : LoweringOptions}

/-- Only the word for an automatic dimension gives one. -/
theorem dimensionMagnitude_ne_auto (h : d.value.keyword? ≠ some "auto") :
    d.dimensionMagnitude options ≠ .ok .auto := by
  intro ha
  unfold dimensionMagnitude at ha
  split at ha
  · next hv => exact h (by rw [hv]; rfl)
  · cases ha
  · cases ha
  · split at ha
    · cases ha
    · cases ha
  · cases hs : d.spacingMagnitude options with
    | error => rw [hs] at ha; cases ha
    | ok px => rw [hs] at ha; cases ha

theorem dimension_ne_auto (h : d.value.keyword? ≠ some "auto") :
    d.dimension options ≠ .ok .auto := by
  intro ha
  unfold dimension at ha
  cases hm : d.dimensionMagnitude options with
  | error => rw [hm] at ha; cases ha
  | ok size =>
    have hne : size ≠ .auto := fun hs => dimensionMagnitude_ne_auto h (hs ▸ hm)
    rw [hm] at ha
    cases size with
    | auto => exact hne rfl
    | pixels | percent => cases hn : d.negative <;> simp [Except.map, hn, Dimension.negated] at ha

/-- A measured dimension other than the automatic one is read as a share or as pixels. -/
theorem sized_of_measured {read : Dimension → Option Dimension × SizingMode}
    {size : Option Dimension} {mode : SizingMode} (hk : d.value.keyword? ≠ some "auto")
    (h : (d.dimension options).map read = .ok (size, mode))
    (hpercent : ∀ share, Sized (some (read (.percent share)).2) (read (.percent share)).1)
    (hpixels : ∀ px, Sized (some (read (.pixels px)).2) (read (.pixels px)).1) :
    Sized (some mode) size := by
  cases hm : d.dimension options with
  | error => rw [hm] at h; cases h
  | ok dimension =>
    rw [hm] at h
    obtain ⟨rfl, rfl⟩ : (read dimension).1 = size ∧ (read dimension).2 = mode :=
      Prod.ext_iff.1 (Except.ok.inj h)
    cases dimension with
    | auto => exact absurd hm (dimension_ne_auto hk)
    | percent share => exact hpercent share
    | pixels px => exact hpixels px

/-- The size and the mode that a declaration asks for belong together. -/
theorem sizeAndMode_sized {size : Option Dimension} {mode : SizingMode}
    (h : d.sizeAndMode options = .ok (size, mode)) : Sized (some mode) size := by
  unfold sizeAndMode at h
  split at h
  · next hk => exact sized_of_measured (by simp [hk]) h (fun _ => .fill) (fun _ => .fixed)
  · next hk => exact sized_of_measured (by simp [hk]) h (fun _ => .fill) (fun _ => .fixed)
  · cases h; exact .fill
  · split at h
    · cases h; exact .fill
    · cases h
  · cases h; exact .hug
  · cases h; exact .hug
  · cases h; exact .hug
  · cases h; exact .hug
  · cases h

end Declaration

/-! ## Edits -/

namespace Edit

/-- The edit sets a size only together with the mode that belongs to it. -/
def IsSized : Edit → Prop
  | size _ length mode => Sized (some mode) length
  | _ => True

theorem isSized_of_group? {edit : Edit} {g : Property} (h : edit.group? = some g)
    (hg : g ≠ .width) : edit.IsSized := by
  cases edit
  case size => cases h; exact absurd rfl hg
  all_goals trivial

end Edit

namespace Declaration
variable {d : Declaration} {options : LoweringOptions}

theorem sizePlan_isSized (axes : Axes Bool) : Plans Edit.IsSized (d.sizePlan options axes) :=
  .map fun (_, _) h => List.forall_mem_singleton.2 (sizeAndMode_sized h)

theorem literalPlan_isSized (d : Declaration) (options : LoweringOptions) :
    Plans Edit.IsSized (d.literalPlan options) := by
  by_cases hg : d.property.group = .width
  · obtain ⟨property, value, origin, side, opacity, negative, important, raw⟩ := d
    replace hg : property.group = .width := hg
    cases property
    case width | height | size => exact sizePlan_isSized _
    all_goals cases hg
  · intro edits h edit he
    exact Edit.isSized_of_group? (d.literalPlan_owns options edits h edit he) hg

/-- Every edit of a declaration sets a size only together with its mode. -/
theorem isSized_of_mem_edits {edit : Edit} (he : edit ∈ d.edits options) : edit.IsSized := by
  rcases cases_of_mem_edits he with ⟨edits, h, he⟩ | ⟨_, _, _, -, -, rfl⟩ | ⟨_, rfl⟩
  · exact d.literalPlan_isSized options edits h edit he
  · trivial
  · trivial

end Declaration

/-! ## Layers -/

/-- On each axis the sizing mode and the size belong together. -/
structure Layer.IsSized (layer : Layer) : Prop where
  x : Sized layer.sizing.x layer.size.x
  y : Sized layer.sizing.y layer.size.y

theorem Layer.isSized_empty : empty.IsSized where
  x := .unset
  y := .unset

/-- Mode and size still belong together after both are set on some axes. -/
theorem Layer.IsSized.apply_size {layer : Layer} (h : layer.IsSized) (axes : Axes Bool)
    {length : Option Dimension} {mode : SizingMode} (hs : Sized (some mode) length) :
    ((Edit.size axes length mode).apply layer).IsSized where
  x := by
    show Sized (if axes.x then some mode else layer.sizing.x) (if axes.x then length else _)
    split
    · exact hs
    · exact h.x
  y := by
    show Sized (if axes.y then some mode else layer.sizing.y) (if axes.y then length else _)
    split
    · exact hs
    · exact h.y

theorem Edit.IsSized.isSized_apply {edit : Edit} (hs : edit.IsSized) {layer : Layer}
    (h : layer.IsSized) : (edit.apply layer).IsSized := by
  by_cases hc : Cell.size = edit.cell
  · cases edit <;> cases hc
    exact h.apply_size _ hs
  · have he : ((edit.apply layer).size, (edit.apply layer).sizing) = (layer.size, layer.sizing) :=
      cell_apply_of_ne hc layer
    obtain ⟨hsize, hsizing⟩ := Prod.mk.inj he
    exact ⟨by rw [hsize, hsizing]; exact h.x, by rw [hsize, hsizing]; exact h.y⟩

/-- **Size and sizing mode never drift apart**, whatever declarations style a layer and in whatever
    order: on each axis nothing is set, the content decides, a percentage fills the parent, or
    pixels fix the size. -/
theorem Layer.Reachable.isSized {layer : Layer} (h : layer.Reachable) : layer.IsSized :=
  h.invariant isSized_empty fun _ _ _ he _ hl =>
    (Declaration.isSized_of_mem_edits he).isSized_apply hl

/-- A size for both axes, of which the width is then left to the content. -/
theorem Layer.isSized_size_fit :
    (ofDeclarations {} [
      { property := .size, value := .number 4, raw := "size-4" },
      { property := .width, value := .keyword "fit-content", raw := "w-fit" }]).IsSized :=
  Layer.Reachable.isSized (reachable_ofDeclarations _ _)

end UtilityStyle
