/-
  Reachable layers: what declarations make of a layer with nothing set.

  * `Reachable.invariant`: what holds of the empty layer, and is preserved by every edit of a
    declaration, holds of every reachable layer;
  * `ofDeclarations_invariant`: for the style of some declarations only their edits count.
-/
import UtilityStyle.Proofs.Lowering.Plan

namespace UtilityStyle.Layer

/-- The layers that declarations in any number and order lead to. -/
inductive Reachable : Layer → Prop where
  | empty : Reachable .empty
  | style {layer : Layer} (options : LoweringOptions) (d : Declaration) :
    Reachable layer → Reachable (layer.style options d)

/-- The style of some declarations is reachable. -/
theorem reachable_ofDeclarations (options : LoweringOptions) (ds : List Declaration) :
    (ofDeclarations options ds).Reachable := by
  have h : ∀ layer : Layer, layer.Reachable → (ds.foldl (style options) layer).Reachable := by
    induction ds with
    | nil => exact fun _ hl => hl
    | cons d ds ih => exact fun layer hl => ih _ (.style options d hl)
  exact h .empty .empty

/-- Every property that edits preserve holds of the reachable layers. -/
theorem Reachable.invariant {P : Layer → Prop} (initially : P .empty)
    (preserved : ∀ (d : Declaration) (options : LoweringOptions), ∀ edit ∈ d.edits options,
      ∀ layer, P layer → P (edit.apply layer))
    {layer : Layer} (h : layer.Reachable) : P layer := by
  induction h with
  | empty => exact initially
  | style options d _ ih =>
    rw [style_eq_editAll]
    exact editAll_induction (preserved d options) _ ih

/-- Every property that the edits of some declarations preserve holds of their style. -/
theorem ofDeclarations_invariant {P : Layer → Prop} {options : LoweringOptions}
    {ds : List Declaration} (initially : P .empty)
    (preserved : ∀ d ∈ ds, ∀ edit ∈ d.edits options, ∀ layer, P layer → P (edit.apply layer)) :
    P (ofDeclarations options ds) := by
  refine List.foldlRecOn (motive := P) ds (style options) initially fun layer hl d hd => ?_
  rw [style_eq_editAll]
  exact editAll_induction (preserved d hd) layer hl

end UtilityStyle.Layer
