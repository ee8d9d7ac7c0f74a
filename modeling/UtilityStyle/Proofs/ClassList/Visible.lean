/-
  Whether a node shows.

  * `Declaration.shown?`: what a declaration says about it.  Among the keywords of the display
    property only `none` says anything;
  * `Layer.visible_style` and `Layer.visible_foldl`: one declaration has its say or leaves things as
    they are, so of several the last one that says anything decides;
  * `ClassList.visible_compile`: the same for the styles of a class list.  A class that asks for
    another display does not undo an earlier one that hides the node (`hidden_flex_hidden`).
-/
import UtilityStyle.Proofs.ClassList
import UtilityStyle.Proofs.Lowering.Atomic

namespace UtilityStyle

/-! ## What edits and declarations say -/

/-- What an edit says about whether the node shows. -/
def Edit.shown? : Edit → Option Bool
  | visible shown => some shown
  | _ => none

namespace Declaration

/-- What a declaration says about whether the node shows. -/
def shown? (d : Declaration) : Option Bool :=
  match d.property with
  | .visibility => d.value.keyword?.bind Declaration.shows?
  | .display => if d.value.keyword? = some "none" then some false else none
  | _ => none

end Declaration

namespace Edit

theorem visible_apply (edit : Edit) (layer : Layer) :
    (edit.apply layer).visible = edit.shown?.or layer.visible := by
  cases edit <;> rfl

theorem shown?_eq_none_of_cell {edit : Edit} (h : edit.cell ≠ .display) : edit.shown? = none := by
  cases edit
  case visible => exact absurd rfl h
  all_goals rfl

end Edit

/-- The last edit that says anything decides. -/
theorem Layer.visible_editAll (layer : Layer) (edits : List Edit) :
    (layer.editAll edits).visible =
      (edits.filterMap Edit.shown?).getLast?.or layer.visible :=
  foldl_last_write (fun layer : Layer => layer.visible)
    (fun layer edit => edit.visible_apply layer) layer edits

namespace Declaration

variable {d : Declaration} {options : LoweringOptions}

/-- Where the property says nothing, no edit does. -/
theorem filterMap_edits_eq_nil (h : ∀ edits, d.literalPlan options = .ok edits →
    ∀ edit ∈ edits, edit.shown? = none) : (d.edits options).filterMap Edit.shown? = [] := by
  rw [List.filterMap_eq_nil_iff]
  intro edit he
  rcases cases_of_mem_edits he with ⟨edits, hplan, he⟩ | ⟨_, _, _, -, -, rfl⟩ | ⟨text, rfl⟩
  · exact h edits hplan edit he
  · rfl
  · rfl

/-- A declaration that is lowered by its keyword says what the one edit for it says. -/
theorem filterMap_edits_of_keywordIn {α : Type} {table : String → Option α} {f : α → Edit}
    (hplan : d.literalPlan options = d.keywordIn table >>= fun a => .ok [f a]) :
    (d.edits options).filterMap Edit.shown? =
      ((d.value.keyword?.bind table).bind fun a => (f a).shown?).toList := by
  cases hentry : d.value.keyword?.bind table with
  | none =>
    refine filterMap_edits_eq_nil fun edits hok => ?_
    rw [hplan, keywordIn, hentry] at hok
    cases hok
  | some a =>
    have hunbound : d.binding? = none := by
      obtain ⟨keyword, hkeyword, -⟩ := Option.bind_eq_some_iff.1 hentry
      rw [binding?, opaqueBinding?]
      cases hvalue : d.value <;> rw [hvalue] at hkeyword
      case keyword => rfl
      all_goals cases hkeyword
    have hok : d.plan options = .ok [f a] := by
      rw [plan_of_unbound hunbound, hplan, keywordIn, hentry]
      rfl
    rw [edits_of_plan_ok hok]
    cases hshown : (f a).shown? <;> simp [hshown]

/-- Of the keywords of the display property only one says anything. -/
theorem shown?_displayEdit (keyword : String) :
    ((display? keyword).bind fun choice => (displayEdit choice).shown?) =
      if keyword = "none" then some false else none := by
  by_cases hnone : keyword = "none"
  · subst hnone
    rfl
  · rw [if_neg hnone]
    unfold display?
    split
    case h_5 => exact absurd rfl hnone
    all_goals rfl

theorem group_eq_display {property : Property} (h : property.group = .display) :
    property = .display ∨ property = .visibility ∨ property = .flexDirection := by
  cases property
  case display => exact .inl rfl
  case visibility => exact .inr (.inl rfl)
  case flexDirection => exact .inr (.inr rfl)
  all_goals cases h

/-- **The edits of a declaration** say what it says. -/
theorem filterMap_edits (d : Declaration) (options : LoweringOptions) :
    (d.edits options).filterMap Edit.shown? = d.shown?.toList := by
  by_cases hgroup : d.property.group = .display
  · rcases group_eq_display hgroup with hp | hp | hp
    · have hplan : d.literalPlan options =
          d.keywordIn display? >>= fun choice => .ok [displayEdit choice] := by
        rw [literalPlan, hp, layoutPlan, hp]
        rfl
      rw [filterMap_edits_of_keywordIn hplan, shown?, hp, Option.bind_assoc]
      cases hkeyword : d.value.keyword? with
      | none => rfl
      | some keyword => simp [shown?_displayEdit]
    · have hplan : d.literalPlan options =
          d.keywordIn shows? >>= fun shown => .ok [.visible shown] := by
        rw [literalPlan, hp, layoutPlan, hp]
        rfl
      rw [filterMap_edits_of_keywordIn hplan, shown?, hp]
      exact congrArg Option.toList (Option.bind_fun_some _)
    · have hplan : d.literalPlan options =
          d.keywordIn direction? >>= fun mode => .ok [.layoutMode mode] := by
        rw [literalPlan, hp, layoutPlan, hp]
        rfl
      rw [filterMap_edits_of_keywordIn hplan, shown?, hp]
      exact congrArg Option.toList (Option.bind_fun_none _)
  · have hshown : d.shown? = none := by
      unfold shown?
      split
      · next hp => exact absurd (by rw [hp]; rfl) hgroup
      · next hp => exact absurd (by rw [hp]; rfl) hgroup
      · rfl
    rw [hshown]
    refine filterMap_edits_eq_nil fun edits hplan edit he => ?_
    -- an edit that says anything is of the group of the display property
    refine Edit.shown?_eq_none_of_cell fun hcell => hgroup ?_
    have howns := d.literalPlan_owns options edits hplan edit he
    rw [Declaration.Owns, Edit.group?_of_cell_ne_ring (by simp [hcell]), hcell] at howns
    exact (Option.some.inj howns).symm

/-- The declaration is for a display other than none. -/
def ShowsDisplay (d : Declaration) : Prop := d.property = .display ∧ d.value ≠ .keyword "none"

theorem ShowsDisplay.shown?_eq_none (h : d.ShowsDisplay) : d.shown? = none := by
  obtain ⟨hproperty, hvalue⟩ := h
  have hkeyword : d.value.keyword? ≠ some "none" := by
    intro hkeyword
    cases hv : d.value <;> rw [hv] at hkeyword hvalue
    case keyword =>
      obtain rfl := Option.some.inj hkeyword
      exact hvalue rfl
    all_goals cases hkeyword
  rw [shown?, hproperty]
  exact if_neg hkeyword

end Declaration

/-! ## What styles show -/

namespace Layer

/-- **One declaration** has its say, or it leaves things as they are. -/
theorem visible_style (options : LoweringOptions) (layer : Layer) (d : Declaration) :
    (layer.style options d).visible = d.shown?.or layer.visible := by
  rw [style_eq_editAll, visible_editAll, d.filterMap_edits]
  cases d.shown? <;> rfl

/-- **Of several declarations** the last one that says anything decides. -/
theorem visible_foldl (options : LoweringOptions) (layer : Layer) (ds : List Declaration) :
    (ds.foldl (style options) layer).visible =
      (ds.filterMap (·.shown?)).getLast?.or layer.visible :=
  foldl_last_write (fun layer : Layer => layer.visible) (visible_style options) layer ds

theorem visible_ofDeclarations (options : LoweringOptions) (ds : List Declaration) :
    (ofDeclarations options ds).visible = (ds.filterMap (·.shown?)).getLast? :=
  (visible_foldl options empty ds).trans (Option.or_none ..)

end Layer

/-! ## Class lists -/

namespace ClassList

variable (catalog : Catalog) (theme : Theme) (options : LoweringOptions) (classes : String)

/-- What the last of some classes that says anything says about whether the node shows. -/
def lastShown? (entries : List ClassEntry) : Option Bool :=
  (entries.filterMap fun entry => entry.declaration.bind (·.shown?)).getLast?

theorem lastShown?_eq (entries : List ClassEntry) :
    lastShown? entries = ((entries.filterMap (·.declaration)).filterMap (·.shown?)).getLast? := by
  rw [lastShown?, List.filterMap_filterMap]

/-- **Which class decides whether a node shows.**  A declaration writes what it says about it and
    else leaves it.  Visibility classes say something, and of the display classes only those that
    hide the node: another display leaves things as they are, also behind one of these.  So the
    styles of a list follow the last class of their part that says anything. -/
theorem visible_compile :
    (∀ (layer : Layer) (ds : List Declaration), (ds.foldl (Layer.style options) layer).visible =
      (ds.filterMap (·.shown?)).getLast?.or layer.visible) ∧
    (∀ (layer : Layer) (hidden d : Declaration), hidden.shown? = some false → d.ShowsDisplay →
      (layer.style options d).visible = layer.visible ∧
        ((layer.style options hidden).style options d).visible = some false) ∧
    let list := compile catalog theme options classes
    list.style.visible = lastShown? (list.entries.filter (·.isBase)) ∧
      ∀ variant ∈ list.variants,
        variant.style.visible = lastShown? (members list.entries variant.modifiers) := by
  refine ⟨Layer.visible_foldl options, fun layer hidden d hhidden hd => ?_, ?_, ?_⟩
  · have hkeep (layer : Layer) : (layer.style options d).visible = layer.visible := by
      rw [Layer.visible_style, hd.shown?_eq_none, Option.none_or]
    refine ⟨hkeep layer, ?_⟩
    rw [hkeep, Layer.visible_style, hhidden, Option.some_or]
  · rw [compile_eq, lastShown?_eq]
    exact Layer.visible_ofDeclarations options _
  · rw [compile_eq]
    intro variant hvariant
    obtain ⟨chain, -, rfl⟩ := List.mem_map.1 hvariant
    rw [lastShown?_eq]
    exact Layer.visible_ofDeclarations options _

/-- A grid does not bring back a node that was hidden. -/
theorem visible_compile_grid :
    ∃ hidden grid, Catalog.fixedClass? "hidden" = some hidden ∧
      Catalog.fixedClass? "grid" = some grid ∧ hidden.shown? = some false ∧ grid.ShowsDisplay ∧
        ((Layer.empty.style {} hidden).style {} grid).visible = some false := by
  have hclasses : ∃ hidden, Catalog.fixedClass? "hidden" = some hidden ∧
      hidden.shown? = some false ∧ ∃ grid, Catalog.fixedClass? "grid" = some grid ∧
        grid.property = .display ∧ grid.value = .keyword "grid" := by
    decide +kernel
  obtain ⟨hidden, hhidden, hshown, grid, hgrid, hproperty, hvalue⟩ := hclasses
  have hdisplay : grid.ShowsDisplay := ⟨hproperty, by simp [hvalue]⟩
  obtain ⟨-, hlayers, -⟩ := visible_compile .builtIn .empty {} "hidden grid"
  exact ⟨hidden, grid, hhidden, hgrid, hshown, hdisplay,
    (hlayers .empty hidden grid hshown hdisplay).2⟩

/-- A flexible display is lowered, and leaves a node hidden that it shows where it stands alone. -/
theorem hidden_flex_hidden :
    (∃ flex, Catalog.fixedClass? "flex" = some flex ∧ flex.property = .display ∧
      flex.value = .keyword "flex" ∧ (flex.layer? {}).isOk = true) ∧
    (compile .builtIn .empty {} "flex").style.visible = none ∧
      (compile .builtIn .empty {} "hidden flex").style.visible = some false := by
  decide +kernel

end ClassList

end UtilityStyle
