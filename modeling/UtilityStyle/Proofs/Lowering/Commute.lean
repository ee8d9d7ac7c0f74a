/-
  Unrelated declarations commute.

  `style_comm`: declarations of properties of different groups (`Property.group`) style a layer in
  either order.  Their edits write to different cells, to different parts of the ring, or under
  different names.
-/
import UtilityStyle.Proofs.Lowering.Names

namespace UtilityStyle

namespace Edit
variable {a b : Edit}

theorem Commutes.symm (h : Commutes a b) : Commutes b a := fun layer => (h layer).symm

/-- Bindings of different parts commute. -/
theorem commutes_bind {part part' : String} (h : part ≠ part') (x y : Binding) :
    Commutes (.bind part x) (.bind part' y) := fun layer =>
  layer.write_comm_of_comp (c := .bindings) (funext fun _ => Text.Dictionary.insert_comm h x y)

/-- Entries of different CSS properties commute. -/
theorem commutes_css {property property' : String} (h : property ≠ property') (x y : String) :
    Commutes (.css property x) (.css property' y) := fun layer =>
  layer.write_comm_of_comp (c := .css) (funext fun _ => Text.Dictionary.insert_comm h x y)

end Edit

namespace Layer

/-- An edit that commutes with others may be made after them. -/
theorem editAll_apply {a : Edit} {bs : List Edit} (h : ∀ b ∈ bs, a.Commutes b) (layer : Layer) :
    (a.apply layer).editAll bs = a.apply (layer.editAll bs) := by
  induction bs generalizing layer with
  | nil => rfl
  | cons b bs ih =>
    rw [editAll_cons, editAll_cons, h b List.mem_cons_self layer,
      ih fun b hb => h b (List.mem_cons_of_mem _ hb)]

/-- Lists of edits commute when their edits do. -/
theorem editAll_comm {as bs : List Edit} (h : ∀ a ∈ as, ∀ b ∈ bs, a.Commutes b) (layer : Layer) :
    (layer.editAll as).editAll bs = (layer.editAll bs).editAll as := by
  induction as generalizing layer with
  | nil => rfl
  | cons a as ih =>
    rw [editAll_cons, editAll_cons, ih fun a ha => h a (List.mem_cons_of_mem _ ha),
      editAll_apply (h a List.mem_cons_self)]

end Layer

namespace Declaration
variable {d e : Declaration} {a b : Edit}

theorem Owns.commutes_bind (h : d.Owns a) (he : e.Binds b) : Edit.Commutes a b := by
  obtain ⟨_, _, _, -, -, rfl⟩ := he
  exact .of_cell_ne (Edit.cell_ne_of_group? h (c := .bindings) rfl nofun).symm

theorem Owns.commutes_css (h : d.Owns a) (name text : String) :
    Edit.Commutes a (.css name text) :=
  .of_cell_ne (Edit.cell_ne_of_group? h (c := .css) rfl nofun).symm

theorem Binds.commutes (h : d.property.group ≠ e.property.group) (hd : d.Binds a)
    (he : e.Binds b) : Edit.Commutes a b := by
  obtain ⟨parts, part, binding, hparts, hp, rfl⟩ := hd
  obtain ⟨parts', part', binding', hparts', hp', rfl⟩ := he
  refine Edit.commutes_bind ?_ binding binding'
  rintro rfl
  exact boundParts_disjoint h hparts hparts' hp hp'

theorem Binds.commutes_css (h : d.Binds a) (name text : String) :
    Edit.Commutes a (.css name text) := by
  obtain ⟨_, _, _, -, -, rfl⟩ := h
  exact .of_cell_ne (show Cell.bindings ≠ .css from nofun)

/-- The edits of declarations of different groups commute. -/
theorem commutes_of_mem_edits {options : LoweringOptions}
    (h : d.property.group ≠ e.property.group) (ha : a ∈ d.edits options)
    (hb : b ∈ e.edits options) : Edit.Commutes a b := by
  rcases mem_edits ha with hd | hd | ⟨text, rfl⟩
  · rcases mem_edits hb with he | he | ⟨text', rfl⟩
    · exact Edit.commutes_of_group_ne hd he h
    · exact hd.commutes_bind he
    · exact hd.commutes_css _ _
  · rcases mem_edits hb with he | he | ⟨text', rfl⟩
    · exact (he.commutes_bind hd).symm
    · exact hd.commutes h he
    · exact hd.commutes_css _ _
  · rcases mem_edits hb with he | he | ⟨text', rfl⟩
    · exact (he.commutes_css _ _).symm
    · exact (he.commutes_css _ _).symm
    · exact Edit.commutes_css (fun hc => h (congrArg _ (cssProperty_injective hc))) text text'

end Declaration

/-- **Unrelated declarations commute**, whether they are lowered to literal values, bind parts of
    the layer, are kept as CSS or are dropped. -/
theorem Layer.style_comm (options : LoweringOptions) (layer : Layer) {d e : Declaration}
    (h : d.property.group ≠ e.property.group) :
    (layer.style options d).style options e = (layer.style options e).style options d := by
  simp only [style_eq_editAll]
  exact editAll_comm (fun _ ha _ hb => Declaration.commutes_of_mem_edits h ha hb) layer

/-- The width and the color of a ring may be set in either order. -/
theorem Layer.style_comm_ring :
    let width : Declaration := { property := .ringWidth, value := .number 2, raw := "ring-2" }
    let color : Declaration :=
      { property := .ringColor, value := .color (some "white") .white, raw := "ring-white" }
    (empty.style {} width).style {} color = (empty.style {} color).style {} width :=
  Layer.style_comm {} .empty (by decide)

end UtilityStyle
