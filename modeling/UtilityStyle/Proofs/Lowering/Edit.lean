/-
  Edits: the writes of a lowering as data.

  An `Edit` changes one cell of a layer (`Edit.cell`, `Edit.change`), and `Edit.apply` carries it
  out.  Most edits replace what the cell held.  The exceptions are the lists of paints and effects,
  where images and shadows accumulate until they are cleared, a blur takes the place of the earlier
  one, and shadows take on the color that was set for all of them.
-/
import UtilityStyle.Proofs.Layer.Cell

namespace UtilityStyle

/-- A change to one part of a layer. -/
inductive Edit where
  -- Size and space
  | size (axes : Axes Bool) (length : Option Dimension) (mode : SizingMode)
  | minWidth (bound : Option Dimension)
  | minHeight (bound : Option Dimension)
  | maxWidth (bound : Option Dimension)
  | maxHeight (bound : Option Dimension)
  | aspectRatio (ratio : Option Float32)
  | padding (edges : Edges Bool) (px : Float32)
  | margin (edges : Edges Bool) (distance : Dimension)
  | gap (axes : Axes Bool) (px : Float32)
  -- Layout
  | layoutMode (mode : LayoutMode)
  /-- Lays the children out in a row, unless they are in a column. -/
  | rowUnlessColumn
  | layoutWrap (lines : LayoutWrap)
  | primaryAxisAlign (align : AxisAlign)
  | counterAxisAlign (align : AxisAlign)
  | alignSelf (align : Option AxisAlign)
  | flexGrow (factor : Float32)
  | flexShrink (factor : Float32)
  | flexBasis (basis : Dimension)
  | order (place : Int)
  | gridColumns (count : Option Nat)
  | gridRows (count : Option Nat)
  | columnSpan (count : Nat)
  | rowSpan (count : Nat)
  -- Place and transform
  | positioning (choice : Positioning)
  | inset (edges : Edges Bool) (distance : Dimension)
  | zIndex (place : Option Int)
  | rotation (degrees : Float32)
  | scale (axes : Axes Bool) (factor : Float32)
  | displacement (axes : Axes Bool) (offset : Dimension)
  -- Appearance
  | visible (shown : Bool)
  | clipsContent (clips : Bool)
  | opacity (factor : Float32)
  | blendMode (mode : String)
  | addFill (paint : Paint)
  | clearImages
  | stroke (paint : Paint)
  | strokeWeight (edges : Edges Bool) (px : Float32)
  | strokeStyle (style : StrokeStyle)
  | cornerRadius (corners : Corners Bool) (px : Float32)
  | addShadows (shadows : List Effect)
  | clearShadows
  | shadowColor (color : Color)
  /-- A radius that is not positive takes the blur away. -/
  | layerBlur (radius : Float32)
  /-- A radius that is not positive takes the blur away. -/
  | backgroundBlur (radius : Float32)
  | ringWidth (px : Float32)
  | ringColor (color : Color)
  | ringOffsetWidth (px : Float32)
  | ringOffsetColor (color : Color)
  -- Text
  | textFill (paint : Paint)
  | fontSize (px : Float32)
  | fontWeight (weight : Float32)
  | fontFamily (names : List String)
  | fontStyle (style : FontStyle)
  | lineHeight (height : LineHeight)
  | letterSpacing (spacing : LetterSpacing)
  | textAlign (align : TextAlign)
  | textCase (letters : TextCase)
  | textDecoration (line : TextDecoration)
  | truncates (cut : Bool)
  | maxLines (count : Option Nat)
  -- Outside the design vocabulary
  /-- Lets a binding drive the part of this name. -/
  | bind (part : String) (binding : Binding)
  | css (property : String) (text : String)

namespace Edit

/-- The cell that an edit changes. -/
def cell : Edit → Cell
  | size .. => .size
  | minWidth _ => .minWidth
  | minHeight _ => .minHeight
  | maxWidth _ => .maxWidth
  | maxHeight _ => .maxHeight
  | aspectRatio _ => .aspectRatio
  | padding .. => .padding
  | margin .. => .margin
  | gap .. => .gap
  | layoutMode _ | rowUnlessColumn | visible _ => .display
  | layoutWrap _ => .layoutWrap
  | primaryAxisAlign _ => .primaryAxisAlign
  | counterAxisAlign _ => .counterAxisAlign
  | alignSelf _ => .alignSelf
  | flexGrow _ | flexShrink _ | flexBasis _ => .flex
  | order _ => .order
  | gridColumns _ => .gridColumns
  | gridRows _ => .gridRows
  | columnSpan _ => .columnSpan
  | rowSpan _ => .rowSpan
  | positioning _ => .positioning
  | inset .. => .inset
  | zIndex _ => .zIndex
  | rotation _ => .rotation
  | scale .. => .scale
  | displacement .. => .displacement
  | clipsContent _ => .clipsContent
  | opacity _ => .opacity
  | blendMode _ => .blendMode
  | addFill _ | clearImages => .fills
  | stroke _ => .strokes
  | strokeWeight .. => .strokeWeight
  | strokeStyle _ => .strokeStyle
  | cornerRadius .. => .cornerRadii
  | addShadows _ | clearShadows | shadowColor _ | layerBlur _ | backgroundBlur _ => .effects
  | ringWidth _ | ringColor _ | ringOffsetWidth _ | ringOffsetColor _ => .ring
  | textFill _ => .textFill
  | fontSize _ | lineHeight _ => .font
  | fontWeight _ => .fontWeight
  | fontFamily _ => .fontFamily
  | fontStyle _ => .fontStyle
  | letterSpacing _ => .letterSpacing
  | textAlign _ => .textAlign
  | textCase _ => .textCase
  | textDecoration _ => .textDecoration
  | truncates _ | maxLines _ => .overflow
  | bind .. => .bindings
  | css .. => .css

/-- Puts a blur of one kind in the place of an earlier one. -/
def replaceBlur (isSame : Effect → Bool) (radius : Float32) (blur : Effect)
    (effects : List Effect) : List Effect :=
  let others := effects.filter (!isSame ·)
  if radius > 0 then others ++ [blur] else others

/-- What an edit makes of its cell. -/
def change : (edit : Edit) → edit.cell.Value → edit.cell.Value
  | size axes length mode, (sizes, modes) => (sizes.set axes length, modes.set axes (some mode))
  | minWidth bound, _ | minHeight bound, _ | maxWidth bound, _ | maxHeight bound, _ => bound
  | aspectRatio ratio, _ => ratio
  | padding edges px, slots | strokeWeight edges px, slots => slots.set edges (some px)
  | margin edges distance, slots | inset edges distance, slots => slots.set edges (some distance)
  | gap axes x, slots | scale axes x, slots => slots.set axes (some x)
  | layoutMode mode, (_, shown) => (some mode, shown)
  | rowUnlessColumn, (mode, shown) =>
    (if mode = some .vertical then mode else some .horizontal, shown)
  | visible shown, (mode, _) => (mode, some shown)
  | layoutWrap lines, _ => some lines
  | primaryAxisAlign align, _ | counterAxisAlign align, _ => some align
  | alignSelf align, _ => align
  | flexGrow factor, (_, rest) => (some factor, rest)
  | flexShrink factor, (grow, _, basis) => (grow, some factor, basis)
  | flexBasis basis, (grow, shrink, _) => (grow, shrink, some basis)
  | order place, _ => some place
  | gridColumns count, _ | gridRows count, _ => count
  | columnSpan count, _ | rowSpan count, _ => some count
  | positioning choice, _ => some choice
  | zIndex place, _ => place
  | displacement axes offset, slots => slots.set axes (some offset)
  | clipsContent clips, _ => some clips
  | rotation x, _ | opacity x, _ | fontWeight x, _ => some x
  | blendMode mode, _ => some mode
  | addFill paint, (fills : List Paint) => fills ++ [paint]
  | clearImages, (fills : List Paint) => fills.filter (!·.isImage)
  | stroke paint, _ => [paint]
  | strokeStyle style, _ => some style
  | cornerRadius corners px, radii => some ((radii.getD (.all 0)).set corners px)
  | addShadows shadows, (effects, color) =>
    (effects ++ Effect.inShadowColor color shadows, color)
  | clearShadows, (effects, color) => (effects.filter (!·.isShadow), color)
  | shadowColor color, (effects, _) => (effects.map (Effect.recolored color), some color)
  | layerBlur radius, (effects, color) =>
    (replaceBlur Effect.isLayerBlur radius (.layerBlur radius) effects, color)
  | backgroundBlur radius, (effects, color) =>
    (replaceBlur Effect.isBackgroundBlur radius (.backgroundBlur radius) effects, color)
  | ringWidth px, ring? => some { ring?.getD {} with width := some px }
  | ringColor color, ring? => some { ring?.getD {} with color := some color }
  | ringOffsetWidth px, ring? => some { ring?.getD {} with offsetWidth := some px }
  | ringOffsetColor color, ring? => some { ring?.getD {} with offsetColor := some color }
  | textFill paint, _ => some paint
  | fontSize px, (_, height) => (some px, height)
  | lineHeight height, (px, _) => (px, some height)
  | fontFamily names, _ => some names
  | fontStyle style, _ => some style
  | letterSpacing spacing, _ => some spacing
  | textAlign align, _ => some align
  | textCase letters, _ => some letters
  | textDecoration line, _ => some line
  | truncates cut, (_, count) => (some cut, count)
  | maxLines count, (cut, _) => (cut, count)
  | bind part binding, bindings => bindings.insert part binding
  | css property text, entries => entries.insert property text

/-- Carries out an edit. -/
def apply (edit : Edit) (layer : Layer) : Layer := layer.write edit.cell edit.change

/-- An edit leaves the other cells as they are. -/
theorem cell_apply_of_ne {edit : Edit} {c : Cell} (h : c ≠ edit.cell) (layer : Layer) :
    (edit.apply layer).cell c = layer.cell c := layer.cell_write_of_ne _ h

theorem apply_rowUnlessColumn (layer : Layer) :
    rowUnlessColumn.apply layer =
      if layer.layoutMode = some .vertical then layer
      else { layer with layoutMode := some .horizontal } := by
  have h : rowUnlessColumn.apply layer =
      { layer with
        layoutMode := if layer.layoutMode = some .vertical then layer.layoutMode
          else some .horizontal } := rfl
  rw [h]
  split <;> rfl

/-- Two edits do the same in either order. -/
def Commutes (a b : Edit) : Prop := ∀ layer, b.apply (a.apply layer) = a.apply (b.apply layer)

theorem Commutes.of_cell_ne {a b : Edit} (h : a.cell ≠ b.cell) : Commutes a b :=
  fun layer => layer.write_comm h _ _

end Edit

/-! ## Lists of edits -/

/-- What steps either write or leave holds the last write after them. -/
theorem foldl_last_write {α σ β : Type} {step : σ → α → σ} {write : α → Option β}
    (read : σ → Option β) (h : ∀ s a, read (step s a) = (write a).or (read s)) (s : σ)
    (l : List α) : read (l.foldl step s) = ((l.filterMap write).getLast?).or (read s) := by
  induction l generalizing s with
  | nil => rfl
  | cons a l ih =>
    rw [List.foldl_cons, ih, h, List.filterMap_cons]
    cases write a with
    | none => rfl
    | some b => simp [List.getLast?_cons]

namespace Layer

/-- The layer after some edits in their order. -/
def editAll (layer : Layer) (edits : List Edit) : Layer :=
  edits.foldl (fun layer edit => edit.apply layer) layer

@[simp] theorem editAll_nil (layer : Layer) : layer.editAll [] = layer := rfl

@[simp] theorem editAll_cons (layer : Layer) (edit : Edit) (edits : List Edit) :
    layer.editAll (edit :: edits) = (edit.apply layer).editAll edits := rfl

/-- Edits of other cells leave a cell as it is. -/
theorem cell_editAll_of_ne {edits : List Edit} {c : Cell} (h : ∀ edit ∈ edits, c ≠ edit.cell)
    (layer : Layer) : (layer.editAll edits).cell c = layer.cell c := by
  induction edits generalizing layer with
  | nil => rfl
  | cons edit edits ih =>
    rw [editAll_cons, ih (fun e he => h e (List.mem_cons_of_mem _ he)),
      Edit.cell_apply_of_ne (h edit List.mem_cons_self)]

/-- What every edit preserves, a list of edits preserves. -/
theorem editAll_induction {P : Layer → Prop} {edits : List Edit}
    (step : ∀ edit ∈ edits, ∀ layer, P layer → P (edit.apply layer)) (layer : Layer)
    (h : P layer) : P (layer.editAll edits) := by
  induction edits generalizing layer with
  | nil => exact h
  | cons edit edits ih =>
    exact ih (fun e he => step e (List.mem_cons_of_mem _ he)) _
      (step edit List.mem_cons_self _ h)

end Layer

end UtilityStyle
