/-
  Cells: the independent parts of a layer.

  A `Cell` holds what the declarations of one kind write, and a layer is nothing but the family of
  its cells (`ofCells_cell`, `cell_ofCells`).  `Layer.write` changes one cell: it leaves the others
  as they are (`cell_write_of_ne`), and changes to different cells commute (`write_comm`).
-/
import Mathlib.Logic.Function.Basic
import UtilityStyle.Design.Layer

namespace UtilityStyle

/-- A part of a layer that is written independently of the others. -/
inductive Cell where
  | padding
  | margin
  | inset
  | gap
  /-- Width and height with their sizing modes. -/
  | size
  | minWidth
  | minHeight
  | maxWidth
  | maxHeight
  | aspectRatio
  | strokeWeight
  | strokeStyle
  | strokes
  | cornerRadii
  | rotation
  | scale
  | displacement
  /-- The layout mode and whether the node shows. -/
  | display
  | positioning
  | clipsContent
  | zIndex
  | order
  | layoutWrap
  /-- Growth, shrinkage and basis of a flexible child. -/
  | flex
  | primaryAxisAlign
  | counterAxisAlign
  | alignSelf
  | gridColumns
  | gridRows
  | columnSpan
  | rowSpan
  | fills
  | textFill
  | ring
  /-- The effects and the color of all shadows. -/
  | effects
  | opacity
  | blendMode
  /-- The font size and the line height. -/
  | font
  | fontWeight
  | fontFamily
  | fontStyle
  | letterSpacing
  | textAlign
  | textDecoration
  | textCase
  /-- Whether text is cut off, and after how many lines. -/
  | overflow
  | bindings
  | css
deriving DecidableEq

/-- What a cell holds. -/
def Cell.Value : Cell → Type
  | padding | strokeWeight => Edges (Option Float32)
  | margin | inset => Edges (Option Dimension)
  | gap | scale => Axes (Option Float32)
  | size => Axes (Option Dimension) × Axes (Option SizingMode)
  | minWidth | minHeight | maxWidth | maxHeight => Option Dimension
  | aspectRatio | rotation | opacity | fontWeight => Option Float32
  | strokeStyle => Option StrokeStyle
  | strokes | fills => List Paint
  | cornerRadii => Option (Corners Float32)
  | displacement => Axes (Option Dimension)
  | display => Option LayoutMode × Option Bool
  | positioning => Option Positioning
  | clipsContent => Option Bool
  | zIndex | order => Option Int
  | layoutWrap => Option LayoutWrap
  | flex => Option Float32 × Option Float32 × Option Dimension
  | primaryAxisAlign | counterAxisAlign | alignSelf => Option AxisAlign
  | gridColumns | gridRows | columnSpan | rowSpan => Option Nat
  | textFill => Option Paint
  | ring => Option Ring
  | effects => List Effect × Option Color
  | blendMode => Option String
  | font => Option Float32 × Option LineHeight
  | fontFamily => Option (List String)
  | fontStyle => Option FontStyle
  | letterSpacing => Option LetterSpacing
  | textAlign => Option TextAlign
  | textDecoration => Option TextDecoration
  | textCase => Option TextCase
  | overflow => Option Bool × Option Nat
  | bindings => Text.Dictionary Binding
  | css => Text.Dictionary String

namespace Layer

/-- The cells of a layer. -/
def cell (layer : Layer) : (c : Cell) → c.Value
  | .padding => layer.padding
  | .margin => layer.margin
  | .inset => layer.inset
  | .gap => layer.gap
  | .size => (layer.size, layer.sizing)
  | .minWidth => layer.minSize.x
  | .minHeight => layer.minSize.y
  | .maxWidth => layer.maxSize.x
  | .maxHeight => layer.maxSize.y
  | .aspectRatio => layer.aspectRatio
  | .strokeWeight => layer.strokeWeight
  | .strokeStyle => layer.strokeStyle
  | .strokes => layer.strokes
  | .cornerRadii => layer.cornerRadii
  | .rotation => layer.rotation
  | .scale => layer.scale
  | .displacement => layer.displacement
  | .display => (layer.layoutMode, layer.visible)
  | .positioning => layer.positioning
  | .clipsContent => layer.clipsContent
  | .zIndex => layer.zIndex
  | .order => layer.order
  | .layoutWrap => layer.layoutWrap
  | .flex => (layer.flexGrow, layer.flexShrink, layer.flexBasis)
  | .primaryAxisAlign => layer.primaryAxisAlign
  | .counterAxisAlign => layer.counterAxisAlign
  | .alignSelf => layer.alignSelf
  | .gridColumns => layer.gridTracks.x
  | .gridRows => layer.gridTracks.y
  | .columnSpan => layer.gridSpan.x
  | .rowSpan => layer.gridSpan.y
  | .fills => layer.fills
  | .textFill => layer.textFill
  | .ring => layer.ring?
  | .effects => (layer.effects, layer.shadowColor)
  | .opacity => layer.opacity
  | .blendMode => layer.blendMode
  | .font => (layer.fontSize, layer.lineHeight)
  | .fontWeight => layer.fontWeight
  | .fontFamily => layer.fontFamily
  | .fontStyle => layer.fontStyle
  | .letterSpacing => layer.letterSpacing
  | .textAlign => layer.textAlign
  | .textDecoration => layer.textDecoration
  | .textCase => layer.textCase
  | .overflow => (layer.truncates, layer.maxLines)
  | .bindings => layer.bindings
  | .css => layer.css

/-- The layer with the given cells. -/
def ofCells (cells : (c : Cell) → c.Value) : Layer where
  size := (cells .size).1
  sizing := (cells .size).2
  minSize := ⟨cells .minWidth, cells .minHeight⟩
  maxSize := ⟨cells .maxWidth, cells .maxHeight⟩
  aspectRatio := cells .aspectRatio
  padding := cells .padding
  margin := cells .margin
  layoutMode := (cells .display).1
  layoutWrap := cells .layoutWrap
  primaryAxisAlign := cells .primaryAxisAlign
  counterAxisAlign := cells .counterAxisAlign
  alignSelf := cells .alignSelf
  gap := cells .gap
  flexGrow := (cells .flex).1
  flexShrink := (cells .flex).2.1
  flexBasis := (cells .flex).2.2
  order := cells .order
  gridTracks := ⟨cells .gridColumns, cells .gridRows⟩
  gridSpan := ⟨cells .columnSpan, cells .rowSpan⟩
  positioning := cells .positioning
  inset := cells .inset
  zIndex := cells .zIndex
  rotation := cells .rotation
  scale := cells .scale
  displacement := cells .displacement
  visible := (cells .display).2
  clipsContent := cells .clipsContent
  opacity := cells .opacity
  blendMode := cells .blendMode
  fills := cells .fills
  strokes := cells .strokes
  strokeWeight := cells .strokeWeight
  strokeStyle := cells .strokeStyle
  cornerRadii := cells .cornerRadii
  effects := (cells .effects).1
  shadowColor := (cells .effects).2
  ring? := cells .ring
  textFill := cells .textFill
  fontSize := (cells .font).1
  fontWeight := cells .fontWeight
  fontFamily := cells .fontFamily
  fontStyle := cells .fontStyle
  lineHeight := (cells .font).2
  letterSpacing := cells .letterSpacing
  textAlign := cells .textAlign
  textCase := cells .textCase
  textDecoration := cells .textDecoration
  truncates := (cells .overflow).1
  maxLines := (cells .overflow).2
  bindings := cells .bindings
  css := cells .css

/-- A layer is determined by its cells. -/
@[simp] theorem ofCells_cell (layer : Layer) : ofCells layer.cell = layer := rfl

/-- The cells of a layer may be anything. -/
@[simp] theorem cell_ofCells (cells : (c : Cell) → c.Value) : (ofCells cells).cell = cells := by
  funext c; cases c <;> rfl

/-- Layers with the same cells are equal. -/
theorem ext_cell {layer layer' : Layer} (h : ∀ c, layer.cell c = layer'.cell c) :
    layer = layer' := by
  rw [← ofCells_cell layer, ← ofCells_cell layer', funext h]

/-- The layer with one cell changed. -/
def write (layer : Layer) (c : Cell) (change : c.Value → c.Value) : Layer :=
  ofCells (Function.update layer.cell c (change (layer.cell c)))

theorem cell_write (layer : Layer) (c : Cell) (change : c.Value → c.Value) :
    (layer.write c change).cell = Function.update layer.cell c (change (layer.cell c)) :=
  cell_ofCells _

/-- A change leaves the other cells as they are. -/
theorem cell_write_of_ne (layer : Layer) {c c' : Cell} (change : c.Value → c.Value) (h : c' ≠ c) :
    (layer.write c change).cell c' = layer.cell c' := by
  rw [cell_write, Function.update_of_ne h]

/-- Changes to different cells commute. -/
theorem write_comm (layer : Layer) {c c' : Cell} (h : c ≠ c') (f : c.Value → c.Value)
    (g : c'.Value → c'.Value) :
    (layer.write c f).write c' g = (layer.write c' g).write c f := by
  rw [write, cell_write, Function.update_of_ne h.symm, Function.update_comm h,
    write, cell_write, Function.update_of_ne h]

/-- Two changes to one cell are one change. -/
theorem write_write (layer : Layer) (c : Cell) (f g : c.Value → c.Value) :
    (layer.write c f).write c g = layer.write c (g ∘ f) := by
  rw [write, cell_write, Function.update_self, Function.update_idem, write, Function.comp]

/-- A change that hides an earlier one on what a cell holds does so on the layer. -/
theorem write_write_of_comp (layer : Layer) {c : Cell} {f g : c.Value → c.Value}
    (h : g ∘ f = g) : (layer.write c f).write c g = layer.write c g := by
  rw [write_write, h]

/-- A change that does not ask what a cell holds hides an earlier one. -/
theorem write_write_of_const (layer : Layer) {c c' : Cell} (h : c = c') (f : c.Value → c.Value)
    {g : c'.Value → c'.Value} (hg : ∀ x y, g x = g y) :
    (layer.write c f).write c' g = layer.write c' g := by
  subst h
  exact layer.write_write_of_comp (funext fun _ => hg _ _)

/-- Changes to one cell commute if they do so on what it holds. -/
theorem write_comm_of_comp (layer : Layer) {c : Cell} {f g : c.Value → c.Value}
    (h : g ∘ f = f ∘ g) : (layer.write c f).write c g = (layer.write c g).write c f := by
  rw [write_write, write_write, h]

end Layer

end UtilityStyle
