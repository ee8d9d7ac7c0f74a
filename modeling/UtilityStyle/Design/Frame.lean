/-
  Geometry and layout of a design layer.

  * `Axes`, `Edges` and `Corners` hold one value per axis, edge or corner, and their `set` writes
    a value where flags say so;
  * `Dimension` is a resolved length;
  * the other types are the choices that a design tool offers for sizing, layout and strokes.
-/
import UtilityStyle.Text.Charset

namespace UtilityStyle

/-! ## Values per axis, edge and corner -/

/-- A value for the horizontal and one for the vertical axis. -/
structure Axes (α : Type) where
  x : α
  y : α
deriving DecidableEq, Repr

/-- A value for each edge of a box. -/
structure Edges (α : Type) where
  top : α
  right : α
  bottom : α
  left : α
deriving DecidableEq, Repr

/-- A value for each corner of a box. -/
structure Corners (α : Type) where
  topLeft : α
  topRight : α
  bottomRight : α
  bottomLeft : α
deriving DecidableEq, Repr

namespace Axes

variable {α : Type}

/-- One value for both axes. -/
def both (a : α) : Axes α := ⟨a, a⟩

/-- Writes a value on the selected axes. -/
def set (s : Axes α) (on : Axes Bool) (a : α) : Axes α :=
  ⟨if on.x then a else s.x, if on.y then a else s.y⟩

/-- The values as a list. -/
def toList (s : Axes α) : List α := [s.x, s.y]

end Axes

namespace Edges

variable {α : Type}

/-- One value for all edges. -/
def all (a : α) : Edges α := ⟨a, a, a, a⟩

/-- Writes a value on the selected edges. -/
def set (s : Edges α) (on : Edges Bool) (a : α) : Edges α :=
  ⟨if on.top then a else s.top, if on.right then a else s.right,
    if on.bottom then a else s.bottom, if on.left then a else s.left⟩

/-- The values clockwise from the top. -/
def toList (s : Edges α) : List α := [s.top, s.right, s.bottom, s.left]

end Edges

namespace Corners

variable {α : Type}

/-- One value for all corners. -/
def all (a : α) : Corners α := ⟨a, a, a, a⟩

/-- Writes a value on the selected corners. -/
def set (s : Corners α) (on : Corners Bool) (a : α) : Corners α :=
  ⟨if on.topLeft then a else s.topLeft, if on.topRight then a else s.topRight,
    if on.bottomRight then a else s.bottomRight, if on.bottomLeft then a else s.bottomLeft⟩

/-- The values clockwise from the top left. -/
def toList (s : Corners α) : List α := [s.topLeft, s.topRight, s.bottomRight, s.bottomLeft]

/-- Whether all radii are zero. -/
def isZero (radii : Corners Float32) : Bool := radii.toList.all (· == 0)

/-- Whether each radius equals the next one clockwise. -/
def isUniform (radii : Corners Float32) : Bool :=
  radii.topLeft == radii.topRight && radii.topRight == radii.bottomRight &&
    radii.bottomRight == radii.bottomLeft

end Corners

/-! ## Sizes -/

/-- A resolved length. -/
inductive Dimension where
  | pixels (value : Float32)
  | percent (value : Float32)
  | auto
deriving DecidableEq

/-- The dimension with the other sign. -/
def Dimension.negated : Dimension → Dimension
  | pixels value => pixels (-value)
  | percent value => percent (-value)
  | auto => auto

/-- How a layer gets its size along an axis. -/
inductive SizingMode where
  /-- An explicit size. -/
  | fixed
  /-- As small as the content allows. -/
  | hug
  /-- As large as the parent allows. -/
  | fill
deriving DecidableEq, Repr

/-- The name of a sizing mode in a design. -/
def SizingMode.name : SizingMode → String
  | fixed => "FIXED"
  | hug => "HUG"
  | fill => "FILL"

/-! ## Auto layout -/

/-- The direction of auto layout. -/
inductive LayoutMode where
  | off
  | horizontal
  | vertical
  | grid
deriving DecidableEq, Repr

/-- The name of a layout mode in a design. -/
def LayoutMode.name : LayoutMode → String
  | off => "NONE"
  | horizontal => "HORIZONTAL"
  | vertical => "VERTICAL"
  | grid => "GRID"

/-- Whether children continue on the next line. -/
inductive LayoutWrap where
  | noWrap
  | wrap
deriving DecidableEq, Repr

/-- The name of a choice to wrap in a design. -/
def LayoutWrap.name : LayoutWrap → String
  | noWrap => "NO_WRAP"
  | wrap => "WRAP"

/-- Alignment along an axis of auto layout. -/
inductive AxisAlign where
  | min
  | center
  | max
  | spaceBetween
  | baseline
  | stretch
deriving DecidableEq, Repr

/-- The name of an alignment in a design. -/
def AxisAlign.name : AxisAlign → String
  | min => "MIN"
  | center => "CENTER"
  | max => "MAX"
  | spaceBetween => "SPACE_BETWEEN"
  | baseline => "BASELINE"
  | stretch => "STRETCH"

/-- Whether a layer takes part in the layout of its parent. -/
inductive Positioning where
  | auto
  | absolute
deriving DecidableEq, Repr

/-- The name of a positioning in a design. -/
def Positioning.name : Positioning → String
  | auto => "AUTO"
  | absolute => "ABSOLUTE"

/-! ## Strokes -/

/-- The line style of a stroke. -/
inductive StrokeStyle where
  | off
  | solid
  | dashed
  | dotted
  | double
deriving DecidableEq, Repr

namespace StrokeStyle

/-- The name of a line style. -/
def name : StrokeStyle → String
  | off => "none"
  | solid => "solid"
  | dashed => "dashed"
  | dotted => "dotted"
  | double => "double"

/-- The style that a `border-style` keyword of any case names. -/
def ofCss? (keyword : String) : Option StrokeStyle :=
  match Text.lowerAscii keyword with
  | "none" | "hidden" => some off
  | "solid" => some solid
  | "dashed" => some dashed
  | "dotted" => some dotted
  | "double" => some double
  | _ => none

/-- The lengths of dash and gap for a stroke weight; continuous lines have none. -/
def dashPattern (style : StrokeStyle) (weight : Float32) : List Float32 :=
  match style with
  | dashed => [weight * 3, weight * 3]
  | dotted => [weight, weight]
  | off | solid | double => []

end StrokeStyle

end UtilityStyle
