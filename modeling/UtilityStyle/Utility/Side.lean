/-
  Sides: the part of a box that a utility applies to.

  A side covers some edges, some corners and some axes of the box.  Logical sides follow text from
  left to right.
-/
import UtilityStyle.Design.Frame

namespace UtilityStyle

/-- A side, axis or corner of a box. -/
inductive Side where
  | all
  /-- The horizontal axis. -/
  | x
  /-- The vertical axis. -/
  | y
  | top
  | right
  | bottom
  | left
  | inlineStart
  | inlineEnd
  | topLeft
  | topRight
  | bottomRight
  | bottomLeft
  | startStart
  | startEnd
  | endEnd
  | endStart
deriving DecidableEq, Repr

namespace Side

/-- The name of a side. -/
def name : Side → String
  | all => "all"
  | x => "x"
  | y => "y"
  | top => "top"
  | right => "right"
  | bottom => "bottom"
  | left => "left"
  | inlineStart => "inline-start"
  | inlineEnd => "inline-end"
  | topLeft => "top-left"
  | topRight => "top-right"
  | bottomRight => "bottom-right"
  | bottomLeft => "bottom-left"
  | startStart => "start-start"
  | startEnd => "start-end"
  | endEnd => "end-end"
  | endStart => "end-start"

/-- Every side. -/
def every : List Side := [
  all, x, y, top, right, bottom, left, inlineStart, inlineEnd, topLeft, topRight, bottomRight,
  bottomLeft, startStart, startEnd, endEnd, endStart]

/-- The side of a name. -/
def ofName? (s : String) : Option Side := every.find? (·.name == s)

/-- The edges that a side covers. -/
def edges : Side → Edges Bool
  | all => ⟨true, true, true, true⟩
  | x => ⟨false, true, false, true⟩
  | y => ⟨true, false, true, false⟩
  | top => ⟨true, false, false, false⟩
  | right | inlineEnd => ⟨false, true, false, false⟩
  | bottom => ⟨false, false, true, false⟩
  | left | inlineStart => ⟨false, false, false, true⟩
  | topLeft | startStart => ⟨true, false, false, true⟩
  | topRight | startEnd => ⟨true, true, false, false⟩
  | bottomRight | endEnd => ⟨false, true, true, false⟩
  | bottomLeft | endStart => ⟨false, false, true, true⟩

/-- The corners that a side covers; an axis covers none. -/
def corners : Side → Corners Bool
  | all => ⟨true, true, true, true⟩
  | top => ⟨true, true, false, false⟩
  | right | inlineEnd => ⟨false, true, true, false⟩
  | bottom => ⟨false, false, true, true⟩
  | left | inlineStart => ⟨true, false, false, true⟩
  | topLeft | startStart => ⟨true, false, false, false⟩
  | topRight | startEnd => ⟨false, true, false, false⟩
  | bottomRight | endEnd => ⟨false, false, true, false⟩
  | bottomLeft | endStart => ⟨false, false, false, true⟩
  | x | y => ⟨false, false, false, false⟩

/-- The axes that a side covers; every side but the other axis covers one. -/
def axes : Side → Axes Bool
  | x => ⟨true, false⟩
  | y => ⟨false, true⟩
  | _ => ⟨true, true⟩

end Side

end UtilityStyle
