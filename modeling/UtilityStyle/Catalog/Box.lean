/-
  Utilities for the space in and around a box, and for its size.
-/
import UtilityStyle.Utility.Family

namespace UtilityStyle.Catalog

/-! ## Stems and keywords -/

/-- A stem that selects no side. -/
def sideless (stem : String) : List (String × Option Side) := [(stem, none)]

/-- The letters of the axes and edges. -/
def sideLetters : List (String × Side) := [
  ("x", .x), ("y", .y), ("s", .inlineStart), ("e", .inlineEnd), ("t", .top), ("r", .right),
  ("b", .bottom), ("l", .left)]

/-- A stem for all sides, and with a letter after it for each axis and edge. -/
def sided (stem joint : String) : List (String × Option Side) :=
  (stem, some .all) :: sideLetters.map fun (letter, side) => (stem ++ joint ++ letter, some side)

/-- A stem for both axes, and with a letter after it for each of them. -/
def axial (stem : String) : List (String × Option Side) := [
  (stem, some .all), (stem ++ "-x", some .x), (stem ++ "-y", some .y)]

/-- A stem with a letter after it for each axis. -/
def perAxis (stem : String) : List (String × Option Side) := [
  (stem ++ "-x", some .x), (stem ++ "-y", some .y)]

/-- Keys that stand for themselves. -/
def verbatim (names : List String) : List (String × String) := names.map fun s => (s, s)

/-! ## Space -/

def margin : Family where
  name := "margin"
  property := .margin
  stems := sided "m" ""
  namespaces := ["margin", "spacing"]
  scale := some .spacing
  keywords := verbatim ["auto"]
  shape := some .length
  references := .accepted
  signed := true

def padding : Family where
  name := "padding"
  property := .padding
  stems := sided "p" ""
  namespaces := ["padding", "spacing"]
  scale := some .spacing
  shape := some .length
  references := .accepted

def gap : Family where
  name := "gap"
  property := .gap
  stems := axial "gap"
  namespaces := ["gap", "spacing"]
  scale := some .spacing
  shape := some .length
  references := .accepted

def spaceBetween : Family where
  name := "space-between"
  property := .spaceBetween
  stems := perAxis "space"
  namespaces := ["space", "spacing"]
  scale := some .spacing
  keywords := verbatim ["reverse"]
  shape := some .length
  references := .accepted
  signed := true

def inset : Family where
  name := "inset"
  property := .inset
  stems := axial "inset" ++ [
    ("start", some .inlineStart), ("end", some .inlineEnd), ("top", some .top),
    ("right", some .right), ("bottom", some .bottom), ("left", some .left)]
  namespaces := ["inset", "spacing"]
  scale := some .spacingOrFraction
  keywords := verbatim ["auto", "full"]
  shape := some .length
  references := .accepted
  signed := true

/-! ## Size -/

/-- Sizes that follow from the content. -/
def contentSizes : List (String × String) := [
  ("min", "min-content"), ("max", "max-content"), ("fit", "fit-content")]

/-- The keywords of a size along the axis with the given viewport unit. -/
def viewportSizes (unit : String) : List (String × String) :=
  [("auto", "auto"), ("full", "full"), ("screen", "screen"), ("s" ++ unit, "screen"),
    ("d" ++ unit, "screen")] ++ contentSizes

/-- The keywords of a size on no particular axis. -/
def plainSizes : List (String × String) := verbatim ["auto", "full"] ++ contentSizes

/-- The keywords of an upper bound. -/
def upperBounds : List (String × String) := verbatim ["none", "full", "screen"] ++ contentSizes

/-- A family of sizes. -/
def sizeFamily (name : String) (property : Property) (stem : String) (namespaces : List String)
    (scale : Scale) (keywords : List (String × String)) : Family where
  name := name
  property := property
  stems := sideless stem
  namespaces := namespaces
  scale := some scale
  keywords := keywords
  shape := some .length
  references := .accepted

def width : Family :=
  sizeFamily "width" .width "w" ["width", "spacing"] .spacingOrFraction (viewportSizes "vw")

def height : Family :=
  sizeFamily "height" .height "h" ["height", "spacing"] .spacingOrFraction (viewportSizes "vh")

def size : Family :=
  sizeFamily "size" .size "size" ["size", "spacing"] .spacingOrFraction plainSizes

def minWidth : Family :=
  sizeFamily "min-width" .minWidth "min-w" ["minWidth", "spacing"] .spacing (viewportSizes "vw")

def minHeight : Family :=
  sizeFamily "min-height" .minHeight "min-h" ["minHeight", "spacing"] .spacing (viewportSizes "vh")

def maxWidth : Family :=
  sizeFamily "max-width" .maxWidth "max-w" ["maxWidth"] .container upperBounds

def maxHeight : Family :=
  sizeFamily "max-height" .maxHeight "max-h" ["maxHeight", "spacing"] .spacing upperBounds

def flexBasis : Family :=
  sizeFamily "flex-basis" .flexBasis "basis" ["flexBasis", "spacing"] .spacingOrFraction plainSizes

end UtilityStyle.Catalog
