/-
  Utilities for the lines of a box: borders, corners, outlines, rings, dividers and strokes.
-/
import UtilityStyle.Catalog.Box

namespace UtilityStyle.Catalog

/-! ## Borders and corners -/

def borderWidth : Family where
  name := "border-width"
  property := .borderWidth
  stems := sided "border" "-"
  namespaces := ["borderWidth"]
  scale := some .width
  shape := some .length
  references := .hinted

def borderStyle : Family where
  name := "border-style"
  property := .borderStyle
  stems := sideless "border"
  keywords := verbatim ["solid", "dashed", "dotted", "double", "hidden", "none"]

def borderRadius : Family where
  name := "border-radius"
  property := .borderRadius
  stems := [
    ("rounded", some .all), ("rounded-s", some .inlineStart), ("rounded-e", some .inlineEnd),
    ("rounded-t", some .top), ("rounded-r", some .right), ("rounded-b", some .bottom),
    ("rounded-l", some .left), ("rounded-ss", some .startStart), ("rounded-se", some .startEnd),
    ("rounded-ee", some .endEnd), ("rounded-es", some .endStart), ("rounded-tl", some .topLeft),
    ("rounded-tr", some .topRight), ("rounded-br", some .bottomRight),
    ("rounded-bl", some .bottomLeft)]
  namespaces := ["borderRadius"]
  scale := some .radius
  shape := some .length
  references := .accepted

/-! ## Outlines and rings -/

def outlineOffset : Family where
  name := "outline-offset"
  property := .outlineOffset
  stems := sideless "outline-offset"
  namespaces := ["outlineOffset"]
  scale := some .number
  shape := some .length
  references := .accepted
  signed := true

def outlineWidth : Family where
  name := "outline-width"
  property := .outlineWidth
  stems := sideless "outline"
  namespaces := ["outlineWidth"]
  scale := some .number
  shape := some .length
  references := .hinted

def outlineStyle : Family where
  name := "outline-style"
  property := .outlineStyle
  stems := sideless "outline"
  keywords := [(defaultKey, "solid")] ++ verbatim ["solid", "dashed", "dotted", "double", "none"] ++
    [("hidden", "none")]

def ringOffsetWidth : Family where
  name := "ring-offset-width"
  property := .ringOffsetWidth
  stems := sideless "ring-offset"
  namespaces := ["ringOffsetWidth"]
  scale := some .number
  shape := some .length
  references := .hinted

def ringWidth : Family where
  name := "ring-width"
  property := .ringWidth
  stems := sideless "ring"
  namespaces := ["ringWidth"]
  scale := some .width
  shape := some .length
  references := .hinted

/-! ## Dividers and strokes -/

def divideWidth : Family where
  name := "divide-width"
  property := .divideWidth
  stems := perAxis "divide"
  namespaces := ["divideWidth", "borderWidth"]
  scale := some .width
  keywords := verbatim ["reverse"]
  shape := some .length
  references := .hinted

def strokeWidth : Family where
  name := "stroke-width"
  property := .strokeWidth
  stems := sideless "stroke"
  namespaces := ["strokeWidth"]
  scale := some .number
  shape := some .lengthOrNumber
  references := .hinted

end UtilityStyle.Catalog
