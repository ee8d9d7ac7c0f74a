/-
  Utilities for fonts and lines of text.
-/
import UtilityStyle.Catalog.Box

namespace UtilityStyle.Catalog

/-! ## Fonts -/

def fontSize : Family where
  name := "font-size"
  property := .fontSize
  stems := sideless "text"
  namespaces := ["fontSize"]
  scale := some .fontSize
  shape := some .fontSize
  references := .hinted
  suffix := .leading

def fontWeight : Family where
  name := "font-weight"
  property := .fontWeight
  stems := sideless "font"
  namespaces := ["fontWeight"]
  scale := some .fontWeight
  shape := some .integer
  references := .hinted

def fontFamily : Family where
  name := "font-family"
  property := .fontFamily
  stems := sideless "font"
  namespaces := ["fontFamily"]
  scale := some .fontFamily
  shape := some .fontFamily
  references := .accepted

/-! ## Lines of text -/

def textAlign : Family where
  name := "text-align"
  property := .textAlign
  stems := sideless "text"
  keywords := verbatim ["left", "center", "right", "justify", "start", "end"]

def textOverflow : Family where
  name := "text-overflow"
  property := .textOverflow
  stems := sideless "text"
  keywords := verbatim ["ellipsis", "clip"]

def lineHeight : Family where
  name := "line-height"
  property := .lineHeight
  stems := sideless "leading"
  namespaces := ["lineHeight"]
  scale := some .leading
  shape := some .lengthOrNumber
  references := .accepted

def letterSpacing : Family where
  name := "letter-spacing"
  property := .letterSpacing
  stems := sideless "tracking"
  namespaces := ["letterSpacing"]
  scale := some .tracking
  shape := some .length
  references := .accepted
  signed := true

def whiteSpace : Family where
  name := "white-space"
  property := .whiteSpace
  stems := sideless "whitespace"
  keywords := verbatim ["normal", "nowrap", "pre", "pre-line", "pre-wrap", "break-spaces"]

def wordBreak : Family where
  name := "word-break"
  property := .wordBreak
  stems := sideless "break"
  keywords := [
    ("normal", "normal"), ("words", "break-word"), ("all", "break-all"), ("keep", "keep-all")]

def verticalAlign : Family where
  name := "vertical-align"
  property := .verticalAlign
  stems := sideless "align"
  keywords := verbatim [
    "baseline", "top", "middle", "bottom", "text-top", "text-bottom", "sub", "super"]
  shape := some .length

def lineClamp : Family where
  name := "line-clamp"
  property := .lineClamp
  stems := sideless "line-clamp"
  scale := some .number
  keywords := verbatim ["none"]
  shape := some .integer
  references := .accepted

def listStyleType : Family where
  name := "list-style-type"
  property := .listStyleType
  stems := sideless "list"
  namespaces := ["listStyleType"]
  keywords := verbatim ["none", "disc", "decimal"]
  shape := some .any
  references := .accepted

/-! ## Decoration -/

def decorationThickness : Family where
  name := "text-decoration-thickness"
  property := .textDecorationThickness
  stems := sideless "decoration"
  namespaces := ["textDecorationThickness"]
  scale := some .number
  keywords := verbatim ["auto", "from-font"]
  shape := some .length
  references := .hinted

def underlineOffset : Family where
  name := "text-underline-offset"
  property := .textUnderlineOffset
  stems := sideless "underline-offset"
  namespaces := ["textUnderlineOffset"]
  scale := some .number
  keywords := verbatim ["auto"]
  shape := some .length
  references := .accepted
  signed := true

end UtilityStyle.Catalog
