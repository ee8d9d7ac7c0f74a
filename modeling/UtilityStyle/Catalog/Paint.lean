/-
  Utilities for colors, images and effects.
-/
import UtilityStyle.Catalog.Box

namespace UtilityStyle.Catalog

/-! ## Colors -/

/-- The colors that depend on the surrounding text. -/
def colorKeywords : List (String × String) := [("current", "currentColor"), ("inherit", "inherit")]

/-- A family of colors. -/
def colorFamily (name : String) (property : Property) (stems : List (String × Option Side))
    (more : List String) : Family where
  name := name
  property := property
  stems := stems
  namespaces := ["colors"]
  scale := some .palette
  keywords := colorKeywords ++ verbatim more
  shape := some .color
  references := .accepted
  suffix := .opacity

def backgroundColor : Family :=
  colorFamily "background-color" .backgroundColor (sideless "bg") []

def textColor : Family := colorFamily "text-color" .textColor (sideless "text") []

def borderColor : Family := colorFamily "border-color" .borderColor (sided "border" "-") []

def outlineColor : Family := colorFamily "outline-color" .outlineColor (sideless "outline") []

def ringColor : Family := colorFamily "ring-color" .ringColor (sideless "ring") []

def ringOffsetColor : Family :=
  colorFamily "ring-offset-color" .ringOffsetColor (sideless "ring-offset") []

def divideColor : Family := colorFamily "divide-color" .divideColor (sideless "divide") []

def fill : Family := colorFamily "fill" .fill (sideless "fill") ["none"]

def stroke : Family := colorFamily "stroke" .stroke (sideless "stroke") ["none"]

def accentColor : Family := colorFamily "accent-color" .accentColor (sideless "accent") ["auto"]

def caretColor : Family := colorFamily "caret-color" .caretColor (sideless "caret") []

def placeholderColor : Family :=
  colorFamily "placeholder-color" .placeholderColor (sideless "placeholder") []

def decorationColor : Family :=
  colorFamily "text-decoration-color" .textDecorationColor (sideless "decoration") []

def shadowColor : Family := colorFamily "shadow-color" .shadowColor (sideless "shadow") []

/-! ## Background images -/

def backgroundImage : Family where
  name := "background-image"
  property := .backgroundImage
  stems := sideless "bg"
  namespaces := ["backgroundImage"]
  scale := some .gradient
  keywords := verbatim ["none"]
  shape := some .image
  references := .hinted

def backgroundSize : Family where
  name := "background-size"
  property := .backgroundSize
  stems := sideless "bg"
  keywords := verbatim ["auto", "cover", "contain"]
  shape := some .size
  references := .hinted

def backgroundPosition : Family where
  name := "background-position"
  property := .backgroundPosition
  stems := sideless "bg"
  keywords := [
    ("bottom", "bottom"), ("center", "center"), ("left", "left"), ("left-bottom", "left bottom"),
    ("left-top", "left top"), ("right", "right"), ("right-bottom", "right bottom"),
    ("right-top", "right top"), ("top", "top")]
  shape := some .position
  references := .hinted

def backgroundRepeat : Family where
  name := "background-repeat"
  property := .backgroundRepeat
  stems := sideless "bg"
  keywords := verbatim ["repeat", "no-repeat", "repeat-x", "repeat-y"] ++ [
    ("repeat-round", "round"), ("repeat-space", "space")]

/-! ## Effects -/

def boxShadow : Family where
  name := "box-shadow"
  property := .boxShadow
  stems := sideless "shadow"
  namespaces := ["boxShadow"]
  scale := some .shadow
  shape := some .shadow
  references := .hinted

def opacity : Family where
  name := "opacity"
  property := .opacity
  stems := sideless "opacity"
  namespaces := ["opacity"]
  scale := some .opacity
  shape := some .number
  references := .accepted

def blur : Family where
  name := "blur"
  property := .blur
  stems := sideless "blur"
  namespaces := ["blur"]
  scale := some .blur
  shape := some .length
  references := .accepted

def backdropBlur : Family where
  name := "backdrop-blur"
  property := .backdropBlur
  stems := sideless "backdrop-blur"
  namespaces := ["backdropBlur", "blur"]
  scale := some .blur
  shape := some .length
  references := .accepted

def mixBlendMode : Family where
  name := "mix-blend-mode"
  property := .mixBlendMode
  stems := sideless "mix-blend"
  keywords := verbatim [
    "normal", "multiply", "screen", "overlay", "darken", "lighten", "color-dodge", "color-burn",
    "hard-light", "soft-light", "difference", "exclusion", "hue", "saturation", "color",
    "luminosity", "plus-darker", "plus-lighter"]

end UtilityStyle.Catalog
