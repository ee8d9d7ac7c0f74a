/-
  Utilities for transforms, animations and interaction.
-/
import UtilityStyle.Catalog.Box

namespace UtilityStyle.Catalog

/-! ## Transforms -/

def rotate : Family where
  name := "rotate"
  property := .rotate
  stems := sideless "rotate"
  namespaces := ["rotate"]
  scale := some .degrees
  shape := some .angle
  references := .accepted
  signed := true

def scale : Family where
  name := "scale"
  property := .scale
  stems := axial "scale"
  namespaces := ["scale"]
  scale := some .percentage
  shape := some .number
  references := .accepted
  signed := true

def translate : Family where
  name := "translate"
  property := .translate
  stems := perAxis "translate"
  namespaces := ["translate", "spacing"]
  scale := some .spacingOrFraction
  keywords := verbatim ["full"]
  shape := some .length
  references := .accepted
  signed := true

def skew : Family where
  name := "skew"
  property := .skew
  stems := perAxis "skew"
  namespaces := ["skew"]
  scale := some .degrees
  shape := some .angle
  references := .accepted
  signed := true

def transformOrigin : Family where
  name := "transform-origin"
  property := .transformOrigin
  stems := sideless "origin"
  namespaces := ["transformOrigin"]
  keywords := [
    ("center", "center"), ("top", "top"), ("top-right", "top right"), ("right", "right"),
    ("bottom-right", "bottom right"), ("bottom", "bottom"), ("bottom-left", "bottom left"),
    ("left", "left"), ("top-left", "top left")]
  shape := some .position
  references := .accepted

/-! ## Animations and transitions -/

def animation : Family where
  name := "animation"
  property := .animation
  stems := sideless "animate"
  namespaces := ["animation"]
  scale := some .animation
  shape := some .any
  references := .accepted

def transitionProperty : Family where
  name := "transition-property"
  property := .transitionProperty
  stems := sideless "transition"
  namespaces := ["transitionProperty"]
  scale := some .transition
  shape := some .any
  references := .accepted

def transitionDuration : Family where
  name := "transition-duration"
  property := .transitionDuration
  stems := sideless "duration"
  namespaces := ["transitionDuration"]
  scale := some .milliseconds
  shape := some .time
  references := .accepted

def transitionDelay : Family where
  name := "transition-delay"
  property := .transitionDelay
  stems := sideless "delay"
  namespaces := ["transitionDelay"]
  scale := some .milliseconds
  shape := some .time
  references := .accepted

def transitionTimingFunction : Family where
  name := "transition-timing-function"
  property := .transitionTimingFunction
  stems := sideless "ease"
  namespaces := ["transitionTimingFunction"]
  scale := some .easing
  shape := some .any
  references := .accepted

/-! ## Interaction -/

def cursor : Family where
  name := "cursor"
  property := .cursor
  stems := sideless "cursor"
  namespaces := ["cursor"]
  keywords := verbatim [
    "auto", "default", "pointer", "wait", "text", "move", "help", "not-allowed", "none",
    "context-menu", "progress", "cell", "crosshair", "vertical-text", "alias", "copy", "no-drop",
    "grab", "grabbing", "all-scroll", "col-resize", "row-resize", "n-resize", "e-resize",
    "s-resize", "w-resize", "ne-resize", "nw-resize", "se-resize", "sw-resize", "ew-resize",
    "ns-resize", "nesw-resize", "nwse-resize", "zoom-in", "zoom-out"]
  shape := some .any
  references := .accepted

def pointerEvents : Family where
  name := "pointer-events"
  property := .pointerEvents
  stems := sideless "pointer-events"
  keywords := verbatim ["none", "auto"]

def userSelect : Family where
  name := "user-select"
  property := .userSelect
  stems := sideless "select"
  keywords := verbatim ["none", "text", "all", "auto"]

end UtilityStyle.Catalog
