/-
  Utilities for the arrangement of boxes: flexible rows, grids, alignment, stacking and overflow.
-/
import UtilityStyle.Catalog.Box

namespace UtilityStyle.Catalog

/-! ## Flexible rows -/

def flex : Family where
  name := "flex"
  property := .flex
  stems := sideless "flex"
  namespaces := ["flex"]
  keywords := [("1", "1 1 0%"), ("auto", "1 1 auto"), ("initial", "0 1 auto"), ("none", "none")]
  shape := some .any
  references := .accepted

def flexDirection : Family where
  name := "flex-direction"
  property := .flexDirection
  stems := sideless "flex"
  keywords := [
    ("row", "row"), ("row-reverse", "row-reverse"), ("col", "column"),
    ("col-reverse", "column-reverse")]

def flexWrap : Family where
  name := "flex-wrap"
  property := .flexWrap
  stems := sideless "flex"
  keywords := verbatim ["wrap", "wrap-reverse", "nowrap"]

def flexGrow : Family where
  name := "flex-grow"
  property := .flexGrow
  stems := sideless "grow"
  namespaces := ["flexGrow"]
  scale := some .factor
  shape := some .number
  references := .accepted

def flexShrink : Family where
  name := "flex-shrink"
  property := .flexShrink
  stems := sideless "shrink"
  namespaces := ["flexShrink"]
  scale := some .factor
  shape := some .number
  references := .accepted

def order : Family where
  name := "order"
  property := .order
  stems := sideless "order"
  namespaces := ["order"]
  scale := some .order
  shape := some .integer
  references := .accepted
  signed := true

/-! ## Alignment -/

/-- The places of content along an axis. -/
def contentPlaces : List (String × String) := [
  ("normal", "normal"), ("start", "flex-start"), ("end", "flex-end"), ("center", "center"),
  ("between", "space-between"), ("around", "space-around"), ("evenly", "space-evenly"),
  ("stretch", "stretch"), ("baseline", "baseline")]

/-- The places of items across an axis. -/
def itemPlaces : List (String × String) := [
  ("start", "flex-start"), ("end", "flex-end"), ("center", "center"), ("baseline", "baseline"),
  ("stretch", "stretch")]

/-- A family of keywords for one stem. -/
def keywordFamily (name : String) (property : Property) (stem : String)
    (keywords : List (String × String)) : Family where
  name := name
  property := property
  stems := sideless stem
  keywords := keywords

def justifyContent : Family :=
  keywordFamily "justify-content" .justifyContent "justify" contentPlaces

def justifyItems : Family :=
  keywordFamily "justify-items" .justifyItems "justify-items" itemPlaces

def justifySelf : Family :=
  keywordFamily "justify-self" .justifySelf "justify-self" (("auto", "auto") :: itemPlaces)

def alignItems : Family := keywordFamily "align-items" .alignItems "items" itemPlaces

def alignSelf : Family :=
  keywordFamily "align-self" .alignSelf "self" (("auto", "auto") :: itemPlaces)

def alignContent : Family := keywordFamily "align-content" .alignContent "content" contentPlaces

def placeContent : Family :=
  keywordFamily "place-content" .placeContent "place-content" contentPlaces

/-! ## Grids -/

def gridTemplateColumns : Family where
  name := "grid-template-columns"
  property := .gridTemplateColumns
  stems := sideless "grid-cols"
  namespaces := ["gridTemplateColumns"]
  scale := some .number
  keywords := verbatim ["none", "subgrid"]
  shape := some .any
  references := .accepted

def gridTemplateRows : Family where
  name := "grid-template-rows"
  property := .gridTemplateRows
  stems := sideless "grid-rows"
  namespaces := ["gridTemplateRows"]
  scale := some .number
  keywords := verbatim ["none", "subgrid"]
  shape := some .any
  references := .accepted

def gridColumn : Family where
  name := "grid-column"
  property := .gridColumn
  stems := sideless "col-span"
  scale := some .number
  keywords := verbatim ["full"]
  shape := some .integer
  references := .accepted

def gridRow : Family where
  name := "grid-row"
  property := .gridRow
  stems := sideless "row-span"
  scale := some .number
  keywords := verbatim ["full"]
  shape := some .integer
  references := .accepted

/-! ## Stacking, overflow and replaced content -/

def zIndex : Family where
  name := "z-index"
  property := .zIndex
  stems := sideless "z"
  namespaces := ["zIndex"]
  scale := some .number
  keywords := verbatim ["auto"]
  shape := some .integer
  references := .accepted
  signed := true

def overflow : Family where
  name := "overflow"
  property := .overflow
  stems := axial "overflow"
  keywords := verbatim ["auto", "hidden", "clip", "visible", "scroll"]

def objectFit : Family :=
  keywordFamily "object-fit" .objectFit "object"
    (verbatim ["contain", "cover", "fill", "none", "scale-down"])

def aspectRatio : Family where
  name := "aspect-ratio"
  property := .aspectRatio
  stems := sideless "aspect"
  namespaces := ["aspectRatio"]
  scale := some .aspectRatio
  keywords := verbatim ["auto"]
  shape := some .ratio
  references := .accepted

def boxSizing : Family :=
  keywordFamily "box-sizing" .boxSizing "box"
    [("border", "border-box"), ("content", "content-box")]

end UtilityStyle.Catalog
