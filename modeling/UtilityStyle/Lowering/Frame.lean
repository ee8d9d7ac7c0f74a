/-
  Lowering of geometry and layout.

  * `Declaration.lowerBox`: the space, size, border and transform of a box;
  * `Declaration.lowerLayout`: the place of a node and the arrangement of its children.
-/
import UtilityStyle.Lowering.Basic
import UtilityStyle.Text.Pieces

namespace UtilityStyle

open Number

namespace Declaration

/-! ## Sizes -/

/-- The size and sizing mode of a value.  The words for a full size fill the parent, those for the
    size of the content hug it, percentages fill their share and all else is fixed. -/
def sizeAndMode (d : Declaration) (options : LoweringOptions) :
    Except LoweringError (Option Dimension × SizingMode) :=
  let measured : Except LoweringError (Option Dimension × SizingMode) :=
    (d.dimension options).map fun size => match size with
      | .percent _ => (some size, .fill)
      | _ => (some size, .fixed)
  match d.value.keyword? with
  | none | some "px" => measured
  | some "full" => .ok (some (.percent 100), .fill)
  | some "screen" =>
    if options.screenAsFill then .ok (some (.percent 100), .fill) else d.unsupported
  | some "auto" | some "min-content" | some "max-content" | some "fit-content" => .ok (none, .hug)
  | some _ => d.unsupported

/-- The bound of a size; the word for no bound clears it. -/
def sizeBound (d : Declaration) (options : LoweringOptions) :
    Except LoweringError (Option Dimension) :=
  match d.value.keyword? with
  | none | some "full" | some "px" => (d.dimension options).map some
  | some "none" => .ok none
  | some key =>
    match Scale.container? key with
    | some l => (d.px options l).map fun px => some (.pixels px)
    | none => d.unsupported

/-- A ratio of width to height; the word for an automatic one clears it. -/
def ratio (d : Declaration) : Except LoweringError (Option Float32) :=
  match d.value with
  | .keyword "auto" => .ok none
  | .fraction n m =>
    if m = 0 then d.invalid .ratioNotPositive
    else .ok (some (Float32.ofNat n / Float32.ofNat m))
  | .number n => if n > 0 then .ok (some n) else d.invalid .ratioNotPositive
  | _ => d.unsupported

/-! ## Corners and transforms -/

/-- The pixels of a corner radius. -/
def cornerRadius (d : Declaration) (options : LoweringOptions) : Except LoweringError Float32 :=
  match d.value with
  | .keyword key =>
    match Scale.radii.lookup key with
    | some l => d.px options l
    | none => d.unsupported
  | .length l => if l.unit = .percent then d.unsupported else d.px options l
  | _ => d.unsupported

/-- The degrees of a rotation. -/
def degrees (d : Declaration) : Except LoweringError Float32 :=
  match d.value with
  | .length ⟨degrees, .deg⟩ => .ok (d.signed degrees)
  | _ => d.unsupported

/-- The offset of a displacement, which is never automatic. -/
def offset (d : Declaration) (options : LoweringOptions) : Except LoweringError Dimension := do
  match ← d.dimension options with
  | .auto => d.unsupported
  | offset => return offset

/-! ## Layout -/

/-- The whole number of a value that is a number. -/
def wholeNumber (d : Declaration) : Except LoweringError Int :=
  d.plainNumber.map fun n => wholePart (d.signed n)

/-- The count of a value that is a number of at least one. -/
def count (d : Declaration) : Except LoweringError Nat :=
  match d.value with
  | .number n => if n ≥ 1 then .ok (wholeCount n) else d.unsupported
  | _ => d.unsupported

/-- A number of grid tracks; the word for none clears it. -/
def trackCount (d : Declaration) : Except LoweringError (Option Nat) :=
  match d.value with
  | .keyword "none" => .ok none
  | _ => d.count.map some

/-- What a keyword of the display property asks of a layer. -/
inductive DisplayChoice where
  /-- Children in a row, unless they are in a column. -/
  | flexible
  | grid
  | hidden
  /-- Children without a direction. -/
  | flow
deriving DecidableEq, Repr

/-- What a keyword of the display property asks for. -/
def display? (keyword : String) : Option DisplayChoice :=
  match keyword with
  | "flex" | "inline-flex" => some .flexible
  | "grid" | "inline-grid" => some .grid
  | "none" => some .hidden
  | "block" | "inline" | "inline-block" | "flow-root" | "list-item" | "table" => some .flow
  | _ => none

/-- The direction of a flexible layout. -/
def direction? (keyword : String) : Option LayoutMode :=
  match keyword with
  | "row" | "row-reverse" => some .horizontal
  | "column" | "column-reverse" => some .vertical
  | _ => none

/-- Whether a flexible layout wraps. -/
def wrap? (keyword : String) : Option LayoutWrap :=
  match keyword with
  | "wrap" | "wrap-reverse" => some .wrap
  | "nowrap" => some .noWrap
  | _ => none

/-- The distribution of content along a layout. -/
def contentAlign? (keyword : String) : Option AxisAlign :=
  match keyword with
  | "flex-start" | "normal" => some .min
  | "center" => some .center
  | "flex-end" => some .max
  | "space-between" => some .spaceBetween
  | _ => none

/-- The alignment of items across a layout. -/
def itemAlign? (keyword : String) : Option AxisAlign :=
  match keyword with
  | "flex-start" => some .min
  | "center" => some .center
  | "flex-end" => some .max
  | "baseline" => some .baseline
  | "stretch" => some .stretch
  | _ => none

/-- Whether a node takes part in the layout of its parent. -/
def positioning? (keyword : String) : Option Positioning :=
  match keyword with
  | "absolute" | "fixed" => some .absolute
  | "static" | "relative" | "sticky" => some .auto
  | _ => none

/-- Whether overflow is cut off. -/
def clips? (keyword : String) : Option Bool :=
  match keyword with
  | "hidden" | "clip" | "auto" | "scroll" => some true
  | "visible" => some false
  | _ => none

/-- Whether a node shows. -/
def shows? (keyword : String) : Option Bool :=
  match keyword with
  | "visible" => some true
  | "hidden" | "collapse" => some false
  | _ => none

/-! ## The flex shorthand -/

/-- The factors and the basis of a flexible child. -/
structure FlexParts where
  grow : Float32
  shrink : Float32
  basis : Dimension

/-- A factor in the shorthand. -/
def flexFactor (d : Declaration) (text : String) (word : List Char) :
    Except LoweringError Float32 :=
  match readSingle? word with
  | some n => .ok n
  | none => d.invalid (.badFlex text)

/-- The basis in the shorthand. -/
def flexBasis (d : Declaration) (options : LoweringOptions) (text : String) (word : List Char) :
    Except LoweringError Dimension :=
  if String.ofList word = "auto" then .ok .auto
  else match Length.ofCss? (String.ofList word) with
    | none => d.invalid (.badFlex text)
    | some ⟨percent, .percent⟩ => .ok (.percent percent)
    | some l => (d.px options l).map .pixels

/-- The parts that a shorthand text gives: growth, shrinkage and basis, of which the last two may
    be missing. -/
def flexText (d : Declaration) (options : LoweringOptions) (text : String) :
    Except LoweringError FlexParts :=
  match Text.words text.toList with
  | [grow] => return ⟨← d.flexFactor text grow, 1, .percent 0⟩
  | [grow, shrink] => return ⟨← d.flexFactor text grow, ← d.flexFactor text shrink, .percent 0⟩
  | [grow, shrink, basis] => do
    let basis ← d.flexBasis options text basis
    return ⟨← d.flexFactor text grow, ← d.flexFactor text shrink, basis⟩
  | _ => d.invalid (.badFlex text)

/-- The parts of a shorthand value. -/
def flexParts (d : Declaration) (options : LoweringOptions) : Except LoweringError FlexParts :=
  match d.value with
  | .keyword "none" => .ok ⟨0, 0, .auto⟩
  | .number n => .ok ⟨n, 1, .percent 0⟩
  | .keyword text | .raw text => d.flexText options text
  | _ => d.unsupported

/-! ## Lowering -/

/-- The horizontal axis. -/
def onlyX : Axes Bool := ⟨true, false⟩

/-- The vertical axis. -/
def onlyY : Axes Bool := ⟨false, true⟩

/-- Lowers a declaration for the size of a box on the given axes. -/
def lowerSize (d : Declaration) (options : LoweringOptions) (axes : Axes Bool) :
    Lowering Unit := do
  let (size, mode) ← d.sizeAndMode options
  modify fun layer => { layer with size := layer.size.set axes size }
  modify fun layer => { layer with sizing := layer.sizing.set axes (some mode) }

/-- Lowers a declaration for the space, size, border and transform of a box. -/
def lowerBox (d : Declaration) (options : LoweringOptions) : Lowering Unit :=
  let side := d.sideOrAll
  match d.property with
  | .padding => do
    let px ← d.spacing options
    modify fun layer => { layer with padding := layer.padding.set side.edges (some px) }
  | .margin => do
    let distance ← d.dimension options
    modify fun layer => { layer with margin := layer.margin.set side.edges (some distance) }
  | .inset => do
    let distance ← d.dimension options
    modify fun layer => { layer with inset := layer.inset.set side.edges (some distance) }
  | .gap | .spaceBetween => do
    let px ← d.spacing options
    modify fun layer => { layer with gap := layer.gap.set side.axes (some px) }
  | .width => d.lowerSize options onlyX
  | .height => d.lowerSize options onlyY
  | .size => d.lowerSize options (.both true)
  | .minWidth => do
    let bound ← d.sizeBound options
    modify fun layer => { layer with minSize := layer.minSize.set onlyX bound }
  | .minHeight => do
    let bound ← d.sizeBound options
    modify fun layer => { layer with minSize := layer.minSize.set onlyY bound }
  | .maxWidth => do
    let bound ← d.sizeBound options
    modify fun layer => { layer with maxSize := layer.maxSize.set onlyX bound }
  | .maxHeight => do
    let bound ← d.sizeBound options
    modify fun layer => { layer with maxSize := layer.maxSize.set onlyY bound }
  | .aspectRatio => do
    let ratio ← d.ratio
    modify fun layer => { layer with aspectRatio := ratio }
  | .borderWidth => do
    let px ← d.lineWidth options options.borderWidth
    modify fun layer => { layer with strokeWeight := layer.strokeWeight.set side.edges (some px) }
  | .borderStyle => do
    let style ← d.keywordIn StrokeStyle.ofCss?
    modify fun layer => { layer with strokeStyle := some style }
  | .borderRadius => do
    let px ← d.cornerRadius options
    if side.corners = .all false then d.unsupported
    else
      modify fun layer =>
        { layer with
          cornerRadii := some ((layer.cornerRadii.getD (.all 0)).set side.corners px) }
  | .rotate => do
    let degrees ← d.degrees
    modify fun layer => { layer with rotation := some degrees }
  | .scale => do
    let factor ← d.plainNumber
    modify fun layer => { layer with scale := layer.scale.set side.axes (some (d.signed factor)) }
  | .translate => do
    let offset ← d.offset options
    modify fun layer =>
      { layer with displacement := layer.displacement.set side.axes (some offset) }
  | _ => d.unsupported

/-- Lowers a declaration for the place of a node and the arrangement of its children. -/
def lowerLayout (d : Declaration) (options : LoweringOptions) : Lowering Unit :=
  match d.property with
  | .display => do
    match ← d.keywordIn display? with
    | .flexible =>
      -- A column that was asked for earlier stays.
      if (← get).layoutMode ≠ some .vertical then
        modify fun layer => { layer with layoutMode := some .horizontal }
    | .grid => modify fun layer => { layer with layoutMode := some .grid }
    | .hidden => modify fun layer => { layer with visible := some false }
    | .flow => modify fun layer => { layer with layoutMode := some .off }
  | .position => do
    let choice ← d.keywordIn positioning?
    modify fun layer => { layer with positioning := some choice }
  | .overflow => do
    let clips ← d.keywordIn clips?
    modify fun layer => { layer with clipsContent := some clips }
  | .visibility => do
    let shown ← d.keywordIn shows?
    modify fun layer => { layer with visible := some shown }
  | .zIndex => do
    if d.value.keyword? = some "auto" then modify fun layer => { layer with zIndex := none }
    else
      let place ← d.wholeNumber
      modify fun layer => { layer with zIndex := some place }
  | .order => do
    let place ← d.wholeNumber
    modify fun layer => { layer with order := some place }
  | .flexDirection => do
    let mode ← d.keywordIn direction?
    modify fun layer => { layer with layoutMode := some mode }
  | .flexWrap => do
    let lines ← d.keywordIn wrap?
    modify fun layer => { layer with layoutWrap := some lines }
  | .flex => do
    let parts ← d.flexParts options
    modify fun layer => { layer with flexGrow := some parts.grow }
    modify fun layer => { layer with flexShrink := some parts.shrink }
    modify fun layer => { layer with flexBasis := some parts.basis }
  | .flexGrow => do
    let factor ← d.plainNumber
    modify fun layer => { layer with flexGrow := some factor }
  | .flexShrink => do
    let factor ← d.plainNumber
    modify fun layer => { layer with flexShrink := some factor }
  | .flexBasis => do
    let basis ← d.dimension options
    modify fun layer => { layer with flexBasis := some basis }
  | .justifyContent => do
    let align ← d.keywordIn contentAlign?
    modify fun layer => { layer with primaryAxisAlign := some align }
  | .alignItems => do
    let align ← d.keywordIn itemAlign?
    modify fun layer => { layer with counterAxisAlign := some align }
  | .alignSelf => do
    if d.value.keyword? = some "auto" then modify fun layer => { layer with alignSelf := none }
    else
      let align ← d.keywordIn itemAlign?
      modify fun layer => { layer with alignSelf := some align }
  | .gridTemplateColumns => do
    let count ← d.trackCount
    modify fun layer => { layer with gridTracks := layer.gridTracks.set onlyX count }
  | .gridTemplateRows => do
    let count ← d.trackCount
    modify fun layer => { layer with gridTracks := layer.gridTracks.set onlyY count }
  | .gridColumn => do
    let count ← d.count
    modify fun layer => { layer with gridSpan := layer.gridSpan.set onlyX (some count) }
  | .gridRow => do
    let count ← d.count
    modify fun layer => { layer with gridSpan := layer.gridSpan.set onlyY (some count) }
  | _ => d.unsupported

end Declaration

end UtilityStyle
