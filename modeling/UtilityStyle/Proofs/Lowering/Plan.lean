/-
  Plans: what a lowering does, decided without a layer.

  * `Declaration.plan` is the list of the edits of a declaration, or the error;
  * `lower_eq_ofPlan`: lowering a declaration carries its plan out.  The layer has no say in whether
    it succeeds, and an error leaves the layer as it was;
  * `style_eq_editAll`: so styling a layer is a list of edits, which `Declaration.edits` gives.
-/
import UtilityStyle.Lowering
import UtilityStyle.Proofs.Lowering.Edit

namespace UtilityStyle

/-! ## Carrying plans out -/

namespace Lowering

/-- The lowering that makes the edits of a plan, or stops with its error at once. -/
def ofPlan (plan : Except LoweringError (List Edit)) : Lowering Unit := fun layer =>
  match plan with
  | .ok edits => .ok () (layer.editAll edits)
  | .error error => .error error layer

theorem ofPlan_cons (edit : Edit) (edits : List Edit) :
    ofPlan (.ok (edit :: edits)) = (modify edit.apply >>= fun _ => ofPlan (.ok edits)) := rfl

/-- A measure that a plan takes is a measure that its lowering takes. -/
theorem ofPlan_bind {α : Type} (x : Except LoweringError α)
    (f : α → Except LoweringError (List Edit)) :
    ofPlan (x >>= f) = ofExcept x >>= fun a => ofPlan (f a) := by
  cases x <;> rfl

theorem ofPlan_map {α : Type} (x : Except LoweringError α) (f : α → List Edit) :
    ofPlan (x.map f) = ofExcept x >>= fun a => ofPlan (.ok (f a)) := by
  cases x <;> rfl

theorem bind_eq_ofPlan {α : Type} {x : Except LoweringError α} {p : α → Lowering Unit}
    {f : α → Except LoweringError (List Edit)} (h : ∀ a, p a = ofPlan (f a)) :
    ofExcept x >>= p = ofPlan (x >>= f) := by
  rw [ofPlan_bind, funext h]

theorem ite_eq_ofPlan {c : Prop} [Decidable c] {p q : Lowering Unit}
    {x y : Except LoweringError (List Edit)} (hp : p = ofPlan x) (hq : q = ofPlan y) :
    (if c then p else q) = ofPlan (if c then x else y) := by
  split
  · exact hp
  · exact hq

end Lowering

/-! ## Plans of declarations -/

namespace Declaration

/-- The edit of a choice of display. -/
def displayEdit : DisplayChoice → Edit
  | .flexible => .rowUnlessColumn
  | .grid => .layoutMode .grid
  | .hidden => .visible false
  | .flow => .layoutMode .off

/-- The edits of a choice for text that is too long. -/
def overflowEdits : OverflowChoice → List Edit
  | .oneLine => [.truncates true, .maxLines (some 1)]
  | .cutOff => [.truncates true]
  | .shown => [.truncates false]

/-- The edit of a background image; no address clears the images. -/
def imageEdit : Option String → Edit
  | none => .clearImages
  | some url => .addFill (.image url .fill)

/-- The edit of some shadows; the empty list clears them. -/
def shadowEdit (shadows : List Effect) : Edit :=
  if shadows = [] then .clearShadows else .addShadows shadows

/-- The edits of a font size with its line height. -/
def fontEdits (px : Float32) (height : Option LineHeight) : List Edit :=
  .fontSize px :: (height.map .lineHeight).toList

/-- The plan of a declaration for the size of a box on the given axes. -/
def sizePlan (d : Declaration) (options : LoweringOptions) (axes : Axes Bool) :
    Except LoweringError (List Edit) :=
  (d.sizeAndMode options).map fun (size, mode) => [.size axes size mode]

/-- The plan of a declaration for the space, size, border and transform of a box. -/
def boxPlan (d : Declaration) (options : LoweringOptions) : Except LoweringError (List Edit) :=
  let side := d.sideOrAll
  match d.property with
  | .padding => return [.padding side.edges (← d.spacing options)]
  | .margin => return [.margin side.edges (← d.dimension options)]
  | .inset => return [.inset side.edges (← d.dimension options)]
  | .gap | .spaceBetween => return [.gap side.axes (← d.spacing options)]
  | .width => d.sizePlan options onlyX
  | .height => d.sizePlan options onlyY
  | .size => d.sizePlan options (.both true)
  | .minWidth => return [.minWidth (← d.sizeBound options)]
  | .minHeight => return [.minHeight (← d.sizeBound options)]
  | .maxWidth => return [.maxWidth (← d.sizeBound options)]
  | .maxHeight => return [.maxHeight (← d.sizeBound options)]
  | .aspectRatio => return [.aspectRatio (← d.ratio)]
  | .borderWidth => return [.strokeWeight side.edges (← d.lineWidth options options.borderWidth)]
  | .borderStyle => return [.strokeStyle (← d.keywordIn StrokeStyle.ofCss?)]
  | .borderRadius => do
    let px ← d.cornerRadius options
    if side.corners = .all false then d.unsupported else return [.cornerRadius side.corners px]
  | .rotate => return [.rotation (← d.degrees)]
  | .scale => return [.scale side.axes (d.signed (← d.plainNumber))]
  | .translate => return [.displacement side.axes (← d.offset options)]
  | _ => d.unsupported

/-- The plan of a declaration for the place of a node and the arrangement of its children. -/
def layoutPlan (d : Declaration) (options : LoweringOptions) :
    Except LoweringError (List Edit) :=
  match d.property with
  | .display => return [displayEdit (← d.keywordIn display?)]
  | .position => return [.positioning (← d.keywordIn positioning?)]
  | .overflow => return [.clipsContent (← d.keywordIn clips?)]
  | .visibility => return [.visible (← d.keywordIn shows?)]
  | .zIndex =>
    if d.value.keyword? = some "auto" then return [.zIndex none]
    else return [.zIndex (some (← d.wholeNumber))]
  | .order => return [.order (← d.wholeNumber)]
  | .flexDirection => return [.layoutMode (← d.keywordIn direction?)]
  | .flexWrap => return [.layoutWrap (← d.keywordIn wrap?)]
  | .flex => do
    let parts ← d.flexParts options
    return [.flexGrow parts.grow, .flexShrink parts.shrink, .flexBasis parts.basis]
  | .flexGrow => return [.flexGrow (← d.plainNumber)]
  | .flexShrink => return [.flexShrink (← d.plainNumber)]
  | .flexBasis => return [.flexBasis (← d.dimension options)]
  | .justifyContent => return [.primaryAxisAlign (← d.keywordIn contentAlign?)]
  | .alignItems => return [.counterAxisAlign (← d.keywordIn itemAlign?)]
  | .alignSelf =>
    if d.value.keyword? = some "auto" then return [.alignSelf none]
    else return [.alignSelf (some (← d.keywordIn itemAlign?))]
  | .gridTemplateColumns => return [.gridColumns (← d.trackCount)]
  | .gridTemplateRows => return [.gridRows (← d.trackCount)]
  | .gridColumn => return [.columnSpan (← d.count)]
  | .gridRow => return [.rowSpan (← d.count)]
  | _ => d.unsupported

/-- The plan of a declaration that paints. -/
def paintPlan (d : Declaration) (options : LoweringOptions) : Except LoweringError (List Edit) :=
  match d.property with
  | .backgroundColor => return [.addFill (← d.paint)]
  | .backgroundImage => return [imageEdit (← d.image)]
  | .textColor => return [.textFill (← d.paint)]
  | .borderColor =>
    if d.sideOrAll ≠ .all then d.unsupported else return [.stroke (← d.paint)]
  | .ringColor => return [.ringColor (← d.color)]
  | .ringOffsetColor => return [.ringOffsetColor (← d.color)]
  | .ringWidth => return [.ringWidth (← d.lineWidth options options.ringWidth)]
  | .ringOffsetWidth => return [.ringOffsetWidth (← d.lineWidth options 0)]
  | .shadowColor => return [.shadowColor (← d.color)]
  | .boxShadow => return [shadowEdit (← d.shadows options)]
  | .opacity => return [.opacity (Number.clamp 0 1 (← d.plainNumber))]
  | .blur => return [.layerBlur (← d.blurRadius options)]
  | .backdropBlur => return [.backgroundBlur (← d.blurRadius options)]
  | .mixBlendMode => return [.blendMode (blendModeName (← d.orUnsupported d.value.keyword?))]
  | _ => d.unsupported

/-- The plan of a declaration that shapes text. -/
def letteringPlan (d : Declaration) (options : LoweringOptions) :
    Except LoweringError (List Edit) :=
  match d.property with
  | .fontSize => (d.fontMeasure options).map fun (px, height) => fontEdits px height
  | .fontWeight => return [.fontWeight (← d.plainNumber)]
  | .fontFamily => return [.fontFamily (← d.fontFamilies)]
  | .fontStyle => return [.fontStyle (← d.keywordIn fontStyle?)]
  | .lineHeight => return [.lineHeight (← d.lineHeight options)]
  | .letterSpacing => return [.letterSpacing (← d.tracking options)]
  | .textAlign => return [.textAlign (← d.keywordIn TextAlign.ofCss?)]
  | .textDecorationLine => return [.textDecoration (← d.keywordIn decoration?)]
  | .textTransform => return [.textCase (← d.keywordIn letterCase?)]
  | .textOverflow => return overflowEdits (← d.keywordIn overflow?)
  | .lineClamp => do
    let limit ← d.lineLimit
    return [.truncates limit.isSome, .maxLines limit]
  | _ => d.unsupported

/-- The plan of a declaration that does not bind. -/
def literalPlan (d : Declaration) (options : LoweringOptions) :
    Except LoweringError (List Edit) :=
  match d.property with
  | .margin | .padding | .gap | .spaceBetween | .inset | .width | .height | .size | .minWidth
  | .minHeight | .maxWidth | .maxHeight | .aspectRatio | .borderWidth | .borderStyle
  | .borderRadius | .rotate | .scale | .translate => d.boxPlan options
  | .display | .position | .overflow | .visibility | .zIndex | .order | .flexDirection | .flexWrap
  | .flex | .flexGrow | .flexShrink | .flexBasis | .justifyContent | .alignItems | .alignSelf
  | .gridTemplateColumns | .gridTemplateRows | .gridColumn | .gridRow => d.layoutPlan options
  | .backgroundColor | .backgroundImage | .textColor | .borderColor | .ringColor
  | .ringOffsetColor | .ringWidth | .ringOffsetWidth | .shadowColor | .boxShadow | .opacity | .blur
  | .backdropBlur | .mixBlendMode => d.paintPlan options
  | .fontSize | .fontWeight | .fontFamily | .fontStyle | .lineHeight | .letterSpacing | .textAlign
  | .textDecorationLine | .textTransform | .textOverflow | .lineClamp => d.letteringPlan options
  | _ => d.unsupported

/-- The plan of a declaration that binds. -/
def boundPlan (d : Declaration) (binding : Binding) : Except LoweringError (List Edit) :=
  (d.orUnsupported d.boundParts?).map fun parts => parts.map (.bind · binding)

/-- What a declaration does to a layer. -/
def plan (d : Declaration) (options : LoweringOptions) : Except LoweringError (List Edit) :=
  match d.binding? with
  | some binding => d.boundPlan binding
  | none => d.literalPlan options

/-- The CSS text in which a declaration is kept after an error.  Only a declaration that no part of
    a layer stands for is kept, if the options say so. -/
def keptCss? (d : Declaration) (options : LoweringOptions) : LoweringError → Option String
  | .unsupported .. => if options.keepCss then d.cssValue? options else none
  | .invalidValue .. => none

/-- The edits of a declaration, with what is left of it after an error. -/
def edits (d : Declaration) (options : LoweringOptions) : List Edit :=
  match d.plan options with
  | .ok edits => edits
  | .error error => ((d.keptCss? options error).map (.css d.cssProperty)).toList

section
variable {d : Declaration} {options : LoweringOptions} {binding : Binding}

theorem plan_of_unbound (h : d.binding? = none) : d.plan options = d.literalPlan options := by
  rw [plan, h]

theorem plan_of_boundParts {parts : List String} (hb : d.binding? = some binding)
    (hp : d.boundParts? = some parts) :
    d.plan options = .ok (parts.map (.bind · binding)) := by
  rw [plan, hb]
  show (d.orUnsupported d.boundParts?).map _ = _
  rw [hp]
  rfl

theorem plan_of_no_parts (hb : d.binding? = some binding) (hp : d.boundParts? = none) :
    d.plan options = d.unsupported := by
  rw [plan, hb]
  show (d.orUnsupported d.boundParts?).map _ = _
  rw [hp]
  rfl

end

/-! ## Lowering carries the plan out -/

section
variable (d : Declaration) (options : LoweringOptions)
open Lowering

theorem lowerSize_eq_ofPlan (axes : Axes Bool) :
    d.lowerSize options axes = ofPlan (d.sizePlan options axes) := by
  rw [sizePlan, ofPlan_map]; rfl

theorem lowerBox_eq_ofPlan : d.lowerBox options = ofPlan (d.boxPlan options) := by
  obtain ⟨property, value, origin, side, opacity, negative, important, raw⟩ := d
  cases property
  case width | height | size => exact lowerSize_eq_ofPlan _ _ _
  case borderRadius => exact bind_eq_ofPlan fun px => by split <;> rfl
  all_goals first | exact bind_eq_ofPlan fun _ => rfl | rfl

theorem lowerLayout_eq_ofPlan : d.lowerLayout options = ofPlan (d.layoutPlan options) := by
  obtain ⟨property, value, origin, side, opacity, negative, important, raw⟩ := d
  cases property
  case display =>
    refine bind_eq_ofPlan fun choice => ?_
    cases choice with
    | flexible =>
      -- The one lowering that asks the layer: its edit asks the same.
      funext layer
      show (if layer.layoutMode ≠ some .vertical then _ else _ : Lowering Unit) layer =
        .ok () (Edit.rowUnlessColumn.apply layer)
      rw [Edit.apply_rowUnlessColumn, ite_not]
      split <;> rfl
    | grid | hidden | flow => rfl
  case zIndex | alignSelf => exact ite_eq_ofPlan rfl (bind_eq_ofPlan fun _ => rfl)
  all_goals first | exact bind_eq_ofPlan fun _ => rfl | rfl

theorem lowerPaint_eq_ofPlan : d.lowerPaint options = ofPlan (d.paintPlan options) := by
  obtain ⟨property, value, origin, side, opacity, negative, important, raw⟩ := d
  cases property
  case backgroundImage => exact bind_eq_ofPlan fun url => by cases url <;> rfl
  case borderColor => exact ite_eq_ofPlan rfl (bind_eq_ofPlan fun _ => rfl)
  case boxShadow => exact bind_eq_ofPlan fun shadows => by unfold shadowEdit; split <;> rfl
  case blur | backdropBlur =>
    refine bind_eq_ofPlan fun radius => funext fun layer => ?_
    show (if radius > 0 then _ else _ : Lowering Unit) _ =
      .ok () { layer with effects := Edit.replaceBlur _ _ _ layer.effects }
    unfold Edit.replaceBlur
    split <;> rfl
  all_goals first | exact bind_eq_ofPlan fun _ => rfl | rfl

theorem lowerLettering_eq_ofPlan :
    d.lowerLettering options = ofPlan (d.letteringPlan options) := by
  obtain ⟨property, value, origin, side, opacity, negative, important, raw⟩ := d
  cases property
  case fontSize =>
    refine Eq.trans ?_ (ofPlan_map _ _).symm
    refine congrArg (ofExcept _ >>= ·) (funext fun (px, height) => ?_)
    cases height <;> rfl
  case textOverflow => exact bind_eq_ofPlan fun choice => by cases choice <;> rfl
  all_goals first | exact bind_eq_ofPlan fun _ => rfl | rfl

theorem lowerLiteral_eq_ofPlan : d.lowerLiteral options = ofPlan (d.literalPlan options) := by
  unfold lowerLiteral literalPlan
  rw [lowerBox_eq_ofPlan, lowerLayout_eq_ofPlan, lowerPaint_eq_ofPlan, lowerLettering_eq_ofPlan]
  cases d.property <;> rfl

theorem lowerBinding_eq_ofPlan (binding : Binding) :
    d.lowerBinding binding = ofPlan (d.boundPlan binding) := by
  rw [boundPlan, ofPlan_map]
  refine congrArg (ofExcept _ >>= ·) (funext fun parts => ?_)
  induction parts with
  | nil => rfl
  | cons part parts ih => rw [List.forIn_cons, List.map_cons, ofPlan_cons, ← ih]; rfl

/-- **Lowering a declaration carries its plan out.** -/
theorem lower_eq_ofPlan : d.lower options = ofPlan (d.plan options) := by
  unfold lower plan
  cases d.binding? with
  | some binding => exact d.lowerBinding_eq_ofPlan binding
  | none => exact d.lowerLiteral_eq_ofPlan options

theorem layer?_eq_map : d.layer? options = (d.plan options).map Layer.empty.editAll := by
  rw [layer?, lower_eq_ofPlan]
  cases d.plan options <;> rfl

end

end Declaration

/-- **Styling a layer is a list of edits** that the layer has no say in. -/
theorem Layer.style_eq_editAll (options : LoweringOptions) (layer : Layer) (d : Declaration) :
    layer.style options d = layer.editAll (d.edits options) := by
  rw [style, d.lower_eq_ofPlan, Declaration.edits]
  cases d.plan options with
  | ok edits => rfl
  | error error =>
    cases error with
    | invalidValue => rfl
    | unsupported =>
      show (if options.keepCss then _ else _) = layer.editAll (Option.toList (.map _ (ite ..)))
      split
      · cases d.cssValue? options <;> rfl
      · rfl

end UtilityStyle
