/-
  Declarations of values that nobody looks into.

  A family passes a reference, CSS text or a color on as it stands.  So the frame of such a utility
  gives the whole declaration but for the value, its origin and the name.

  * `Family.outline?`: the declaration of a frame, with these three left open;
  * `Family.declare?_verbatim`: a family that takes a verbatim value fills its outline;
  * `Family.resolve?_of_sample`: so all utilities with a group in one place are as good as one.
-/
import UtilityStyle.Proofs.Utility.Family
import UtilityStyle.Proofs.Utility.Frame

namespace UtilityStyle

open Text

/-! ## Verbatim values -/

/-- Values that are passed on as they stand: references, CSS text and colors. -/
inductive Value.IsVerbatim : Value → Prop
  | reference (name : String) : IsVerbatim (.variable name)
  | text (css : String) : IsVerbatim (.raw css)
  | color (preset : Option String) (color : Color) : IsVerbatim (.color preset color)

theorem Value.IsVerbatim.isSignable {value : Value} (h : value.IsVerbatim) :
    value.isSignable = true := by
  cases h <;> rfl

/-! ## Outlines -/

/-- The declaration with another value under another name. -/
def Declaration.filled (d : Declaration) (value : Value) (origin : Origin) (raw : String) :
    Declaration :=
  { d with value, origin, raw }

namespace Family

open UtilityToken (Frame)

variable {family : Family} {theme : Theme} {frame : Frame} {value : Value} {origin : Origin}

/-- A verbatim value has no room for a suffix of its own. -/
theorem suffixed?_verbatim (h : value.IsVerbatim) (slash : Option String) :
    family.suffixed? value slash =
      if family.suffix = .leading ∧ slash.isSome then none else some value := by
  unfold suffixed? withLeading?
  cases h <;> cases slash <;> simp

/-- What a frame declares, whatever verbatim value stands in it. -/
def outline? (family : Family) (frame : Frame) : Option Declaration :=
  if frame.negative && !family.signed then none
  else if family.suffix = .leading ∧ frame.slash.isSome then none
  else (family.opacity? (frame.token "" [] (.preset false))).map fun opacity => {
    property := family.property
    value := .raw ""
    opacity
    side := family.side? frame.stem
    negative := frame.negative
    important := frame.important
    raw := "" }

/-- **A family fills its outline** with a verbatim value that it takes. -/
theorem declare?_verbatim {raw : String} {group : List Char} {fragment : Fragment}
    (hverbatim : value.IsVerbatim)
    (hvalue : family.value? theme (frame.token raw group fragment) = some (value, origin)) :
    family.declare? theme (frame.token raw group fragment) =
      (family.outline? frame).map (·.filled value origin raw) := by
  have hopacity : family.opacity? (frame.token raw group fragment) =
      family.opacity? (frame.token "" [] (.preset false)) := rfl
  ext d
  simp only [declare?_eq_some_iff, hvalue, hopacity, outline?, Option.map_eq_some_iff,
    Option.ite_none_left_eq_some]
  constructor
  · rintro ⟨hsigned, opacity, _, _, value', hopacity, hfound, -, hsuffixed, rfl⟩
    obtain ⟨rfl, rfl⟩ := Prod.mk.inj (Option.some.inj hfound)
    rw [suffixed?_verbatim hverbatim, Option.ite_none_left_eq_some] at hsuffixed
    obtain ⟨hslash, hsame⟩ := hsuffixed
    obtain rfl := Option.some.inj hsame
    exact ⟨_, ⟨by simpa [Frame.token] using hsigned, hslash, opacity, hopacity, rfl⟩, rfl⟩
  · rintro ⟨_, ⟨hsigned, hslash, opacity, hopacity, rfl⟩, rfl⟩
    refine ⟨by simpa [Frame.token] using hsigned, opacity, value, origin, value, hopacity, rfl,
      fun _ => hverbatim.isSignable, ?_, rfl⟩
    rw [suffixed?_verbatim hverbatim]
    exact if_neg hslash

theorem declare?_of_value?_eq_none {token : UtilityToken} (h : family.value? theme token = none) :
    family.declare? theme token = none := by
  refine Option.eq_none_iff_forall_ne_some.2 fun d hd => ?_
  obtain ⟨-, _, _, _, _, -, hvalue, -⟩ := declare?_eq_some_iff.1 hd
  rw [h] at hvalue
  cases hvalue

/-- A utility is a group between two texts, and the family takes the group as a verbatim value, or
    not at all. -/
structure HasGroup (family : Family) (theme : Theme) (front back : List Char) (raw : String)
    (taken : Bool) (value : Value) (origin : Origin) : Prop where
  verbatim : value.IsVerbatim
  exists_group : ∃ group fragment, IsOneGroup group ∧ raw.toList = front ++ group ++ back ∧
    Fragment.read? group = some fragment ∧
      ∀ token, token.fragment = fragment →
        family.value? theme token = if taken then some (value, origin) else none

section
variable {front back : List Char}
  (hstems : ∀ stem ∈ family.stems.map (·.1), ∀ c ∈ stem.toList, isBracket c = false)
  (hfront : ∀ c ∈ front, isBracket c = false ∧ c ≠ '/')
include hstems hfront

theorem exists_outline (back : List Char) :
    ∃ outline : Option Declaration, ∀ theme raw taken value origin,
      family.HasGroup theme front back raw taken value origin →
        family.resolve? theme raw =
          if taken then outline.map (·.filled value origin raw) else none := by
  obtain ⟨frame, hframe⟩ :=
    UtilityToken.exists_frame hstems (family.suffix != .absent) hfront back
  refine ⟨frame.bind family.outline?, ?_⟩
  intro theme raw taken value origin h
  obtain ⟨group, fragment, hgroup, hraw, hfragment, hvalue⟩ := h.exists_group
  rw [resolve?, read?, hframe raw group hgroup hraw, hfragment]
  cases frame with
  | none => simp
  | some frame =>
    have hfound := hvalue (frame.token raw group fragment) rfl
    cases taken with
    | true => exact declare?_verbatim h.verbatim hfound
    | false => exact declare?_of_value?_eq_none hfound

/-- **Utilities with a group in one place fill one outline**: what a family makes of one of them
    says what it makes of the others, under all themes.  The text before the group has no brackets
    and slashes; the text after it may be any. -/
theorem resolve?_of_sample {theme theme' : Theme} {raw raw' : String} {taken : Bool}
    {value value' : Value} {origin origin' : Origin}
    (h : family.HasGroup theme front back raw taken value origin)
    (h' : family.HasGroup theme' front back raw' taken value' origin') :
    family.resolve? theme raw =
      (family.resolve? theme' raw').map (·.filled value origin raw) := by
  obtain ⟨outline, houtline⟩ := exists_outline hstems hfront back
  rw [houtline _ _ _ _ _ h, houtline _ _ _ _ _ h']
  cases taken with
  | true =>
    show outline.map _ = (outline.map _).map _
    rw [Option.map_map]
    rfl
  | false => rfl

/-- A group that a family does not take makes no utility. -/
theorem resolve?_of_not_taken {raw : String}
    (h : family.HasGroup theme front back raw false value origin) :
    family.resolve? theme raw = none := by
  obtain ⟨outline, houtline⟩ := exists_outline hstems hfront back
  exact houtline _ _ _ _ _ h

end

end Family

end UtilityStyle
