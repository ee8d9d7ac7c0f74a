/-
  Shadow lists as they are written.

  * `WrittenShadow` is a shadow as a list of its pieces, with lengths that are not resolved yet, and
    `Written` is the grammar of a list of shadows.  Neither knows of a root font size;
  * `shadowLayers?_of_written` and `written_of_shadowLayers?`: the reader of shadow layers follows
    the grammar and resolves the lengths (`WrittenShadow.effect`);
  * `shadows?_eq_some_iff`: so the shadows of a text are those that are written there, each with two
    to four lengths, and there are none of them if the text is the word for none.
-/
import UtilityStyle.Css.Shadow

namespace UtilityStyle

/-! ## Lengths with a size in pixels -/

namespace Length

variable {root px : Float32} {l : Length}

/-- The length has a size in pixels, which does not hang on anything but the root font size. -/
def HasPixels (l : Length) : Prop := l.unit = .px ∨ l.unit = .rem ∨ l.unit = .em

/-- The size in pixels of a length that has one. -/
def pixels (root : Float32) (l : Length) : Float32 := (l.toPx? root).getD 0

theorem toPx?_of_hasPixels (h : l.HasPixels) (root : Float32) :
    l.toPx? root = some (l.pixels root) := by
  obtain ⟨value, unit⟩ := l
  rcases h with h | h | h <;> cases h <;> rfl

theorem hasPixels_of_toPx? (h : l.toPx? root = some px) :
    l.HasPixels ∧ px = l.pixels root := by
  have hpx : px = l.pixels root := by rw [pixels, h, Option.getD_some]
  refine ⟨?_, hpx⟩
  obtain ⟨value, unit⟩ := l
  cases unit
  case px => exact .inl rfl
  case rem => exact .inr (.inl rfl)
  case em => exact .inr (.inr rfl)
  all_goals cases h

theorem isSome_toPx?_iff : (l.toPx? root).isSome ↔ l.HasPixels := by
  refine ⟨fun h => ?_, fun h => by rw [toPx?_of_hasPixels h, Option.isSome_some]⟩
  obtain ⟨px, hpx⟩ := Option.isSome_iff_exists.1 h
  exact (hasPixels_of_toPx? hpx).1

/-- A unit has a size in pixels under every root font size, or under none. -/
theorem isSome_toPx?_congr (root root' : Float32) (l : Length) :
    (l.toPx? root).isSome = (l.toPx? root').isSome := by
  rw [Bool.eq_iff_iff, isSome_toPx?_iff, isSome_toPx?_iff]

/-- A length in pixels does not hang on the root font size. -/
theorem pixels_of_px (h : l.unit = .px) (root : Float32) : l.pixels root = l.value := by
  rw [pixels, toPx?, h]
  rfl

end Length

namespace Css

variable {root : Float32} {ts r : List Token} {t : Token}

/-! ## Written shadows -/

/-- A piece of a shadow as it is written. -/
inductive ShadowPiece where
  /-- The word for an inner shadow. -/
  | inset
  | color (color : Color)
  | length (l : Length)
deriving DecidableEq

namespace ShadowPiece

def color? : ShadowPiece → Option Color
  | color c => some c
  | _ => none

def length? : ShadowPiece → Option Length
  | length l => some l
  | _ => none

/-- The piece stands at the front of some tokens, and the others follow it. -/
inductive Begins : ShadowPiece → List Token → List Token → Prop
  | inset {name r} : Text.lowerAscii name = "inset" → Begins inset (.ident name :: r) r
  | color {c ts r} : colorAt? ts = some (c, r) → Begins (color c) ts r
  | length {l t r} : Length.ofToken? t = some l → l.HasPixels → Begins (length l) (t :: r) r

end ShadowPiece

/-- A shadow as it is written: its pieces in their order. -/
abbrev WrittenShadow := List ShadowPiece

namespace WrittenShadow

/-- The lengths of a shadow: its offsets, its blur and its spread. -/
def lengths (w : WrittenShadow) : List Length := w.filterMap (·.length?)

/-- The color of a shadow, which is the last one of several. -/
def color? (w : WrittenShadow) : Option Color := (w.filterMap (·.color?)).getLast?

/-- The shadow has lengths for both offsets, and none but these, a blur and a spread. -/
def IsComplete (w : WrittenShadow) : Prop := 2 ≤ w.lengths.length ∧ w.lengths.length ≤ 4

/-- The size in pixels of the length at a position.  A missing one is zero. -/
def measure (root : Float32) (w : WrittenShadow) (i : Nat) : Float32 :=
  (w.lengths[i]?).elim 0 (·.pixels root)

/-- The effect of a shadow. -/
def effect (root : Float32) (w : WrittenShadow) : Effect :=
  let shadow : Shadow :=
    ⟨w.color?.getD defaultShadowColor, w.measure root 0, w.measure root 1, w.measure root 2,
      w.measure root 3⟩
  if .inset ∈ w then .innerShadow shadow else .dropShadow shadow

/-- The parts of a shadow, with its lengths resolved. -/
def parts (root : Float32) (w : WrittenShadow) : ShadowParts :=
  ⟨w.lengths.map (·.pixels root), w.color?, decide (.inset ∈ w)⟩

variable (root : Float32) (w : WrittenShadow)

theorem parts_inset :
    parts root (w ++ [ShadowPiece.inset]) = { parts root w with inset := true } := by
  simp [parts, lengths, color?, ShadowPiece.length?, ShadowPiece.color?]

theorem parts_color (c : Color) :
    parts root (w ++ [ShadowPiece.color c]) = { parts root w with color := some c } := by
  simp [parts, lengths, color?, ShadowPiece.length?, ShadowPiece.color?]

theorem lengths_length (l : Length) : lengths (w ++ [ShadowPiece.length l]) = w.lengths ++ [l] := by
  simp [lengths, ShadowPiece.length?]

theorem parts_length (l : Length) :
    parts root (w ++ [ShadowPiece.length l]) =
      { parts root w with lengths := (parts root w).lengths ++ [l.pixels root] } := by
  simp [parts, lengths, color?, ShadowPiece.length?, ShadowPiece.color?]

theorem lengths_append (w w' : WrittenShadow) : lengths (w ++ w') = w.lengths ++ w'.lengths :=
  List.filterMap_append

/-- The parts of a complete shadow have its effect, and those of another one have none. -/
theorem effect?_parts {e : Effect} :
    (w.parts root).effect? = some e ↔ w.IsComplete ∧ e = w.effect root := by
  unfold IsComplete effect measure parts ShadowParts.effect?
  rcases w.lengths with _ | ⟨x, _ | ⟨y, _ | ⟨blur, _ | ⟨spread, _ | ⟨_, _⟩⟩⟩⟩⟩ <;>
    simp [eq_comm]

end WrittenShadow

/-- The shadows that tokens spell, with commas between them. -/
inductive Written : List Token → List WrittenShadow → Prop
  | nil : Written [] [[]]
  | comma {r ws} : Written r ws → Written (.symbol ',' :: r) ([] :: ws)
  | piece {piece ts r w ws} : ShadowPiece.Begins piece ts r → Written r (w :: ws) →
    Written ts ((piece :: w) :: ws)

/-- At least one shadow is written, even if it has no pieces. -/
theorem Written.exists_cons {ws : List WrittenShadow} (h : Written ts ws) :
    ∃ w ws', ws = w :: ws' := by
  cases h <;> exact ⟨_, _, rfl⟩

/-- The tokens are the word for no shadows, of any case, and nothing else. -/
inductive IsNone : List Token → Prop
  | word {name} : Text.lowerAscii name = "none" → IsNone [.ident name]

/-! ## Reading -/

/-- The words of a shadow list are no names of colors. -/
theorem named?_eq_none {name : String} (h : Text.lowerAscii name ∈ ["inset", "none"]) :
    Color.named? name = none := by
  have hwords : ∀ key ∈ ["inset", "none"],
      (if key = "transparent" then some Color.transparent
        else (Color.basicNames.lookup key).bind Color.ofHex?) = none := by decide
  exact hwords _ h

/-- Whether the token is the word that turns a shadow inside. -/
def isInset : Token → Bool
  | .ident name => Text.lowerAscii name == "inset"
  | _ => false

/-- What a token that ends no layer adds to it: the word for an inner shadow, a color or a
    length. -/
theorem shadowLayers?_cons {t : Token} (h : t ≠ .symbol ',') (parts : ShadowParts)
    (r : List Token) :
    shadowLayers? root parts (t :: r) =
      if isInset t then shadowLayers? root { parts with inset := true } r
      else match colorAt? (t :: r) with
        | some (color, rest) => shadowLayers? root { parts with color } rest
        | none => (shadowPx? root t).bind fun px =>
          if parts.lengths.length < 4 then
            shadowLayers? root { parts with lengths := parts.lengths ++ [px] } r
          else none := by
  rw [shadowLayers?.eq_def]
  split
  · next heq => cases heq
  · next heq => exact absurd (List.cons.inj heq).1 h
  · next heq =>
    obtain ⟨rfl, rfl⟩ := List.cons.inj heq
    refine congrArg (ite _ _) ?_
    split
    · next hcolor => rw [hcolor]
    · next hcolor =>
      rw [hcolor]
      cases shadowPx? root t <;> rfl

theorem shadowPx?_eq (t : Token) : shadowPx? root t = (Length.ofToken? t).bind (·.toPx? root) := by
  cases t with
  | dimension value unit =>
    show (LengthUnit.ofCss? unit).bind _ = ((LengthUnit.ofCss? unit).map _).bind _
    rw [Option.bind_map]
    rfl
  | number value =>
    show (if _ then _ else _) = Option.bind (if _ then _ else _) _
    split <;> rfl
  | _ => rfl

/-- A piece at the front is read, as long as there are not too many lengths. -/
theorem shadowLayers?_of_begins {piece : ShadowPiece} (h : piece.Begins ts r) {w : WrittenShadow}
    (hw : (WrittenShadow.lengths (w ++ [piece])).length ≤ 4) :
    shadowLayers? root (w.parts root) ts =
      shadowLayers? root (WrittenShadow.parts root (w ++ [piece])) r := by
  cases h with
  | @inset name r hname =>
    have hcomma : Token.ident name ≠ .symbol ',' := nofun
    have hinset : isInset (.ident name) = true := beq_iff_eq.2 hname
    rw [shadowLayers?_cons hcomma, if_pos hinset, WrittenShadow.parts_inset]
  | @color c ts r hcolor =>
    cases ts with
    | nil => cases hcolor
    | cons t ts =>
      have hcomma : t ≠ .symbol ',' := by
        rintro rfl
        cases hcolor
      have hinset : isInset t = false := by
        cases t with
        | ident name =>
          refine beq_eq_false_iff_ne.2 fun hname => ?_
          simp [colorAt?, named?_eq_none (List.mem_cons.2 (.inl hname))] at hcolor
        | _ => rfl
      rw [shadowLayers?_cons hcomma, hinset, hcolor, WrittenShadow.parts_color]
      rfl
  | @length l t r hl hpixels =>
    rw [WrittenShadow.lengths_length, List.length_append, List.length_singleton] at hw
    have hlengths : (w.parts root).lengths.length < 4 := by
      rw [WrittenShadow.parts, List.length_map]
      exact hw
    have hcomma : t ≠ .symbol ',' := by
      rintro rfl
      cases hl
    have hinset : isInset t = false := by
      cases t <;> first | rfl | cases hl
    have hcolor : colorAt? (t :: r) = none := by
      cases t <;> first | rfl | cases hl
    rw [shadowLayers?_cons hcomma, hinset, hcolor, shadowPx?_eq, hl]
    simp only [Option.bind_some, Length.toPx?_of_hasPixels hpixels, if_pos hlengths,
      WrittenShadow.parts_length, Bool.false_eq_true, if_false]

/-- The tokens go on with the shadow that `w` begins, and all shadows together have the effects. -/
def GoesOn (root : Float32) (w : WrittenShadow) (ts : List Token) (es : List Effect) : Prop :=
  ∃ w' ws, Written ts (w' :: ws) ∧ (∀ x ∈ (w ++ w') :: ws, WrittenShadow.IsComplete x) ∧
    es = ((w ++ w') :: ws).map (WrittenShadow.effect root)

theorem GoesOn.piece {piece : ShadowPiece} (hpiece : piece.Begins ts r) {w : WrittenShadow}
    {es : List Effect} (h : GoesOn root (w ++ [piece]) r es) : GoesOn root w ts es := by
  obtain ⟨w', ws, hwritten, hcomplete, rfl⟩ := h
  rw [← List.append_cons] at hcomplete ⊢
  exact ⟨piece :: w', ws, .piece hpiece hwritten, hcomplete, rfl⟩

/-- What is written is read. -/
theorem shadowLayers?_of_written {w w' : WrittenShadow} {ws : List WrittenShadow}
    (h : Written ts (w' :: ws)) (hcomplete : ∀ x ∈ (w ++ w') :: ws, WrittenShadow.IsComplete x) :
    shadowLayers? root (w.parts root) ts =
      some (((w ++ w') :: ws).map (WrittenShadow.effect root)) := by
  generalize hall : w' :: ws = all at h
  induction h generalizing w w' ws with
  | nil =>
    cases hall
    rw [List.append_nil] at hcomplete ⊢
    have hw : w.IsComplete := hcomplete w List.mem_cons_self
    rw [shadowLayers?, (WrittenShadow.effect?_parts root w).2 ⟨hw, rfl⟩]
    rfl
  | @comma r all hr ih =>
    obtain ⟨rfl, rfl⟩ := List.cons.inj hall
    obtain ⟨w₁, ws, rfl⟩ := hr.exists_cons
    rw [List.append_nil] at hcomplete ⊢
    obtain ⟨hw, hws⟩ := List.forall_mem_cons.1 hcomplete
    have hrest : shadowLayers? root {} r = some ((w₁ :: ws).map (WrittenShadow.effect root)) :=
      ih (w := []) hws rfl
    rw [shadowLayers?, (WrittenShadow.effect?_parts root w).2 ⟨hw, rfl⟩, hrest]
    rfl
  | @piece piece ts r w'' ws' hpiece hr ih =>
    cases hall
    rw [List.append_cons] at hcomplete ⊢
    have hlengths : (WrittenShadow.lengths (w ++ [piece])).length ≤ 4 := by
      refine Nat.le_trans ?_ (hcomplete _ List.mem_cons_self).2
      rw [WrittenShadow.lengths_append (w ++ [piece]) w'', List.length_append]
      exact Nat.le_add_right ..
    rw [shadowLayers?_of_begins hpiece hlengths]
    exact ih hcomplete rfl

/-- What is read is written. -/
theorem goesOn_of_shadowLayers? {w : WrittenShadow} {es : List Effect}
    (h : shadowLayers? root (w.parts root) ts = some es) : GoesOn root w ts es := by
  generalize hparts : w.parts root = parts at h
  fun_induction shadowLayers? root parts ts generalizing w es with
  | case1 parts =>
    subst hparts
    obtain ⟨e, he, rfl⟩ := Option.map_eq_some_iff.1 h
    obtain ⟨hw, rfl⟩ := (WrittenShadow.effect?_parts root w).1 he
    refine ⟨[], [], .nil, ?_⟩
    rw [List.append_nil]
    exact ⟨List.forall_mem_singleton.2 hw, rfl⟩
  | case2 parts r ih =>
    subst hparts
    obtain ⟨e, he, h⟩ := Option.bind_eq_some_iff.1 h
    obtain ⟨es', hes, h⟩ := Option.bind_eq_some_iff.1 h
    cases h
    obtain ⟨hw, rfl⟩ := (WrittenShadow.effect?_parts root w).1 he
    obtain ⟨w₁, ws, hwritten, hcomplete, rfl⟩ := ih (w := []) rfl hes
    refine ⟨[], w₁ :: ws, .comma hwritten, ?_⟩
    rw [List.append_nil]
    exact ⟨List.forall_mem_cons.2 ⟨hw, hcomplete⟩, rfl⟩
  | case3 parts t r _ _ hinset =>
    rename_i ih
    subst hparts
    replace hinset : isInset t = true := hinset
    cases t with
    | ident name => exact .piece (.inset (beq_iff_eq.1 hinset)) (ih (WrittenShadow.parts_inset ..) h)
    | _ => cases hinset
  | case4 parts t r _ _ _ c rest hcolor =>
    rename_i ih
    subst hparts
    exact .piece (.color hcolor) (ih (WrittenShadow.parts_color ..) h)
  | case5 parts t r _ _ _ _ px hpx =>
    rename_i ih
    subst hparts
    rw [shadowPx?_eq] at hpx
    obtain ⟨l, hl, hpx⟩ := Option.bind_eq_some_iff.1 hpx
    obtain ⟨hpixels, rfl⟩ := Length.hasPixels_of_toPx? hpx
    exact .piece (.length hl hpixels) (ih (WrittenShadow.parts_length ..) h)
  | case6 => cases h
  | case7 => cases h

/-- **The layers that are read** are those that are written, with two to four lengths each. -/
theorem shadowLayers?_eq_some_iff {es : List Effect} :
    shadowLayers? root {} ts = some es ↔
      ∃ ws, Written ts ws ∧ (∀ w ∈ ws, WrittenShadow.IsComplete w) ∧
        es = ws.map (WrittenShadow.effect root) := by
  constructor
  · intro h
    obtain ⟨w, ws, hwritten, hcomplete, rfl⟩ := goesOn_of_shadowLayers? (w := []) h
    exact ⟨w :: ws, hwritten, hcomplete, rfl⟩
  · rintro ⟨ws, hwritten, hcomplete, rfl⟩
    obtain ⟨w, ws, rfl⟩ := hwritten.exists_cons
    exact shadowLayers?_of_written (w := []) hwritten hcomplete

/-- No shadow begins with the word for no shadows. -/
theorem not_written_none {name : String} (h : Text.lowerAscii name = "none")
    (ws : List WrittenShadow) : ¬Written (.ident name :: r) ws := by
  intro hwritten
  cases hwritten with
  | piece hpiece =>
    cases hpiece with
    | inset hname => exact absurd (h.symm.trans hname) (by decide)
    | color hcolor =>
      have hword : Text.lowerAscii name ∈ ["inset", "none"] := by simp [h]
      rw [colorAt?, named?_eq_none hword] at hcolor
      cases hcolor
    | length hl => cases hl

/-- **The shadows of a text** are those that are written there, unless it is the word for none. -/
theorem shadows?_eq_some_iff {text : String} {es : List Effect} :
    shadows? root text = some es ↔
      IsNone (tokens text) ∧ es = [] ∨
        ∃ ws, Written (tokens text) ws ∧ (∀ w ∈ ws, WrittenShadow.IsComplete w) ∧
          es = ws.map (WrittenShadow.effect root) := by
  have hlayers : ∀ {ts}, ¬IsNone ts → (shadowLayers? root {} ts = some es ↔
      IsNone ts ∧ es = [] ∨ ∃ ws, Written ts ws ∧ (∀ w ∈ ws, WrittenShadow.IsComplete w) ∧
        es = ws.map (WrittenShadow.effect root)) := by
    intro ts hnone
    rw [shadowLayers?_eq_some_iff]
    simp only [hnone, false_and, false_or]
  unfold shadows?
  split
  · next name r heq =>
    rw [heq]
    split
    · next hname =>
      have hwritten (ws) : ¬Written (.ident name :: r) ws := not_written_none hname ws
      cases r with
      | nil =>
        have hnone : IsNone [.ident name] := .word hname
        simp [hnone, hwritten, eq_comm]
      | cons t r =>
        have hnone : ¬IsNone (.ident name :: t :: r) := nofun
        simp [hnone, hwritten]
    · next hname =>
      exact hlayers fun | .word h => hname h
  · next hident =>
    refine hlayers fun hnone => ?_
    generalize hts : tokens text = ts at hnone
    cases hnone
    exact hident _ _ hts

theorem isSome_shadows?_iff {text : String} :
    (shadows? root text).isSome ↔
      IsNone (tokens text) ∨
        ∃ ws, Written (tokens text) ws ∧ ∀ w ∈ ws, WrittenShadow.IsComplete w := by
  rw [Option.isSome_iff_exists]
  constructor
  · rintro ⟨es, h⟩
    rcases shadows?_eq_some_iff.1 h with ⟨hnone, -⟩ | ⟨ws, hwritten, hcomplete, -⟩
    · exact .inl hnone
    · exact .inr ⟨ws, hwritten, hcomplete⟩
  · rintro (hnone | ⟨ws, hwritten, hcomplete⟩)
    · exact ⟨[], shadows?_eq_some_iff.2 (.inl ⟨hnone, rfl⟩)⟩
    · exact ⟨_, shadows?_eq_some_iff.2 (.inr ⟨ws, hwritten, hcomplete, rfl⟩)⟩

/-- **Whether a text is a shadow list** does not hang on the root font size. -/
theorem isSome_shadows?_congr (root root' : Float32) (text : String) :
    (shadows? root text).isSome = (shadows? root' text).isSome := by
  rw [Bool.eq_iff_iff, isSome_shadows?_iff, isSome_shadows?_iff]

example (root : Float32) : (shadows? root "0 1rem 2px, INSET red 1px 1em").isSome = true := by
  rw [isSome_shadows?_congr root 16]
  decide +kernel

/-- Only the word for none is a list without shadows. -/
theorem shadows?_eq_nil_iff {text : String} : shadows? root text = some [] ↔ IsNone (tokens text) := by
  rw [shadows?_eq_some_iff]
  constructor
  · rintro (⟨hnone, -⟩ | ⟨ws, hwritten, -, hmap⟩)
    · exact hnone
    · obtain ⟨w, ws, rfl⟩ := hwritten.exists_cons
      cases hmap
  · exact fun hnone => .inl ⟨hnone, rfl⟩

theorem WrittenShadow.isShadow_effect (root : Float32) (w : WrittenShadow) :
    (w.effect root).isShadow = true := by
  unfold effect
  dsimp only
  split <;> rfl

/-- A text is read as shadows. -/
theorem isShadow_of_shadows? {text : String} {es : List Effect} (h : shadows? root text = some es) :
    ∀ e ∈ es, e.isShadow = true := by
  rcases shadows?_eq_some_iff.1 h with ⟨-, rfl⟩ | ⟨ws, -, -, rfl⟩
  · nofun
  · intro e he
    obtain ⟨w, -, rfl⟩ := List.mem_map.1 he
    exact w.isShadow_effect root

end Css

end UtilityStyle
