/-
  The texts of colors.

  * `color?_trim`: spaces around a color count for nothing;
  * `color?_of_call`: of the calls only those of the color functions are colors;
  * `color?_of_underscore`: a color has no underscores outside of comments.
-/
import UtilityStyle.Css.Color
import UtilityStyle.Proofs.Css.Underscore

namespace UtilityStyle.Css

open Text

variable {s : List Char}

theorem color?_congr {t : List Char} (h : tokensOf s = tokensOf t) :
    color? (String.ofList s) = color? (String.ofList t) := by
  rw [color?, color?, tokens, tokens, String.toList_ofList, String.toList_ofList, h]

/-- **Spaces around a color** count for nothing. -/
theorem color?_trim (hs : '\\' ∉ s) (hspace : ∀ c ∈ s, isSpace c = true → c = ' ') :
    color? (String.ofList (trim s)) = color? (String.ofList s) :=
  color?_congr (tokensOf_trim hs hspace)

/-- The functions of colors. -/
def colorFunctions : List String := ["rgb", "rgba", "hsl", "hsla"]

theorem calledColor?_of_not_mem {name : String} (h : lowerAscii name ∉ colorFunctions)
    (arguments : List Token) : calledColor? name arguments = none := by
  simp only [colorFunctions, List.mem_cons, List.not_mem_nil, or_false, not_or] at h
  unfold calledColor?
  split
  · next heq => exact absurd heq h.1
  · next heq => exact absurd heq h.2.1
  · next heq => exact absurd heq h.2.2.1
  · next heq => exact absurd heq h.2.2.2
  · rfl

/-- A call of another function is no color. -/
theorem color?_of_call {name r : List Char} (hne : name ≠ [])
    (hname : ∀ c ∈ name, isAsciiLetter c = true) (hr : '\\' ∉ r)
    (hother : lowerAscii (String.ofList name) ∉ colorFunctions) :
    color? (String.ofList (name ++ '(' :: r)) = none := by
  rw [color?, tokens, String.toList_ofList, tokensOf_call hne hname hr, colorAt?,
    calledColor?_of_not_mem hother]
  rfl

/-! ## Underscores -/

/-- The arguments of a call are separators and components. -/
theorem forall_mem_of_channels? {component : Nat → Token → Option Float32}
    {alpha : Token → Option Float32} {P : Token → Prop} {arguments : List Token}
    {channels : Float32 × Float32 × Float32 × Float32}
    (h : channels? component alpha arguments = some channels)
    (hcomponent : ∀ i t, (component i t).isSome → P t) (halpha : ∀ t, (alpha t).isSome → P t)
    (hcomma : P (.symbol ',')) (hslash : P (.symbol '/')) : ∀ t ∈ arguments, P t := by
  have hmem {i : Nat} {t : Token} {value : Float32} (ht : component i t = some value) : P t :=
    hcomponent i t (Option.isSome_of_mem ht)
  unfold channels? at h
  split at h
  · simp only [Option.bind_eq_bind, Option.bind_eq_some_iff] at h
    obtain ⟨_, hx, _, hy, _, hz, -⟩ := h
    simp only [List.forall_mem_cons]
    exact ⟨hmem hx, hcomma, hmem hy, hcomma, hmem hz, nofun⟩
  · simp only [Option.bind_eq_bind, Option.bind_eq_some_iff] at h
    obtain ⟨_, hx, _, hy, _, hz, -⟩ := h
    simp only [List.forall_mem_cons]
    exact ⟨hmem hx, hmem hy, hmem hz, nofun⟩
  · simp only [Option.bind_eq_bind, Option.bind_eq_some_iff] at h
    obtain ⟨_, hx, _, hy, _, hz, _, ha, -⟩ := h
    simp only [List.forall_mem_cons]
    exact ⟨hmem hx, hcomma, hmem hy, hcomma, hmem hz, hcomma,
      halpha _ (Option.isSome_of_mem ha), nofun⟩
  · simp only [Option.bind_eq_bind, Option.bind_eq_some_iff] at h
    obtain ⟨_, hx, _, hy, _, hz, _, ha, -⟩ := h
    simp only [List.forall_mem_cons]
    exact ⟨hmem hx, hmem hy, hmem hz, hslash, halpha _ (Option.isSome_of_mem ha), nofun⟩
  · cases h

/-- A token without an underscore. -/
def Token.IsPlain (t : Token) : Prop := '_' ∉ t.written

theorem isPlain_of_rgbComponent? {i : Nat} {t : Token} (h : (rgbComponent? i t).isSome) :
    t.IsPlain := by
  unfold rgbComponent? at h
  split at h
  · exact List.not_mem_nil
  · exact List.not_mem_nil
  · cases h

theorem isPlain_of_alphaComponent? {t : Token} (h : (alphaComponent? t).isSome) : t.IsPlain := by
  unfold alphaComponent? at h
  split at h
  · exact List.not_mem_nil
  · exact List.not_mem_nil
  · cases h

/-- A name is without underscores if it is in lower case. -/
theorem underscore_not_mem_of_lowerAscii {name lower : String} (h : lowerAscii name = lower)
    (hlower : '_' ∉ lower.toList) : '_' ∉ name.toList := by
  intro hmem
  refine hlower ?_
  rw [← h, lowerAscii, String.toList_ofList]
  exact List.mem_map.2 ⟨'_', hmem, by decide⟩

theorem isPlain_of_hslComponent? {i : Nat} {t : Token} (h : (hslComponent? i t).isSome) :
    t.IsPlain := by
  unfold hslComponent? at h
  split at h
  · exact List.not_mem_nil
  · split at h
    · next hunit => exact underscore_not_mem_of_lowerAscii hunit (by decide)
    · cases h
  · exact List.not_mem_nil
  · cases h

theorem isPlain_symbol {c : Char} (h : c ≠ '_') : (Token.symbol c).IsPlain := by
  simpa [Token.IsPlain, Token.written] using h.symm

theorem isPlain_of_calledColor? {name : String} {arguments : List Token} {color : Color}
    (h : calledColor? name arguments = some color) :
    (Token.function name).IsPlain ∧ ∀ t ∈ arguments, t.IsPlain := by
  have hcomma : (Token.symbol ',').IsPlain := isPlain_symbol (by decide)
  have hslash : (Token.symbol '/').IsPlain := isPlain_symbol (by decide)
  have hrgb (h : rgbColor? arguments = some color) : ∀ t ∈ arguments, t.IsPlain := by
    obtain ⟨channels, hchannels, -⟩ := Option.bind_eq_some_iff.1 h
    exact forall_mem_of_channels? hchannels (fun _ _ => isPlain_of_rgbComponent?)
      (fun _ => isPlain_of_alphaComponent?) hcomma hslash
  have hhsl (h : hslColor? arguments = some color) : ∀ t ∈ arguments, t.IsPlain := by
    obtain ⟨channels, hchannels, -⟩ := Option.bind_eq_some_iff.1 h
    exact forall_mem_of_channels? hchannels (fun _ _ => isPlain_of_hslComponent?)
      (fun _ => isPlain_of_alphaComponent?) hcomma hslash
  unfold calledColor? at h
  split at h
  · next heq => exact ⟨underscore_not_mem_of_lowerAscii heq (by decide), hrgb h⟩
  · next heq => exact ⟨underscore_not_mem_of_lowerAscii heq (by decide), hrgb h⟩
  · next heq => exact ⟨underscore_not_mem_of_lowerAscii heq (by decide), hhsl h⟩
  · next heq => exact ⟨underscore_not_mem_of_lowerAscii heq (by decide), hhsl h⟩
  · cases h

theorem isSome_of_mapM {α β : Type} {f : α → Option β} {l : List α} {found : List β}
    (h : l.mapM f = some found) : ∀ a ∈ l, (f a).isSome := by
  induction l generalizing found with
  | nil => nofun
  | cons a l ih =>
    simp only [List.mapM_cons, Option.bind_eq_bind, Option.bind_eq_some_iff] at h
    obtain ⟨_, ha, _, hl, -⟩ := h
    exact List.forall_mem_cons.2 ⟨Option.isSome_of_mem ha, ih hl⟩

theorem isPlain_of_ofHex? {digits : String} {color : Color}
    (h : Color.ofHex? digits = some color) : (Token.hash digits).IsPlain := by
  intro hmem
  obtain ⟨values, hvalues, -⟩ := Option.bind_eq_some_iff.1 h
  have hdigit := isSome_of_mapM hvalues '_' (underscore_mem_dropWhile hmem rfl)
  exact absurd hdigit (by decide)

theorem isPlain_of_named? {name : String} {color : Color}
    (h : Color.named? name = some color) : (Token.ident name).IsPlain := by
  have hnames : ∀ entry ∈ Color.basicNames, '_' ∉ entry.1.toList := by decide
  simp only [Color.named?] at h
  split at h
  · next heq => exact underscore_not_mem_of_lowerAscii heq (by decide)
  · obtain ⟨hex, hlookup, -⟩ := Option.bind_eq_some_iff.1 h
    obtain ⟨l, r, heq, -⟩ := List.lookup_eq_some_iff.1 hlookup
    have hentry : (lowerAscii name, hex) ∈ Color.basicNames := by
      rw [heq]
      exact List.mem_append_right _ List.mem_cons_self
    have hlower : '_' ∉ (lowerAscii name).toList := hnames (lowerAscii name, hex) hentry
    exact underscore_not_mem_of_lowerAscii (Eq.refl (lowerAscii name)) hlower

/-- A color is made of tokens without underscores. -/
theorem isPlain_of_colorAt? {ts : List Token} {color : Color}
    (h : colorAt? ts = some (color, [])) : ∀ t ∈ ts, t.IsPlain := by
  unfold colorAt? at h
  split at h
  · obtain ⟨_, hhex, heq⟩ := Option.map_eq_some_iff.1 h
    obtain ⟨-, rfl⟩ := Prod.mk.inj heq
    exact List.forall_mem_cons.2 ⟨isPlain_of_ofHex? hhex, nofun⟩
  · obtain ⟨_, hnamed, heq⟩ := Option.map_eq_some_iff.1 h
    obtain ⟨-, rfl⟩ := Prod.mk.inj heq
    exact List.forall_mem_cons.2 ⟨isPlain_of_named? hnamed, nofun⟩
  · next name r =>
    obtain ⟨_, hcalled, heq⟩ := Option.map_eq_some_iff.1 h
    obtain ⟨-, hrest⟩ := Prod.mk.inj heq
    obtain ⟨hname, harguments⟩ := isPlain_of_calledColor? hcalled
    refine List.forall_mem_cons.2 ⟨hname, fun t ht => ?_⟩
    rw [← List.takeWhile_append_dropWhile (p := (· ≠ Token.symbol ')')) (l := r),
      List.mem_append] at ht
    refine ht.elim (harguments t) fun ht => ?_
    -- Nothing but the closing parenthesis is left behind the arguments.
    have hclosing := List.head?_dropWhile_not (fun t => decide (t ≠ Token.symbol ')')) r
    cases hdrop : r.dropWhile (· ≠ Token.symbol ')') with
    | nil =>
      rw [hdrop] at ht
      cases ht
    | cons d rest =>
      rw [hdrop] at ht hclosing
      have hrest : rest = [] := by rw [callArguments, hdrop] at hrest; exact hrest
      subst hrest
      obtain rfl := List.mem_singleton.1 ht
      have ht : t = .symbol ')' := by simpa using hclosing
      rw [ht]
      exact isPlain_symbol (by decide)
  · cases h

/-- **A color has no underscores** outside of comments. -/
theorem color?_of_underscore (hs : '\\' ∉ s) (hcomment : ¬['/', '*'] <:+: s) (h : '_' ∈ s) :
    color? (String.ofList s) = none := by
  obtain ⟨t, ht, hwritten⟩ := exists_underscore_of_mem hs hcomment h
  rw [color?, tokens, String.toList_ofList]
  split
  · next hcolor => exact absurd hwritten (isPlain_of_colorAt? hcolor t ht)
  · rfl

end UtilityStyle.Css
