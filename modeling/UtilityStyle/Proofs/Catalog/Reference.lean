/-
  The two spellings of a custom property.

  A custom property stands in parentheses, or in a call of `var` in square brackets, each time
  behind a type hint or not.

  * `Fragment.read?_referenceText`, `Fragment.read?_varText`: how the two are read;
  * `Family.value?_var`: a family that takes custom properties takes both alike;
  * `Layer.style_filled`: where a reference comes from does not matter to a layer;
  * `Catalog.reference_spellings`: so the built-in families take both spellings or neither, and
    both mean the same for every layer.
-/
import UtilityStyle.Proofs.Catalog
import UtilityStyle.Proofs.Lowering.Atomic
import UtilityStyle.Proofs.Utility.Call
import UtilityStyle.Proofs.Utility.Outline

namespace UtilityStyle

open Text

/-! ## Spellings -/

/-- A custom property in parentheses. -/
def referenceText (hint : Option String) (name : String) : String :=
  "(" ++ String.ofList (hintText hint) ++ "--" ++ name ++ ")"

/-- A custom property in a call of `var` in square brackets. -/
def varText (hint : Option String) (name : String) : String :=
  "[" ++ String.ofList (hintText hint) ++ "var(--" ++ name ++ ")]"

/-- What stands before the value of a utility: its marks, its stem and a dash. -/
def frontText (important negative : Bool) (stem : String) : String :=
  (if important then "!" else "") ++ (if negative then "-" else "") ++ stem ++ "-"

/-- What may stand behind the two dashes of a custom property. -/
def IsPropertyName (name : List Char) : Prop :=
  name ≠ [] ∧ ∀ c ∈ name, isAsciiAlphanumeric c ∨ c = '-' ∨ c = '_'

section
variable {hint : Option String} {name : String} (hhint : ∀ h ∈ hint, h ∈ typeHints)
  (hname : IsPropertyName name.toList)
include hhint hname

theorem isReference_referenceText :
    IsReference (referenceText hint name).toList hint name.toList where
  eq_append := by simp [referenceText]
  hint_mem := hhint
  name_ne_nil := hname.1
  name_chars := hname.2

theorem isOneGroup_referenceText : IsOneGroup (referenceText hint name).toList :=
  ⟨.round, _, (Fragment.isReference_iff.1 (isReference_referenceText hhint hname)).1⟩

theorem Fragment.read?_referenceText :
    read? (referenceText hint name).toList = some (customProperty hint ("--" ++ name)) := by
  rw [read?_of_isReference (isReference_referenceText hhint hname)]
  simp [← String.toList_inj]

omit hhint in
theorem isCall_var :
    IsCall Form.var.name ("var(--" ++ name ++ ")").toList ("--" ++ name).toList := by
  refine ⟨("(--" ++ name ++ ")").toList, by simp [Form.name],
    by simp [Bracket.opening, Bracket.closing], ?_⟩
  refine nested_of_forall_not_isBracket fun c hc => Fragment.isBracket_of_nameChar ?_
  have hc : c = '-' ∨ c ∈ name.toList := by simpa using hc
  rcases hc with rfl | hc
  · exact .inr (.inl rfl)
  · exact hname.2 c hc

theorem isOneGroup_varText : IsOneGroup (varText hint name).toList := by
  refine ⟨.square, hintText hint ++ ("var(--" ++ name ++ ")").toList,
    by simp [varText, Bracket.opening, Bracket.closing], ?_⟩
  exact (nested_of_forall_not_isBracket (Fragment.isBracket_hintText hhint)).append
    ((isCall_var hname).nested (by decide))

theorem Fragment.read?_varText :
    read? (varText hint name).toList = some (arbitrary hint .var ("--" ++ name)) := by
  have hblank : isBlank ("--" ++ name).toList = false :=
    List.all_eq_false.2 ⟨'-', by simp, by decide⟩
  have hread := read?_of_isCall hhint (by decide) (isCall_var hname) hblank
  have htext : (varText hint name).toList =
      '[' :: (hintText hint ++ ("var(--" ++ name ++ ")").toList ++ [']']) := by
    simp [varText]
  rw [htext, hread, Form.kept, String.ofList_toList]

end

/-! ## Families -/

namespace Family

variable {family : Family} {hint : Option String} {name : String}

/-- A family that takes custom properties judges a call of `var` as it does a reference. -/
theorem value?_var (hreferences : family.references ≠ .rejected) {theme : Theme}
    {token : UtilityToken} (h : token.fragment = .arbitrary hint .var name) :
    family.value? theme token =
      if family.acceptsReference hint then some (.variable name, .arbitrary) else none := by
  rw [value?, h]
  dsimp only
  unfold acceptsReference contentValue?
  cases family.shape with
  | none => rfl
  | some shape => cases hrefs : family.references <;> cases hint <;> simp_all

section
variable (family) (front : String) (hhint : ∀ h ∈ hint, h ∈ typeHints)
  (hname : IsPropertyName name.toList) (theme : Theme) (back : String)
include hhint hname

theorem hasGroup_referenceText :
    family.HasGroup theme front.toList back.toList (front ++ referenceText hint name ++ back)
      (family.acceptsReference hint) (.variable ("--" ++ name)) .customProperty where
  verbatim := .reference _
  exists_group := ⟨_, _, isOneGroup_referenceText hhint hname, by simp,
    Fragment.read?_referenceText hhint hname, fun token h => by rw [value?, h]⟩

theorem hasGroup_varText (hreferences : family.references ≠ .rejected) :
    family.HasGroup theme front.toList back.toList (front ++ varText hint name ++ back)
      (family.acceptsReference hint) (.variable ("--" ++ name)) .arbitrary where
  verbatim := .reference _
  exists_group := ⟨_, _, isOneGroup_varText hhint hname, by simp,
    Fragment.read?_varText hhint hname, fun token h => value?_var hreferences h⟩

end

end Family

/-! ## Layers -/

section
variable {d : Declaration} {name : String} (hvalue : d.value = .variable name)
  (options : LoweringOptions) (origin : Origin) (raw : String)
include hvalue

theorem Declaration.exists_binding? : ∃ binding, d.binding? = some binding := by
  rw [binding?, opaqueBinding?, hvalue]
  cases d.negative <;> exact ⟨_, rfl⟩

/-- The plan of a reference does not depend on where it comes from, but for its name in an error. -/
theorem Declaration.plan_filled :
    (∃ edits, d.plan options = .ok edits ∧
      (d.filled (.variable name) origin raw).plan options = .ok edits) ∨
    d.plan options = d.unsupported ∧
      (d.filled (.variable name) origin raw).plan options =
        (d.filled (.variable name) origin raw).unsupported := by
  obtain ⟨binding, hbinding⟩ := exists_binding? hvalue
  have hfilled : (d.filled (.variable name) origin raw).binding? = some binding := by
    rw [← hbinding, binding?, binding?, opaqueBinding?, opaqueBinding?, hvalue]
    rfl
  cases hparts : d.boundParts? with
  | some parts =>
    exact .inl ⟨_, plan_of_boundParts hbinding hparts, plan_of_boundParts hfilled hparts⟩
  | none => exact .inr ⟨plan_of_no_parts hbinding hparts, plan_of_no_parts hfilled hparts⟩

theorem Declaration.layer?_filled :
    ((d.filled (.variable name) origin raw).layer? options).toOption =
      (d.layer? options).toOption := by
  rw [layer?_eq_map, layer?_eq_map]
  rcases plan_filled hvalue options origin raw with ⟨edits, hplan, hfilled⟩ | ⟨hplan, hfilled⟩
  · rw [hplan, hfilled]
  · rw [hplan, hfilled]
    rfl

/-- **A reference does the same to a layer** wherever it comes from. -/
theorem Layer.style_filled (layer : Layer) :
    layer.style options (d.filled (.variable name) origin raw) = layer.style options d := by
  rw [style_eq_editAll, style_eq_editAll]
  rcases d.plan_filled hvalue options origin raw with ⟨edits, hplan, hfilled⟩ | ⟨hplan, hfilled⟩
  · rw [Declaration.edits_of_plan_ok hplan, Declaration.edits_of_plan_ok hfilled]
  · rw [Declaration.edits_of_plan_error hplan, Declaration.edits_of_plan_error hfilled]
    have hcss : (d.filled (.variable name) origin raw).cssValue? options = d.cssValue? options := by
      rw [Declaration.cssValue?, Declaration.cssValue?, Declaration.cssMagnitude?,
        Declaration.cssMagnitude?, hvalue]
      rfl
    rw [Declaration.keptCss?, Declaration.keptCss?, hcss]
    rfl

end

/-! ## The catalog -/

namespace Catalog

theorem frontText_plain {stem : String} (hstem : ∀ c ∈ stem.toList, isBracket c = false ∧ c ≠ '/')
    (important negative : Bool) :
    ∀ c ∈ (frontText important negative stem).toList, isBracket c = false ∧ c ≠ '/' := by
  intro c hc
  have hcases : c = '!' ∨ c = '-' ∨ c ∈ stem.toList := by
    cases important <;> cases negative <;> simp [frontText] at hc <;> tauto
  rcases hcases with rfl | rfl | hc
  · decide
  · decide
  · exact hstem c hc

/-- **The two spellings of a custom property agree.**  A built-in family that takes custom
    properties takes one in parentheses if and only if it takes the same one in a call of `var` in
    square brackets, under every theme, behind the same type hint, marks and stem, and with the same
    text after it, such as a suffix or a mark of importance.  The declarations differ in their
    origins and names alone, and do the same to every layer. -/
theorem reference_spellings {family : Family} (hmem : family ∈ families)
    (hreferences : family.references ≠ .rejected) {stem : String}
    (hstem : stem ∈ family.stems.map (·.1)) {hint : Option String}
    (hhint : ∀ h ∈ hint, h ∈ typeHints) {name : String} (hname : IsPropertyName name.toList)
    (theme : Theme) (important negative : Bool) (back : String) :
    let parenthesized := frontText important negative stem ++ referenceText hint name ++ back
    let bracketed := frontText important negative stem ++ varText hint name ++ back
    (family.resolve? theme bracketed =
      (family.resolve? theme parenthesized).map
        fun d => { d with origin := .arbitrary, raw := bracketed }) ∧
      ∀ d, family.resolve? theme parenthesized = some d →
        d.value = .variable ("--" ++ name) ∧ d.origin = .customProperty ∧ d.raw = parenthesized ∧
          ∀ d', d' = { d with origin := .arbitrary, raw := bracketed } → ∀ options,
            (d'.layer? options).toOption = (d.layer? options).toOption ∧
              ∀ layer : Layer, layer.style options d' = layer.style options d := by
  intro parenthesized bracketed
  have hstems := isBracket_of_mem_stem hmem
  have hfront := frontText_plain (stem_plain family hmem stem hstem) important negative
  have hparenthesized := family.hasGroup_referenceText (frontText important negative stem)
    hhint hname theme back
  have hbracketed := family.hasGroup_varText (frontText important negative stem)
    hhint hname theme back hreferences
  have hfilled : ∀ d, family.resolve? theme parenthesized = some d →
      ∃ d' : Declaration,
        d = d'.filled (.variable ("--" ++ name)) .customProperty parenthesized := by
    intro d hd
    have hself := Family.resolve?_of_sample hstems hfront hparenthesized hparenthesized
    obtain ⟨d', -, hd'⟩ := Option.map_eq_some_iff.1 (hself.symm.trans hd)
    exact ⟨d', hd'.symm⟩
  refine ⟨?_, fun d hd => ?_⟩
  · rw [Family.resolve?_of_sample hstems hfront hbracketed hparenthesized]
    refine Option.map_congr fun d hd => ?_
    obtain ⟨d', rfl⟩ := hfilled d hd
    rfl
  · obtain ⟨d, rfl⟩ := hfilled d hd
    refine ⟨rfl, rfl, rfl, ?_⟩
    rintro _ rfl options
    exact ⟨Declaration.layer?_filled rfl options .arbitrary bracketed,
      Layer.style_filled rfl options .arbitrary bracketed⟩

/-- The color of two borders in both spellings, with a hint, an opacity and a mark of importance. -/
theorem reference_spellings_border :
    ∃ d, borderColor.resolve? .empty "border-x-(color:--line)/50!" = some d ∧
      d.value = .variable "--line" ∧ d.opacity = some 50 ∧ d.important = true ∧
      let d' := { d with origin := .arbitrary, raw := "border-x-[color:var(--line)]/50!" }
      borderColor.resolve? .empty "border-x-[color:var(--line)]/50!" = some d' ∧
        ∀ options, (d'.layer? options).toOption = (d.layer? options).toOption ∧
          ∀ layer : Layer, layer.style options d' = layer.style options d := by
  have hd : ∃ d, borderColor.resolve? .empty "border-x-(color:--line)/50!" = some d ∧
      d.opacity = some 50 ∧ d.important = true := by
    decide +kernel
  obtain ⟨d, hresolve, hopacity, himportant⟩ := hd
  have hmem : borderColor ∈ families := by simp [families]
  have hstem : "border-x" ∈ borderColor.stems.map (·.1) := by decide
  have hhint : ∀ h ∈ some "color", h ∈ typeHints := by decide
  have hname : IsPropertyName "line".toList := ⟨by decide, by decide⟩
  have hspellings := reference_spellings hmem (by decide) hstem hhint hname .empty false false
    "/50!"
  have hreference : frontText false false "border-x" ++ referenceText (some "color") "line" ++
      "/50!" = "border-x-(color:--line)/50!" := by decide
  have hvar : frontText false false "border-x" ++ varText (some "color") "line" ++ "/50!" =
      "border-x-[color:var(--line)]/50!" := by decide
  dsimp only at hspellings
  rw [hreference, hvar, hresolve] at hspellings
  obtain ⟨hbracketed, hsame⟩ := hspellings
  obtain ⟨hvalue, -, -, hlayer⟩ := hsame d rfl
  exact ⟨d, hresolve, hvalue, hopacity, himportant, hbracketed, hlayer _ rfl⟩

end Catalog

end UtilityStyle
