/-
  Tables that accept keys, and tables that resolve them.

  A keyword is accepted by the scale or the keyword table of a family, and looked up again by its
  property when it is resolved.

  * `Property.scale?` is the scale that a property resolves keywords with, and
    `isSome_cssKeyword?_iff` says that it has CSS text for what this scale has;
  * `Declaration.IsResolvable`: the value is proper, or a keyword of that scale;
  * `Catalog.isResolvable_of_read?`: without a theme every known utility declares such a value;
  * `Catalog.style_of_read?_empty`: so each of them has CSS text, and is lowered or kept unless its
    value is at fault.
-/
import UtilityStyle.Proofs.Catalog
import UtilityStyle.Proofs.Css.Shadow
import UtilityStyle.Proofs.Lowering.Atomic

namespace UtilityStyle

/-! ## Keywords of properties -/

namespace Property

/-- The scale that the keywords of a property are resolved with. -/
def scale? : Property → Option Scale
  | animation => some .animation
  | transitionProperty => some .transition
  | transitionTimingFunction => some .easing
  | boxShadow => some .shadow
  | borderRadius => some .radius
  | blur | backdropBlur => some .blur
  | _ => none

/-- **A keyword has CSS text** if the scale of its property has it. -/
theorem isSome_cssKeyword?_iff {property : Property} {options : LoweringOptions} {key : String} :
    (property.cssKeyword? options key).isSome ↔
      ∀ scale ∈ property.scale?, (scale.value? key).isSome := by
  cases property
  case animation | transitionProperty | transitionTimingFunction | boxShadow | borderRadius |
      blur | backdropBlur =>
    simp [cssKeyword?, scale?, Scale.value?, Scale.keywordIn?]
  case maxWidth =>
    simp only [cssKeyword?, scale?]
    split <;> simp
  all_goals simp [cssKeyword?, scale?]

end Property

theorem Scale.exists_of_keywordIn? {α : Type} {table : List (String × α)} {key : String}
    (h : (keywordIn? table key).isSome) : ∃ a, table.lookup key = some a := by
  rw [keywordIn?, Option.isSome_map] at h
  exact Option.isSome_iff_exists.1 h

/-! ## Declarations that can be resolved -/

/-- The value is proper, or a keyword that its property resolves.  A radius belongs to a corner. -/
structure Declaration.IsResolvable (d : Declaration) : Prop where
  value : d.value.IsProper ∨
    ∃ key, d.value = .keyword key ∧ ∀ scale ∈ d.property.scale?, (scale.value? key).isSome
  corners : d.property = .borderRadius → d.sideOrAll.corners ≠ .all false

namespace Declaration.IsResolvable

variable {d : Declaration} {options : LoweringOptions} {key : String}

/-- **CSS can be written** for what can be resolved. -/
theorem isSome_cssValue? (h : d.IsResolvable) (options : LoweringOptions) :
    (d.cssValue? options).isSome := by
  rw [cssValue?, Option.isSome_map, cssMagnitude?]
  rcases h.value with hproper | ⟨key, hvalue, hscale⟩
  · cases hvalue : d.value with
    | keyword => simp [hvalue, Value.IsProper] at hproper
    | fraction numerator denominator =>
      have hne : denominator ≠ 0 := by simpa [hvalue, Value.IsProper] using hproper
      simp [Value.percent?, hne]
    | color preset c => simp [fadedColor?, hvalue, Value.color?]
    | _ => rfl
  · rw [hvalue]
    exact Property.isSome_cssKeyword?_iff.2 hscale

/-- The scale of a property has the keyword of a declaration. -/
theorem isSome_value? (h : d.IsResolvable) (hvalue : d.value = .keyword key) {scale : Scale}
    (hscale : d.property.scale? = some scale) : (scale.value? key).isSome := by
  rcases h.value with hproper | ⟨key', hvalue', hkeys⟩
  · simp [hvalue, Value.IsProper] at hproper
  · obtain rfl := Value.keyword.inj (hvalue.symm.trans hvalue')
    exact hkeys scale hscale

/-! ## Lowering keywords -/

theorem exists_cornerRadius (h : d.IsResolvable) (hvalue : d.value = .keyword key)
    (hproperty : d.property = .borderRadius) (options : LoweringOptions) :
    ∃ px, d.cornerRadius options = .ok px := by
  have hscale : d.property.scale? = some .radius := by rw [hproperty]; rfl
  obtain ⟨l, hlookup⟩ := Scale.exists_of_keywordIn? (h.isSome_value? hvalue hscale)
  have hunits : ∀ entry ∈ Scale.radii, (entry.2.toPx? 16).isSome := by decide +kernel
  have hpx : (l.toPx? options.rootFontSize).isSome := by
    rw [Length.isSome_toPx?_congr options.rootFontSize 16]
    exact hunits _ (mem_of_lookup hlookup)
  obtain ⟨px, hpx⟩ := Option.isSome_iff_exists.1 hpx
  refine ⟨px, ?_⟩
  rw [cornerRadius, hvalue]
  simp only [hlookup, Declaration.px, hpx]

theorem exists_shadows (h : d.IsResolvable) (hvalue : d.value = .keyword key)
    (hproperty : d.property = .boxShadow) (options : LoweringOptions) :
    ∃ shadows, d.shadows options = .ok shadows := by
  have hscale : d.property.scale? = some .shadow := by rw [hproperty]; rfl
  obtain ⟨css, hlookup⟩ := Scale.exists_of_keywordIn? (h.isSome_value? hvalue hscale)
  have htexts : ∀ entry ∈ Scale.shadows, (Css.shadows? 16 entry.2).isSome := by decide +kernel
  have hread : (Css.shadows? options.rootFontSize css).isSome := by
    rw [Css.isSome_shadows?_congr options.rootFontSize 16]
    exact htexts _ (mem_of_lookup hlookup)
  obtain ⟨shadows, hread⟩ := Option.isSome_iff_exists.1 hread
  refine ⟨shadows, ?_⟩
  rw [Declaration.shadows, hvalue]
  simp only [hlookup, shadowsOf, hread]

theorem exists_blurRadius (h : d.IsResolvable) (hvalue : d.value = .keyword key)
    (hscale : d.property.scale? = some .blur) (options : LoweringOptions) :
    ∃ radius, d.blurRadius options = .ok radius := by
  obtain ⟨radius, hlookup⟩ := Scale.exists_of_keywordIn? (h.isSome_value? hvalue hscale)
  refine ⟨radius, ?_⟩
  rw [blurRadius, hvalue]
  simp only [hlookup, orUnsupported]

/-- **A keyword for corners, shadows or blurs** can be lowered. -/
theorem exists_plan (h : d.IsResolvable) (hvalue : d.value = .keyword key)
    (hproperty : d.property ∈ [.borderRadius, .boxShadow, .blur, .backdropBlur])
    (options : LoweringOptions) : ∃ edits, d.plan options = .ok edits := by
  have hunbound : d.binding? = none := by
    rw [binding?, opaqueBinding?, hvalue]
    rfl
  rw [plan_of_unbound hunbound]
  simp only [List.mem_cons, List.not_mem_nil, or_false] at hproperty
  rcases hproperty with hp | hp | hp | hp
  · obtain ⟨px, hpx⟩ := h.exists_cornerRadius hvalue hp options
    refine ⟨[.cornerRadius d.sideOrAll.corners px], ?_⟩
    simp only [literalPlan, boxPlan, hp, hpx]
    exact if_neg (h.corners hp)
  · obtain ⟨shadows, hshadows⟩ := h.exists_shadows hvalue hp options
    refine ⟨[shadowEdit shadows], ?_⟩
    simp only [literalPlan, paintPlan, hp, hshadows]
    rfl
  · obtain ⟨radius, hradius⟩ := h.exists_blurRadius hvalue (by rw [hp]; rfl) options
    refine ⟨[.layerBlur radius], ?_⟩
    simp only [literalPlan, paintPlan, hp, hradius]
    rfl
  · obtain ⟨radius, hradius⟩ := h.exists_blurRadius hvalue (by rw [hp]; rfl) options
    refine ⟨[.backgroundBlur radius], ?_⟩
    simp only [literalPlan, paintPlan, hp, hradius]
    rfl

end Declaration.IsResolvable

/-! ## The catalog -/

namespace Catalog

variable {raw : String} {d : Declaration} {family : Family}

/-- A family takes the keywords that its property resolves, and no others. -/
theorem isSome_value?_of_hasKeyword (hm : family ∈ families) {key : String}
    (hkey : family.HasKeyword key) {scale : Scale} (hscale : family.property.scale? = some scale) :
    (scale.value? key).isSome := by
  have htables : ∀ family ∈ families, family.property.scale?.isSome →
      family.scale = family.property.scale? ∧ family.keywords = [] := by
    decide +kernel
  obtain ⟨heq, hnone⟩ := htables family hm (Option.isSome_of_mem hscale)
  rcases hkey with ⟨scale', hscale', hsome⟩ | hmem
  · rw [heq, hscale] at hscale'
    obtain rfl := Option.some.inj hscale'
    exact hsome
  · simp [hnone] at hmem

/-- A stem for radii selects a side with corners. -/
theorem corners_of_side? (hm : family ∈ families) (hproperty : family.property = .borderRadius)
    (stem : String) : ((family.side? stem).getD .all).corners ≠ .all false := by
  have hstems : ∀ family ∈ families, family.property = .borderRadius →
      ∀ entry ∈ family.stems, (entry.2.getD .all).corners ≠ .all false := by
    decide +kernel
  rw [Family.side?]
  cases hlookup : family.stems.lookup stem with
  | none => decide
  | some side => exact hstems family hm hproperty (stem, side) (mem_of_lookup hlookup)

theorem isResolvable_of_fixedClass? (h : fixedClass? raw = some d) : d.IsResolvable := by
  have hclasses : ∀ entry ∈ fixedClasses, entry.2.1.scale? = none := by decide
  obtain ⟨⟨property, keyword⟩, hlookup, rfl⟩ := Option.map_eq_some_iff.1 h
  have hnone : property.scale? = none := hclasses _ (mem_of_lookup hlookup)
  constructor
  · exact .inr ⟨keyword, rfl, by simp [hnone]⟩
  · rintro rfl
    cases hnone

theorem isResolvable_of_declare? (hm : family ∈ families) {token : UtilityToken}
    (h : family.declare? .empty token = some d) : d.IsResolvable := by
  obtain ⟨-, opacity, value, origin, value', -, hvalue, -, hsuffixed, rfl⟩ :=
    Family.declare?_eq_some_iff.1 h
  constructor
  · rcases Family.cases_of_value?_empty (ownScale_eq_none hm) hvalue with hproper | ⟨key, rfl, hkey⟩
    · exact .inl (Family.isProper_of_suffixed? hsuffixed hproper)
    · have hkeys : ∀ scale ∈ family.property.scale?, (scale.value? key).isSome :=
        fun scale hscale => isSome_value?_of_hasKeyword hm hkey hscale
      exact .inr ⟨key, Family.eq_of_suffixed?_keyword hsuffixed, hkeys⟩
  · intro hproperty
    exact corners_of_side? hm hproperty token.stem

/-- **Without a theme** every known utility declares a value that can be resolved. -/
theorem isResolvable_of_read? (h : builtIn.read? .empty raw = some d) : d.IsResolvable := by
  rcases cases_of_read? h with hfixed | ⟨family, hm, hresolve⟩
  · exact isResolvable_of_fixedClass? hfixed
  · obtain ⟨token, -, hdeclare⟩ := Option.bind_eq_some_iff.1 hresolve
    exact isResolvable_of_declare? hm hdeclare

/-- **What a catalog accepts can be resolved.**  Without a theme every known utility has CSS text,
    and a keyword for corners, shadows or blurs can be lowered.  So if the options keep CSS, a known
    utility is lowered or its CSS is kept, unless its value is at fault. -/
theorem style_of_read?_empty (options : LoweringOptions) (h : builtIn.read? .empty raw = some d) :
    ∃ text, d.cssValue? options = some text ∧
      (d.property ∈ [.borderRadius, .boxShadow, .blur, .backdropBlur] →
        ∀ key, d.value = .keyword key → ∃ layer, d.layer? options = .ok layer) ∧
      (options.keepCss = true → ∀ layer : Layer,
        (d.lower options).run layer = .ok () (layer.style options d) ∨
        layer.style options d = { layer with css := layer.css.insert d.cssProperty text } ∨
        ∃ property fault,
          (d.lower options).run layer = .error (.invalidValue property fault) layer) := by
  have hd : d.IsResolvable := isResolvable_of_read? h
  obtain ⟨text, htext⟩ := Option.isSome_iff_exists.1 (hd.isSome_cssValue? options)
  refine ⟨text, htext, ?_, ?_⟩
  · intro hproperty key hvalue
    obtain ⟨edits, hplan⟩ := hd.exists_plan hvalue hproperty options
    refine ⟨Layer.empty.editAll edits, ?_⟩
    rw [d.layer?_eq_map, hplan]
    rfl
  · intro hkeep layer
    cases hplan : d.plan options with
    | ok edits =>
      left
      rw [Layer.style_of_plan_ok hplan]
      exact Declaration.lower_run_of_plan_ok hplan layer
    | error error =>
      cases error with
      | unsupported => exact .inr (.inl (Layer.style_of_unsupported hplan hkeep htext layer))
      | invalidValue property fault =>
        exact .inr (.inr ⟨property, fault, Declaration.lower_run_of_plan_error hplan layer⟩)

/-- A corner of half a root font size, which is lowered. -/
theorem style_of_read?_empty_corner :
    ∃ d, builtIn.read? .empty "rounded-tl-lg" = some d ∧ d.value = .keyword "lg" ∧
      d.cssValue? {} = some "0.5rem" ∧ ∃ layer, d.layer? {} = .ok layer := by
  have hd : ∃ d, builtIn.read? .empty "rounded-tl-lg" = some d ∧ d.property = .borderRadius ∧
      d.value = .keyword "lg" ∧ d.cssValue? {} = some "0.5rem" := by
    decide +kernel
  obtain ⟨d, hread, hproperty, hvalue, hcss⟩ := hd
  obtain ⟨_, -, hlowered, -⟩ := style_of_read?_empty {} hread
  refine ⟨d, hread, hvalue, hcss, hlowered ?_ "lg" hvalue⟩
  rw [hproperty]
  decide

end Catalog

end UtilityStyle
