/-
  Well-formed declarations.

  * `Declaration.IsWellFormed`: the markers, the opacity and the value of a declaration are ones
    that its utility and its property may have;
  * `Catalog.isWellFormed_of_read?`: whatever the built-in catalog reads is well formed, under every
    theme, so that no lowering complains about a zero denominator.
-/
import UtilityStyle.Proofs.Catalog.Importance
import UtilityStyle.Proofs.Lowering.Fault
import UtilityStyle.Proofs.Lowering.Sign
import UtilityStyle.Proofs.Number.Rounding
import UtilityStyle.Proofs.Utility.ColorFamily

namespace UtilityStyle

namespace UtilityToken

/-- A text bears a mark of importance if one is at either end. -/
theorem takeImportance_snd_iff (s : List Char) :
    (takeImportance s).2 = true ↔ s.head? = some '!' ∨ s.getLast? = some '!' := by
  generalize hflag : (takeImportance s).2 = flag
  have hmarked : Marked flag (takeImportance s).1 s := hflag ▸ marked_takeImportance s
  generalize (takeImportance s).1 = body at hmarked
  cases hmarked with
  | front => simp
  | back => simp
  | plain hfront hback => simp [hfront, hback]

/-- An opacity is a percentage of at most 100. -/
theorem opacity?_le {token : UtilityToken} {p : Nat} (h : token.opacity? = some (some p)) :
    p ≤ 100 := by
  unfold opacity? at h
  split at h
  · cases h
  · obtain ⟨percent, -, h⟩ := Option.bind_eq_some_iff.1 h
    obtain ⟨hwithin, h⟩ := Option.ite_none_right_eq_some.1 h
    cases h
    exact Number.roundByte_le_of_within hwithin

end UtilityToken

/-- What a declaration owes to its utility and its property. -/
structure Declaration.IsWellFormed (d : Declaration) (raw : String) : Prop where
  raw_eq : d.raw = raw
  /-- The utility begins or ends with a mark of importance. -/
  important_iff : d.important = true ↔ raw.toList.head? = some '!' ∨ raw.toList.getLast? = some '!'
  /-- A sign is one of a property that may have one. -/
  signed : d.negative = true → d.property ∈ Property.signed
  /-- Of the keywords only those with a size have a sign. -/
  signed_keyword : d.negative = true → ∀ name, d.value = .keyword name → name = "px" ∨ name = "full"
  opacity_le : ∀ p ∈ d.opacity, p ≤ 100
  /-- An opacity is one of a property that takes a color. -/
  opacity_color : d.opacity ≠ none → d.property ∈ Property.colors
  denominator_ne_zero : ∀ n m, d.value = .fraction n m → m ≠ 0

namespace Family

variable {family : Family} {theme : Theme} {token : UtilityToken} {d : Declaration}

/-- A suffix leaves a value that can bear a sign as it is, or makes a font of it. -/
theorem isSignable_of_suffixed? {value value' : Value} {slash : Option String}
    (h : family.suffixed? value slash = some value') (hvalue : value.isSignable = true) :
    value'.isSignable = true := by
  unfold suffixed? withLeading? at h
  split at h
  · split at h
    · cases h; exact hvalue
    · obtain ⟨_, -, rfl⟩ := Option.map_eq_some_iff.1 h
      rfl
    · cases h
  · cases h; exact hvalue

theorem isSignable_of_declare? (h : family.declare? theme token = some d)
    (hminus : d.negative = true) : d.value.isSignable = true := by
  obtain ⟨-, _, value, _, value', -, -, hsignable, hvalue', rfl⟩ := declare?_eq_some_iff.1 h
  exact isSignable_of_suffixed? hvalue' (hsignable hminus)

/-- The value of a declaration is proper, or a keyword. -/
theorem cases_of_declare? (hown : ∀ key, family.ownScale key = none)
    (h : family.declare? theme token = some d) :
    d.value.IsProper ∨ ∃ keyword, d.value = .keyword keyword := by
  obtain ⟨-, _, value, _, value', -, hvalue, -, hvalue', rfl⟩ := declare?_eq_some_iff.1 h
  rcases cases_of_value? hown hvalue with hproper | ⟨keyword, rfl⟩
  · exact .inl (isProper_of_suffixed? hvalue' hproper)
  · exact .inr ⟨keyword, eq_of_suffixed?_keyword hvalue'⟩

end Family

namespace Catalog

variable {theme : Theme} {raw : String} {d : Declaration}

/-- What the catalog reads has a proper value or a keyword. -/
theorem cases_value_of_read? (h : builtIn.read? theme raw = some d) :
    d.value.IsProper ∨ ∃ keyword, d.value = .keyword keyword := by
  rcases cases_of_read? h with hfixed | ⟨family, hm, hf⟩
  · obtain ⟨⟨_, keyword⟩, -, rfl⟩ := Option.map_eq_some_iff.1 hfixed
    exact .inr ⟨keyword, rfl⟩
  · obtain ⟨token, -, hd⟩ := Option.bind_eq_some_iff.1 hf
    exact Family.cases_of_declare? (ownScale_eq_none hm) hd

theorem isSignable_of_read? (h : builtIn.read? theme raw = some d) (hminus : d.negative = true) :
    d.value.isSignable = true := by
  rcases cases_of_read? h with hfixed | ⟨family, _, hf⟩
  · obtain ⟨_, -, rfl⟩ := Option.map_eq_some_iff.1 hfixed
    cases hminus
  · obtain ⟨token, -, hd⟩ := Option.bind_eq_some_iff.1 hf
    exact Family.isSignable_of_declare? hd hminus

theorem opacity_le_of_read? (h : builtIn.read? theme raw = some d) {p : Nat}
    (hp : d.opacity = some p) : p ≤ 100 := by
  obtain ⟨family, -, hcolor, token, -, hd⟩ := exists_family_of_opacity h (by simp [hp])
  have hopacity := Family.opacity?_of_declare? hd
  rw [Family.opacity?, if_pos hcolor.suffix_eq, hp] at hopacity
  exact UtilityToken.opacity?_le hopacity

/-- **Whatever the built-in catalog reads is well formed**, under every theme, and no lowering of it
    complains about a zero denominator. -/
theorem isWellFormed_of_read? (h : builtIn.read? theme raw = some d) :
    d.IsWellFormed raw ∧ ∀ options layer layer' property,
      (d.lower options).run layer ≠ .error (.invalidValue property .zeroDenominator) layer' := by
  obtain ⟨hraw, himportant⟩ := raw_important_of_read? h
  have hdenominator : ∀ n m, d.value = .fraction n m → m ≠ 0 := by
    intro n m hvalue
    rcases cases_value_of_read? h with hproper | ⟨keyword, hkeyword⟩
    · rw [hvalue] at hproper
      exact hproper
    · rw [hvalue] at hkeyword
      cases hkeyword
  refine ⟨⟨hraw, ?_, fun hn => (signed_of_read?_negative h hn).1, ?_,
    fun p hp => opacity_le_of_read? h hp, ?_, hdenominator⟩, ?_⟩
  · rw [himportant, UtilityToken.takeImportance_snd_iff]
  · intro hn name hvalue
    have hsignable := isSignable_of_read? h hn
    rw [hvalue] at hsignable
    simpa [Value.isSignable] using hsignable
  · intro hp
    obtain ⟨family, -, hcolor, token, -, hd⟩ := exists_family_of_opacity h hp
    exact (hcolor.isColor_of_declare? hd).property_mem
  · intro options layer layer' property herror
    obtain ⟨n, hvalue⟩ := Declaration.eq_fraction_of_explains (Declaration.explains_of_lower herror).1
    exact hdenominator n 0 hvalue rfl

/-- A fraction with a sign and a mark of importance at the end. -/
theorem isWellFormed_of_read?_translate :
    ∃ d, builtIn.read? .empty "-translate-x-1/2!" = some d ∧ d.value = .fraction 1 2 ∧
      d.negative = true ∧ d.IsWellFormed "-translate-x-1/2!" ∧ ∀ options layer layer' property,
        (d.lower options).run layer ≠ .error (.invalidValue property .zeroDenominator) layer' := by
  have hd : ∃ d, builtIn.read? .empty "-translate-x-1/2!" = some d ∧ d.value = .fraction 1 2 ∧
      d.negative = true := by
    decide +kernel
  obtain ⟨d, hread, hvalue, hminus⟩ := hd
  exact ⟨d, hread, hvalue, hminus, isWellFormed_of_read? hread⟩

end Catalog

end UtilityStyle
