/-
  The keys of variants.

  The key of a variant is the join of its modifiers as they were written, which may hold colons and
  stray brackets themselves.  `compile_variant?_key`: the variants of a class list have different
  keys all the same, so that the key of a variant finds it.  A chain of modifiers is read off its
  key, because each modifier was cut off its class where all brackets were closed.
-/
import Mathlib.Data.List.Nodup
import UtilityStyle.Proofs.ClassList
import UtilityStyle.Proofs.Selector
import UtilityStyle.Proofs.Text.Depth

namespace UtilityStyle

open Text

/-- Among elements with different keys, the key of one finds it. -/
theorem find?_key_of_nodup {α κ : Type} [BEq κ] [LawfulBEq κ] {key : α → κ} {l : List α}
    (hn : (l.map key).Nodup) {a : α} (ha : a ∈ l) : l.find? (key · == key a) = some a := by
  obtain ⟨b, hb⟩ : ∃ b, l.find? (key · == key a) = some b :=
    Option.isSome_iff_exists.1 (List.find?_isSome.2 ⟨a, ha, beq_self_eq_true (key a)⟩)
  have hkey : (key b == key a) = true := List.find?_some (p := (key · == key a)) hb
  rw [hb, List.inj_on_of_nodup_map hn (List.mem_of_find?_eq_some hb) ha (eq_of_beq hkey)]

/-! ## Chains as they were written -/

namespace Modifier

/-- Modifiers that a class may have: at least one, and each read from a part of the class. -/
structure IsChain (ms : List Modifier) : Prop where
  ne_nil : ms ≠ []
  read_raw : ∀ m ∈ ms, read m.raw = m
  endsAt_raw : ∀ m ∈ ms, EndsAt ':' 0 m.raw.toList

/-- A chain is what its texts read as. -/
theorem IsChain.map_read {ms : List Modifier} (h : IsChain ms) :
    (ms.map (·.raw.toList)).map (fun raw => read (String.ofList raw)) = ms := by
  rw [List.map_map]
  refine (List.map_congr_left fun m hm => ?_).trans (List.map_id ms)
  show read (String.ofList m.raw.toList) = m
  rw [String.ofList_toList, h.read_raw m hm]

/-- **The joined texts tell the chain.** -/
theorem IsChain.eq_of_join_eq {ms ms' : List Modifier} (h : IsChain ms) (h' : IsChain ms')
    (hjoin : [':'].intercalate (ms.map (·.raw.toList)) =
      [':'].intercalate (ms'.map (·.raw.toList))) : ms = ms' := by
  have hraws : ms.map (·.raw.toList) = ms'.map (·.raw.toList) := by
    refine join_injective ?_ ?_ ?_ ?_ hjoin
    · exact mt List.map_eq_nil_iff.1 h.ne_nil
    · exact mt List.map_eq_nil_iff.1 h'.ne_nil
    · exact List.forall_mem_map.2 h.endsAt_raw
    · exact List.forall_mem_map.2 h'.endsAt_raw
  rw [← h.map_read, hraws, h'.map_read]

end Modifier

/-- The modifiers of a class, if it has any, are a chain. -/
theorem ClassName.isChain_readModifiers {s : String} (hne : (split s).readModifiers ≠ []) :
    Modifier.IsChain (split s).readModifiers := by
  have hwritten : ∀ m ∈ (split s).readModifiers,
      Modifier.read m.raw = m ∧ EndsAt ':' 0 m.raw.toList := by
    intro m hm
    obtain ⟨raw, hraw, rfl⟩ := List.mem_map.1 (Modifier.mem_of_mem_sorted hm)
    obtain ⟨part, hpart, rfl⟩ := List.mem_map.1 hraw
    refine ⟨rfl, ?_⟩
    rw [Modifier.read, String.toList_ofList]
    exact endsAt_of_mem_splitTop s.toList part hpart
  exact ⟨hne, fun m hm => (hwritten m hm).1, fun m hm => (hwritten m hm).2⟩

/-! ## Keys -/

theorem Variant.toList_key (variant : Variant) :
    variant.key.toList = [':'].intercalate (variant.modifiers.map (·.raw.toList)) := by
  rw [key, String.toList_intercalate, List.map_map]
  rfl

namespace ClassList

theorem isChain_of_mem_chains {catalog : Catalog} {theme : Theme} {classes : String}
    {chain : List Modifier} (h : chain ∈ chains (entriesOf catalog theme classes)) :
    Modifier.IsChain chain := by
  obtain ⟨entry, he, rfl⟩ := List.mem_map.1 (List.mem_eraseDups.1 h)
  obtain ⟨he, hmodified⟩ := List.mem_filter.1 he
  have hne : entry.modifiers ≠ [] := by
    simpa using (Bool.and_eq_true_iff.1 hmodified).2
  obtain ⟨w, -, rfl⟩ := List.mem_map.1 he
  exact ClassName.isChain_readModifiers hne

theorem variants_compile (catalog : Catalog) (theme : Theme) (options : LoweringOptions)
    (classes : String) :
    (compile catalog theme options classes).variants =
      variantsOf options (entriesOf catalog theme classes) := by
  rw [compile_eq]

/-- The variants of some classes have different keys. -/
theorem nodup_keys (catalog : Catalog) (theme : Theme) (options : LoweringOptions)
    (classes : String) :
    ((variantsOf options (entriesOf catalog theme classes)).map (·.key)).Nodup := by
  rw [variantsOf, List.map_map]
  refine List.Nodup.map_on (fun chain hc chain' hc' hkey => ?_) (nodup_chains _)
  refine (isChain_of_mem_chains hc).eq_of_join_eq (isChain_of_mem_chains hc') ?_
  have htext := congrArg String.toList hkey
  exact (Variant.toList_key _).symm.trans (htext.trans (Variant.toList_key _))

/-- **Keys identify variants.**  No two variants of a class list have the same key, so the key of
    a variant finds that variant and no other. -/
theorem compile_variant?_key (catalog : Catalog) (theme : Theme) (options : LoweringOptions)
    (classes : String) :
    let list := compile catalog theme options classes
    (list.variants.map (·.key)).Nodup ∧
      ∀ variant ∈ list.variants, list.variant? variant.key = some variant := by
  intro list
  have hkeys : (list.variants.map (·.key)).Nodup := by
    rw [variants_compile]
    exact nodup_keys catalog theme options classes
  exact ⟨hkeys, fun variant hv => find?_key_of_nodup hkeys hv⟩

/-- Three chains, two of which have a colon or a stray bracket in a modifier. -/
theorem compile_variant?_key_brackets :
    let list := compile .bare .empty {} "hover:flex [&:hover]:hover:flex ]:hover:flex"
    ∃ variant ∈ list.variants, variant.key = "hover:[&:hover]" ∧
      list.variant? variant.key = some variant := by
  intro list
  have hkey : "hover:[&:hover]" ∈ list.variants.map (·.key) := by decide +kernel
  obtain ⟨variant, hv, hkey⟩ := List.mem_map.1 hkey
  exact ⟨variant, hv, hkey, (compile_variant?_key .bare .empty {} _).2 variant hv⟩

end ClassList

end UtilityStyle
