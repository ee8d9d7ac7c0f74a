/-
  Class lists group their classes.

  `ClassList.compile` goes over the classes once and looks each chain of modifiers up among the
  variants so far.  `compile_groups` describes the result without the pass, from the classes as they
  were written: the unknown classes, the style of the classes without modifiers, and one variant for
  each chain of modifiers with the selectors and the style of exactly its classes.  So each class
  counts once.
-/
import Mathlib.Data.List.Basic
import Mathlib.Data.List.Induction
import UtilityStyle.ClassList

namespace UtilityStyle

open Text

/-! ## Lists of keys -/

/-- Among values listed by key, modifying at the position of a key changes the value of that key. -/
theorem modify_map_of_nodup {α κ : Type} [DecidableEq κ] {keys : List κ} (hn : keys.Nodup)
    {i : Nat} {k : κ} (hi : keys[i]? = some k) (f : κ → α) (g : α → α) :
    (keys.map f).modify i g = keys.map fun c => if c = k then g (f c) else f c := by
  induction keys generalizing i with
  | nil => simp at hi
  | cons c keys ih =>
    obtain ⟨hc, hn⟩ := List.nodup_cons.1 hn
    cases i with
    | zero =>
      obtain rfl : c = k := by simpa using hi
      have hne : ∀ c' ∈ keys, f c' = if c' = c then g (f c') else f c' := by
        intro c' hc'
        rw [if_neg fun he : c' = c => hc (he ▸ hc')]
      simpa using List.map_congr_left hne
    | succ i =>
      have hi : keys[i]? = some k := by simpa using hi
      have hne : c ≠ k := fun he => hc (he ▸ List.mem_of_getElem? hi)
      rw [List.map_cons, List.modify_succ_cons, ih hn hi, List.map_cons, if_neg hne]

section
variable {α κ : Type} [BEq κ] [LawfulBEq κ]

/-- A further element is kept if it is the first of its kind. -/
theorem eraseDups_concat [DecidableEq κ] (keys : List κ) (k : κ) :
    (keys ++ [k]).eraseDups = if k ∈ keys then keys.eraseDups else keys.eraseDups ++ [k] := by
  rw [List.eraseDups_append]
  split
  · next h => simp [List.removeAll, h]
  · next h => simp [List.removeAll, h, List.eraseDups_cons]

theorem nodup_eraseDups (keys : List κ) : keys.eraseDups.Nodup := by
  induction h : keys.length using Nat.strongRecOn generalizing keys with
  | _ n ih =>
    cases keys with
    | nil => simp
    | cons k keys =>
      rw [List.eraseDups_cons, List.nodup_cons]
      refine ⟨by simp, ih _ ?_ _ rfl⟩
      rw [← h]
      exact Nat.lt_succ_of_le (List.length_filter_le ..)

/-- The elements collected by key are all the elements. -/
theorem flatMap_eraseDups_perm (key : α → κ) (l : List α) :
    ((l.map key).eraseDups.flatMap fun k => l.filter (key · == k)).Perm l := by
  induction h : l.length using Nat.strongRecOn generalizing l with
  | _ n ih =>
    cases l with
    | nil => simp
    | cons a l =>
      -- The group of the first key, and the same for the elements with other keys.
      let others := l.filter fun b => !key b == key a
      have hlt : others.length < n := by
        rw [← h]
        exact Nat.lt_succ_of_le (List.length_filter_le ..)
      have hkeys : ((a :: l).map key).eraseDups = key a :: (others.map key).eraseDups := by
        rw [List.map_cons, List.eraseDups_cons, List.filter_map]
        rfl
      have hgroups : ∀ k ∈ (others.map key).eraseDups,
          (a :: l).filter (key · == k) = others.filter (key · == k) := by
        intro k hk
        have hne : k ≠ key a := by
          obtain ⟨b, hb, rfl⟩ := List.mem_map.1 (List.mem_eraseDups.1 hk)
          simpa [others] using (List.mem_filter.1 hb).2
        rw [List.filter_cons_of_neg (by simpa using hne.symm), List.filter_filter]
        refine List.filter_congr fun b _ => ?_
        by_cases hb : key b = k
        · simp [hb, hne]
        · simp [hb]
      rw [hkeys, List.flatMap_cons, List.flatMap_congr hgroups]
      refine ((ih _ hlt others rfl).append_left _).trans ?_
      rw [List.filter_cons_of_pos (by simp)]
      exact (List.filter_append_perm (key · == key a) l).cons a

end

/-! ## The classes of each part -/

namespace ClassEntry

/-- Whether no rule takes the utility of the class. -/
def isUnknown (entry : ClassEntry) : Bool := entry.declaration.isNone

/-- Whether the class belongs to the base style. -/
def isBase (entry : ClassEntry) : Bool :=
  entry.declaration.isSome && entry.modifiers.isEmpty

/-- Whether the class belongs to a variant. -/
def isModified (entry : ClassEntry) : Bool :=
  entry.declaration.isSome && !entry.modifiers.isEmpty

end ClassEntry

namespace ClassList

/-- The chains of modifiers of some classes, in the order in which they first occur. -/
def chains (entries : List ClassEntry) : List (List Modifier) :=
  ((entries.filter (·.isModified)).map (·.modifiers)).eraseDups

/-- The classes under a chain of modifiers. -/
def members (entries : List ClassEntry) (chain : List Modifier) : List ClassEntry :=
  (entries.filter (·.isModified)).filter (·.modifiers == chain)

/-- The variant of the classes under a chain of modifiers. -/
def variantOf (options : LoweringOptions) (entries : List ClassEntry) (chain : List Modifier) :
    Variant where
  modifiers := chain
  selectors := (members entries chain).map (·.selector)
  style := .ofDeclarations options ((members entries chain).filterMap (·.declaration))

/-- The variants of some classes. -/
def variantsOf (options : LoweringOptions) (entries : List ClassEntry) : List Variant :=
  (chains entries).map (variantOf options entries)

/-- The style of the classes without modifiers. -/
def baseOf (options : LoweringOptions) (entries : List ClassEntry) : Layer :=
  .ofDeclarations options ((entries.filter (·.isBase)).filterMap (·.declaration))

/-- The names of the unknown classes. -/
def unknownOf (entries : List ClassEntry) : List String :=
  (entries.filter (·.isUnknown)).map (·.name)

theorem nodup_chains (entries : List ClassEntry) : (chains entries).Nodup := nodup_eraseDups _

/-- Each class is in one part. -/
theorem parts_perm (entries : List ClassEntry) :
    (entries.filter (·.isUnknown) ++ entries.filter (·.isBase) ++
      (chains entries).flatMap (members entries)).Perm entries := by
  have hmodified : ((chains entries).flatMap (members entries)).Perm
      (entries.filter (·.isModified)) := flatMap_eraseDups_perm ClassEntry.modifiers _
  have hbase : entries.filter (·.isBase) =
      (entries.filter (!·.isUnknown)).filter (·.modifiers.isEmpty) := by
    rw [List.filter_filter]
    exact List.filter_congr fun e _ => by
      simp [ClassEntry.isBase, ClassEntry.isUnknown, Bool.and_comm]
  have hmod : entries.filter (·.isModified) =
      (entries.filter (!·.isUnknown)).filter (!·.modifiers.isEmpty) := by
    rw [List.filter_filter]
    exact List.filter_congr fun e _ => by
      simp [ClassEntry.isModified, ClassEntry.isUnknown, Bool.and_comm]
  refine (hmodified.append_left _).trans ?_
  rw [hbase, hmod, List.append_assoc]
  exact ((List.filter_append_perm _ _).append_left _).trans (List.filter_append_perm _ _)

/-! ## One more class -/

section
variable {entry : ClassEntry} (options : LoweringOptions) (entries : List ClassEntry)

theorem filter_concat_of_eq_false {p : ClassEntry → Bool} (h : p entry = false) :
    (entries ++ [entry]).filter p = entries.filter p := by
  simp [List.filter_append, h]

theorem filter_concat_of_eq_true {p : ClassEntry → Bool} (h : p entry = true) :
    (entries ++ [entry]).filter p = entries.filter p ++ [entry] := by
  simp [List.filter_append, h]

/-- A class that belongs to no variant leaves the variants as they are. -/
theorem variantsOf_concat_of_not_modified (h : entry.isModified = false) :
    variantsOf options (entries ++ [entry]) = variantsOf options entries := by
  have hmodified := filter_concat_of_eq_false entries h
  have hvariant : variantOf options (entries ++ [entry]) = variantOf options entries := by
    funext chain
    simp only [variantOf, members, hmodified]
  simp only [variantsOf, chains, hmodified, hvariant]

/-- The chain of a class with modifiers is new, or it is there already. -/
theorem chains_concat (h : entry.isModified = true) :
    chains (entries ++ [entry]) =
      if entry.modifiers ∈ chains entries then chains entries
      else chains entries ++ [entry.modifiers] := by
  unfold chains
  rw [filter_concat_of_eq_true entries h, List.map_append, List.map_singleton, eraseDups_concat]
  simp only [List.mem_eraseDups]

/-- A chain without classes has a variant with nothing set. -/
theorem variantOf_of_notMem {chain : List Modifier} (h : chain ∉ chains entries) :
    variantOf options entries chain = ⟨chain, [], .empty⟩ := by
  have hmembers : members entries chain = [] := by
    refine List.filter_eq_nil_iff.2 fun e he hc => h ?_
    rw [← eq_of_beq hc]
    exact List.mem_eraseDups.2 (List.mem_map_of_mem he)
  rw [variantOf, hmembers]
  rfl

/-- A class with modifiers is added to the variant of its chain. -/
theorem variantOf_concat {d : Declaration} (h : entry.isModified = true)
    (hd : entry.declaration = some d) :
    variantOf options (entries ++ [entry]) = fun chain =>
      if chain = entry.modifiers then (variantOf options entries chain).add options entry d
      else variantOf options entries chain := by
  funext chain
  unfold variantOf members
  rw [filter_concat_of_eq_true entries h]
  by_cases hc : chain = entry.modifiers
  · subst hc
    rw [if_pos rfl, filter_concat_of_eq_true _ (by simp)]
    simp [Variant.add, Layer.ofDeclarations, hd]
  · rw [if_neg hc, filter_concat_of_eq_false _ (by simpa using Ne.symm hc)]

/-- The search for the variant of a chain finds it where the chain is. -/
theorem addVariant_variantsOf {d : Declaration} (h : entry.isModified = true)
    (hd : entry.declaration = some d) :
    addVariant options entry d (variantsOf options entries) =
      variantsOf options (entries ++ [entry]) := by
  -- A variant has its chain as its modifiers, so it stands where its chain does.
  have hfind : ((chains entries).map (variantOf options entries)).findIdx?
      (·.modifiers == entry.modifiers) = (chains entries).findIdx? (· == entry.modifiers) :=
    List.findIdx?_map ..
  have hn := nodup_chains (entries ++ [entry])
  unfold addVariant variantsOf
  rw [variantOf_concat options entries h hd]
  rw [chains_concat entries h] at hn ⊢
  simp only [hfind]
  cases hi : (chains entries).findIdx? (· == entry.modifiers) with
  | some i =>
    obtain ⟨hlt, hget, -⟩ := List.findIdx?_eq_some_iff_getElem.1 hi
    have hget : (chains entries)[i]? = some entry.modifiers := by
      rw [List.getElem?_eq_getElem hlt, eq_of_beq hget]
    rw [if_pos (List.mem_of_getElem? hget)] at hn ⊢
    exact modify_map_of_nodup hn hget _ (Variant.add options · entry d)
  | none =>
    have hnew : entry.modifiers ∉ chains entries := by
      intro hc
      simpa using List.findIdx?_eq_none_iff.1 hi _ hc
    rw [if_neg hnew] at hn ⊢
    -- The variant that is begun is the one that the new chain has without any classes.
    show (_ ++ [_]).modify _ _ = _
    rw [← variantOf_of_notMem options entries hnew, ← List.map_singleton, ← List.map_append,
      List.length_map]
    exact modify_map_of_nodup hn (by simp) _ (Variant.add options · entry d)

theorem unknownOf_concat (entry : ClassEntry) :
    unknownOf (entries ++ [entry]) =
      if entry.isUnknown then unknownOf entries ++ [entry.name] else unknownOf entries := by
  unfold unknownOf
  split
  · next h => rw [filter_concat_of_eq_true entries h, List.map_append, List.map_singleton]
  · next h => rw [filter_concat_of_eq_false entries (Bool.eq_false_iff.2 h)]

theorem baseOf_concat {d : Declaration} (h : entry.isBase = true)
    (hd : entry.declaration = some d) :
    baseOf options (entries ++ [entry]) = (baseOf options entries).style options d := by
  unfold baseOf
  rw [filter_concat_of_eq_true entries h]
  simp [Layer.ofDeclarations, hd]

theorem baseOf_concat_of_not_base (h : entry.isBase = false) :
    baseOf options (entries ++ [entry]) = baseOf options entries := by
  unfold baseOf
  rw [filter_concat_of_eq_false entries h]

/-- **One more class.**  What the classes counted so far give is extended by the next class. -/
theorem add_concat (all : List ClassEntry) (entry : ClassEntry) :
    add options ⟨all, baseOf options entries, unknownOf entries, variantsOf options entries⟩ entry =
      ⟨all, baseOf options (entries ++ [entry]), unknownOf (entries ++ [entry]),
        variantsOf options (entries ++ [entry])⟩ := by
  unfold add
  rw [unknownOf_concat]
  cases hd : entry.declaration with
  | none =>
    have hunknown : entry.isUnknown = true := by simp [ClassEntry.isUnknown, hd]
    have hbase : entry.isBase = false := by simp [ClassEntry.isBase, hd]
    have hmodified : entry.isModified = false := by simp [ClassEntry.isModified, hd]
    rw [if_pos hunknown, baseOf_concat_of_not_base options entries hbase,
      variantsOf_concat_of_not_modified options entries hmodified]
  | some d =>
    have hunknown : ¬entry.isUnknown = true := by simp [ClassEntry.isUnknown, hd]
    rw [if_neg hunknown]
    by_cases hm : entry.modifiers.isEmpty = true
    · have hbase : entry.isBase = true := by simp [ClassEntry.isBase, hd, hm]
      have hmodified : entry.isModified = false := by simp [ClassEntry.isModified, hm]
      rw [baseOf_concat options entries hbase hd,
        variantsOf_concat_of_not_modified options entries hmodified]
      exact if_pos hm
    · have hbase : entry.isBase = false := by simp [ClassEntry.isBase, hm]
      have hmodified : entry.isModified = true := by simp [ClassEntry.isModified, hd, hm]
      rw [baseOf_concat_of_not_base options entries hbase,
        ← addVariant_variantsOf options entries hmodified hd]
      exact if_neg hm

/-- The pass over some classes collects what they give. -/
theorem foldl_add (all : List ClassEntry) :
    entries.foldl (add options) { entries := all, style := .empty, unknown := [], variants := [] } =
      ⟨all, baseOf options entries, unknownOf entries, variantsOf options entries⟩ := by
  induction entries using List.reverseRecOn with
  | nil => rfl
  | append_singleton entries entry ih =>
    rw [List.foldl_append, ih]
    exact add_concat options entries all entry

end

/-- The classes of a text. -/
def entriesOf (catalog : Catalog) (theme : Theme) (classes : String) : List ClassEntry :=
  (words classes.toList).map fun w => ClassEntry.read catalog theme (String.ofList w)

theorem entriesOf_eq_map_read (catalog : Catalog) (theme : Theme) (classes : String) :
    entriesOf catalog theme classes =
      ((words classes.toList).map String.ofList).map (ClassEntry.read catalog theme) := by
  rw [List.map_map]
  rfl

/-- The names of entries are the classes that they were read from. -/
theorem map_name_read (catalog : Catalog) (theme : Theme) (names : List String) :
    (names.map (ClassEntry.read catalog theme)).map (·.name) = names := by
  rw [List.map_map]
  exact List.map_id names

/-- What is compiled is what the classes give. -/
theorem compile_eq (catalog : Catalog) (theme : Theme) (options : LoweringOptions)
    (classes : String) :
    compile catalog theme options classes =
      ⟨entriesOf catalog theme classes, baseOf options (entriesOf catalog theme classes),
        unknownOf (entriesOf catalog theme classes),
        variantsOf options (entriesOf catalog theme classes)⟩ :=
  foldl_add options _ _

/-- **Class lists group their classes.**  There is an entry for each word of the text, in order.
    The unknown classes are those whose utility no rule takes.  The base style is that of the known
    classes without modifiers.  There is one variant for each chain of modifiers of the known
    classes, in the order in which the chains first occur, and it has the composed selectors and the
    style of exactly the classes with that chain.  So each class counts once. -/
theorem compile_groups (catalog : Catalog) (theme : Theme) (options : LoweringOptions)
    (classes : String) :
    let names := (words classes.toList).map String.ofList
    let utility (name : String) := (ClassName.split name).utility
    let declaration? (name : String) := catalog.read? theme (utility name)
    let modifiers (name : String) := (ClassName.split name).readModifiers
    let unknown := names.filter fun name => (declaration? name).isNone
    let base := names.filter fun name => (declaration? name).isSome && (modifiers name).isEmpty
    let modified := names.filter fun name =>
      (declaration? name).isSome && !(modifiers name).isEmpty
    let distinct := (modified.map modifiers).eraseDups
    let members (chain : List Modifier) := modified.filter (modifiers · == chain)
    let style (names : List String) := Layer.ofDeclarations options (names.filterMap declaration?)
    let list := compile catalog theme options classes
    list.entries =
        names.map (fun name => ⟨name, modifiers name, utility name, declaration? name⟩) ∧
      list.unknown = unknown ∧
      list.style = style base ∧
      list.variants = distinct.map (fun chain =>
        { modifiers := chain
          selectors := (members chain).map fun name => Selector.compose name (modifiers name)
          style := style (members chain) }) ∧
      distinct.Nodup ∧
      (unknown ++ base ++ distinct.flatMap members).Perm names := by
  intro names utility declaration? modifiers unknown base modified distinct members style list
  let entries := names.map (ClassEntry.read catalog theme)
  have hentries : entriesOf catalog theme classes = entries :=
    entriesOf_eq_map_read catalog theme classes
  have hlist : list = ⟨entries, baseOf options entries, unknownOf entries,
      variantsOf options entries⟩ := by
    rw [← hentries]
    exact compile_eq catalog theme options classes
  have hunknown : entries.filter (·.isUnknown) = unknown.map (ClassEntry.read catalog theme) :=
    List.filter_map
  have hbase : entries.filter (·.isBase) = base.map (ClassEntry.read catalog theme) :=
    List.filter_map
  have hmodified : entries.filter (·.isModified) = modified.map (ClassEntry.read catalog theme) :=
    List.filter_map
  have hmembers (chain : List Modifier) :
      ClassList.members entries chain = (members chain).map (ClassEntry.read catalog theme) := by
    rw [ClassList.members, hmodified]
    exact List.filter_map
  have hchains : chains entries = distinct := by
    rw [chains, hmodified, List.map_map]
    rfl
  rw [hlist]
  refine ⟨rfl, ?_, ?_, ?_, nodup_eraseDups _, ?_⟩
  · show (entries.filter (·.isUnknown)).map _ = unknown
    rw [hunknown, map_name_read]
  · show Layer.ofDeclarations options ((entries.filter (·.isBase)).filterMap _) = _
    rw [hbase, List.filterMap_map]
    rfl
  · show (chains entries).map (variantOf options entries) = _
    rw [hchains]
    refine List.map_congr_left fun chain _ => ?_
    rw [variantOf, hmembers, List.map_map, List.filterMap_map]
    rfl
  · have hparts := (parts_perm entries).map (·.name)
    rw [hunknown, hbase, hchains, funext hmembers, List.map_append, List.map_append,
      List.map_flatMap] at hparts
    have hnames : entries.map (·.name) = names := map_name_read catalog theme names
    simp only [map_name_read, hnames] at hparts
    exact hparts

/-- Two groups that take turns, with a class of the base style and an unknown one in between.  The
    modifiers of the second group are written in either order. -/
theorem compile_groups_turns :
    let list := compile .builtIn .empty {} "hover:p-4 md:hover:p-2 md:x hover:m-1 p-8 hover:md:m-3"
    list.unknown = ["md:x"] ∧
      list.style = { Layer.empty with padding := .all (some 32) } ∧
      list.variants.map (fun variant => (variant.modifiers.map (·.raw),
          variant.selectors.map (·.toCss), variant.style)) = [
        (["hover"], [".hover\\:p-4:hover", ".hover\\:m-1:hover"],
          { Layer.empty with padding := .all (some 16), margin := .all (some (.pixels 4)) }),
        (["md", "hover"], ["@media (width >= 768px) \x7b .md\\:hover\\:p-2:hover \x7d",
            "@media (width >= 768px) \x7b .hover\\:md\\:m-3:hover \x7d"],
          { Layer.empty with padding := .all (some 8), margin := .all (some (.pixels 12)) })] := by
  intro list
  obtain ⟨-, hunknown, hstyle, hvariants, -, -⟩ := compile_groups .builtIn .empty {}
    "hover:p-4 md:hover:p-2 md:x hover:m-1 p-8 hover:md:m-3"
  refine ⟨hunknown.trans ?_, hstyle.trans ?_, (congrArg (List.map _) hvariants).trans ?_⟩
  · decide +kernel
  · decide +kernel
  · decide +kernel

end ClassList

end UtilityStyle
