/-
  Paths through theme documents.

  * `Document.Leads`: the segments of a path, grouped into keys and indices in some way, lead from
    one document to another (the judgment that `Document.find?` searches).
  * `mem_places_iff`: `Document.places` lists the documents a path leads to, one for each grouping
    that leads anywhere.
  * `find?_eq_head?_places`: the search stops at the first of them.
  * `isSome_value?_iff`: the documents that have a value; `isSome_lookup?_iff`: the paths that find
    one.
  * `lookup?_misses_iff`: a look-up misses a value that is there exactly when the first place the
    path leads to has none.
-/
import UtilityStyle.Theme.Document

namespace UtilityStyle

namespace Document

/-! ## Where a path leads -/

/-- The segments of a path, grouped in some way, lead from a document to another one: a table is
    left through a key of one or more segments, a list through an index. -/
inductive Leads : Document → List String → Document → Prop
  | here {doc} : Leads doc [] doc
  | key {entries separator group rest child target} : separator ∈ [".", "-"] → group ≠ [] →
      entries.lookup (String.intercalate separator group) = some child →
      Leads child rest target → Leads (table entries) (group ++ rest) target
  | index {items segment i child rest target} : Number.readNat? 64 segment.toList = some i →
      items[i]? = some child → Leads child rest target →
      Leads (list items) (segment :: rest) target

/-- A key of one segment. -/
theorem Leads.single {entries : List (String × Document)} {segment : String} {rest : List String}
    {child target : Document} (hc : entries.lookup segment = some child)
    (h : Leads child rest target) : Leads (table entries) (segment :: rest) target := by
  have hkey : entries.lookup (String.intercalate "." [segment]) = some child := hc
  exact .key (by simp) (by simp) hkey h

/-- All places a path leads to, in the order in which the walk tries them: longer keys before
    shorter ones, points before dashes. -/
def places (doc : Document) (path : List String) : List Document :=
  match path with
  | [] => [doc]
  | segment :: more =>
    match doc with
    | table entries =>
      (List.range (more.length + 1)).reverse.flatMap fun n =>
        [".", "-"].flatMap fun separator =>
          (entries.lookup (String.intercalate separator (segment :: more.take n))).toList.flatMap
            fun child => child.places (more.drop n)
    | list items =>
      ((Number.readNat? 64 segment.toList).bind (items[·]?)).toList.flatMap
        fun child => child.places more
    | _ => []
termination_by path.length
decreasing_by
  · simp only [List.length_drop, List.length_cons]; omega
  · simp

theorem findSome?_toList {α β : Type} (o : Option α) (f : α → Option β) :
    o.toList.findSome? f = o.bind f := by
  cases o <;> simp

/-- **The walk stops at the first place.** -/
theorem find?_eq_head?_places (doc : Document) (path : List String) :
    doc.find? path = (doc.places path).head? := by
  fun_induction places doc path with
  | case1 doc => simp [find?]
  | case2 segment more entries ih =>
    simp only [find?, List.head?_flatMap, findSome?_toList, ih]
  | case3 segment more items ih =>
    simp only [find?, List.head?_flatMap, findSome?_toList, ih, Option.bind_assoc]
  | case4 => simp_all [find?]

theorem leads_of_mem_places {doc target : Document} {path : List String}
    (h : target ∈ doc.places path) : Leads doc path target := by
  fun_induction places doc path with
  | case1 doc =>
    obtain rfl := List.mem_singleton.1 h
    exact .here
  | case2 segment more entries ih =>
    simp only [List.mem_flatMap, Option.mem_toList] at h
    obtain ⟨n, -, separator, hs, child, hc, ht⟩ := h
    have hleads : Leads (table entries) ((segment :: more.take n) ++ more.drop n) target :=
      .key hs (by simp) hc (ih n child ht)
    rwa [List.cons_append, List.take_append_drop] at hleads
  | case3 segment more items ih =>
    simp only [List.mem_flatMap, Option.mem_toList, Option.bind_eq_some_iff] at h
    obtain ⟨child, ⟨i, hi, hc⟩, ht⟩ := h
    exact .index hi hc (ih child ht)
  | case4 => simp at h

theorem Leads.mem_places {doc target : Document} {path : List String} (h : Leads doc path target) :
    target ∈ doc.places path := by
  induction h with
  | here => simp [places]
  | @key entries separator group rest child target hs hg hc _ ih =>
    obtain ⟨segment, front, rfl⟩ := List.exists_cons_of_ne_nil hg
    simp only [List.cons_append, places, List.mem_flatMap, Option.mem_toList]
    have hlength : front.length < (front ++ rest).length + 1 := by
      rw [List.length_append]; omega
    -- the key takes `front` from the segments that follow the first one
    refine ⟨front.length, List.mem_reverse.2 (List.mem_range.2 hlength), separator, hs, child,
      ?_, ?_⟩
    · simpa using hc
    · simpa using ih
  | index hi hc _ ih => simpa [places, hi, hc] using ih

/-- **The places of a path are the documents it leads to.** -/
theorem mem_places_iff {doc target : Document} {path : List String} :
    target ∈ doc.places path ↔ Leads doc path target :=
  ⟨leads_of_mem_places, Leads.mem_places⟩

/-! ## Documents with a value -/

/-- A document has a value: it is a number, a text or a list, or a table whose default entry has
    one. -/
inductive HasValue : Document → Prop
  | number {n} : HasValue (number n)
  | text {s} : HasValue (text s)
  | list {items} : HasValue (list items)
  | table {entries child} : entries.lookup defaultKey = some child → HasValue child →
      HasValue (table entries)

theorem defaultValue?_eq_bind (entries : List (String × Document)) :
    defaultValue? entries = (entries.lookup defaultKey).bind value? := by
  induction entries with
  | nil => simp [defaultValue?]
  | cons entry rest ih =>
    obtain ⟨name, value⟩ := entry
    by_cases h : name = defaultKey
    · simp [defaultValue?, h]
    · have h' : (defaultKey == name) = false := beq_false_of_ne (Ne.symm h)
      rw [defaultValue?, if_neg h, ih, List.lookup_cons, h']

theorem HasValue.isSome_value? {doc : Document} (h : HasValue doc) : doc.value?.isSome := by
  induction h with
  | number => simp [value?]
  | text => simp [value?]
  | list => simp [value?]
  | table hc _ ih => simpa [value?, defaultValue?_eq_bind, hc] using ih

mutual

theorem hasValue_of_isSome_value? : ∀ {doc : Document}, doc.value?.isSome → HasValue doc
  | .number _, _ => .number
  | .text _, _ => .text
  | .list _, _ => .list
  | .table _, h =>
    let ⟨_, hc, hv⟩ := exists_hasValue_of_isSome_defaultValue? (by simpa only [value?] using h)
    .table hc hv
  | .null, h | .bool _, h => by simp [value?] at h

theorem exists_hasValue_of_isSome_defaultValue? : ∀ {entries : List (String × Document)},
    (defaultValue? entries).isSome →
      ∃ child, entries.lookup defaultKey = some child ∧ HasValue child
  | [], h => by simp [defaultValue?] at h
  | (name, value) :: rest, h => by
    by_cases hn : name = defaultKey
    · rw [defaultValue?, if_pos hn] at h
      exact ⟨value, by simp [hn], hasValue_of_isSome_value? h⟩
    · rw [defaultValue?, if_neg hn] at h
      obtain ⟨child, hc, hv⟩ := exists_hasValue_of_isSome_defaultValue? h
      exact ⟨child, by rwa [List.lookup_cons, beq_false_of_ne (Ne.symm hn)], hv⟩

end

/-- **The documents that have a value.** -/
theorem isSome_value?_iff {doc : Document} : doc.value?.isSome ↔ HasValue doc :=
  ⟨hasValue_of_isSome_value?, HasValue.isSome_value?⟩

/-! ## Look-ups -/

/-- A look-up has the value of the first place of its path. -/
theorem lookup?_eq_bind_head? (doc : Document) (path : String) :
    doc.lookup? path = (doc.places (segments path)).head?.bind value? := by
  rw [lookup?, find?_eq_head?_places]

theorem isSome_lookup?_iff {doc : Document} {path : String} :
    (doc.lookup? path).isSome ↔
      ∃ first later, doc.places (segments path) = first :: later ∧ HasValue first := by
  rw [lookup?_eq_bind_head?]
  cases hp : doc.places (segments path) with
  | nil => simp
  | cons first later =>
    rw [List.head?_cons, Option.bind_some, isSome_value?_iff]
    exact ⟨fun h => ⟨first, later, rfl, h⟩, fun ⟨_, _, h, hv⟩ => (List.cons.inj h).1 ▸ hv⟩

/-- **What a look-up misses.**  A value that a path leads to is missed exactly when the place that
    the walk reaches first has no value: the walk does not go on to the later places. -/
theorem lookup?_misses_iff (doc : Document) (path : String) :
    ((∃ target, Leads doc (segments path) target ∧ HasValue target) ∧ doc.lookup? path = none) ↔
      ∃ first later, doc.places (segments path) = first :: later ∧ ¬ HasValue first ∧
        ∃ target ∈ later, HasValue target := by
  rw [← Option.not_isSome_iff_eq_none, isSome_lookup?_iff]
  constructor
  · rintro ⟨⟨target, ht, hv⟩, hn⟩
    have ht := mem_places_iff.2 ht
    obtain ⟨first, later, hp⟩ := List.exists_cons_of_ne_nil (List.ne_nil_of_mem ht)
    have hf : ¬ HasValue first := fun h => hn ⟨first, later, hp, h⟩
    rw [hp] at ht
    rcases List.mem_cons.1 ht with rfl | ht
    · exact absurd hv hf
    · exact ⟨first, later, hp, hf, target, ht, hv⟩
  · rintro ⟨first, later, hp, hf, target, ht, hv⟩
    have ht : target ∈ doc.places (segments path) := hp ▸ List.mem_cons_of_mem _ ht
    refine ⟨⟨target, mem_places_iff.1 ht, hv⟩, ?_⟩
    rintro ⟨first', later', hp', hv'⟩
    rw [hp] at hp'
    exact hf ((List.cons.inj hp').1 ▸ hv')

/-- A table under a dashed name that has no default entry, beside the nested table that spells the
    same path with points. -/
def shadowed : Document :=
  table [("colors", table [("blue", table [("light", text "#fff")]), ("blue-light", table [])])]

/-- The table is the first place of the path, and the value behind it stays out of reach. -/
theorem lookup?_shadowed :
    (Leads shadowed (segments "colors.blue.light") (.text "#fff") ∧ HasValue (.text "#fff")) ∧
      shadowed.lookup? "colors.blue.light" = none := by
  have hs : segments "colors.blue.light" = ["colors", "blue", "light"] := by decide +kernel
  refine ⟨⟨?_, .text⟩, ?_⟩
  · rw [hs]
    exact .single rfl (.single rfl (.single rfl .here))
  · exact Option.isNone_iff_eq_none.1 (by decide +kernel)

end Document

end UtilityStyle
