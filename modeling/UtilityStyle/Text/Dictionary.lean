/-
  Dictionaries: maps from names to values, listed by name.

  * `Dictionary` keeps its entries in strictly ascending order of name, so that a map has one
    representation and equal maps are equal values;
  * `insert` puts a value in place of the name's earlier one, `get?` looks a name up;
  * `get?_insert` describes an insertion by the look-up alone, and `mem_toList_iff` the entries;
  * dictionaries with the same look-ups are equal (`ext_get?`), so insertions under different names
    commute (`insert_comm`), the later of two under one name counts (`insert_insert`), and values
    may be changed before or after an insertion (`map_insert`).
-/

namespace UtilityStyle.Text

/-- Puts a value at its name's place in a list in ascending order, in place of the value that
    the name had. -/
def insertEntry {α : Type} (name : String) (value : α) : List (String × α) → List (String × α)
  | [] => [(name, value)]
  | (k, v) :: r =>
    if name < k then (name, value) :: (k, v) :: r
    else if name = k then (name, value) :: r
    else (k, v) :: insertEntry name value r

/-- Insertion adds no name but the given one. -/
theorem mem_insertEntry {α : Type} {name : String} {value : α} {l : List (String × α)}
    {e : String × α} (h : e ∈ insertEntry name value l) : e = (name, value) ∨ e ∈ l := by
  induction l with
  | nil => simpa [insertEntry] using h
  | cons a r ih =>
    obtain ⟨k, v⟩ := a
    rw [insertEntry] at h
    split at h
    · simpa using h
    · split at h
      · rcases List.mem_cons.1 h with h | h
        · exact .inl h
        · exact .inr (List.mem_cons_of_mem _ h)
      · rcases List.mem_cons.1 h with h | h
        · exact .inr (h ▸ List.mem_cons_self)
        · exact (ih h).imp_right (List.mem_cons_of_mem _)

/-- Names ascend strictly. -/
def Ascending {α : Type} (l : List (String × α)) : Prop :=
  l.Pairwise fun a b => a.1 < b.1

/-- Insertion keeps names ascending. -/
theorem Ascending.insertEntry {α : Type} {name : String} {value : α} {l : List (String × α)}
    (h : Ascending l) : Ascending (insertEntry name value l) := by
  induction l with
  | nil => exact List.pairwise_singleton ..
  | cons a r ih =>
    obtain ⟨k, v⟩ := a
    obtain ⟨hk, hr⟩ := List.pairwise_cons.1 h
    rw [Text.insertEntry]
    split
    · next hlt =>
      refine List.pairwise_cons.2 ⟨fun e he => ?_, h⟩
      rcases List.mem_cons.1 he with rfl | he
      · exact hlt
      · exact String.lt_trans hlt (hk e he)
    · split
      · next heq => subst heq; exact List.pairwise_cons.2 ⟨hk, hr⟩
      · next hlt hne =>
        refine List.pairwise_cons.2 ⟨fun e he => ?_, ih hr⟩
        rcases mem_insertEntry he with rfl | he
        · exact Std.not_le.1 fun hle => hne (String.le_antisymm hle (Std.not_lt.1 hlt))
        · exact hk e he

/-- The values may change while the names keep ascending. -/
theorem Ascending.map {α β : Type} (f : α → β) {l : List (String × α)} (h : Ascending l) :
    Ascending (l.map fun e => (e.1, f e.2)) := List.pairwise_map.2 h

/-- A look-up tries the first entry and then the others. -/
theorem lookup_entry {α : Type} {key k : String} {v : α} {r : List (String × α)} :
    ((k, v) :: r).lookup key = if key = k then some v else r.lookup key := by
  by_cases h : key = k
  · simp [h]
  · simp [List.lookup_cons, beq_eq_false_iff_ne.2 h, h]

/-- A look-up after an insertion finds the new value under its name, and else what was there. -/
theorem lookup_insertEntry {α : Type} {name : String} {value : α} {l : List (String × α)}
    {key : String} :
    (insertEntry name value l).lookup key = if key = name then some value else l.lookup key := by
  induction l with
  | nil => simp [insertEntry, lookup_entry]
  | cons a r ih =>
    obtain ⟨k, v⟩ := a
    rw [insertEntry]
    split
    · simp [lookup_entry]
    · split
      · next heq => subst heq; by_cases h : key = name <;> simp [lookup_entry, h]
      · next hne =>
        by_cases h : key = k
        · subst h; simp [Ne.symm hne]
        · simp [lookup_entry, h, ih]

/-- The value of an entry is what the look-up of its name finds. -/
theorem Ascending.lookup_of_mem {α : Type} {l : List (String × α)} (h : Ascending l)
    {name : String} {value : α} (hm : (name, value) ∈ l) : l.lookup name = some value := by
  induction l with
  | nil => cases hm
  | cons a r ih =>
    obtain ⟨k, v⟩ := a
    obtain ⟨hk, hr⟩ := List.pairwise_cons.1 h
    rcases List.mem_cons.1 hm with heq | hm
    · cases heq; simp
    · have hne : name ≠ k := fun he => String.lt_irrefl k (he ▸ hk _ hm)
      simp [lookup_entry, hne, ih hr hm]

/-- No entry is listed twice. -/
theorem Ascending.nodup {α : Type} {l : List (String × α)} (h : Ascending l) : l.Nodup := by
  refine List.Pairwise.imp (fun {a b} hlt => ?_) h
  rintro rfl
  exact String.lt_irrefl _ hlt

/-- A look-up finds the image of what it found before the values were changed. -/
theorem lookup_mapEntries {α β : Type} (f : α → β) {l : List (String × α)} {key : String} :
    (l.map fun e => (e.1, f e.2)).lookup key = (l.lookup key).map f := by
  induction l with
  | nil => rfl
  | cons a r ih =>
    rw [List.map_cons, lookup_entry, lookup_entry, ih]
    split <;> rfl

/-- Lists with ascending names and the same entries are equal. -/
theorem Ascending.eq_of_mem_iff {α : Type} {l l' : List (String × α)} (h : Ascending l)
    (h' : Ascending l') (hm : ∀ e, e ∈ l ↔ e ∈ l') : l = l' := by
  refine List.Perm.eq_of_pairwise (fun a b _ _ hab hba => ?_) h h' ?_
  · exact absurd (String.lt_trans hab hba) (String.lt_irrefl _)
  · exact (List.perm_ext_iff_of_nodup h.nodup h'.nodup).2 hm

/-- A map from names to values, listed in ascending order of name. -/
structure Dictionary (α : Type) where
  /-- The entries. -/
  toList : List (String × α)
  /-- Their names ascend. -/
  ascending : Ascending toList

namespace Dictionary

variable {α β : Type}

instance [DecidableEq α] : DecidableEq (Dictionary α) := fun a b =>
  decidable_of_iff (a.toList = b.toList) (by cases a; cases b; simp)

/-- The dictionary without entries. -/
def empty : Dictionary α := ⟨[], .nil⟩

instance : Inhabited (Dictionary α) := ⟨empty⟩

/-- Sets the value of a name. -/
def insert (d : Dictionary α) (name : String) (value : α) : Dictionary α :=
  ⟨insertEntry name value d.toList, d.ascending.insertEntry⟩

/-- The dictionary with every value changed. -/
def map (f : α → β) (d : Dictionary α) : Dictionary β :=
  ⟨d.toList.map fun e => (e.1, f e.2), d.ascending.map f⟩

/-- The value of a name. -/
def get? (d : Dictionary α) (name : String) : Option α := d.toList.lookup name

/-- Whether a name has a value. -/
def contains (d : Dictionary α) (name : String) : Bool := (d.get? name).isSome

/-- The number of entries. -/
def size (d : Dictionary α) : Nat := d.toList.length

/-- Whether there are no entries. -/
def isEmpty (d : Dictionary α) : Bool := d.toList.isEmpty

/-- Insertion sets the value of one name and leaves the others. -/
@[simp] theorem get?_insert {d : Dictionary α} {name key : String} {value : α} :
    (d.insert name value).get? key = if key = name then some value else d.get? key :=
  lookup_insertEntry

@[simp] theorem get?_map {f : α → β} {d : Dictionary α} {key : String} :
    (d.map f).get? key = (d.get? key).map f :=
  lookup_mapEntries f

/-- The entries are the names that have a value, each with its value. -/
theorem mem_toList_iff {d : Dictionary α} {name : String} {value : α} :
    (name, value) ∈ d.toList ↔ d.get? name = some value := by
  refine ⟨d.ascending.lookup_of_mem, fun h => ?_⟩
  obtain ⟨l₁, l₂, hl, -⟩ := List.lookup_eq_some_iff.1 h
  simp [hl]

/-- A dictionary is determined by its look-ups. -/
theorem ext_get? {d d' : Dictionary α} (h : ∀ name, d.get? name = d'.get? name) : d = d' := by
  have hl : d.toList = d'.toList := d.ascending.eq_of_mem_iff d'.ascending fun (name, value) => by
    rw [mem_toList_iff, mem_toList_iff, h]
  cases d
  cases d'
  cases hl
  rfl

/-- A value may be changed before it is put in. -/
theorem map_insert (f : α → β) (d : Dictionary α) (name : String) (value : α) :
    (d.insert name value).map f = (d.map f).insert name (f value) := by
  refine ext_get? fun key => ?_
  simp only [get?_map, get?_insert]
  split <;> rfl

/-- The later of two values of a name counts. -/
theorem insert_insert (d : Dictionary α) (name : String) (a b : α) :
    (d.insert name a).insert name b = d.insert name b := by
  refine ext_get? fun key => ?_
  simp only [get?_insert]
  by_cases hk : key = name
  · rw [if_pos hk, if_pos hk]
  · rw [if_neg hk, if_neg hk, if_neg hk]

/-- Insertions under different names commute. -/
theorem insert_comm {d : Dictionary α} {name name' : String} (h : name ≠ name') (a b : α) :
    (d.insert name a).insert name' b = (d.insert name' b).insert name a := by
  refine ext_get? fun key => ?_
  simp only [get?_insert]
  by_cases hk : key = name
  · rw [if_pos hk, if_neg (hk ▸ h), if_pos hk]
  · rw [if_neg hk, if_neg hk]

end Dictionary

end UtilityStyle.Text
