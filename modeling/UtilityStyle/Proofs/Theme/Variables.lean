/-
  Theme variables after any settings.

  * `lastSet?`: the value of the last setting of a name.  `get?_entries_ofList`: it is the entry of
    that name;
  * `ofList_toList_iff`: the variables are rebuilt from their own list exactly if no name in it
    begins with dashes, as reading a name takes dashes off it once more;
  * `ofList_consistent`: all of this for one list of settings.  A name with four dashes in front is
    listed under one that finds something else (`dashed_name_unfound`).
-/
import Mathlib.Algebra.Order.BigOperators.Group.List
import Mathlib.Algebra.Order.Group.Nat
import Mathlib.Data.List.Induction
import UtilityStyle.Proofs.Text.Pieces
import UtilityStyle.Theme.Variables

namespace UtilityStyle.ThemeVariables

open Text

/-! ## Names -/

/-- The name begins with the dashes of a custom property. -/
def IsDashed (name : String) : Prop := startsWith "--" name = true

instance (name : String) : Decidable (IsDashed name) := inferInstanceAs (Decidable (_ = true))

theorem bareName_of_not_isDashed {name : String} (h : ¬IsDashed name) : bareName name = name := by
  have hnone : after? "--" name = none := by simpa [IsDashed, startsWith] using h
  rw [bareName, hnone, Option.getD_none]

/-- Two dashes are taken off, no more. -/
theorem toList_of_isDashed {name : String} (h : IsDashed name) :
    name.toList = '-' :: '-' :: (bareName name).toList := by
  obtain ⟨rest, hrest⟩ := Option.isSome_iff_exists.1 h
  obtain ⟨r, hr, rfl⟩ := Option.map_eq_some_iff.1 hrest
  rw [bareName, hrest, Option.getD_some, String.toList_ofList]
  exact (List.isPrefixOf?_eq_some_iff_append_eq.1 hr).symm

/-- **A bare name still has dashes** if the name has four of them. -/
theorem isDashed_bareName_iff {name : String} :
    IsDashed (bareName name) ↔ startsWith "----" name = true := by
  have hfour : "----".toList = '-' :: '-' :: "--".toList := rfl
  by_cases h : IsDashed name
  · rw [IsDashed, startsWith_iff, startsWith_iff, toList_of_isDashed h, hfour,
      List.cons_prefix_cons, List.cons_prefix_cons]
    simp
  · rw [bareName_of_not_isDashed h, startsWith_iff, hfour]
    refine iff_of_false h fun hprefix => h ?_
    exact startsWith_iff.2 ((List.prefix_append ['-', '-'] "--".toList).trans hprefix)

/-! ## The last setting -/

/-- The value of the last setting whose bare name is the given one. -/
def lastSet? (settings : List (String × String)) (name : String) : Option String :=
  (settings.filter fun e => bareName e.1 = name).getLast?.map (·.2)

theorem lastSet?_concat (settings : List (String × String)) (e : String × String) (name : String) :
    lastSet? (settings ++ [e]) name =
      if name = bareName e.1 then some e.2 else lastSet? settings name := by
  unfold lastSet?
  rw [List.filter_append]
  split
  · next h => simp [h]
  · next h => simp [Ne.symm h]

theorem exists_mem_of_lastSet? {settings : List (String × String)} {name value : String}
    (h : lastSet? settings name = some value) :
    ∃ e ∈ settings, bareName e.1 = name ∧ e.2 = value := by
  obtain ⟨e, he, hvalue⟩ := Option.map_eq_some_iff.1 h
  obtain ⟨hmem, hname⟩ := List.mem_filter.1 (List.mem_of_getLast? he)
  exact ⟨e, hmem, of_decide_eq_true hname, hvalue⟩

theorem isSome_lastSet? {settings : List (String × String)} {e : String × String}
    (h : e ∈ settings) : (lastSet? settings (bareName e.1)).isSome := by
  rw [lastSet?, Option.isSome_map, List.getLast?_isSome]
  exact List.ne_nil_of_mem (List.mem_filter.2 ⟨h, decide_eq_true rfl⟩)

/-- One setting puts its value under its bare name. -/
theorem get?_entries_set (vars : ThemeVariables) (name value key : String) :
    (vars.set name value).entries.get? key =
      if key = bareName name then some value else vars.entries.get? key :=
  Dictionary.get?_insert

/-- **An entry is the last setting of its name.** -/
theorem get?_entries_ofList (settings : List (String × String)) (key : String) :
    (ofList settings).entries.get? key = lastSet? settings key := by
  induction settings using List.reverseRecOn with
  | nil => rfl
  | append_singleton settings e ih =>
    rw [lastSet?_concat, ← ih, ofList, List.foldl_append]
    exact get?_entries_set _ _ _ _

theorem mem_toList_ofList {settings : List (String × String)} {name value : String} :
    (name, value) ∈ (ofList settings).toList ↔ lastSet? settings name = some value := by
  rw [← get?_entries_ofList]
  exact Dictionary.mem_toList_iff

/-- The names that are listed are the bare names of the settings. -/
theorem exists_mem_toList_iff {settings : List (String × String)} {name : String} :
    (∃ value, (name, value) ∈ (ofList settings).toList) ↔ ∃ e ∈ settings, bareName e.1 = name := by
  simp only [mem_toList_ofList]
  constructor
  · rintro ⟨value, h⟩
    obtain ⟨e, he, hname, -⟩ := exists_mem_of_lastSet? h
    exact ⟨e, he, hname⟩
  · rintro ⟨e, he, rfl⟩
    exact Option.isSome_iff_exists.1 (isSome_lastSet? he)

/-! ## Rebuilding -/

variable {vars : ThemeVariables}

/-- Listed names without dashes are set again as they are. -/
theorem lastSet?_toList_iff (h : ∀ e ∈ vars.toList, ¬IsDashed e.1) {name value : String} :
    lastSet? vars.toList name = some value ↔ (name, value) ∈ vars.toList := by
  have hsame {e : String × String} (he : e ∈ vars.toList) : bareName e.1 = e.1 :=
    bareName_of_not_isDashed (h e he)
  constructor
  · intro hlast
    obtain ⟨e, he, rfl, rfl⟩ := exists_mem_of_lastSet? hlast
    rwa [hsame he]
  · intro hmem
    have hsome := isSome_lastSet? hmem
    rw [hsame hmem] at hsome
    obtain ⟨value', hvalue'⟩ := Option.isSome_iff_exists.1 hsome
    obtain ⟨e, he, hname, rfl⟩ := exists_mem_of_lastSet? hvalue'
    rw [hsame he] at hname
    subst hname
    -- a name is listed once
    rw [hvalue', ← Dictionary.mem_toList_iff.1 he]
    exact Dictionary.mem_toList_iff.1 hmem

/-- If the variables come back from their list, every listed name with dashes is the bare name of
    a longer one. -/
theorem exists_longer_of_rebuilt (h : ofList vars.toList = vars) {e : String × String}
    (he : e ∈ vars.toList) (hdashed : IsDashed e.1) :
    ∃ e' ∈ vars.toList, IsDashed e'.1 ∧ e.1.length < e'.1.length := by
  have hlisted : ∃ value, (e.1, value) ∈ (ofList vars.toList).toList := ⟨e.2, by rwa [h]⟩
  obtain ⟨e', he', hname⟩ := exists_mem_toList_iff.1 hlisted
  have hdashed' : IsDashed e'.1 := by
    by_contra hbare
    rw [← hname, bareName_of_not_isDashed hbare] at hdashed
    exact hbare hdashed
  have hlength := congrArg List.length (toList_of_isDashed hdashed')
  simp only [List.length_cons, String.length_toList, hname] at hlength
  exact ⟨e', he', hdashed', by omega⟩

/-- **The variables are rebuilt from their list** exactly if no listed name has dashes in front. -/
theorem ofList_toList_iff : ofList vars.toList = vars ↔ ∀ e ∈ vars.toList, ¬IsDashed e.1 := by
  constructor
  · intro h e he hdashed
    -- there would be names of any length
    have hlong : ∀ n, ∃ e ∈ vars.toList, IsDashed e.1 ∧ n ≤ e.1.length := by
      intro n
      induction n with
      | zero => exact ⟨e, he, hdashed, Nat.zero_le _⟩
      | succ n ih =>
        obtain ⟨e, he, hdashed, hn⟩ := ih
        obtain ⟨e', he', hdashed', hlt⟩ := exists_longer_of_rebuilt h he hdashed
        exact ⟨e', he', hdashed', by omega⟩
    obtain ⟨e', he', -, hn⟩ := hlong ((vars.toList.map (·.1.length)).sum + 1)
    have hle : e'.1.length ≤ (vars.toList.map (·.1.length)).sum :=
      List.le_sum_of_mem (List.mem_map_of_mem he')
    omega
  · intro h
    have hentries : (ofList vars.toList).entries = vars.entries := by
      refine Dictionary.ext_get? fun name => Option.ext fun value => ?_
      rw [get?_entries_ofList, lastSet?_toList_iff h]
      exact Dictionary.mem_toList_iff
    exact congrArg ThemeVariables.mk hentries

/-! ## All laws -/

/-- **Theme variables are a map of their last settings.**  They are listed in ascending order, each
    bare name with the value of its last setting, and a look-up finds the last setting with the same
    bare name.  Dashes are taken off again when a listed name is looked up or set: a listed pair is
    found as it stands if its name has none in front, and the list rebuilds the variables exactly if
    no setting had four. -/
theorem ofList_consistent (settings : List (String × String)) :
    let vars : ThemeVariables := ofList settings
    (vars.toList.map (·.1)).Pairwise (· < ·) ∧ vars.size = (vars.toList.map (·.1)).length ∧
      (∀ name value, (name, value) ∈ vars.toList ↔ lastSet? settings name = some value) ∧
      (∀ name, vars.get? name = lastSet? settings (bareName name) ∧
        (vars.contains name = true ↔ ∃ value, vars.get? name = some value)) ∧
      (∀ e ∈ vars.toList, ¬IsDashed e.1 → vars.get? e.1 = some e.2) ∧
      (ofList vars.toList = vars ↔ ∀ e ∈ settings, startsWith "----" e.1 = false) := by
  intro vars
  have hget (name : String) : vars.get? name = lastSet? settings (bareName name) :=
    get?_entries_ofList settings _
  refine ⟨List.pairwise_map.2 vars.entries.ascending, (List.length_map ..).symm,
    fun _ _ => mem_toList_ofList, fun name => ⟨hget name, Option.isSome_iff_exists⟩, ?_, ?_⟩
  · intro e he hbare
    rw [hget, bareName_of_not_isDashed hbare]
    exact mem_toList_ofList.1 he
  · rw [ofList_toList_iff]
    constructor
    · intro h e he
      obtain ⟨value, hlisted⟩ := exists_mem_toList_iff.2 ⟨e, he, rfl⟩
      exact Bool.eq_false_iff.2 fun hfour => h _ hlisted (isDashed_bareName_iff.2 hfour)
    · intro h e he hdashed
      obtain ⟨e', he', hname⟩ := exists_mem_toList_iff.1 ⟨e.2, he⟩
      rw [← hname, isDashed_bareName_iff, h e' he'] at hdashed
      cases hdashed

/-- Two settings of one name, the later one as a custom property. -/
theorem ofList_consistent_spacing :
    let vars := ofList [("spacing-4", "1px"), ("--spacing-4", "1rem")]
    ("spacing-4", "1rem") ∈ vars.toList ∧ ¬IsDashed "spacing-4" ∧
      vars.get? "spacing-4" = some "1rem" := by
  intro vars
  have hlisted : ("spacing-4", "1rem") ∈ vars.toList := by decide
  have hbare : ¬IsDashed "spacing-4" := by decide
  exact ⟨hlisted, hbare, (ofList_consistent _).2.2.2.2.1 _ hlisted hbare⟩

/-- A name with four dashes is listed with two, under which it is not found, and the list does not
    rebuild it. -/
theorem dashed_name_unfound :
    let vars := ofList [("----x", "1")]
    vars.toList = [("--x", "1")] ∧ vars.get? "--x" = none ∧ vars.contains "--x" = false ∧
      (ofList vars.toList).toList ≠ vars.toList := by
  decide

end UtilityStyle.ThemeVariables
