/-
  Selectors are delimited when the texts in square brackets allow it.

  * `Selector.compose_isDelimited_of_parts`: parts that can stand in any selector make a delimited
    one;
  * `Selector.isDelimited_compose_singleton_iff`: under one modifier, the text that it adds decides;
  * `Selector.compose_isDelimited`: so nothing but the texts in square brackets can break the
    selector of a class, and a part that is not delimited breaks it.
-/
import UtilityStyle.ClassName
import UtilityStyle.Proofs.Modifier.Closed
import UtilityStyle.Proofs.Selector

namespace UtilityStyle

open Text Css

/-- What a part adds to the selector itself; a rule stands around it. -/
def SelectorPart.text? : SelectorPart → Option String
  | atRule _ => none
  | ancestor text | sibling text | condition text | pseudoElement text | template text => some text

namespace Selector

/-! ## Closed parts -/

/-- The selector of a class does what one plain character does, wherever it stands. -/
theorem run_ofClass (className : String) (r : Reading) :
    r.run (ofClass className).body.toList = some { r with escaped := false } := by
  have hlist : (ofClass className).body.toList =
      '.' :: (escapeIdentifier className).toList := String.toList_append
  rw [hlist, Reading.run_cons, Reading.step_of_notMem (by decide), Option.bind_some]
  exact inert_escapeIdentifier className _ rfl

theorem inert_ofClass (className : String) : Inert (ofClass className).body.toList := by
  intro r hr
  rw [run_ofClass, ← hr]

/-- Templates take a delimited selector one after the other. -/
theorem isDelimited_foldl_substitute {templates : List String} {body : String}
    (h : ∀ template ∈ templates, IsTemplate template) (hbody : IsDelimited body) :
    IsDelimited (templates.foldl (fun s t => substitute '&' s t) body) := by
  induction templates generalizing body with
  | nil => exact hbody
  | cons template templates ih =>
    obtain ⟨ht, hrest⟩ := List.forall_mem_cons.1 h
    exact ih hrest (ht.substitute hbody)

/-- **Parts that can stand in any selector** make a delimited one. -/
theorem compose_isDelimited_of_parts (className : String) {ms : List Modifier}
    (h : ∀ part ∈ parts ms, part.IsClosed) : IsDelimited (compose className ms).body := by
  have hjoin (text? : SelectorPart → Option String)
      (htext : ∀ part text, text? part = some text → part.IsClosed → IsDelimited text) :
      IsDelimited (String.join ((parts ms).filterMap text?)) := by
    refine .join fun text hmem => ?_
    obtain ⟨part, hpart, heq⟩ := List.mem_filterMap.1 hmem
    exact htext part text heq (h part hpart)
  refine isDelimited_foldl_substitute (fun template ht => ?_) ?_
  · obtain ⟨part, hpart, heq⟩ := List.mem_filterMap.1 ht
    cases part <;> cases heq
    exact h _ hpart
  · refine ((((hjoin _ ?_).append (hjoin _ ?_)).append (inert_ofClass _).isDelimited).append
      (hjoin _ ?_)).append (hjoin _ ?_)
    all_goals
      intro part text heq hclosed
      cases part <;> cases heq
      exact hclosed

/-! ## One modifier -/

theorem parts_singleton (m : Modifier) : parts [m] = m.kind.part?.toList := by
  have hsorted : Modifier.sorted [m] = [m] := by
    simp only [Modifier.sorted, Level.all, List.flatMap_cons, List.flatMap_nil, List.filter_cons,
      List.filter_nil]
    cases m.level <;> rfl
  rw [parts, hsorted]
  cases hpart : m.kind.part? with
  | none => simp [hpart]
  | some part => simp [hpart]

/-- A selector with the one part there may be. -/
def withPart (body : String) : Option SelectorPart → String
  | none | some (.atRule _) => body
  | some (.ancestor text) | some (.sibling text) => text ++ body
  | some (.condition text) | some (.pseudoElement text) => body ++ text
  | some (.template text) => substitute '&' body text

theorem body_compose_singleton (className : String) (m : Modifier) :
    (compose className [m]).body = withPart (ofClass className).body m.kind.part? := by
  have hparts := parts_singleton m
  unfold parts at hparts
  unfold compose
  rw [hparts]
  cases m.kind.part? with
  | none => simp [withPart]
  | some part =>
    cases part <;>
      simp [withPart, SelectorPart.ancestor?, SelectorPart.sibling?, SelectorPart.condition?,
        SelectorPart.pseudoElement?, SelectorPart.template?]

/-- The state of another element ends with a space, before the class. -/
theorem exists_text?_eq_append_space {kind : ModifierKind} {part : SelectorPart}
    (h : kind.part? = some part) (hrelation : part.branch = .relation) :
    ∃ front, part.text? = some (front ++ " ") := by
  unfold ModifierKind.part? at h
  split at h
  · cases h
    cases hrelation
  · split at h
    · obtain ⟨asked, -, rfl⟩ := Option.map_eq_some_iff.1 h
      exact ⟨_, rfl⟩
    · obtain ⟨asked, -, rfl⟩ := Option.map_eq_some_iff.1 h
      have hend : " ~ " = " ~" ++ " " := rfl
      rw [hend, ← String.append_assoc]
      exact ⟨_, rfl⟩
    · cases h
      cases hrelation
    · obtain ⟨text, -, rfl⟩ := Option.map_eq_some_iff.1 h
      cases hrelation
    · obtain ⟨text, -, rfl⟩ := Option.map_eq_some_iff.1 h
      cases hrelation

/-- **Under one modifier** the selector is delimited exactly if the text is that it adds. -/
theorem isDelimited_compose_singleton_iff (className : String) (m : Modifier) :
    IsDelimited (compose className [m]).body ↔
      ∀ part ∈ m.kind.part?, ∀ text ∈ part.text?, IsDelimited text := by
  have hclass := inert_ofClass className
  rw [body_compose_singleton]
  cases hpart : m.kind.part? with
  | none => simp [withPart, hclass.isDelimited]
  | some part =>
    simp only [Option.mem_some_iff, forall_eq']
    cases part with
    | atRule text => simp [withPart, SelectorPart.text?, hclass.isDelimited]
    | ancestor text | sibling text =>
      obtain ⟨front, hfront⟩ := exists_text?_eq_append_space hpart rfl
      simp only [SelectorPart.text?, Option.mem_some_iff, forall_eq']
      cases hfront
      exact hclass.isDelimited_space_append_iff
    | condition text | pseudoElement text =>
      simp only [SelectorPart.text?, Option.mem_some_iff, forall_eq']
      exact hclass.isDelimited_append_iff
    | template text =>
      simp only [SelectorPart.text?, Option.mem_some_iff, forall_eq']
      exact isDelimited_substitute_iff (run_ofClass className) text

/-! ## The selector of a class -/

/-- **Nothing but the texts in square brackets** can break the selector of a class, and a part of
    it that is not delimited does.

    If every modifier that is written with square brackets can hold the texts that it takes over
    from them, the selector is delimited: each bracket in it is closed by its own kind, nothing
    closes unopened, and every string ends.  The other modifiers, the escaped names of the class
    and of the markers, and the formulas need no condition.  Under one modifier the selector is
    delimited exactly if the text is that the modifier adds. -/
theorem compose_isDelimited (s : String) :
    ((∀ m ∈ (ClassName.split s).readModifiers, '[' ∈ m.raw.toList → m.kind.IsClosed) →
        IsDelimited (compose s (ClassName.split s).readModifiers).body) ∧
      ∀ m, (ClassName.split s).readModifiers = [m] →
        (IsDelimited (compose s (ClassName.split s).readModifiers).body ↔
          ∀ part ∈ m.kind.part?, ∀ text ∈ part.text?, IsDelimited text) := by
  refine ⟨fun hclosed => compose_isDelimited_of_parts s fun part hpart => ?_, ?_⟩
  · obtain ⟨m, hm, hpart⟩ := List.mem_filterMap.1 hpart
    have hm : m ∈ (ClassName.split s).readModifiers := Modifier.mem_of_mem_sorted hm
    obtain ⟨raw, -, rfl⟩ := List.mem_map.1 (Modifier.mem_of_mem_sorted hm)
    cases hkind : ModifierKind.read? raw with
    | none =>
      rw [Modifier.read, hkind] at hpart
      cases hpart
    | some kind =>
      have hread : (Modifier.read raw).kind = kind := by rw [Modifier.read, hkind, Option.getD_some]
      rw [hread] at hpart
      exact ModifierKind.isClosed_part_of_read? hkind (hread ▸ hclosed _ hm) part hpart
  · intro m hm
    rw [hm]
    exact isDelimited_compose_singleton_iff s m

/-- A value with an escaped quote and brackets of its own stays in its quotes.  A template that is
    alone may have its mark in a string. -/
theorem compose_isDelimited_quoted :
    let s := "peer-[:nth-child(2)]/a:data-[state=b\\\"(]]:[&>[open]]:p-4"
    let t := "[&[title=\"&\"]]:p-4"
    (∀ m ∈ (ClassName.split s).readModifiers, '[' ∈ m.raw.toList → m.kind.IsClosed) ∧
      IsDelimited (compose s (ClassName.split s).readModifiers).body ∧
        IsDelimited (compose t (ClassName.split t).readModifiers).body := by
  intro s t
  have hclosed : ∀ m ∈ (ClassName.split s).readModifiers, '[' ∈ m.raw.toList → m.kind.IsClosed := by
    decide +kernel
  have hone : (ClassName.split t).readModifiers = [.read "[&[title=\"&\"]]"] := by decide +kernel
  refine ⟨hclosed, (compose_isDelimited s).1 hclosed, ((compose_isDelimited t).2 _ hone).2 ?_⟩
  decide +kernel

/-- A quote in the value of an attribute ends the string around it. -/
theorem compose_quote_unclosed :
    let s := "data-[state=a\"b]:p-4"
    (∀ m ∈ (ClassName.split s).readModifiers, m.kind ≠ .unknown) ∧
      ¬ IsDelimited (compose s (ClassName.split s).readModifiers).body := by decide +kernel

end Selector

end UtilityStyle
