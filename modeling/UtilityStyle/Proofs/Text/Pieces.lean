/-
  Pieces of text.

  * `startsWith_iff`: a text starts with its prefixes;
  * `hasPiece_iff`: the pieces of a text are its infixes;
  * `between?_append`: what stands between two texts is found there;
  * `splitFirst?_eq_some_iff`, `splitLast?_eq_some_iff`: the cut at the first or last separator is
    the one with no separator before or behind it;
  * `words_of_no_space`, `trim_of_no_space`: a text without white space is one word, with nothing
    to trim;
  * `unquoted_of_unwrapped`, `unquoted_wrapped`: quotes are taken off in pairs.
-/
import Mathlib.Data.List.Basic
import UtilityStyle.Text.Pieces

namespace UtilityStyle.Text

variable {sep : Char} {s a b : List Char}

theorem startsWith_iff {front s : String} :
    startsWith front s = true ↔ front.toList <+: s.toList := by
  rw [startsWith, after?, Option.isSome_map, List.isSome_isPrefixOf?_eq_isPrefixOf,
    List.isPrefixOf_iff_prefix]

theorem hasPiece_iff {piece : List Char} : hasPiece piece s = true ↔ piece <:+: s := by
  induction s with
  | nil => cases piece <;> simp [hasPiece]
  | cons c s ih =>
    rw [hasPiece, Bool.or_eq_true, ih, List.isPrefixOf_iff_prefix, List.infix_cons_iff]

theorem between?_append (front back s : String) :
    between? front back (front ++ s ++ back) = some s := by
  have hafter : after? front (front ++ s ++ back) = some (s ++ back) := by
    have hrest : front.toList.isPrefixOf? (front ++ s ++ back).toList = some (s ++ back).toList :=
      List.isPrefixOf?_eq_some_iff_append_eq.2 (by simp)
    rw [after?, hrest, Option.map_some, String.ofList_toList]
  have hbefore : back.toList.isSuffixOf? (s ++ back).toList = some s.toList :=
    List.isSuffixOf?_eq_some_iff_append_eq.2 (by simp)
  rw [between?, hafter, Option.bind_some, before?, hbefore, Option.map_some, String.ofList_toList]

/-- **The first separator** is the one with no separator before it. -/
theorem splitFirst?_eq_some_iff :
    splitFirst? sep s = some (a, b) ↔ s = a ++ sep :: b ∧ sep ∉ a := by
  induction s generalizing a with
  | nil => simp [splitFirst?]
  | cons c s ih =>
    rw [splitFirst?]
    by_cases hc : c = sep
    · subst hc
      cases a with
      | nil => simp
      | cons d a => simp +contextual [eq_comm]
    · rw [if_neg hc, Option.map_eq_some_iff]
      constructor
      · rintro ⟨⟨before, after⟩, hs, heq⟩
        obtain ⟨rfl, rfl⟩ := Prod.mk.inj heq
        obtain ⟨rfl, hbefore⟩ := ih.1 hs
        exact ⟨rfl, by simp [Ne.symm hc, hbefore]⟩
      · rintro ⟨hs, ha⟩
        cases a with
        | nil => exact absurd (List.cons.inj hs).1 hc
        | cons d a =>
          obtain ⟨rfl, rfl⟩ := List.cons.inj hs
          exact ⟨(a, b), ih.2 ⟨rfl, fun hmem => ha (List.mem_cons_of_mem _ hmem)⟩, rfl⟩

theorem splitFirst?_append_cons (h : sep ∉ a) (b : List Char) :
    splitFirst? sep (a ++ sep :: b) = some (a, b) := splitFirst?_eq_some_iff.2 ⟨rfl, h⟩

theorem splitLast?_eq_none (h : sep ∉ s) : splitLast? sep s = none := by
  induction s with
  | nil => rfl
  | cons c s ih =>
    rw [List.mem_cons, not_or] at h
    rw [splitLast?, ih h.2]
    exact if_neg (Ne.symm h.1)

theorem splitLast?_append_cons (h : sep ∉ b) (a : List Char) :
    splitLast? sep (a ++ sep :: b) = some (a, b) := by
  induction a with
  | nil =>
    rw [List.nil_append, splitLast?, splitLast?_eq_none h]
    exact if_pos rfl
  | cons c a ih => rw [List.cons_append, splitLast?, ih]

/-- **The last separator** is the one with no separator behind it. -/
theorem splitLast?_eq_some_iff :
    splitLast? sep s = some (a, b) ↔ s = a ++ sep :: b ∧ sep ∉ b := by
  constructor
  · intro h
    have hmem : sep ∈ s := by
      by_contra hmem
      rw [splitLast?_eq_none hmem] at h
      cases h
    -- the last separator is the first one from the end
    obtain ⟨back, front, hreverse, hback⟩ :=
      List.eq_append_cons_of_mem (List.mem_reverse.2 hmem)
    have hs : s = front.reverse ++ sep :: back.reverse := by
      rw [← List.reverse_reverse s, hreverse]
      simp
    have hsep : sep ∉ back.reverse := fun hmem => hback (List.mem_reverse.1 hmem)
    rw [hs, splitLast?_append_cons hsep] at h
    obtain ⟨rfl, rfl⟩ := Prod.mk.inj (Option.some.inj h)
    exact ⟨hs, hsep⟩
  · rintro ⟨rfl, hb⟩
    exact splitLast?_append_cons hb a

/-! ## White space -/

section
variable (h : ∀ c ∈ s, isSpace c = false)
include h

theorem words_of_no_space (hne : s ≠ []) : words s = [s] := by
  have hwhole : splitWhere isSpace s = [s] := by
    clear hne
    induction s with
    | nil => rfl
    | cons c s ih =>
      obtain ⟨hc, hs⟩ := List.forall_mem_cons.1 h
      rw [splitWhere, hc, ih hs]
      rfl
  rw [words, hwhole]
  cases s with
  | nil => exact absurd rfl hne
  | cons c s => rfl

theorem trim_of_no_space : trim s = s := by
  have hdrop : ∀ l : List Char, (∀ c ∈ l, isSpace c = false) → l.dropWhile isSpace = l := by
    intro l hl
    cases l with
    | nil => rfl
    | cons c l => rw [List.dropWhile_cons, hl c List.mem_cons_self, if_neg Bool.false_ne_true]
  rw [trim, trimBoth, hdrop s h, hdrop s.reverse fun c hc => h c (List.mem_reverse.1 hc),
    List.reverse_reverse]

theorem isBlank_of_no_space (hne : s ≠ []) : isBlank s = false := by
  obtain ⟨c, r, rfl⟩ := List.exists_cons_of_ne_nil hne
  exact List.all_eq_false.2 ⟨c, List.mem_cons_self, by simp [h c List.mem_cons_self]⟩

end

/-! ## Quotes -/

/-- The characters that quote a text. -/
def quotes : List Char := ['"', '\x27']

/-- A text that does not begin and end with the same quote has none to take off; a quote alone is
    no pair. -/
theorem unquoted_of_unwrapped
    (h : ∀ q ∈ quotes, s.head? = some q → s.getLast? = some q → s = [q]) : unquoted s = s := by
  have hkeep : ∀ q ∈ quotes, ∀ r, s = q :: r → r.getLast? ≠ some q := by
    rintro q hq r rfl hlast
    have hne : r ≠ [] := by
      rintro rfl
      cases hlast
    have hpair := h q hq rfl (by rw [List.getLast?_cons_of_ne_nil hne]; exact hlast)
    exact hne (List.cons.inj hpair).2
  unfold unquoted
  split
  · exact if_neg (hkeep '"' (by decide) _ rfl)
  · exact if_neg (hkeep '\x27' (by decide) _ rfl)
  · rfl

theorem unquoted_wrapped {q : Char} (hq : q ∈ quotes) (s : List Char) :
    unquoted (q :: (s ++ [q])) = s := by
  simp only [quotes, List.mem_cons, List.not_mem_nil, or_false] at hq
  rcases hq with rfl | rfl <;> simp [unquoted]

end UtilityStyle.Text
