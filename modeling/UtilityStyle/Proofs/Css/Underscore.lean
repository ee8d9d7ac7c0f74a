/-
  Underscores in tokens.

  No step of the scanner drops an underscore that is in the text before it: a name or a symbol takes
  it, or it is left for the next token.  So an underscore outside of comments is part of a token
  (`exists_underscore_of_mem`).
-/
import UtilityStyle.Proofs.Css.Token

namespace UtilityStyle.Css

open Number Text

variable {s : List Char}

/-- The name or the character that a token holds. -/
def Token.written : Token → List Char
  | ident name | function name | hash name | dimension _ name => name.toList
  | symbol c => [c]
  | number _ | percentage _ => []

section
variable (h : '_' ∈ s)
include h

theorem underscore_mem_takeSign : '_' ∈ (takeSign s).2 := by
  unfold takeSign
  split
  · simpa using h
  · simpa using h
  · exact h

theorem underscore_mem_dropWhile {p : Char → Bool} (hp : p '_' = false) :
    '_' ∈ s.dropWhile p := by
  have hsplit := h
  rw [← List.takeWhile_append_dropWhile (p := p) (l := s), List.mem_append] at hsplit
  refine hsplit.resolve_left fun hmem => ?_
  have hp' := List.mem_takeWhile_imp hmem
  rw [hp] at hp'
  cases hp'

theorem underscore_mem_takeFraction : '_' ∈ (takeFraction s).2 := by
  unfold takeFraction
  split
  · split
    · exact h
    · exact underscore_mem_dropWhile (by simpa using h) rfl
  · exact h

theorem underscore_mem_takeExponent : '_' ∈ (takeExponent s).2 := by
  cases s with
  | nil => cases h
  | cons c r =>
    simp only [takeExponent]
    split
    · next hexponent =>
      have hr : '_' ∈ r := by
        refine (List.mem_cons.1 h).resolve_left ?_
        rintro rfl
        exact absurd hexponent.1 (by decide)
      exact underscore_mem_dropWhile (underscore_mem_takeSign hr) rfl
    · exact h

theorem underscore_mem_takeNumber : '_' ∈ (takeNumber s).2 := by
  rw [takeNumber_snd]
  exact underscore_mem_takeExponent (underscore_mem_takeFraction
    (underscore_mem_dropWhile (underscore_mem_takeSign h) rfl))

variable (hs : '\\' ∉ s)
include hs

theorem underscore_mem_takeName : '_' ∈ (takeName s).1 ∨ '_' ∈ (takeName s).2 := by
  have hsplit := h
  rw [← List.takeWhile_append_dropWhile (p := isNameChar) (l := s), List.mem_append] at hsplit
  rw [takeName_of_no_escape hs]
  exact hsplit.imp_left fun hmem => List.mem_map.2 ⟨'_', hmem, rfl⟩

theorem underscore_mem_takeNumeric :
    '_' ∈ (takeNumeric s).1.written ∨ '_' ∈ (takeNumeric s).2 := by
  have hnumber := underscore_mem_takeNumber h
  have hrest : '\\' ∉ (takeNumber s).2 := fun hmem => hs ((takeNumber_suffix s).subset hmem)
  simp only [takeNumeric]
  split
  · next heq =>
    rw [heq] at hnumber
    exact .inr (by simpa using hnumber)
  · split
    · simpa [Token.written] using underscore_mem_takeName hnumber hrest
    · exact .inr hnumber

theorem underscore_mem_takeNamed :
    '_' ∈ (takeNamed s).1.written ∨ '_' ∈ (takeNamed s).2 := by
  have hname := underscore_mem_takeName h hs
  simp only [takeNamed]
  split
  · next heq =>
    rw [heq] at hname
    simpa [Token.written] using hname
  · simpa [Token.written] using hname

end

theorem underscore_mem_takeToken {c : Char} {r : List Char} (h : '_' ∈ c :: r)
    (hs : '\\' ∉ c :: r) :
    '_' ∈ (takeToken c r).1.written ∨ '_' ∈ (takeToken c r).2 := by
  rw [takeToken]
  split
  · exact underscore_mem_takeNumeric h hs
  · split
    · exact underscore_mem_takeNamed h hs
    · split
      · next hhash =>
        have hr : '_' ∈ r := by
          refine (List.mem_cons.1 h).resolve_left ?_
          rintro rfl
          exact absurd hhash.1 (by decide)
        simpa [Token.written] using
          underscore_mem_takeName hr fun hmem => hs (List.mem_cons_of_mem _ hmem)
      · simpa [Token.written, eq_comm] using h

theorem underscore_mem_skipBlank (h : '_' ∈ s) (hcomment : ¬['/', '*'] <:+: s) :
    '_' ∈ skipBlank s := by
  fun_induction skipBlank s with
  | case1 => exact h
  | case2 r => exact absurd ⟨[], r, rfl⟩ hcomment
  | case3 c r _ hblank ih =>
    have hr : '_' ∈ r := by
      refine (List.mem_cons.1 h).resolve_left ?_
      rintro rfl
      exact absurd hblank (by decide)
    exact ih hr fun hpiece => hcomment (hpiece.trans (List.suffix_cons c r).isInfix)
  | case4 => exact h

/-- **An underscore outside of comments** is part of a token. -/
theorem exists_underscore_of_mem (hs : '\\' ∉ s) (hcomment : ¬['/', '*'] <:+: s) (h : '_' ∈ s) :
    ∃ t ∈ tokensOf s, '_' ∈ t.written := by
  revert hcomment h
  refine tokensOf_induction (motive := fun s => ¬['/', '*'] <:+: s → '_' ∈ s →
    ∃ t ∈ tokensOf s, '_' ∈ t.written) s hs ?_ ?_
  · intro s _ hblank hcomment h
    have hmem := underscore_mem_skipBlank h hcomment
    rw [hblank] at hmem
    cases hmem
  · intro s c r hcr hsuffix hblank ih hcomment h
    have hmem := underscore_mem_skipBlank h hcomment
    rw [hblank] at hmem
    rw [tokensOf_of_cons hblank]
    rcases underscore_mem_takeToken hmem hcr with htoken | hrest
    · exact ⟨_, List.mem_cons_self, htoken⟩
    · have hinside := ((takeToken_suffix hcr).trans hsuffix).isInfix
      obtain ⟨t, ht, hwritten⟩ := ih (fun hpiece => hcomment (hpiece.trans hinside)) hrest
      exact ⟨t, List.mem_cons_of_mem _ ht, hwritten⟩

end UtilityStyle.Css
