/-
  Underscores in the place of spaces.

  A class name has no spaces, so a text is written there with underscores (`underscored`).  Nothing
  that the readers of brackets look at changes:

  * `spaced_underscored`: the spaces come back;
  * `Nested.underscored`, `isCall_underscored_iff`, `hasPiece_underscored`: brackets, calls and
    pieces are the same.
-/
import UtilityStyle.Proofs.Utility.Fragment

namespace UtilityStyle

open Text

variable {s : List Char}

/-- An underscore for a space. -/
def underscoredChar (c : Char) : Char := if c = ' ' then '_' else c

/-- The text with an underscore for every space. -/
def underscored (s : List Char) : List Char := s.map underscoredChar

/-- A character that is neither a space nor an underscore. -/
def IsSolid (c : Char) : Prop := c ≠ ' ' ∧ c ≠ '_'

instance : DecidablePred IsSolid := fun c => inferInstanceAs (Decidable (c ≠ ' ' ∧ c ≠ '_'))

/-! ## Characters -/

theorem underscoredChar_eq_iff {c d : Char} (hd : IsSolid d) : underscoredChar c = d ↔ c = d := by
  unfold underscoredChar
  split
  · next hc => exact iff_of_false hd.2.symm fun heq => hd.1 (heq.symm.trans hc)
  · rfl

theorem mem_underscored_iff {c : Char} (hc : IsSolid c) : c ∈ underscored s ↔ c ∈ s := by
  simp [underscored, underscoredChar_eq_iff hc]

theorem underscore_mem_underscored (h : ' ' ∈ s) : '_' ∈ underscored s :=
  List.mem_map.2 ⟨' ', h, rfl⟩

theorem underscored_of_no_space (h : ' ' ∉ s) : underscored s = s := by
  refine (List.map_congr_left fun c hc => ?_).trans (List.map_id s)
  refine if_neg ?_
  rintro rfl
  exact h hc

theorem isSpace_underscored (h : ∀ c ∈ s, isSpace c = true → c = ' ') :
    ∀ c ∈ underscored s, isSpace c = false := by
  intro c hc
  obtain ⟨d, hd, rfl⟩ := List.mem_map.1 hc
  unfold underscoredChar
  split
  · rfl
  · next hne => exact Bool.eq_false_iff.2 fun hspace => hne (h d hd hspace)

/-- **The spaces come back** where there were no underscores and no backslashes. -/
theorem spaced_underscored (hunderscore : '_' ∉ s) (hbackslash : '\\' ∉ s) :
    spaced (underscored s) = s := by
  induction s with
  | nil => rfl
  | cons c s ih =>
    simp only [List.mem_cons, not_or] at hunderscore hbackslash
    have hc : underscoredChar c ≠ '\\' := fun heq =>
      hbackslash.1 ((underscoredChar_eq_iff (by decide)).1 heq).symm
    show spaced (underscoredChar c :: underscored s) = c :: s
    rw [spaced.eq_3 _ _ fun _ heq => absurd heq hc, ih hunderscore.2 hbackslash.2]
    unfold underscoredChar
    split
    · next hc => rw [hc]; rfl
    · rw [if_neg (Ne.symm hunderscore.1)]

/-! ## Brackets -/

theorem opened?_underscoredChar (c : Char) :
    Bracket.opened? (underscoredChar c) = Bracket.opened? c := by
  unfold underscoredChar
  split
  · next hc => rw [hc]; rfl
  · rfl

theorem closed?_underscoredChar (c : Char) :
    Bracket.closed? (underscoredChar c) = Bracket.closed? c := by
  unfold underscoredChar
  split
  · next hc => rw [hc]; rfl
  · rfl

theorem Text.Nested.underscored (h : Nested s) : Nested (underscored s) := by
  induction h with
  | nil => exact .nil
  | plain hc _ ih =>
    refine .plain ?_ ih
    rwa [isBracket, opened?_underscoredChar, closed?_underscoredChar]
  | @group kind s t _ _ ihs iht =>
    have hgroup : UtilityStyle.underscored (kind.opening :: s ++ kind.closing :: t) =
        kind.opening :: UtilityStyle.underscored s ++
          kind.closing :: UtilityStyle.underscored t := by
      cases kind <;>
        simp [UtilityStyle.underscored, underscoredChar, Bracket.opening, Bracket.closing]
    rw [hgroup]
    exact .group kind ihs iht

theorem closingFrom?_underscored (stack : List Bracket) (i : Nat) (s : List Char) :
    closingFrom? stack i (underscored s) = closingFrom? stack i s := by
  induction s generalizing stack i with
  | nil => rfl
  | cons c s ih =>
    show closingFrom? stack i (underscoredChar c :: underscored s) = _
    simp only [closingFrom?, opened?_underscoredChar, closed?_underscoredChar, ih]

theorem closesAtEnd_underscored (s : List Char) :
    closesAtEnd (underscored s) = closesAtEnd s := by
  rw [closesAtEnd, closesAtEnd, closing?, closing?, closingFrom?_underscored, underscored,
    List.length_map]

theorem inside_underscored (s : List Char) : inside (underscored s) = underscored (inside s) := by
  rw [inside, inside, underscored, underscored, List.map_dropLast, List.map_tail]

/-! ## Calls and pieces -/

theorem isPrefixOf?_underscored {p : List Char} (hp : ∀ c ∈ p, IsSolid c) (s : List Char) :
    p.isPrefixOf? (underscored s) = (p.isPrefixOf? s).map underscored := by
  induction p generalizing s with
  | nil => rfl
  | cons c p ih =>
    obtain ⟨hc, hp⟩ := List.forall_mem_cons.1 hp
    cases s with
    | nil => rfl
    | cons d s =>
      show (c :: p).isPrefixOf? (underscoredChar d :: underscored s) = _
      have hsame : (c == underscoredChar d) = (c == d) := by
        rw [Bool.eq_iff_iff, beq_iff_eq, beq_iff_eq, eq_comm, underscoredChar_eq_iff hc, eq_comm]
      rw [List.isPrefixOf?, List.isPrefixOf?, hsame, ih hp]
      split <;> rfl

theorem callArguments?_underscored {name : String} (hname : ∀ c ∈ name.toList, IsSolid c)
    (s : List Char) :
    callArguments? name (underscored s) = (callArguments? name s).map underscored := by
  rw [callArguments?, callArguments?, isPrefixOf?_underscored hname]
  cases name.toList.isPrefixOf? s with
  | none => rfl
  | some call =>
    have hhead : ((underscored call).head? == some '(') = (call.head? == some '(') := by
      cases call with
      | nil => rfl
      | cons c call =>
        show (some (underscoredChar c) == some '(') = (some c == some '(')
        rw [Bool.eq_iff_iff, beq_iff_eq, beq_iff_eq, Option.some_inj, Option.some_inj,
          underscoredChar_eq_iff (by decide)]
    rw [Option.map_some, Option.bind_some, Option.bind_some, hhead, closesAtEnd_underscored,
      inside_underscored]
    split <;> rfl

/-- **A call stays a call.** -/
theorem isCall_underscored_iff {name : String} (hname : ∀ c ∈ name.toList, IsSolid c)
    {arguments : List Char} :
    IsCall name (underscored s) arguments ↔
      ∃ inner, IsCall name s inner ∧ underscored inner = arguments := by
  simp only [← callArguments?_eq_some_iff, callArguments?_underscored hname,
    Option.map_eq_some_iff]

theorem hasPiece_underscored {piece : List Char} (hpiece : ∀ c ∈ piece, IsSolid c)
    (s : List Char) : hasPiece piece (underscored s) = hasPiece piece s := by
  induction s with
  | nil => rfl
  | cons c s ih =>
    have hstart : piece.isPrefixOf (underscored (c :: s)) = piece.isPrefixOf (c :: s) := by
      rw [← List.isSome_isPrefixOf?_eq_isPrefixOf, ← List.isSome_isPrefixOf?_eq_isPrefixOf,
        isPrefixOf?_underscored hpiece, Option.isSome_map]
    show (piece.isPrefixOf (underscored (c :: s)) || hasPiece piece (underscored s)) = _
    rw [hstart, ih]
    rfl

end UtilityStyle
