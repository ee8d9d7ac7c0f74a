/-
  Brackets that match.

  A text is read here for its brackets alone: `brackets s` is the word that they spell, and `Dyck`
  is the grammar of words in which they nest by kind.

  * `nested_iff_dyck`: a text is nested if its word is;
  * `IsClosedBy front c`: the character behind a text closes the first bracket of it, and no other
    one does;
  * `LeavesOpen stack s`: a text opens the brackets of a stack and closes none of them, which the
    scan keeps up from one character to the next;
  * `closingByte?_exact`: the scan finds the byte at which the first bracket is closed, and finds
    none only where a bracket of the wrong kind comes first or nothing closes it;
  * `closesAtEnd_iff_closingByte?`: a text is one group if this byte is its last.
-/
import UtilityStyle.Proofs.Text.Bytes
import UtilityStyle.Proofs.Text.Group

namespace UtilityStyle.Text

open String (utf8Len)

variable {kind : Bracket} {outer stack : List Bracket} {c : Char} {i j : Nat}
  {s r front back inner word : List Char}

/-! ## Words of brackets -/

/-- The brackets of a text, without what stands between them. -/
def brackets (s : List Char) : List Char := s.filter isBracket

/-- Words of brackets that nest by kind. -/
inductive Dyck : List Char → Prop where
  | nil : Dyck []
  | pair (kind : Bracket) {s t : List Char} : Dyck s → Dyck t →
    Dyck (kind.opening :: (s ++ kind.closing :: t))

@[simp] theorem brackets_nil : brackets [] = [] := rfl

@[simp] theorem brackets_append (s t : List Char) :
    brackets (s ++ t) = brackets s ++ brackets t := List.filter_append ..

theorem brackets_cons_of_isBracket (hc : isBracket c = true) (s : List Char) :
    brackets (c :: s) = c :: brackets s := List.filter_cons_of_pos hc

@[simp] theorem brackets_opening (kind : Bracket) (s : List Char) :
    brackets (kind.opening :: s) = kind.opening :: brackets s :=
  brackets_cons_of_isBracket (isBracket_opening kind) s

@[simp] theorem brackets_closing (kind : Bracket) (s : List Char) :
    brackets (kind.closing :: s) = kind.closing :: brackets s :=
  brackets_cons_of_isBracket (isBracket_closing kind) s

theorem Nested.dyck (h : Nested s) : Dyck (brackets s) := by
  induction h with
  | nil => exact .nil
  | plain hc _ ih => rwa [brackets, List.filter_cons_of_neg (by simp [hc])]
  | group kind _ _ ihs iht =>
    rw [List.cons_append, brackets_opening, brackets_append, brackets_closing]
    exact .pair kind ihs iht

/-- A word is a text without anything between its brackets. -/
theorem Dyck.nested (h : Dyck word) : Nested word := by
  induction h with
  | nil => exact .nil
  | pair kind _ _ ihs iht => exact .group kind ihs iht

theorem nested_of_dyck (hword : Dyck word) (h : brackets s = word) : Nested s := by
  -- The text has plain characters before every bracket of its word.
  have hplain {t : List Char} (ht : ∀ c ∈ t, ¬isBracket c = true) : Nested t :=
    nested_of_forall_not_isBracket fun c hc => Bool.not_eq_true _ ▸ ht c hc
  induction hword generalizing s with
  | nil => exact hplain (List.filter_eq_nil_iff.1 h)
  | pair kind _ _ ihs iht =>
    obtain ⟨before, r, rfl, hbefore, -, hr⟩ := List.filter_eq_cons_iff.1 h
    obtain ⟨inner, rest, rfl, hinner, hrest⟩ := List.filter_eq_append_iff.1 hr
    obtain ⟨last, t, rfl, hlast, -, ht⟩ := List.filter_eq_cons_iff.1 hrest
    have hgroup := Nested.group kind ((ihs hinner).append (hplain hlast)) (iht ht)
    simpa using (hplain hbefore).append hgroup

/-- **A text is nested** if the word of its brackets is. -/
theorem nested_iff_dyck : Nested s ↔ Dyck (brackets s) :=
  ⟨Nested.dyck, fun h => nested_of_dyck h rfl⟩

/-! ## The bracket that closes the first one -/

/-- The first bracket of a word is matched by the one at a position. -/
def MatchesFirst (word : List Char) (j : Nat) : Prop :=
  ∃ kind inner rest, word = Bracket.opening kind :: (inner ++ kind.closing :: rest) ∧ Dyck inner ∧
    j = inner.length + 1

/-- The character behind a text completes a word of nested brackets, and it alone matches the first
    bracket of the word. -/
structure IsClosedBy (front : List Char) (c : Char) : Prop where
  isBracket : isBracket c = true
  dyck : Dyck (brackets (front ++ [c]))
  only : ∀ j, MatchesFirst (brackets (front ++ [c])) j ↔ j = (brackets front).length

theorem MatchesFirst.closing? (h : MatchesFirst word j) : closing? word = some j := by
  obtain ⟨kind, inner, rest, rfl, hinner, rfl⟩ := h
  exact (closing?_eq_some_iff kind).2 ⟨inner, rest, rfl, hinner.nested, rfl⟩

theorem isClosedBy_of_nested (kind : Bracket) (h : Nested inner) :
    IsClosedBy (kind.opening :: inner) kind.closing := by
  have hword : brackets (kind.opening :: inner ++ [kind.closing]) =
      kind.opening :: (brackets inner ++ [kind.closing]) := by simp
  have hmatches : MatchesFirst (kind.opening :: (brackets inner ++ [kind.closing]))
      (brackets (kind.opening :: inner)).length :=
    ⟨kind, brackets inner, [], rfl, h.dyck, by simp⟩
  refine ⟨isBracket_closing kind, ?_, fun j => ?_⟩
  · rw [hword]
    exact .pair kind h.dyck .nil
  · rw [hword]
    refine ⟨fun hj => ?_, fun hj => hj ▸ hmatches⟩
    exact Option.some.inj (hj.closing?.symm.trans hmatches.closing?)

theorem IsClosedBy.exists_nested (h : IsClosedBy front c)
    (hopen : front ++ c :: back = kind.opening :: r) :
    ∃ inner, front = kind.opening :: inner ∧ Nested inner ∧ c = kind.closing := by
  obtain ⟨kind', word, rest, hword, hdyck, hlen⟩ := (h.only _).2 rfl
  cases front with
  | nil => exact absurd hlen (Nat.succ_ne_zero _).symm
  | cons d inner =>
    obtain ⟨rfl, -⟩ := List.cons.inj hopen
    rw [List.cons_append, brackets_opening, brackets_append,
      brackets_cons_of_isBracket h.isBracket, brackets_nil] at hword
    rw [brackets_opening, List.length_cons] at hlen
    obtain ⟨hkind, hrest⟩ := List.cons.inj hword
    obtain ⟨rfl, hclose⟩ := List.append_inj hrest (Nat.succ.inj hlen)
    obtain rfl : kind = kind' := by simpa using congrArg Bracket.opened? hkind
    exact ⟨inner, rfl, nested_iff_dyck.2 hdyck, (List.cons.inj hclose).1⟩

/-- **The bracket that closes the first one** is the one that matches it in the word of brackets. -/
theorem closing?_eq_some_iff_isClosedBy :
    closing? (kind.opening :: r) = some i ↔
      ∃ front c back, kind.opening :: r = front ++ c :: back ∧ front.length = i ∧
        IsClosedBy front c := by
  rw [closing?_eq_some_iff]
  constructor
  · rintro ⟨inner, back, rfl, hinner, rfl⟩
    exact ⟨kind.opening :: inner, kind.closing, back, rfl, rfl, isClosedBy_of_nested kind hinner⟩
  · rintro ⟨front, c, back, htext, rfl, hclosed⟩
    obtain ⟨inner, rfl, hinner, rfl⟩ := hclosed.exists_nested htext.symm
    exact ⟨inner, back, (List.cons.inj htext).2, hinner, rfl⟩

/-! ## Brackets that are not closed -/

/-- Texts that open the brackets of a stack, the innermost last, and close none of them. -/
def LeavesOpen : List Bracket → List Char → Prop
  | [], s => s = []
  | kind :: outer, s => ∃ front inner, s = front ++ kind.opening :: inner ∧
    LeavesOpen outer front ∧ Nested inner

namespace LeavesOpen

theorem plain (hc : isBracket c = false) (h : LeavesOpen (kind :: outer) s) :
    LeavesOpen (kind :: outer) (s ++ [c]) := by
  obtain ⟨front, inner, rfl, hfront, hinner⟩ := h
  exact ⟨front, inner ++ [c], by simp, hfront, hinner.append (.plain hc .nil)⟩

theorem opening (kind : Bracket) (h : LeavesOpen stack s) :
    LeavesOpen (kind :: stack) (s ++ [kind.opening]) := ⟨s, [], rfl, h, .nil⟩

/-- The innermost bracket and the one that closes it become a group inside the next one. -/
theorem closing {kind' : Bracket} (h : LeavesOpen (kind :: kind' :: outer) s) :
    LeavesOpen (kind' :: outer) (s ++ [kind.closing]) := by
  obtain ⟨_, inner, rfl, ⟨front, inner', rfl, hfront, hinner'⟩, hinner⟩ := h
  exact ⟨front, inner' ++ (kind.opening :: inner ++ [kind.closing]), by simp, hfront,
    hinner'.append (.group kind hinner .nil)⟩

/-- The scan comes behind such a text with its stack. -/
theorem closing?_append (h : LeavesOpen stack s) (r : List Char) :
    closing? (s ++ r) = closingFrom? stack s.length r := by
  induction stack generalizing s r with
  | nil =>
    obtain rfl : s = [] := h
    rfl
  | cons kind outer ih =>
    obtain ⟨front, inner, rfl, hfront, hinner⟩ := h
    rw [List.append_assoc, ih hfront, List.cons_append, closingFrom?_opening,
      closingFrom?_append hinner, List.length_append, List.length_cons]
    congr 1
    omega

end LeavesOpen

/-- Some bracket is closed by one of the wrong kind, before the first one is closed. -/
def ClosesWrongly (s : List Char) : Prop :=
  ∃ front kind outer kind' back, s = front ++ Bracket.closing kind' :: back ∧
    LeavesOpen (kind :: outer) front ∧ kind' ≠ kind

/-- The text ends before the first bracket is closed. -/
def StaysOpen (s : List Char) : Prop := ∃ kind outer, LeavesOpen (kind :: outer) s

theorem closing?_eq_none_of_closesWrongly (h : ClosesWrongly s) : closing? s = none := by
  obtain ⟨front, kind, outer, kind', back, rfl, hopen, hne⟩ := h
  rw [hopen.closing?_append]
  simp [closingFrom?, hne.symm]

theorem closing?_eq_none_of_staysOpen (h : StaysOpen s) : closing? s = none := by
  obtain ⟨kind, outer, hopen⟩ := h
  have hscan := hopen.closing?_append []
  rwa [List.append_nil] at hscan

/-- A scan that goes on behind open brackets and finds nothing meets a fault or the end. -/
theorem exists_fault_of_closingFrom?_eq_none (hopen : LeavesOpen (kind :: outer) front)
    (h : closingFrom? (kind :: outer) i r = none) :
    ClosesWrongly (front ++ r) ∨ StaysOpen (front ++ r) := by
  induction r generalizing kind outer front i with
  | nil => exact .inr ⟨kind, outer, by rwa [List.append_nil]⟩
  | cons c r ih =>
    -- What is open behind the next character.
    have hstep {kind' : Bracket} {outer' : List Bracket}
        (hnext : LeavesOpen (kind' :: outer') (front ++ [c]))
        (hscan : closingFrom? (kind' :: outer') (i + 1) r = none) :
        ClosesWrongly (front ++ c :: r) ∨ StaysOpen (front ++ c :: r) := by
      simpa using ih hnext hscan
    cases ho : Bracket.opened? c with
    | some kind' =>
      obtain rfl := Bracket.eq_opening_of_opened? ho
      rw [closingFrom?_opening] at h
      exact hstep (hopen.opening kind') h
    | none =>
      cases hcl : Bracket.closed? c with
      | none =>
        have hc : isBracket c = false := isBracket_eq_false_iff.2 ⟨ho, hcl⟩
        rw [closingFrom?_plain hc] at h
        exact hstep (hopen.plain hc) h
      | some kind' =>
        obtain rfl := Bracket.eq_closing_of_closed? hcl
        by_cases hk : kind' = kind
        · subst hk
          cases outer with
          | nil => simp at h
          | cons next outer =>
            rw [closingFrom?_closing, if_neg (List.cons_ne_nil _ _)] at h
            exact hstep hopen.closing h
        · exact .inl ⟨front, kind, outer, kind', r, rfl, hopen, hk⟩

/-- **The first bracket is not closed** if one of the wrong kind comes first or the text ends. -/
theorem closing?_eq_none_iff :
    closing? (kind.opening :: r) = none ↔
      ClosesWrongly (kind.opening :: r) ∨ StaysOpen (kind.opening :: r) := by
  constructor
  · intro h
    have hopen : LeavesOpen [kind] [kind.opening] := ⟨[], [], rfl, rfl, .nil⟩
    rw [closing?, closingFrom?_opening] at h
    exact exists_fault_of_closingFrom?_eq_none hopen h
  · rintro (h | h)
    · exact closing?_eq_none_of_closesWrongly h
    · exact closing?_eq_none_of_staysOpen h

/-! ## Positions in bytes -/

/-- The byte at which the first bracket of a text is closed. -/
def closingByte? (s : List Char) : Option Nat := (closing? s).map fun i => utf8Len (s.take i)

theorem closingByte?_eq_some_iff :
    closingByte? (kind.opening :: r) = some i ↔
      ∃ front c back, kind.opening :: r = front ++ c :: back ∧ utf8Len front = i ∧
        IsClosedBy front c := by
  rw [closingByte?, Option.map_eq_some_iff]
  constructor
  · rintro ⟨n, hn, rfl⟩
    obtain ⟨front, c, back, htext, rfl, hclosed⟩ := closing?_eq_some_iff_isClosedBy.1 hn
    exact ⟨front, c, back, htext, by rw [htext, List.take_left], hclosed⟩
  · rintro ⟨front, c, back, htext, rfl, hclosed⟩
    refine ⟨front.length, closing?_eq_some_iff_isClosedBy.2 ⟨front, c, back, htext, rfl, hclosed⟩,
      ?_⟩
    rw [htext, List.take_left]

/-- The position between two parts of a text is inside it, and between two characters. -/
theorem isValid_utf8Len (front : List Char) (c : Char) (back : List Char) :
    utf8Len front < utf8Len (front ++ c :: back) ∧
      String.Pos.Raw.IsValid (String.ofList (front ++ c :: back)) ⟨utf8Len front⟩ := by
  refine ⟨?_, isSome_cutBytes?_iff.1 (by rw [cutBytes?_append]; rfl)⟩
  have hpos := c.utf8Size_pos
  rw [String.utf8Len_append, String.utf8Len_cons]
  omega

/-- **The scan finds exactly the matching bracket.**  Of a text that begins with a bracket, it gives
    the byte of the character that closes this bracket.  It gives none if no character does, which
    is when one of the wrong kind comes first or the bracket stays open. -/
theorem closingByte?_exact (kind : Bracket) (r : List Char) :
    let s := kind.opening :: r
    (∀ i, closingByte? s = some i ↔
      ∃ front c back, s = front ++ c :: back ∧ utf8Len front = i ∧ IsClosedBy front c) ∧
    (closingByte? s = none ↔
      ∀ front c back, s = front ++ c :: back → ¬IsClosedBy front c) ∧
    (closingByte? s = none ↔ ClosesWrongly s ∨ StaysOpen s) ∧
    ∀ i, closingByte? s = some i →
      i < utf8Len s ∧ String.Pos.Raw.IsValid (String.ofList s) ⟨i⟩ := by
  dsimp only
  refine ⟨fun i => closingByte?_eq_some_iff, ?_, ?_, fun i hi => ?_⟩
  · rw [Option.eq_none_iff_forall_ne_some]
    constructor
    · intro h front c back htext hclosed
      exact h _ (closingByte?_eq_some_iff.2 ⟨front, c, back, htext, rfl, hclosed⟩)
    · intro h i hi
      obtain ⟨front, c, back, htext, -, hclosed⟩ := closingByte?_eq_some_iff.1 hi
      exact h front c back htext hclosed
  · exact Option.map_eq_none_iff.trans closing?_eq_none_iff
  · obtain ⟨front, c, back, htext, rfl, -⟩ := closingByte?_eq_some_iff.1 hi
    rw [htext]
    exact isValid_utf8Len front c back

example : closingByte? "[é(日]x)]".toList = none ∧ closingByte? "[é(日)x]y".toList = some 9 := by
  decide

theorem utf8Len_closing (kind : Bracket) (s : List Char) :
    utf8Len (kind.closing :: s) = utf8Len s + 1 := by
  cases kind <;> rfl

/-- **A text is one group** if its first bracket is closed at its last byte. -/
theorem closesAtEnd_iff_closingByte? :
    closesAtEnd (kind.opening :: r) = true ↔
      closingByte? (kind.opening :: r) = some (utf8Len (kind.opening :: r) - 1) := by
  rw [closesAtEnd_iff, closingByte?_eq_some_iff]
  constructor
  · rintro ⟨inner, rfl, hinner⟩
    refine ⟨kind.opening :: inner, kind.closing, [], rfl, ?_, isClosedBy_of_nested kind hinner⟩
    rw [← List.cons_append, String.utf8Len_append, utf8Len_closing, String.utf8Len_nil,
      Nat.zero_add, Nat.add_sub_cancel]
  · rintro ⟨front, c, back, htext, hlen, hclosed⟩
    obtain ⟨inner, rfl, hinner, rfl⟩ := hclosed.exists_nested htext.symm
    have hback : utf8Len back = 0 := by
      rw [htext, String.utf8Len_append, utf8Len_closing] at hlen
      omega
    obtain rfl : back = [] := String.utf8Len_eq_zero.1 hback
    exact ⟨inner, (List.cons.inj htext).2, hinner⟩

end UtilityStyle.Text
