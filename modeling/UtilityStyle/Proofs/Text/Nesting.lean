/-
  Brackets that nest by kind.

  `Nested s` is the grammar of texts whose brackets nest: every bracket is closed by one of its own
  kind.  `Closes stack s` says that a text closes the brackets of a stack, each one at the end of a
  nested text, and ends with the last of them.

  * `closingFrom?_eq_some_iff`: the scan with a stack stops exactly at the end of a text that closes
    the stack;
  * `closing?_eq_some_iff`: so it finds the bracket that closes the first one, if there is one;
  * `closesAtEnd_iff`, `isGroup_iff`: a text is one group if it is a nested text in brackets of one
    kind.
-/
import Mathlib.Data.List.Basic
import UtilityStyle.Text.Brackets

namespace UtilityStyle.Text

namespace Bracket

/-- The character that opens a kind. -/
def opening : Bracket → Char
  | square => '['
  | round => '('

/-- The character that closes a kind. -/
def closing : Bracket → Char
  | square => ']'
  | round => ')'

@[simp] theorem opened?_opening (kind : Bracket) : opened? kind.opening = some kind := by
  cases kind <;> rfl

@[simp] theorem opened?_closing (kind : Bracket) : opened? kind.closing = none := by
  cases kind <;> rfl

@[simp] theorem closed?_closing (kind : Bracket) : closed? kind.closing = some kind := by
  cases kind <;> rfl

theorem eq_opening_of_opened? {c : Char} {kind : Bracket} (h : opened? c = some kind) :
    c = kind.opening := by
  unfold opened? at h
  split at h <;> cases h <;> rfl

theorem eq_closing_of_closed? {c : Char} {kind : Bracket} (h : closed? c = some kind) :
    c = kind.closing := by
  unfold closed? at h
  split at h <;> cases h <;> rfl

end Bracket

theorem isBracket_eq_false_iff {c : Char} :
    isBracket c = false ↔ Bracket.opened? c = none ∧ Bracket.closed? c = none := by
  simp [isBracket]

theorem isBracket_iff {c : Char} : isBracket c = true ↔ c ∈ ['[', ']', '(', ')'] := by
  constructor
  · unfold isBracket Bracket.opened? Bracket.closed?
    split <;> split <;> simp
  · revert c
    simp only [List.forall_mem_cons]
    exact ⟨rfl, rfl, rfl, rfl, nofun⟩

/-! ## The grammar -/

/-- Texts whose brackets nest by kind. -/
inductive Nested : List Char → Prop where
  | nil : Nested []
  | plain {c : Char} {s : List Char} : isBracket c = false → Nested s → Nested (c :: s)
  | group (kind : Bracket) {s t : List Char} : Nested s → Nested t →
    Nested (kind.opening :: s ++ kind.closing :: t)

/-- Texts that close the brackets of a stack, the innermost first, and end with the last of
    them. -/
def Closes : List Bracket → List Char → Prop
  | [], s => s = []
  | kind :: outer, s => ∃ inner rest, s = inner ++ kind.closing :: rest ∧ Nested inner ∧
    Closes outer rest

namespace Closes
variable {kind : Bracket} {outer : List Bracket} {c : Char} {s : List Char}

theorem plain (hc : isBracket c = false) (h : Closes (kind :: outer) s) :
    Closes (kind :: outer) (c :: s) := by
  obtain ⟨inner, rest, rfl, hinner, hrest⟩ := h
  exact ⟨c :: inner, rest, rfl, .plain hc hinner, hrest⟩

/-- The group that a bracket opens belongs to what comes before the next closing bracket. -/
theorem opening {kind' : Bracket} (h : Closes (kind' :: kind :: outer) s) :
    Closes (kind :: outer) (kind'.opening :: s) := by
  obtain ⟨group, _, rfl, hgroup, inner, rest, rfl, hinner, hrest⟩ := h
  exact ⟨kind'.opening :: group ++ kind'.closing :: inner, rest, by simp,
    .group kind' hgroup hinner, hrest⟩

theorem closing (h : Closes outer s) : Closes (kind :: outer) (kind.closing :: s) :=
  ⟨[], s, rfl, .nil, h⟩

end Closes

/-! ## The scan -/

section
variable {kind : Bracket} {outer : List Bracket} {i j : Nat} {c : Char} {s r : List Char}

theorem closingFrom?_plain (hc : isBracket c = false) (stack : List Bracket) :
    closingFrom? stack i (c :: r) = closingFrom? stack (i + 1) r := by
  obtain ⟨ho, hcl⟩ := isBracket_eq_false_iff.1 hc
  simp [closingFrom?, ho, hcl]

@[simp] theorem closingFrom?_opening (stack : List Bracket) :
    closingFrom? stack i (kind.opening :: r) = closingFrom? (kind :: stack) (i + 1) r := by
  simp [closingFrom?]

@[simp] theorem closingFrom?_closing :
    closingFrom? (kind :: outer) i (kind.closing :: r) =
      if outer = [] then some i else closingFrom? outer (i + 1) r := by
  simp [closingFrom?]

/-- The scan passes over nested text. -/
theorem closingFrom?_append (h : Nested s) :
    closingFrom? (kind :: outer) i (s ++ r) = closingFrom? (kind :: outer) (i + s.length) r := by
  induction h generalizing kind outer i r with
  | nil => rfl
  | plain hc _ ih =>
    rw [List.cons_append, closingFrom?_plain hc, ih, List.length_cons]
    congr 1
    omega
  | group kind' _ _ ihs iht =>
    rw [List.cons_append, List.cons_append, closingFrom?_opening, List.append_assoc, ihs,
      List.cons_append, closingFrom?_closing, if_neg (List.cons_ne_nil _ _), iht]
    congr 1
    simp only [List.length_cons, List.length_append]
    omega

/-- The scan stops where a text closes the stack. -/
theorem closingFrom?_of_closes {stack : List Bracket} (hne : stack ≠ []) (h : Closes stack s) :
    closingFrom? stack i (s ++ r) = some (i + s.length - 1) := by
  induction stack generalizing i s with
  | nil => exact absurd rfl hne
  | cons kind outer ih =>
    obtain ⟨inner, rest, rfl, hinner, hrest⟩ := h
    rw [List.append_assoc, closingFrom?_append hinner, List.cons_append, closingFrom?_closing]
    split
    · next ho =>
      subst ho
      obtain rfl : rest = [] := hrest
      simp
    · next ho =>
      rw [ih ho hrest]
      simp only [List.length_append, List.length_cons]
      congr 1
      omega

/-- Where the scan stops, the text before has closed the stack. -/
theorem exists_closes_of_closingFrom? (stack : List Bracket) (hne : stack ≠ [])
    (h : closingFrom? stack i s = some j) :
    ∃ t r, s = t ++ r ∧ Closes stack t ∧ i + t.length = j + 1 := by
  induction s generalizing stack i with
  | nil => cases h
  | cons c s ih =>
    obtain ⟨kind, outer, rfl⟩ := List.exists_cons_of_ne_nil hne
    cases ho : Bracket.opened? c with
    | some kind' =>
      obtain rfl := Bracket.eq_opening_of_opened? ho
      rw [closingFrom?_opening] at h
      obtain ⟨t, r, rfl, ht, hlen⟩ := ih _ (List.cons_ne_nil _ _) h
      exact ⟨_ :: t, r, rfl, ht.opening, by rw [List.length_cons]; omega⟩
    | none =>
      cases hcl : Bracket.closed? c with
      | none =>
        have hc : isBracket c = false := isBracket_eq_false_iff.2 ⟨ho, hcl⟩
        rw [closingFrom?_plain hc] at h
        obtain ⟨t, r, rfl, ht, hlen⟩ := ih _ hne h
        exact ⟨c :: t, r, rfl, ht.plain hc, by rw [List.length_cons]; omega⟩
      | some kind' =>
        obtain rfl := Bracket.eq_closing_of_closed? hcl
        by_cases hk : kind = kind'
        · subst hk
          rw [closingFrom?_closing] at h
          split at h
          · next hout =>
            subst hout
            obtain rfl := Option.some.inj h
            exact ⟨[_], s, rfl, .closing rfl, rfl⟩
          · next hout =>
            obtain ⟨t, r, rfl, ht, hlen⟩ := ih _ hout h
            exact ⟨_ :: t, r, rfl, .closing ht, by rw [List.length_cons]; omega⟩
        · -- A bracket of the wrong kind ends the scan.
          simp [closingFrom?, hk] at h

/-- **The scan with a stack** stops exactly at the end of a text that closes the stack. -/
theorem closingFrom?_eq_some_iff {stack : List Bracket} (hne : stack ≠ []) :
    closingFrom? stack i s = some j ↔
      ∃ t r, s = t ++ r ∧ Closes stack t ∧ i + t.length = j + 1 := by
  refine ⟨exists_closes_of_closingFrom? stack hne, ?_⟩
  rintro ⟨t, r, rfl, ht, hlen⟩
  rw [closingFrom?_of_closes hne ht, hlen, Nat.add_sub_cancel]

end

/-! ## Groups -/

section
variable (kind : Bracket) {i : Nat} {s : List Char}

/-- **The bracket that closes the first one** is of its kind and follows a nested text. -/
theorem closing?_eq_some_iff :
    closing? (kind.opening :: s) = some i ↔
      ∃ inner rest, s = inner ++ kind.closing :: rest ∧ Nested inner ∧ i = inner.length + 1 := by
  rw [closing?, closingFrom?_opening, closingFrom?_eq_some_iff (List.cons_ne_nil _ _)]
  constructor
  · rintro ⟨_, r, rfl, ⟨inner, _, rfl, hinner, rfl⟩, hlen⟩
    refine ⟨inner, r, by simp, hinner, ?_⟩
    simp only [List.length_append, List.length_singleton] at hlen
    omega
  · rintro ⟨inner, rest, rfl, hinner, rfl⟩
    refine ⟨inner ++ [kind.closing], rest, by simp, ⟨inner, [], rfl, hinner, rfl⟩, ?_⟩
    simp only [List.length_append, List.length_singleton]
    omega

/-- **A text is one group** if it is a nested text in brackets of one kind. -/
theorem closesAtEnd_iff :
    closesAtEnd (kind.opening :: s) = true ↔
      ∃ inner, s = inner ++ [kind.closing] ∧ Nested inner := by
  rw [closesAtEnd, beq_iff_eq, closing?_eq_some_iff]
  constructor
  · rintro ⟨inner, rest, rfl, hinner, hlen⟩
    have hrest : rest = [] := by
      refine List.length_eq_zero_iff.1 ?_
      simp only [List.length_cons, List.length_append] at hlen
      omega
    exact ⟨inner, by rw [hrest], hinner⟩
  · rintro ⟨inner, rfl, hinner⟩
    exact ⟨inner, [], rfl, hinner, by simp⟩

/-- A nested text in brackets of one kind. -/
def IsGroup (inner s : List Char) : Prop :=
  s = kind.opening :: (inner ++ [kind.closing]) ∧ Nested inner

@[simp] theorem inside_group (a b : Char) (s : List Char) : inside (a :: (s ++ [b])) = s := by
  simp [inside]

/-- **The inside of a group** is what its brackets hold. -/
theorem isGroup_iff {inner : List Char} :
    IsGroup kind inner s ↔
      s.head? = some kind.opening ∧ closesAtEnd s = true ∧ inside s = inner := by
  constructor
  · rintro ⟨rfl, hinner⟩
    exact ⟨rfl, (closesAtEnd_iff kind).2 ⟨inner, rfl, hinner⟩, inside_group _ _ _⟩
  · rintro ⟨hopen, hclose, hinside⟩
    obtain ⟨r, rfl⟩ := List.head?_eq_some_iff.1 hopen
    obtain ⟨inner', rfl, hinner⟩ := (closesAtEnd_iff kind).1 hclose
    obtain rfl : inner' = inner := (inside_group _ _ _).symm.trans hinside
    exact ⟨rfl, hinner⟩

end

theorem nested_of_forall_not_isBracket {s : List Char} (h : ∀ c ∈ s, isBracket c = false) :
    Nested s := by
  induction s with
  | nil => exact .nil
  | cons c s ih =>
    exact .plain (h c List.mem_cons_self) (ih fun d hd => h d (List.mem_cons_of_mem c hd))

end UtilityStyle.Text
