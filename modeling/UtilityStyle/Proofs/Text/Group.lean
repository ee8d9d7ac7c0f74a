/-
  Groups of brackets in a scan that counts depth.

  A nested text brings the count back to where it began.  So no separator inside a group is at depth
  zero (`endsAt_group`), and the cuts at depth zero pass over a group as a whole
  (`cutLastTop?_append`, `splitTop_of_endsAt`).
-/
import UtilityStyle.Proofs.Text.Depth
import UtilityStyle.Proofs.Text.Nesting

namespace UtilityStyle.Text

/-- Nested texts stay nested one behind the other. -/
theorem Nested.append {s t : List Char} (hs : Nested s) (ht : Nested t) : Nested (s ++ t) := by
  induction hs with
  | nil => exact ht
  | plain hc _ ih => exact .plain hc ih
  | group kind hinner _ _ ih =>
    rw [List.append_assoc, List.cons_append]
    exact .group kind hinner ih

/-- A text is nested if one more pair of brackets around it closes at its end. -/
theorem nested_iff_closesAtEnd {s : List Char} :
    Nested s ↔ closesAtEnd ('(' :: (s ++ [')'])) = true := by
  constructor
  · exact fun h => (closesAtEnd_iff .round).2 ⟨s, rfl, h⟩
  · intro h
    obtain ⟨inner, heq, hinner⟩ := (closesAtEnd_iff .round).1 h
    obtain rfl : s = inner := List.append_cancel_right heq
    exact hinner

instance : DecidablePred Nested := fun _ => decidable_of_iff _ nested_iff_closesAtEnd.symm

theorem ne_of_isBracket {b c : Char} (hb : isBracket b = true) (hc : isBracket c = false) :
    b ≠ c := by
  rintro rfl
  rw [hb] at hc
  cases hc

/-! ## Depth -/

section
variable {c : Char} {depth : Nat} (kind : Bracket)

theorem nextDepth_plain (hc : isBracket c = false) : nextDepth depth c = depth := by
  have hne : c ∉ ['[', ']', '(', ')'] := fun hmem => by simp [isBracket_iff.2 hmem] at hc
  simp only [List.mem_cons, List.not_mem_nil, or_false, not_or] at hne
  simp [nextDepth, hne]

@[simp] theorem nextDepth_opening : nextDepth depth kind.opening = depth + 1 := by
  cases kind <;> simp [nextDepth, Bracket.opening]

@[simp] theorem nextDepth_closing : nextDepth (depth + 1) kind.closing = depth := by
  cases kind <;> simp [nextDepth, Bracket.closing]

@[simp] theorem isBracket_opening : isBracket kind.opening = true := by cases kind <;> rfl

@[simp] theorem isBracket_closing : isBracket kind.closing = true := by cases kind <;> rfl

end

/-! ## No separator at depth zero -/

section
variable {sep : Char} {kind : Bracket} {depth : Nat} {a b inner group s : List Char}

theorem EndsAt.append (ha : EndsAt sep depth a) (hb : EndsAt sep 0 b) :
    EndsAt sep depth (a ++ b) := by
  induction a generalizing depth with
  | nil =>
    obtain rfl : depth = 0 := ha
    exact hb
  | cons c a ih => exact ⟨ha.1, ih ha.2⟩

/-- A text without brackets and separators stays at depth zero. -/
theorem endsAt_of_plain (h : ∀ c ∈ s, isBracket c = false ∧ c ≠ sep) : EndsAt sep 0 s := by
  induction s with
  | nil => rfl
  | cons c s ih =>
    obtain ⟨hc, hs⟩ := List.forall_mem_cons.1 h
    refine ⟨fun hsep => hc.2 hsep.1, ?_⟩
    rw [nextDepth_plain hc.1]
    exact ih hs

/-- Inside brackets a nested text has no separator at depth zero, and what follows it is read from
    the same depth. -/
theorem endsAt_nested_append (hs : Nested s) (hb : EndsAt sep (depth + 1) b) :
    EndsAt sep (depth + 1) (s ++ b) := by
  induction hs generalizing depth b with
  | nil => exact hb
  | plain hc _ ih =>
    refine ⟨fun h => Nat.succ_ne_zero _ h.2, ?_⟩
    rw [nextDepth_plain hc]
    exact ih hb
  | @group kind s t _ _ ihs iht =>
    rw [List.append_assoc, List.cons_append]
    refine ⟨fun h => Nat.succ_ne_zero _ h.2, ?_⟩
    rw [nextDepth_opening]
    refine ihs ⟨fun h => Nat.succ_ne_zero _ h.2, ?_⟩
    rw [nextDepth_closing]
    exact iht hb

/-- **A group has no separator at depth zero.** -/
theorem endsAt_group (hsep : isBracket sep = false) (h : IsGroup kind inner group) :
    EndsAt sep 0 group := by
  obtain ⟨rfl, hinner⟩ := h
  refine ⟨fun h => ne_of_isBracket (isBracket_opening kind) hsep h.1, ?_⟩
  rw [nextDepth_opening]
  refine endsAt_nested_append hinner
    ⟨fun h => ne_of_isBracket (isBracket_closing kind) hsep h.1, ?_⟩
  rw [nextDepth_closing]
  rfl

/-! ## Cuts -/

/-- The last cut of a longer text is that of its end, if its front has no place for one. -/
theorem cutLastTop?_append (ha : EndsAt sep depth a) (b : List Char) :
    cutLastTop? sep depth (a ++ b) = (cutLastTop? sep 0 b).map fun (x, y) => (a ++ x, y) := by
  induction a generalizing depth with
  | nil =>
    obtain rfl : depth = 0 := ha
    simp
  | cons c a ih =>
    rw [List.cons_append, cutLastTop?, ih ha.2]
    cases cutLastTop? sep 0 b with
    | none => exact if_neg ha.1
    | some cut => rfl

/-- Without a place for a cut the text stays whole. -/
theorem splitTop_of_endsAt (h : EndsAt sep depth s) : splitTop sep depth s = ([], s) := by
  induction s generalizing depth with
  | nil => rfl
  | cons c s ih => rw [splitTop, if_neg h.1, ih h.2]

end

end UtilityStyle.Text
