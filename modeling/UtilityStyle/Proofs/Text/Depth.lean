/-
  Cutting at depth zero.

  `EndsAt sep depth s` says that a text read from some depth has no separator at depth zero and
  comes back to depth zero at its end, so that a separator after it ends it.  The parts that
  `splitTop` cuts off are of this kind (`endsAt_of_mem_splitTop`), and cutting their join gives them
  back (`splitTop_join`), although they may hold separators in brackets and stray closing brackets.
  `splitTop_eq_iff`: what is left behind the last of them has no separator at depth zero
  (`IsTopFree`), and no other parts spell the text this way.  There are as many of them as separators
  at depth zero (`length_splitTop`).

  `IsLastTop sep depth a b` says that a separator between two texts is the last one at depth zero.
  `cutLastTop?` finds it (`cutLastTop?_eq_some_iff`), or there is none at that depth
  (`cutLastTop?_eq_none_iff`).
-/
import Mathlib.Data.List.Basic
import UtilityStyle.Text.Brackets

namespace UtilityStyle.Text

variable {sep : Char}

/-- No separator of the text is at depth zero, but its end is, when it is read from `depth`. -/
def EndsAt (sep : Char) (depth : Nat) : List Char → Prop
  | [] => depth = 0
  | c :: r => ¬(c = sep ∧ depth = 0) ∧ EndsAt sep (nextDepth depth c) r

/-- A separator ends such a text, whatever follows. -/
theorem splitTop_append_cons {depth : Nat} {s : List Char} (h : EndsAt sep depth s)
    (rest : List Char) :
    splitTop sep depth (s ++ sep :: rest) =
      (s :: (splitTop sep 0 rest).1, (splitTop sep 0 rest).2) := by
  induction s generalizing depth with
  | nil =>
    obtain rfl : depth = 0 := h
    simp [splitTop]
  | cons c s ih =>
    obtain ⟨hc, hs⟩ := h
    rw [List.cons_append, splitTop, if_neg hc, ih hs]

/-- What holds of the first element and of the others holds of all. -/
theorem forall_mem_of_cons {α : Type} {P : α → Prop} {l : List α}
    (h : ∀ a r, l = a :: r → P a ∧ ∀ b ∈ r, P b) : ∀ b ∈ l, P b := by
  cases l with
  | nil => nofun
  | cons a r => exact List.forall_mem_cons.2 (h a r rfl)

/-- The first part ends when it is read from the depth of the whole, the others from zero. -/
theorem endsAt_of_splitTop_eq {depth : Nat} {s first : List Char} {others : List (List Char)}
    (h : (splitTop sep depth s).1 = first :: others) :
    EndsAt sep depth first ∧ ∀ part ∈ others, EndsAt sep 0 part := by
  induction s generalizing depth first others with
  | nil => cases h
  | cons c s ih =>
    rw [splitTop] at h
    split at h
    · next hc =>
      -- The part before the separator is empty, and all further parts are read from zero.
      obtain ⟨rfl, rfl⟩ := List.cons.inj h
      exact ⟨hc.2, forall_mem_of_cons fun _ _ hs => ih hs⟩
    · next hc =>
      split at h
      · cases h
      · next part parts last hs =>
        obtain ⟨rfl, rfl⟩ := List.cons.inj h
        obtain ⟨hpart, hparts⟩ := ih (congrArg Prod.fst hs)
        exact ⟨⟨hc, hpart⟩, hparts⟩

/-- The parts of a text end at depth zero. -/
theorem endsAt_of_mem_splitTop (s : List Char) :
    ∀ part ∈ (splitTop sep 0 s).1, EndsAt sep 0 part :=
  forall_mem_of_cons fun _ _ hs => endsAt_of_splitTop_eq hs

/-- **Cutting undoes joining**: the cut of a join of parts, with one more separator at the end,
    gives the parts back. -/
theorem splitTop_join {parts : List (List Char)} (hne : parts ≠ [])
    (h : ∀ part ∈ parts, EndsAt sep 0 part) :
    splitTop sep 0 ([sep].intercalate parts ++ [sep]) = (parts, []) := by
  induction parts with
  | nil => exact absurd rfl hne
  | cons part parts ih =>
    have hpart : EndsAt sep 0 part := h part List.mem_cons_self
    cases parts with
    | nil =>
      rw [List.intercalate_singleton, splitTop_append_cons hpart]
      rfl
    | cons next parts =>
      have hnext := ih (List.cons_ne_nil _ _) fun p hp => h p (List.mem_cons_of_mem _ hp)
      rw [List.intercalate_cons_cons, List.append_assoc, List.append_assoc, List.singleton_append,
        splitTop_append_cons hpart, hnext]

/-- Parts with the same join are the same. -/
theorem join_injective {parts parts' : List (List Char)} (hne : parts ≠ []) (hne' : parts' ≠ [])
    (h : ∀ part ∈ parts, EndsAt sep 0 part) (h' : ∀ part ∈ parts', EndsAt sep 0 part)
    (hjoin : [sep].intercalate parts = [sep].intercalate parts') : parts = parts' := by
  have hcut := splitTop_join hne h
  rw [hjoin, splitTop_join hne' h'] at hcut
  exact (Prod.mk.inj hcut).1.symm

/-! ## Texts without a separator at depth zero -/

/-- No separator of the text is at depth zero, when it is read from `depth`. -/
def IsTopFree (sep : Char) (depth : Nat) (s : List Char) : Prop :=
  ∀ a b, s = a ++ sep :: b → a.foldl nextDepth depth ≠ 0

theorem isTopFree_nil {depth : Nat} : IsTopFree sep depth [] := fun a b h => by simp at h

theorem isTopFree_cons {depth : Nat} {c : Char} {s : List Char} :
    IsTopFree sep depth (c :: s) ↔
      ¬(c = sep ∧ depth = 0) ∧ IsTopFree sep (nextDepth depth c) s := by
  constructor
  · intro h
    refine ⟨?_, fun a b hs => h (c :: a) b (congrArg (c :: ·) hs)⟩
    rintro ⟨rfl, hdepth⟩
    exact h [] s rfl hdepth
  · rintro ⟨hc, hs⟩ a b heq
    cases a with
    | nil =>
      obtain ⟨rfl, -⟩ := List.cons.inj heq
      exact fun hdepth => hc ⟨rfl, hdepth⟩
    | cons d a =>
      obtain ⟨rfl, htail⟩ := List.cons.inj heq
      exact hs a b htail

/-- A text ends at depth zero if its scan does, and meets no separator there before. -/
theorem endsAt_iff {depth : Nat} {s : List Char} :
    EndsAt sep depth s ↔ IsTopFree sep depth s ∧ s.foldl nextDepth depth = 0 := by
  induction s generalizing depth with
  | nil => exact ⟨fun h => ⟨isTopFree_nil, h⟩, fun h => h.2⟩
  | cons c s ih => rw [EndsAt, ih, isTopFree_cons, and_assoc, List.foldl_cons]

/-! ## All cuts -/

theorem splitTop_of_isTopFree {depth : Nat} {s : List Char} (h : IsTopFree sep depth s) :
    splitTop sep depth s = ([], s) := by
  induction s generalizing depth with
  | nil => rfl
  | cons c s ih =>
    obtain ⟨hc, hs⟩ := isTopFree_cons.1 h
    rw [splitTop, if_neg hc, ih hs]

/-- Parts that end at depth zero are cut off as they are, and what follows them is cut further. -/
theorem splitTop_flatMap_append {parts : List (List Char)}
    (h : ∀ part ∈ parts, EndsAt sep 0 part) (rest : List Char) :
    splitTop sep 0 (parts.flatMap (· ++ [sep]) ++ rest) =
      (parts ++ (splitTop sep 0 rest).1, (splitTop sep 0 rest).2) := by
  induction parts with
  | nil => rfl
  | cons part parts ih =>
    obtain ⟨hpart, hparts⟩ := List.forall_mem_cons.1 h
    rw [List.flatMap_cons, List.append_assoc, List.append_assoc, List.singleton_append,
      splitTop_append_cons hpart, ih hparts, List.cons_append]

/-- The parts and the rest spell the text. -/
theorem flatMap_splitTop (depth : Nat) (s : List Char) :
    (splitTop sep depth s).1.flatMap (· ++ [sep]) ++ (splitTop sep depth s).2 = s := by
  induction s generalizing depth with
  | nil => rfl
  | cons c s ih =>
    rw [splitTop]
    split
    · next hc => simpa [hc.1] using ih 0
    · have hs := ih (nextDepth depth c)
      split
      · next hcut => simpa [hcut] using hs
      · next hcut => simpa [hcut] using hs

/-- What follows the last cut is read from depth zero, or from the depth of the whole text if there
    is no cut. -/
theorem isTopFree_splitTop_snd (depth : Nat) (s : List Char) :
    IsTopFree sep (if (splitTop sep depth s).1 = [] then depth else 0) (splitTop sep depth s).2 := by
  induction s generalizing depth with
  | nil => exact isTopFree_nil
  | cons c s ih =>
    rw [splitTop]
    split
    · simpa using ih 0
    · next hc =>
      have hs := ih (nextDepth depth c)
      split
      · next hcut =>
        rw [hcut, if_pos rfl] at hs
        exact isTopFree_cons.2 ⟨hc, hs⟩
      · next hcut =>
        rw [hcut] at hs
        exact hs

/-- **The cuts are those at depth zero, and all of them.** -/
theorem splitTop_eq_iff {s last : List Char} {parts : List (List Char)} :
    splitTop sep 0 s = (parts, last) ↔
      parts.flatMap (· ++ [sep]) ++ last = s ∧ (∀ part ∈ parts, EndsAt sep 0 part) ∧
        IsTopFree sep 0 last := by
  constructor
  · intro h
    have hspelled : (splitTop sep 0 s).1.flatMap (· ++ [sep]) ++ (splitTop sep 0 s).2 = s :=
      flatMap_splitTop 0 s
    have hends : ∀ part ∈ (splitTop sep 0 s).1, EndsAt sep 0 part := endsAt_of_mem_splitTop s
    have hlast : IsTopFree sep 0 (splitTop sep 0 s).2 := by
      simpa using isTopFree_splitTop_snd 0 s
    rw [h] at hspelled hends hlast
    exact ⟨hspelled, hends, hlast⟩
  · rintro ⟨rfl, hparts, hlast⟩
    rw [splitTop_flatMap_append hparts, splitTop_of_isTopFree hlast, List.append_nil]

/-- The number of separators at depth zero, when the text is read from `depth`. -/
def topCount (sep : Char) (depth : Nat) (s : List Char) : Nat :=
  (List.range s.length).countP fun i => s[i]? = some sep ∧ (s.take i).foldl nextDepth depth = 0

theorem topCount_cons (depth : Nat) (c : Char) (s : List Char) :
    topCount sep depth (c :: s) =
      topCount sep (nextDepth depth c) s + if c = sep ∧ depth = 0 then 1 else 0 := by
  rw [topCount, List.length_cons, List.range_succ_eq_map, List.countP_cons, List.countP_map]
  refine congrArg₂ (· + ·) rfl ?_
  simp

/-- There are as many parts as separators at depth zero. -/
theorem length_splitTop (hsep : nextDepth 0 sep = 0) (depth : Nat) (s : List Char) :
    (splitTop sep depth s).1.length = topCount sep depth s := by
  induction s generalizing depth with
  | nil => rfl
  | cons c s ih =>
    rw [splitTop, topCount_cons]
    split
    · next hc =>
      obtain ⟨rfl, rfl⟩ := hc
      rw [hsep, ← ih]
      rfl
    · rw [← ih, Nat.add_zero]
      split
      · next hcut => rw [hcut]
      · next hcut => rw [hcut]; rfl

/-! ## The last separator -/

/-- The separator between two texts is the last one at depth zero, when they are read from
    `depth`. -/
structure IsLastTop (sep : Char) (depth : Nat) (a b : List Char) : Prop where
  top : a.foldl nextDepth depth = 0
  last : ∀ b₁ b₂, b = b₁ ++ sep :: b₂ → (a ++ sep :: b₁).foldl nextDepth depth ≠ 0

/-- There is no cut if no separator is at depth zero. -/
theorem cutLastTop?_eq_none_iff {depth : Nat} {s : List Char} :
    cutLastTop? sep depth s = none ↔
      ∀ a b, s = a ++ sep :: b → a.foldl nextDepth depth ≠ 0 := by
  induction s generalizing depth with
  | nil => simp [cutLastTop?]
  | cons c s ih =>
    rw [cutLastTop?]
    cases hcut : cutLastTop? sep (nextDepth depth c) s with
    | some cut =>
      -- The rest has a separator at depth zero already.
      have hrest : ¬∀ a b, s = a ++ sep :: b → a.foldl nextDepth (nextDepth depth c) ≠ 0 := by
        rw [← ih, hcut]
        exact Option.some_ne_none _
      simp only [reduceCtorEq, false_iff]
      intro h
      exact hrest fun a b hs => h (c :: a) b (by rw [hs]; rfl)
    | none =>
      have hrest := ih.1 hcut
      constructor
      · intro h a b hs hdepth
        cases a with
        | nil =>
          obtain ⟨rfl, -⟩ := List.cons.inj hs
          have hzero : depth = 0 := hdepth
          simp [hzero] at h
        | cons d a =>
          obtain ⟨rfl, htail⟩ := List.cons.inj hs
          exact hrest a b htail hdepth
      · intro h
        have hc : ¬(c = sep ∧ depth = 0) := by
          rintro ⟨rfl, hdepth⟩
          exact h [] s rfl hdepth
        simp [hc]

/-- **The cut is at the last separator of depth zero.** -/
theorem cutLastTop?_eq_some_iff {depth : Nat} {s a b : List Char} :
    cutLastTop? sep depth s = some (a, b) ↔ s = a ++ sep :: b ∧ IsLastTop sep depth a b := by
  induction s generalizing depth a b with
  | nil => simp [cutLastTop?]
  | cons c s ih =>
    rw [cutLastTop?]
    cases hcut : cutLastTop? sep (nextDepth depth c) s with
    | some cut =>
      obtain ⟨a', b'⟩ := cut
      obtain ⟨rfl, htop⟩ := ih.1 hcut
      constructor
      · intro h
        obtain ⟨rfl, rfl⟩ := Prod.mk.inj (Option.some.inj h)
        exact ⟨rfl, htop.top, htop.last⟩
      · rintro ⟨hs, h⟩
        cases a with
        | nil =>
          -- A later separator is at depth zero.
          obtain ⟨rfl, hb⟩ := List.cons.inj hs
          exact absurd htop.top (h.last a' b' hb.symm)
        | cons d a =>
          obtain ⟨rfl, htail⟩ := List.cons.inj hs
          have heq := ih.2 ⟨htail, h.top, h.last⟩
          rw [hcut] at heq
          obtain ⟨rfl, rfl⟩ := Prod.mk.inj (Option.some.inj heq)
          rfl
    | none =>
      have hnone := cutLastTop?_eq_none_iff.1 hcut
      constructor
      · intro h
        have hc : c = sep ∧ depth = 0 := by
          by_contra hc
          simp [hc] at h
        obtain ⟨rfl, rfl⟩ := hc
        simp only [and_self, if_true, Option.some.injEq, Prod.mk.injEq] at h
        obtain ⟨rfl, rfl⟩ := h
        exact ⟨rfl, rfl, hnone⟩
      · rintro ⟨hs, h⟩
        cases a with
        | nil =>
          obtain ⟨rfl, rfl⟩ := List.cons.inj hs
          have hdepth : depth = 0 := h.top
          simp [hdepth]
        | cons d a =>
          obtain ⟨rfl, htail⟩ := List.cons.inj hs
          exact absurd h.top (hnone a b htail)

end UtilityStyle.Text
