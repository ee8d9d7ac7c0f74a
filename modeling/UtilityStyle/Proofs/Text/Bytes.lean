/-
  Positions in bytes.

  A text is cut at positions that count the bytes of its UTF-8 form, and such a position may lie
  inside a character or behind the end.

  * `cutBytes?`: cuts a text behind some of its bytes; `cutBytes?_eq_some_iff` says when there is a
    cut, and `isSome_cutBytes?_iff` that the positions with one are the valid positions of a string;
  * `slice?`: the text between two positions, with `slice?_eq_some_iff`.
-/
import Mathlib.Data.String.Basic

namespace UtilityStyle.Text

open String (utf8Len)

variable {n start stop : Nat} {s a b middle : List Char}

/-- Cuts a text behind its first `n` bytes.  There is no cut if they end inside a character, or if
    the text has fewer. -/
def cutBytes? : Nat → List Char → Option (List Char × List Char)
  | 0, s => some ([], s)
  | _ + 1, [] => none
  | n + 1, c :: r =>
    if c.utf8Size ≤ n + 1 then
      (cutBytes? (n + 1 - c.utf8Size) r).map fun (a, b) => (c :: a, b)
    else none

/-- A text is cut behind the bytes of a part that it begins with. -/
theorem cutBytes?_append (a b : List Char) : cutBytes? (utf8Len a) (a ++ b) = some (a, b) := by
  induction a with
  | nil => simp [cutBytes?]
  | cons c a ih =>
    have hpos : 0 < utf8Len (c :: a) := Nat.add_pos_right _ c.utf8Size_pos
    obtain ⟨n, hn⟩ : ∃ n, utf8Len (c :: a) = n + 1 := Nat.exists_eq_add_one.2 hpos
    have hsize : utf8Len a + c.utf8Size = n + 1 := hn
    rw [hn, List.cons_append, cutBytes?, if_pos (by omega), ← hsize, Nat.add_sub_cancel, ih]
    rfl

/-- **A cut** gives the two parts of the text, of which the first has so many bytes. -/
theorem cutBytes?_eq_some_iff : cutBytes? n s = some (a, b) ↔ s = a ++ b ∧ utf8Len a = n := by
  constructor
  · intro h
    induction s generalizing n a b with
    | nil =>
      cases n with
      | zero => cases h; exact ⟨rfl, rfl⟩
      | succ n => cases h
    | cons c s ih =>
      cases n with
      | zero => cases h; exact ⟨rfl, rfl⟩
      | succ n =>
        rw [cutBytes?] at h
        split at h
        · next hsize =>
          obtain ⟨⟨a, b⟩, hcut, hparts⟩ := Option.map_eq_some_iff.1 h
          cases hparts
          obtain ⟨rfl, hlen⟩ := ih hcut
          refine ⟨rfl, ?_⟩
          rw [String.utf8Len_cons]
          omega
        · cases h
  · rintro ⟨rfl, rfl⟩
    exact cutBytes?_append a b

/-- The positions with a cut are those between the characters of a string. -/
theorem isSome_cutBytes?_iff :
    (cutBytes? n s).isSome = true ↔ String.Pos.Raw.IsValid (String.ofList s) ⟨n⟩ := by
  rw [Option.isSome_iff_exists, String.Pos.Raw.isValid_ofList]
  constructor
  · rintro ⟨⟨a, b⟩, hcut⟩
    obtain ⟨rfl, rfl⟩ := cutBytes?_eq_some_iff.1 hcut
    exact ⟨a.length, by rw [List.take_left, String.utf8ByteSize_ofList]⟩
  · rintro ⟨i, hi⟩
    refine ⟨(s.take i, s.drop i), cutBytes?_eq_some_iff.2 ⟨(List.take_append_drop i s).symm, ?_⟩⟩
    rw [← String.utf8ByteSize_ofList, ← hi]

/-- The text between two positions, if both have a cut and the first is not behind the second. -/
def slice? (s : List Char) (start stop : Nat) : Option (List Char) :=
  (cutBytes? stop s).bind fun (front, _) => (cutBytes? start front).map (·.2)

/-- **A slice** is what stands between two parts of the text with as many bytes. -/
theorem slice?_eq_some_iff :
    slice? s start stop = some middle ↔
      ∃ a b, s = a ++ middle ++ b ∧ utf8Len a = start ∧ utf8Len (a ++ middle) = stop := by
  rw [slice?, Option.bind_eq_some_iff]
  constructor
  · rintro ⟨⟨front, b⟩, hstop, h⟩
    obtain ⟨⟨a, m⟩, hstart, rfl⟩ := Option.map_eq_some_iff.1 h
    obtain ⟨rfl, hlen⟩ := cutBytes?_eq_some_iff.1 hstop
    obtain ⟨rfl, hlen'⟩ := cutBytes?_eq_some_iff.1 hstart
    exact ⟨a, b, rfl, hlen', hlen⟩
  · rintro ⟨a, b, rfl, rfl, rfl⟩
    refine ⟨(a ++ middle, b), cutBytes?_append _ b, ?_⟩
    exact Option.map_eq_some_iff.2 ⟨(a, middle), cutBytes?_append a middle, rfl⟩

end UtilityStyle.Text
