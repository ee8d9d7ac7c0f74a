/-
  Rounding within bounds.

  `roundByte_le_of_within`: a number from 0 to 100 is rounded to a whole number of at most 100.

  Numbers are compared by their exponents, then by their mantissas.  This is sound because single
  precision mantissas have at most 24 bits (`mantissa_lt_of_unpack`), and below the exponent of 100
  that is too few to come near it.
-/
import Mathlib.Logic.Basic
import UtilityStyle.Number.Rounding

namespace UtilityStyle.Number

open Float.Model (Format UnpackedFloat)
open Float.Model.UnpackedFloat (Sign)

variable {x : Float32} {sign : Sign} {mantissa : Nat} {exponent : Int} {hpos : 0 < mantissa}

/-- A mantissa has at most 24 bits. -/
theorem mantissa_lt_of_unpack (h : x.toModel.unpack = .finite sign mantissa exponent hpos) :
    mantissa < 16777216 := by
  unfold Float32.Model.unpack UnpackedFloat.unpack at h
  dsimp only at h
  rw [ite_eq_iff, ite_eq_iff, ite_eq_iff, dite_eq_iff] at h
  -- an infinity or not a number, a zero, a mantissa without the implicit bit, and one with it
  rcases h with ⟨-, ⟨-, h⟩ | ⟨-, h⟩⟩ | ⟨-, ⟨-, ⟨_, h⟩ | ⟨_, h⟩⟩ | ⟨-, h⟩⟩
  · cases h
  · cases h
  · cases h
  · cases h
    exact Nat.lt_of_lt_of_le (BitVec.isLt _) (by decide)
  · cases h
    exact Nat.lt_of_lt_of_le (BitVec.isLt _) (by decide)

theorem unpack_hundred :
    (100 : Float32).toModel.unpack = .finite .positive 13107200 (-17) (by decide) := by
  rfl

theorem le_iff_unpack {y : Float32} : x ≤ y ↔ x.toModel.unpack.le y.toModel.unpack = true :=
  decide_eq_true_iff (p := x.toModel ≤ y.toModel)

/-- Positive numbers are compared by their exponents, then by their mantissas. -/
theorem le_finite {m n : Nat} {e f : Int} {hm : 0 < m} {hn : 0 < n} :
    (UnpackedFloat.finite .positive m e hm).le (.finite .positive n f hn) =
      ((compare e f).then (compare m n)).isLE := by
  rfl

/-- A positive number up to 100 has a smaller exponent, or the same one and no greater mantissa. -/
theorem finite_le_hundred (hx : x.toModel.unpack = .finite .positive mantissa exponent hpos)
    (h : x ≤ 100) : exponent < -17 ∨ exponent = -17 ∧ mantissa ≤ 13107200 := by
  rw [le_iff_unpack, hx, unpack_hundred, le_finite, Ordering.isLE_then_iff_or] at h
  rcases h with h | ⟨he, hm⟩
  · exact .inl (Int.compare_eq_lt.1 h)
  · exact .inr ⟨Int.compare_eq_eq.1 he, Nat.isLE_compare.1 hm⟩

/-- Infinity is above 100. -/
theorem unpack_ne_infinity (h : x ≤ 100) : x.toModel.unpack ≠ .infinity .positive := by
  intro hx
  rw [le_iff_unpack, hx, unpack_hundred] at h
  cases h

/-- **A percentage** is rounded to at most 100. -/
theorem roundByte_le_of_within (h : within 0 100 x = true) : roundByte x ≤ 100 := by
  have hle : x ≤ 100 := by
    rw [within, Bool.and_eq_true] at h
    exact of_decide_eq_true h.2
  unfold roundByte
  split
  · next hx => exact absurd hx (unpack_ne_infinity hle)
  · next mantissa exponent hpos hx =>
    have hmantissa := mantissa_lt_of_unpack hx
    have hnegative : exponent.toNat = 0 := by
      rcases finite_le_hundred hx hle with h | ⟨h, -⟩ <;> omega
    rw [hnegative, Nat.shiftLeft_zero]
    dsimp only
    refine Nat.le_trans (Nat.min_le_right _ _) (Nat.lt_succ_iff.1 ?_)
    have hunit : 0 < Nat.pow 2 (-exponent).toNat := Nat.pow_pos (by omega)
    rw [Nat.div_lt_iff_lt_mul (by omega)]
    rcases finite_le_hundred hx hle with h | ⟨h, hm⟩
    · have : 2 ^ 18 ≤ Nat.pow 2 (-exponent).toNat := Nat.pow_le_pow_right (by omega) (by omega)
      omega
    · subst h
      show 2 * mantissa + 2 ^ 17 < (100 + 1) * (2 * 2 ^ 17)
      omega
  · exact Nat.zero_le _

end UtilityStyle.Number
