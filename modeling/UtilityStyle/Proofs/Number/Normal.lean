/-
  Normal numbers: those whose mantissa has all 24 bits.

  * `normal_roundWithAccuracy`: rounding a long enough mantissa gives a normal number, whose
    exponent is known but for one.  What rounding gives is kept when it is packed
    (`Normal.unpack_pack`);
  * `ofNat_div_pos` and `ofNat_zero_div`: so the quotient of two whole numbers of 32 bits is
    positive, unless it is that of zero;
  * `one_le_wholeCount`: cutting off the fraction of a number of at least one leaves at least one.
-/
import Mathlib
import UtilityStyle.Proofs.Number.Rounding

namespace UtilityStyle.Number

open Float.Model (Format UnpackedFloat totalExponent)
open Float.Model.UnpackedFloat (Accuracy ExtendedMantissa Sign shiftToTargetExponent)

/-- A positive number with a full mantissa, whose exponent is from `lo` to `hi`. -/
inductive Normal (lo hi : Int) : UnpackedFloat → Prop
  | finite {m : Nat} {e : Int} {hpos : 0 < m} (full : 2 ^ 23 ≤ m) (fits : m < 2 ^ 24)
    (low : lo ≤ e) (high : e ≤ hi) : Normal lo hi (.finite .positive m e hpos)

theorem Normal.mono {lo hi lo' hi' : Int} {u : UnpackedFloat} (h : Normal lo hi u)
    (hlo : lo' ≤ lo) (hhi : hi ≤ hi') : Normal lo' hi' u := by
  obtain ⟨full, fits, low, high⟩ := h
  exact ⟨full, fits, by omega, by omega⟩

/-! ## Rounding -/

/-- Shifting a mantissa to the right divides it. -/
theorem mantissa_shiftRight (em : ExtendedMantissa) (k : Nat) :
    (em >>> k).mantissa = em.mantissa / 2 ^ k := by
  induction k with
  | zero => exact (Nat.div_one _).symm
  | succ k ih =>
    show (em >>> k).mantissa / 2 = _
    rw [ih, Nat.div_div_eq_div_mul, Nat.pow_succ]

theorem mantissa_ofMantissaAndAccuracy (m : Nat) (accuracy : Accuracy) :
    (ExtendedMantissa.ofMantissaAndAccuracy m accuracy).mantissa = m := by
  rcases accuracy with _ | _ | _ | _ <;> rfl

/-- Rounding a mantissa adds at most one. -/
theorem roundedMantissa_bounds (em : ExtendedMantissa) :
    em.mantissa ≤ em.roundedMantissa ∧ em.roundedMantissa ≤ em.mantissa + 1 := by
  obtain ⟨m, round, sticky⟩ := em
  have hmod : m % 2 < 2 := Nat.mod_lt _ (by decide)
  cases round <;> cases sticky
  · exact ⟨Nat.le_refl m, Nat.le_succ m⟩
  · exact ⟨Nat.le_refl m, Nat.le_succ m⟩
  · exact ⟨Nat.le_add_right m _, Nat.add_le_add_left (Nat.lt_succ_iff.1 hmod) m⟩
  · exact ⟨Nat.le_succ m, Nat.le_refl _⟩

/-- The last of 24 bits has the exponent of a rounded number, unless that is very small. -/
theorem targetExponent_eq {m : Nat} {e : Int} (h : -126 ≤ m.log2 + e) :
    Format.binary32.targetExponent (totalExponent m e) = m.log2 + e - 23 := by
  show max ((m.log2 : Int) + 1 + e - 24) (-149) = _
  omega

/-- A mantissa of at least 24 bits is shifted to 24 bits, unless the exponent is very small. -/
theorem shiftToTargetExponent_full {m : Nat} {e : Int} (accuracy : Accuracy) (hm : 2 ^ 23 ≤ m)
    (he : -149 ≤ e) :
    let shifted := shiftToTargetExponent .binary32 m e accuracy
    2 ^ 23 ≤ shifted.1.mantissa ∧ shifted.1.mantissa < 2 ^ 24 ∧
      shifted.2 = m.log2 + e - 23 := by
  have hlog : 23 ≤ m.log2 := (Nat.le_log2 (by omega)).2 hm
  have htarget := targetExponent_eq (m := m) (e := e) (by omega)
  have hshift : (m.log2 + e - 23 - e).toNat = m.log2 - 23 := by omega
  simp only [shiftToTargetExponent, UnpackedFloat.shiftToExponent, htarget, hshift,
    mantissa_shiftRight, mantissa_ofMantissaAndAccuracy]
  refine ⟨?_, ?_, by omega⟩
  · rw [Nat.le_div_iff_mul_le (Nat.two_pow_pos _), ← Nat.pow_add, Nat.add_sub_cancel' hlog]
    exact Nat.log2_self_le (by omega)
  · have hexp : 24 + (m.log2 - 23) = m.log2 + 1 := by omega
    rw [Nat.div_lt_iff_lt_mul (Nat.two_pow_pos _), ← Nat.pow_add, hexp]
    exact Nat.lt_log2_self

/-- **A mantissa of at least 24 bits** is rounded to a full one. -/
theorem normal_roundWithAccuracy {m : Nat} {e : Int} (accuracy : Accuracy) (hm : 2 ^ 23 ≤ m)
    (he : -149 ≤ e) :
    Normal (m.log2 + e - 23) (m.log2 + e - 22)
      (.roundWithAccuracy .binary32 .positive m e accuracy) := by
  have hlog : 23 ≤ m.log2 := (Nat.le_log2 (by omega)).2 hm
  obtain ⟨hfull, hfits, hexponent⟩ := shiftToTargetExponent_full accuracy hm he
  unfold UnpackedFloat.roundWithAccuracy
  generalize shiftToTargetExponent .binary32 m e accuracy = first at hfull hfits hexponent ⊢
  obtain ⟨em, e'⟩ := first
  dsimp only at hfull hfits hexponent ⊢
  obtain ⟨hlow, hhigh⟩ := roundedMantissa_bounds em
  -- The second shift makes up for a mantissa that was rounded up to 25 bits.
  obtain ⟨hfull', hfits', hexponent'⟩ :=
    shiftToTargetExponent_full (m := em.roundedMantissa) (e := e') .exact (by omega) (by omega)
  have hlog' : 23 ≤ em.roundedMantissa.log2 ∧ em.roundedMantissa.log2 < 25 :=
    ⟨(Nat.le_log2 (by omega)).2 (by omega), (Nat.log2_lt (by omega)).2 (by omega)⟩
  rw [dif_neg (by omega)]
  exact ⟨hfull', hfits', by omega, by omega⟩

theorem log2_shiftLeft {m : Nat} (hm : m ≠ 0) (k : Nat) : (m <<< k).log2 = m.log2 + k := by
  rw [Nat.shiftLeft_eq]
  refine (Nat.log2_eq_iff (Nat.mul_ne_zero hm (Nat.ne_of_gt (Nat.two_pow_pos k)))).2 ⟨?_, ?_⟩
  · rw [Nat.pow_add]
    exact Nat.mul_le_mul_right _ (Nat.log2_self_le hm)
  · rw [Nat.add_right_comm, Nat.pow_add]
    exact Nat.mul_lt_mul_of_pos_right Nat.lt_log2_self (Nat.two_pow_pos k)

/-- A shorter mantissa is filled up with zeros before it is rounded. -/
theorem normal_round {m : Nat} {e : Int} (hm : m ≠ 0) (he : -126 ≤ e) :
    Normal (m.log2 + e - 23) (m.log2 + e - 22) (.round .binary32 .positive m e) := by
  have htarget := targetExponent_eq (m := m) (e := e) (by omega)
  have hshift : (e - (m.log2 + e - 23)).toNat = 23 - m.log2 := by omega
  have hlog := log2_shiftLeft hm (23 - m.log2)
  have hfull : 2 ^ 23 ≤ m <<< (23 - m.log2) := by
    refine (Nat.le_log2 ?_).1 (by omega)
    rw [Nat.shiftLeft_eq]
    exact Nat.mul_ne_zero hm (Nat.ne_of_gt (Nat.two_pow_pos _))
  unfold UnpackedFloat.round UnpackedFloat.decreaseExponent
  dsimp only
  rw [htarget, hshift]
  exact (normal_roundWithAccuracy .exact hfull (by omega)).mono (by omega) (by omega)

/-! ## Packing -/

/-- The implicit bit adds to the bits after it. -/
theorem toNat_append_one (mantissa : BitVec 23) :
    (1#1 ++ mantissa).toNat = 2 ^ 23 + mantissa.toNat := by
  rw [BitVec.toNat_append, ← Nat.shiftLeft_add_eq_or_of_lt (BitVec.isLt _)]
  rfl

/-- **A normal number** is kept when its exponent fits. -/
theorem Normal.unpack_pack {lo hi : Int} {u : UnpackedFloat} (h : Normal lo hi u)
    (hlo : -149 ≤ lo) (hhi : hi ≤ 104) : (Float32.Model.pack u).unpack = u := by
  obtain @⟨m, e, hpos, full, fits, low, high⟩ := h
  have hlog : m.log2 = 23 := (Nat.log2_eq_iff (Nat.ne_of_gt hpos)).2 ⟨full, fits⟩
  obtain ⟨b, hb⟩ : ∃ b : Nat, (b : Int) = e + 127 + 23 := ⟨(e + 127 + 23).toNat, by omega⟩
  have hbits : UnpackedFloat.pack .binary32 (.finite .positive m e hpos) =
      UnpackedFloat.packComponents .binary32 .positive (BitVec.ofNat 8 b) (BitVec.ofNat 23 m) := by
    show (if 2 ^ 8 ≤ (e + 127 + 23).toNat + 1 then _ else if m.log2 + 1 = 24 then
      UnpackedFloat.packComponents .binary32 .positive (BitVec.ofNat 8 (e + 127 + 23).toNat)
        (BitVec.ofNat 23 m) else _) = _
    rw [if_neg (by omega), if_pos (by omega), ← hb, Int.toNat_natCast]
  have hexponent : (BitVec.ofNat 8 b).toNat = b := by
    rw [BitVec.toNat_ofNat, Nat.mod_eq_of_lt (by omega)]
  have hmantissa : (1#1 ++ BitVec.ofNat 23 m).toNat = m := by
    rw [toNat_append_one, BitVec.toNat_ofNat]
    omega
  have hfinite : BitVec.ofNat 8 b ≠ -1#8 := by
    intro hc
    have : b = 255 := hexponent ▸ congrArg BitVec.toNat hc
    omega
  have hnormal : BitVec.ofNat 8 b ≠ 0#8 := by
    intro hc
    have : b = 0 := hexponent ▸ congrArg BitVec.toNat hc
    omega
  show UnpackedFloat.unpack .binary32 (UnpackedFloat.pack .binary32 _) = _
  rw [hbits]
  unfold UnpackedFloat.unpack
  simp only [UnpackedFloat.unpackMantissa_packComponents,
    UnpackedFloat.unpackExponent_packComponents, UnpackedFloat.unpackSign_packComponents,
    if_neg hfinite, if_neg hnormal, hexponent, hmantissa]
  congr 1
  show (b : Int) - (127 + 23) = e
  omega

theorem Normal.packed {lo hi : Int} {u : UnpackedFloat} (h : Normal lo hi u) (hlo : -149 ≤ lo)
    (hhi : hi ≤ 104) : Normal lo hi (Float32.Model.pack u).unpack := by
  rw [h.unpack_pack hlo hhi]
  exact h

/-! ## Products and quotients -/

section
variable {lo hi lo' hi' : Int} {u v : UnpackedFloat}

theorem normal_mul (hu : Normal lo hi u) (hv : Normal lo' hi' v) (hlow : -149 ≤ lo + lo') :
    Normal (lo + lo' + 23) (hi + hi' + 25) (.mul .binary32 u v) := by
  obtain @⟨m, e, hm, full, fits, low, high⟩ := hu
  obtain @⟨n, f, hn, full', fits', low', high'⟩ := hv
  have hmn : 2 ^ 23 * 2 ^ 23 ≤ m * n := Nat.mul_le_mul full full'
  have hmn' : m * n < 2 ^ 24 * 2 ^ 24 := Nat.mul_lt_mul'' fits fits'
  have hlog : 46 ≤ (m * n).log2 ∧ (m * n).log2 < 48 :=
    ⟨(Nat.le_log2 (by omega)).2 hmn, (Nat.log2_lt (by omega)).2 hmn'⟩
  exact (normal_roundWithAccuracy (e := e + f) .exact (by omega) (by omega)).mono (by omega)
    (by omega)

theorem normal_div (hu : Normal lo hi u) (hv : Normal lo' hi' v) (hlow : -125 ≤ lo - hi') :
    Normal (lo - hi' - 24) (hi - lo' - 22) (.div .binary32 u v) := by
  obtain @⟨m, e, hm, full, fits, low, high⟩ := hu
  obtain @⟨n, f, hn, full', fits', low', high'⟩ := hv
  have hlogm : m.log2 = 23 := (Nat.log2_eq_iff (Nat.ne_of_gt hm)).2 ⟨full, fits⟩
  have hlogn : n.log2 = 23 := (Nat.log2_eq_iff (Nat.ne_of_gt hn)).2 ⟨full', fits'⟩
  have htarget : min (e - f) (Format.binary32.targetExponent
      (totalExponent m e - totalExponent n f)) = e - f - 24 := by
    show min (e - f) (max ((m.log2 : Int) + 1 + e - (n.log2 + 1 + f) - 24) (-149)) = _
    omega
  have hshift : (e - f - (e - f - 24)).toNat = 24 := by omega
  -- The numerator is extended by 24 bits, so that at least as many are left after the division.
  have hfull : 2 ^ 23 ≤ m * 2 ^ 24 / n := by
    rw [Nat.le_div_iff_mul_le hn]
    omega
  have hfits : m * 2 ^ 24 / n < 2 ^ 25 := by
    rw [Nat.div_lt_iff_lt_mul hn]
    omega
  have hlog : 23 ≤ (m * 2 ^ 24 / n).log2 ∧ (m * 2 ^ 24 / n).log2 < 25 :=
    ⟨(Nat.le_log2 (by omega)).2 hfull, (Nat.log2_lt (by omega)).2 hfits⟩
  show Normal _ _ (.roundWithAccuracy .binary32 .positive _ _ _)
  simp only [htarget, hshift, Nat.shiftLeft_eq]
  exact (normal_roundWithAccuracy _ hfull (by omega)).mono (by omega) (by omega)

end

/-! ## Whole numbers -/

theorem normal_toFloat32 {n : Nat} (hn : n ≠ 0) (h : n < 2 ^ 23) :
    Normal (-23) 0 n.toUInt64.toFloat32.toModel.unpack := by
  have hlog : n.log2 < 23 := (Nat.log2_lt hn).2 h
  have hcount : n.toUInt64.toNat = n := by
    rw [Nat.toUInt64, UInt64.toNat_ofNat', Nat.mod_eq_of_lt (by omega)]
  have hround : Normal (-23) 0 (.round .binary32 .positive n 0) :=
    (normal_round hn (by omega)).mono (by omega) (by omega)
  have hmodel : n.toUInt64.toFloat32.toModel =
      Float32.Model.pack (.round .binary32 .positive n 0) := by
    show Float32.Model.pack (.normalize .binary32 (n.toUInt64.toNat : Int) 0 .positive) = _
    rw [hcount, UnpackedFloat.normalize, Int.compare_eq_gt.2 (by omega)]
    rfl
  rw [hmodel]
  exact hround.packed (by omega) (by omega)

theorem ofScientific_zero {n : Nat} (hn : n ≠ 0) :
    UnpackedFloat.ofScientific .binary32 n 0 =
      .roundWithAccuracy .binary32 .positive (n <<< 24) (-24) .exact := by
  have hsafe : ¬(0 : Int) < -((2 : Int) ^ Format.binary32.exponentBits + n.log2) := by
    have : (0 : Int) ≤ (2 : Int) ^ Format.binary32.exponentBits := by decide
    omega
  unfold UnpackedFloat.ofScientific
  rw [dif_neg hn, if_neg (by decide), if_neg hsafe, if_pos (Int.le_refl 0)]
  unfold UnpackedFloat.mul
  dsimp only [Int.toNat_zero]
  rw [Nat.pow_zero, Nat.mul_one, Int.add_zero]
  rfl

/-- Whole numbers of 32 bits are far from both ends of the range. -/
theorem normal_ofNat {n : Nat} (hn : n ≠ 0) (h : n < 2 ^ 32) :
    Normal (-23) 9 (Float32.ofNat n).toModel.unpack := by
  have hlog : n.log2 < 32 := (Nat.log2_lt hn).2 h
  show Normal _ _ (Float32.ofScientific n false 0).toModel.unpack
  by_cases hsmall : n < 2 ^ 23 ∧ 0 ≤ 10
  · -- A short number is exact, and is multiplied by a power of ten that is one.
    have hone : Normal (-23) (-23) (Float32.ofBits 0x3F800000).toModel.unpack :=
      ⟨by decide, by decide, by decide, by decide⟩
    have hmul := normal_mul (normal_toFloat32 hn hsmall.1) hone (by omega)
    rw [Float32.ofScientific, dif_pos hsmall, if_neg Bool.false_ne_true]
    exact (hmul.packed (by omega) (by omega)).mono (by omega) (by omega)
  · have hlog' : 23 ≤ n.log2 := (Nat.le_log2 hn).2 (by omega)
    have hshift : (n <<< 24).log2 = n.log2 + 24 := log2_shiftLeft hn 24
    have hfull : 2 ^ 23 ≤ n <<< 24 := by
      rw [Nat.shiftLeft_eq]
      omega
    have hround := normal_roundWithAccuracy (e := -24) .exact hfull (by omega)
    rw [hshift] at hround
    rw [Float32.ofScientific, dif_neg hsmall, if_neg Bool.false_ne_true]
    show Normal _ _ (Float32.Model.pack (.ofScientific .binary32 n 0)).unpack
    rw [ofScientific_zero hn]
    exact (hround.packed (by omega) (by omega)).mono (by omega) (by omega)

theorem pos_of_normal {x : Float32} {lo hi : Int} (h : Normal lo hi x.toModel.unpack) : 0 < x := by
  refine decide_eq_true_iff.2 ?_
  show UnpackedFloat.lt (.zero .positive) x.toModel.unpack = true
  generalize x.toModel.unpack = u at h ⊢
  cases h
  rfl

/-- **The quotient of whole numbers** of 32 bits, neither of them zero, is positive. -/
theorem ofNat_div_pos {n m : Nat} (hn : n ≠ 0) (hm : m ≠ 0) (hn32 : n < 2 ^ 32)
    (hm32 : m < 2 ^ 32) : 0 < Float32.ofNat n / Float32.ofNat m := by
  have hdiv := normal_div (normal_ofNat hn hn32) (normal_ofNat hm hm32) (by omega)
  exact pos_of_normal (hdiv.packed (by omega) (by omega))

/-- Zero divided by a whole number is zero. -/
theorem ofNat_zero_div {m : Nat} (hm : m ≠ 0) (h : m < 2 ^ 32) :
    Float32.ofNat 0 / Float32.ofNat m = 0 := by
  have hnormal := normal_ofNat hm h
  show Float32.ofModel
    (.pack (.div .binary32 (.zero .positive) (Float32.ofNat m).toModel.unpack)) = _
  generalize (Float32.ofNat m).toModel.unpack = u at hnormal ⊢
  cases hnormal
  rfl

/-! ## Whole parts -/

variable {x : Float32}

/-- Only numbers with the least exponent have a mantissa that is not full. -/
theorem full_of_unpack {sign : Sign} {mantissa : Nat} {exponent : Int} {hpos : 0 < mantissa}
    (h : x.toModel.unpack = .finite sign mantissa exponent hpos) (hexponent : -149 < exponent) :
    2 ^ 23 ≤ mantissa := by
  unfold Float32.Model.unpack UnpackedFloat.unpack at h
  dsimp only at h
  rw [ite_eq_iff, ite_eq_iff, ite_eq_iff, dite_eq_iff] at h
  -- an infinity or not a number, a zero, a mantissa without the implicit bit, and one with it
  rcases h with ⟨-, ⟨-, h⟩ | ⟨-, h⟩⟩ | ⟨-, ⟨hzero, ⟨_, h⟩ | ⟨_, h⟩⟩ | ⟨-, h⟩⟩
  · cases h
  · cases h
  · cases h
  · rw [hzero] at h
    cases h
    exact absurd hexponent (by decide)
  · cases h
    rw [toNat_append_one]
    exact Nat.le_add_right _ _

/-- A mantissa that reaches above the point has a whole part. -/
theorem one_le_roundToInt {m : Nat} {e : Int} (h : 2 ^ (-e).toNat ≤ m) :
    1 ≤ UnpackedFloat.roundToInt .positive m e := by
  have hone : 1 ≤ m <<< e.toNat / 2 ^ (-e).toNat := by
    rw [Nat.le_div_iff_mul_le (Nat.two_pow_pos _), Nat.shiftLeft_eq, Nat.one_mul]
    exact Nat.le_trans h (Nat.le_mul_of_pos_right m (Nat.two_pow_pos _))
  have hshift : (0 - (e - (e - 0).toNat)).toNat = (-e).toNat := by omega
  show (1 : Int) ≤ ((ExtendedMantissa.ofMantissaAndAccuracy (m <<< (e - 0).toNat) .exact >>>
    (0 - (e - (e - 0).toNat)).toNat).mantissa : Int)
  rw [mantissa_shiftRight, hshift, Int.sub_zero]
  exact Int.ofNat_le.2 hone

theorem one_le_toNat_ofNatClamp {n : Nat} (h : 1 ≤ n) : 1 ≤ (UInt32.ofNatClamp n).toNat := by
  unfold UInt32.ofNatClamp
  split
  · exact h
  · decide

/-- **The count of a number** of at least one is at least one. -/
theorem one_le_wholeCount (h : x ≥ 1) : 1 ≤ wholeCount x := by
  have hle : UnpackedFloat.le (.finite .positive (2 ^ 23) (-23) (by decide)) x.toModel.unpack :=
    le_iff_unpack.1 h
  refine one_le_toNat_ofNatClamp ?_
  show 1 ≤ (x.toModel.unpack.toInt 0 (UInt32.size - 1)).toNat
  have hfull := @full_of_unpack x
  generalize x.toModel.unpack = u at hle hfull ⊢
  cases u with
  | notANumber => cases hle
  | zero sign => cases hle
  | infinity sign =>
    cases sign with
    | negative => cases hle
    | positive => decide
  | finite sign mantissa exponent hpos =>
    cases sign with
    | negative => cases hle
    | positive =>
      rw [le_finite, Ordering.isLE_then_iff_or] at hle
      have hdigits : 2 ^ (-exponent).toNat ≤ mantissa := by
        rcases hle with h | ⟨he, hm⟩
        · have hexponent : -23 < exponent := Int.compare_eq_lt.1 h
          refine Nat.le_trans ?_ (hfull rfl (by omega))
          exact Nat.pow_le_pow_right (by decide) (by omega)
        · obtain rfl : -23 = exponent := Int.compare_eq_eq.1 he
          exact Nat.isLE_compare.1 hm
      have hwhole := one_le_roundToInt hdigits
      show 1 ≤ (UnpackedFloat.roundToInt .positive mantissa exponent).toNat
      omega

/-! ## Bounds -/

/-- What is clamped to bounds is beyond neither of them. -/
theorem clamp_within {lo hi : Float32} (hlo : ¬lo < lo) (hhi : ¬hi < hi) (h : ¬hi < lo) :
    ¬clamp lo hi x < lo ∧ ¬hi < clamp lo hi x := by
  unfold clamp
  split
  · exact ⟨hlo, h⟩
  · split
    · exact ⟨h, hhi⟩
    · next hx hx' => exact ⟨hx, hx'⟩

end UtilityStyle.Number
