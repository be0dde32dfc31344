import Gateway.Decimal.Shortest
import Gateway.Proofs.Double.Rounding

/-! # Words of doubles

The word of a double has its last 52 digits and before them its exponent, so the words of positive
doubles stand in the order of their values, with the word of infinity after all of them.
-/

open Float.Model Float.Model.UnpackedFloat

namespace Gateway.Double

open Gateway.Decimal (Binary)

/-- Whether a double is not negative, finite and has the given value. -/
def Represents (x : Float) (v : ℚ) : Prop :=
  x.toBits.toNat < 2047 * 2 ^ 52 ∧
    v = (Binary.ofFloat x).mantissa * 2 ^ (Binary.ofFloat x).exponent

/-- The word of a double. -/
def word (mantissa : ℕ) (exponent : ℤ) : ℕ := (exponent + 1074).toNat * 2 ^ 52 + mantissa

variable {mantissa : ℕ} {exponent : ℤ}

theorem IsCanonical.ofFloat (canonical : IsCanonical mantissa exponent) {x : Float}
    (bits : x.toBits.toNat = word mantissa exponent) (fits : exponent ≤ 971) :
    Binary.ofFloat x = ⟨mantissa, exponent⟩ := by
  obtain ⟨small, low, full⟩ := canonical
  simp only [Binary.ofFloat, bits, word, Nat.pow_eq]
  split_ifs with subnormal <;> rw [Binary.mk.injEq] <;> omega

theorem exists_canonical {x : Float} (finite : x.toBits.toNat < 2047 * 2 ^ 52) :
    ∃ mantissa exponent, IsCanonical mantissa exponent ∧ exponent ≤ 971 ∧
      x.toBits.toNat = word mantissa exponent := by
  generalize x.toBits.toNat = n at finite ⊢
  rcases Nat.eq_zero_or_pos (n / 2 ^ 52) with subnormal | normal
  · exact ⟨n, -1074, ⟨by omega, le_rfl, .inr rfl⟩, by omega, by simp [word]⟩
  · refine ⟨2 ^ 52 + n % 2 ^ 52, n / 2 ^ 52 - 1075, ⟨by omega, by omega, .inl (by omega)⟩, by omega, ?_⟩
    rw [word]
    omega

theorem unpackMantissa_toNat (b : BitVec 64) :
    (@unpackMantissa Format.binary64 b).toNat = b.toNat % 2 ^ 52 := by
  simp [unpackMantissa]

theorem unpackExponent_toNat (b : BitVec 64) :
    (@unpackExponent Format.binary64 b).toNat = b.toNat / 2 ^ 52 % 2 ^ 11 := by
  simp [unpackExponent, Nat.shiftRight_eq_div_pow]

theorem unpackSign_toNat (b : BitVec 64) :
    (@unpackSign Format.binary64 b).toNat = b.toNat / 2 ^ 63 % 2 := by
  simp [unpackSign, Nat.shiftRight_eq_div_pow]

theorem finite_eq_unpacked {m : ℕ} {e : ℤ} (positive : 0 < m) (digits : m = mantissa)
    (place : e = exponent) : finite .positive m e positive = unpacked mantissa exponent := by
  subst digits place
  rw [unpacked, dif_pos positive]

theorem unpack_of_toNat (canonical : IsCanonical mantissa exponent) (fits : exponent ≤ 971)
    {b : BitVec 64} (bits : b.toNat = word mantissa exponent) :
    UnpackedFloat.unpack Format.binary64 b = unpacked mantissa exponent := by
  obtain ⟨small, low, full⟩ := canonical
  have scale := unpackExponent_toNat b
  have digits := unpackMantissa_toNat b
  have positive : @unpackSign Format.binary64 b = 0#1 := by
    rw [← BitVec.toNat_inj, unpackSign_toNat, bits, word, BitVec.toNat_zero]
    omega
  have bias : (Format.exponentBias Format.binary64 : ℤ) = 1023 := rfl
  rw [bits, word] at scale digits
  have bounded : @unpackExponent Format.binary64 b ≠ -1#_ := by
    rw [ne_eq, ← BitVec.toNat_inj, scale]
    simp only [BitVec.neg_one_eq_allOnes, BitVec.toNat_allOnes]
    omega
  rw [UnpackedFloat.unpack, positive, bias, if_neg bounded]
  -- The word holds a mantissa of 52 digits as it is, and one of 53 without its first digit.
  rcases lt_or_ge mantissa (2 ^ 52) with few | many
  · have subnormal : @unpackExponent Format.binary64 b = 0#_ := by
      rw [← BitVec.toNat_inj, scale, BitVec.toNat_zero]
      omega
    have whole : (@unpackMantissa Format.binary64 b).toNat = mantissa := by
      rw [digits]
      omega
    rw [if_pos subnormal]
    split_ifs with none
    · rw [none, BitVec.toNat_zero] at whole
      rw [← whole]
      rfl
    · refine finite_eq_unpacked _ whole ?_
      rw [subnormal]
      simp only [BitVec.toNat_zero]
      omega
  · have normal : @unpackExponent Format.binary64 b ≠ 0#_ := by
      rw [ne_eq, ← BitVec.toNat_inj, scale, BitVec.toNat_zero]
      omega
    rw [if_neg normal]
    refine finite_eq_unpacked _ ?_ ?_
    · rw [BitVec.toNat_append, ← Nat.shiftLeft_add_eq_or_of_lt (BitVec.isLt _), digits,
        Nat.shiftLeft_eq]
      change 1 * 2 ^ 52 + _ = mantissa
      omega
    · rw [scale]
      change _ - (1023 + 52 : ℤ) = exponent
      omega

theorem toNat_packComponents (e : BitVec 11) (m : BitVec 52) :
    (packComponents Format.binary64 .positive e m).toNat = e.toNat * 2 ^ 52 + m.toNat := by
  have sign : (Sign.toBitVec .positive ++ e).toNat = e.toNat := by
    rw [BitVec.toNat_append]
    simp [Sign.toBitVec]
  rw [packComponents, BitVec.toNat_append, ← Nat.shiftLeft_add_eq_or_of_lt m.isLt, Nat.shiftLeft_eq]
  exact congrArg (· * 2 ^ 52 + m.toNat) sign

theorem toNat_pack (canonical : IsCanonical mantissa exponent) (fits : exponent ≤ 971) :
    (UnpackedFloat.pack Format.binary64 (unpacked mantissa exponent)).toNat =
      word mantissa exponent := by
  obtain ⟨small, low, full⟩ := canonical
  have bounded : ¬ 2 ^ 11 ≤ (exponent + 1023 + 52).toNat + 1 := by omega
  rw [unpacked, word]
  split_ifs with positive
  · change BitVec.toNat (if 2 ^ 11 ≤ (exponent + 1023 + 52).toNat + 1 then _
      else if mantissa.log2 + 1 = 1 + 52 then _ else _) = _
    rw [if_neg bounded]
    split_ifs with normal
    · have many : 2 ^ 52 ≤ mantissa := (Nat.le_log2 positive.ne').mp (by omega)
      rw [toNat_packComponents, BitVec.toNat_ofNat, BitVec.toNat_ofNat]
      change (exponent + 1023 + 52).toNat % 2 ^ 11 * 2 ^ 52 + mantissa % 2 ^ 52 = _
      omega
    · have few : mantissa < 2 ^ 52 := by
        have digits := (Nat.log2_lt positive.ne').mpr small
        exact (Nat.log2_lt positive.ne').mp (by omega)
      rw [toNat_packComponents, BitVec.toNat_ofNat, BitVec.toNat_ofNat]
      change 0 % 2 ^ 11 * 2 ^ 52 + mantissa % 2 ^ 52 = _
      omega
  · have none : exponent = -1074 := by omega
    rw [Nat.eq_zero_of_not_pos positive, none]
    rfl

theorem pack_of_overflow (canonical : IsCanonical mantissa exponent) (exceeds : 971 < exponent) :
    UnpackedFloat.pack Format.binary64 (unpacked mantissa exponent) =
      packedInfinity Format.binary64 .positive := by
  obtain ⟨small, low, full⟩ := canonical
  have positive : 0 < mantissa := by omega
  rw [unpacked, dif_pos positive]
  exact if_pos (show 2 ^ 11 ≤ (exponent + 1023 + 52).toNat + 1 by omega)

variable {x y : Float} {q v : ℚ}

theorem represents_iff : Represents x v ↔ ∃ mantissa exponent, IsCanonical mantissa exponent ∧
    exponent ≤ 971 ∧ x.toBits.toNat = word mantissa exponent ∧ v = mantissa * 2 ^ exponent := by
  constructor
  · rintro ⟨finite, rfl⟩
    obtain ⟨mantissa, exponent, canonical, fits, bits⟩ := exists_canonical finite
    exact ⟨mantissa, exponent, canonical, fits, bits, by rw [canonical.ofFloat bits fits]⟩
  · rintro ⟨mantissa, exponent, canonical, fits, bits, rfl⟩
    obtain ⟨small, low, full⟩ := canonical
    refine ⟨by rw [bits, word]; omega, ?_⟩
    rw [IsCanonical.ofFloat ⟨small, low, full⟩ bits fits]

theorem IsCanonical.lt_iff (canonical : IsCanonical mantissa exponent) :
    (mantissa : ℚ) * 2 ^ exponent < 2 ^ 1024 ↔ exponent ≤ 971 := by
  obtain ⟨small, low, full⟩ := canonical
  have unit := two_zpow_pos exponent
  constructor
  · intro less
    by_contra! exceeds
    have many : (2 : ℚ) ^ 52 ≤ mantissa := by exact_mod_cast full.resolve_right (by omega)
    have least : (2 : ℚ) ^ 1024 ≤ mantissa * 2 ^ exponent :=
      calc (2 : ℚ) ^ 1024 = 2 ^ 52 * 2 ^ (972 : ℤ) := by rw [zpow_ofNat, ← pow_add]
        _ ≤ 2 ^ 52 * 2 ^ exponent := mul_le_mul_of_nonneg_left (two_zpow_le exceeds) (by norm_num)
        _ ≤ mantissa * 2 ^ exponent := mul_le_mul_of_nonneg_right many unit.le
    exact least.not_gt less
  · intro fits
    have few : (mantissa : ℚ) < 2 ^ 53 := by exact_mod_cast small
    calc (mantissa : ℚ) * 2 ^ exponent < 2 ^ 53 * 2 ^ exponent := mul_lt_mul_of_pos_right few unit
      _ ≤ 2 ^ 53 * 2 ^ (971 : ℤ) := mul_le_mul_of_nonneg_left (two_zpow_le fits) (by norm_num)
      _ = 2 ^ 1024 := by rw [zpow_ofNat, ← pow_add]

theorem IsCanonical.exponent_le {m : ℕ} {e : ℤ} (canonical : IsCanonical m e)
    (other : IsCanonical mantissa exponent)
    (same : (m : ℚ) * 2 ^ e = mantissa * 2 ^ exponent) : exponent ≤ e := by
  by_contra! less
  obtain ⟨shift, rfl⟩ := Int.le.dest (Int.add_one_le_of_lt less)
  have many : 2 ^ 52 ≤ mantissa := other.full.resolve_right (by have := canonical.low; omega)
  have whole : m = mantissa * 2 ^ shift * 2 := by
    have scaled : (m : ℚ) = mantissa * 2 ^ shift * 2 := by
      refine mul_right_cancel₀ (two_zpow_pos e).ne' ?_
      rw [same, zpow_add₀ (by norm_num), zpow_add_one₀ (by norm_num), zpow_natCast]
      ring
    exact_mod_cast scaled
  have wide : mantissa ≤ mantissa * 2 ^ shift := Nat.le_mul_of_pos_right _ (Nat.two_pow_pos shift)
  have := canonical.small
  omega

/-- A value is that of one double. -/
theorem Represents.unique (first : Represents x v) (second : Represents y v) : x = y := by
  obtain ⟨m, e, canonical, -, bits, rfl⟩ := represents_iff.mp first
  obtain ⟨n, d, other, -, word, same⟩ := represents_iff.mp second
  obtain rfl : e = d := le_antisymm (other.exponent_le canonical same.symm) (canonical.exponent_le other same)
  obtain rfl : m = n := by exact_mod_cast mul_right_cancel₀ (two_zpow_pos e).ne' same
  exact Float.toBits_inj.mp (UInt64.toNat_inj.mp (bits.trans word.symm))

theorem Represents.exists_unpack (represents : Represents x v) : ∃ mantissa exponent,
    IsCanonical mantissa exponent ∧ exponent ≤ 971 ∧ v = mantissa * 2 ^ exponent ∧
      x.toModel.unpack = unpacked mantissa exponent := by
  obtain ⟨mantissa, exponent, canonical, fits, bits, value⟩ := represents_iff.mp represents
  exact ⟨mantissa, exponent, canonical, fits, value, unpack_of_toNat canonical fits bits⟩

theorem Represents.nonneg (represents : Represents x v) : 0 ≤ v := by
  rw [represents.2]
  exact mul_nonneg (Nat.cast_nonneg _) (two_zpow_pos _).le

theorem Represents.isDouble (represents : Represents x v) : IsDouble v := by
  obtain ⟨mantissa, exponent, ⟨small, low, -⟩, -, value, -⟩ := represents.exists_unpack
  exact ⟨mantissa, exponent, small, low, value⟩

theorem Represents.lt (represents : Represents x v) : v < 2 ^ 1024 := by
  obtain ⟨mantissa, exponent, canonical, fits, rfl, -⟩ := represents.exists_unpack
  exact canonical.lt_iff.mpr fits

theorem represents_zero : Represents 0 0 :=
  represents_iff.mpr ⟨0, -1074, ⟨by norm_num, le_rfl, .inr rfl⟩, by norm_num, rfl, by norm_num⟩

theorem Represents.beq_zero_iff (represents : Represents x v) : (x == 0) = true ↔ v = 0 := by
  obtain ⟨m, e, -, -, rfl, unpacks⟩ := represents.exists_unpack
  change (UnpackedFloat.beq x.toModel.unpack (.zero .positive)) = true ↔ _
  rw [unpacks, unpacked, mul_eq_zero_iff_right (two_zpow_pos e).ne', Nat.cast_eq_zero]
  split_ifs with positive
  · exact iff_of_false Bool.false_ne_true positive.ne'
  · exact iff_of_true rfl (Nat.eq_zero_of_not_pos positive)

theorem Represents.isInf_eq_false (represents : Represents x v) : x.isInf = false := by
  obtain ⟨m, e, -, -, -, unpacks⟩ := represents.exists_unpack
  change x.toModel.unpack.isInf = false
  rw [unpacks, unpacked]
  split_ifs <;> rfl

theorem represents_pack (canonical : IsCanonical mantissa exponent) (fits : exponent ≤ 971) :
    Represents (.ofModel (.pack (unpacked mantissa exponent))) (mantissa * 2 ^ exponent) :=
  represents_iff.mpr ⟨mantissa, exponent, canonical, fits, toNat_pack canonical fits, rfl⟩

/-- Whether a double is the one nearest to `q`, or infinity if that is beyond the greatest double. -/
def RoundsTo (q : ℚ) (x : Float) : Prop :=
  ∃ v, Nearest q v ∧ (v < 2 ^ 1024 ∧ Represents x v ∨ 2 ^ 1024 ≤ v ∧ x.isInf = true)

theorem IsRounded.roundsTo {result : UnpackedFloat} (rounded : IsRounded q result) :
    RoundsTo q (.ofModel (.pack result)) := by
  obtain ⟨mantissa, exponent, canonical, nearest, rfl⟩ := rounded
  refine ⟨_, nearest, ?_⟩
  rcases le_or_gt exponent 971 with fits | exceeds
  · exact .inl ⟨canonical.lt_iff.mpr fits, represents_pack canonical fits⟩
  · refine .inr ⟨not_lt.mp fun less => exceeds.not_ge (canonical.lt_iff.mp less), ?_⟩
    change UnpackedFloat.isInf (UnpackedFloat.unpack Format.binary64
      (UnpackedFloat.pack Format.binary64 (unpacked mantissa exponent))) = true
    rw [pack_of_overflow canonical exceeds]
    rfl

end Gateway.Double
