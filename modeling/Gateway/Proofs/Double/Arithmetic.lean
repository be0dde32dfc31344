import Gateway.Json.Number
import Gateway.Proofs.Double.Word

/-! # Arithmetic of doubles

Words turned into doubles, products, quotients and powers of ten are the exact results rounded to the
nearest double, with infinity for what is beyond the greatest one.
-/

open Float.Model Float.Model.UnpackedFloat

namespace Gateway.Double

variable {m n : ℕ} {d e : ℤ} {x y z : Float} {p q v w : ℚ}

theorem le_log2 {digits : ℕ} (le : 2 ^ digits ≤ n) : digits ≤ n.log2 :=
  (Nat.le_log2 (Nat.one_le_two_pow.trans le |>.trans_lt' Nat.zero_lt_one).ne').mpr le

theorem isRounded_round (positive : 0 < n) :
    IsRounded n (UnpackedFloat.round Format.binary64 .positive n 0) := by
  have place : Format.binary64.targetExponent (totalExponent n 0) = n.log2 - 52 := by
    rw [targetExponent_totalExponent]
    omega
  obtain ⟨shift, reached⟩ : ∃ shift : ℕ, shift = (52 - (n.log2 : ℤ)).toNat := ⟨_, rfl⟩
  have amount : (0 - ((n.log2 : ℤ) - 52)).toNat = shift := by omega
  rw [UnpackedFloat.round, place, decreaseExponent, amount]
  refine isRounded_roundWithAccuracy (by exact_mod_cast positive) ?_ (.inl (le_log2 ?_))
  · change (n : ℚ) / 2 ^ (0 - (shift : ℤ)) = (n <<< shift : ℕ)
    rw [Nat.shiftLeft_eq, zero_sub, zpow_neg, div_inv_eq_mul, zpow_natCast]
    push_cast
    rfl
  · rw [Nat.shiftLeft_eq]
    calc 2 ^ 52 ≤ 2 ^ (n.log2 + shift) := Nat.pow_le_pow_right (by norm_num) (by omega)
      _ = 2 ^ n.log2 * 2 ^ shift := Nat.pow_add ..
      _ ≤ n * 2 ^ shift := Nat.mul_le_mul_right _ (Nat.log2_self_le positive.ne')

/-- A word is turned into the nearest double. -/
theorem roundsTo_toFloat (n : UInt64) : RoundsTo n.toNat n.toFloat := by
  suffices IsRounded n.toNat (UnpackedFloat.ofUInt64 Format.binary64 n) from this.roundsTo
  rw [UnpackedFloat.ofUInt64, UnpackedFloat.ofNat, UnpackedFloat.ofInt, UnpackedFloat.normalize]
  rcases Nat.eq_zero_or_pos n.toNat with none | positive
  · rw [none]
    simpa using isRounded_zero
  · rw [Int.compare_eq_gt.mpr (by omega)]
    simpa using isRounded_round positive

theorem isRounded_mul (first : 0 < m) (second : 0 < n) (full : IsFull (m * n) (d + e)) :
    IsRounded (m * 2 ^ d * (n * 2 ^ e)) (UnpackedFloat.mul Format.binary64
      (.finite .positive m d first) (.finite .positive n e second)) := by
  refine isRounded_roundWithAccuracy ?_ ?_ full
  · have := two_zpow_pos d
    have := two_zpow_pos e
    positivity
  · change (m : ℚ) * 2 ^ d * (n * 2 ^ e) / 2 ^ (d + e) = (m * n : ℕ)
    rw [div_eq_iff (two_zpow_pos _).ne', zpow_add₀ (by norm_num)]
    push_cast
    ring

theorem IsCanonical.isFull_mul (one : IsCanonical m d) (other : IsCanonical n e) (first : 0 < m)
    (second : 0 < n) : IsFull (m * n) (d + e) := by
  rcases le_or_gt (2 ^ 52) (m * n) with many | few
  · exact .inl (le_log2 many)
  · have left : m ≤ m * n := Nat.le_mul_of_pos_right m second
    have right : n ≤ m * n := Nat.le_mul_of_pos_left n first
    have tiny := one.full.resolve_left (by omega)
    have small := other.full.resolve_left (by omega)
    exact .inr (by omega)

theorem Represents.mul (first : Represents x v) (second : Represents y w) :
    RoundsTo (v * w) (x * y) := by
  suffices IsRounded (v * w) (UnpackedFloat.mul Format.binary64 x.toModel.unpack y.toModel.unpack) from
    this.roundsTo
  obtain ⟨m, d, one, -, rfl, unpacks⟩ := first.exists_unpack
  obtain ⟨n, e, other, -, rfl, splits⟩ := second.exists_unpack
  rw [unpacks, splits]
  rcases Nat.eq_zero_or_pos m with rfl | left <;> rcases Nat.eq_zero_or_pos n with rfl | right
  · rw [Nat.cast_zero, zero_mul, zero_mul]
    exact isRounded_zero
  · rw [unpacked_of_pos right, Nat.cast_zero, zero_mul, zero_mul]
    exact isRounded_zero
  · rw [unpacked_of_pos left, Nat.cast_zero, zero_mul, mul_zero]
    exact isRounded_zero
  · rw [unpacked_of_pos left, unpacked_of_pos right]
    exact isRounded_mul left right (one.isFull_mul other left right)

/-- What is left over tells on which side of half a place the exact quotient is. -/
theorem approximates_div (positive : 0 < n) : Approximates ((m : ℚ) / n)
    (.ofMantissaAndAccuracy (m / n) (accuracyOfFraction (m % n) n)) := by
  have whole : (m : ℚ) = n * (m / n : ℕ) + (m % n : ℕ) := by exact_mod_cast (Nat.div_add_mod m n).symm
  have unit : (0 : ℚ) < n := by exact_mod_cast positive
  have below : ((m % n : ℕ) : ℚ) < n := by exact_mod_cast Nat.mod_lt m positive
  rw [accuracyOfFraction]
  split_ifs with exact
  · change (m : ℚ) / n = (m / n : ℕ)
    rw [div_eq_iff unit.ne', mul_comm]
    simpa [exact] using whole
  · have part : (0 : ℚ) < (m % n : ℕ) := by exact_mod_cast Nat.pos_of_ne_zero exact
    cases order : compare (2 * (m % n)) n
    · have half : 2 * ((m % n : ℕ) : ℚ) < n := by exact_mod_cast Nat.compare_eq_lt.mp order
      change ((m / n : ℕ) : ℚ) < m / n ∧ (m : ℚ) / n < (m / n : ℕ) + 1 / 2
      rw [lt_div_iff₀ unit, div_lt_iff₀ unit]
      constructor <;> linarith
    · have half : 2 * ((m % n : ℕ) : ℚ) = n := by exact_mod_cast Nat.compare_eq_eq.mp order
      change (m : ℚ) / n = (m / n : ℕ) + 1 / 2
      rw [div_eq_iff unit.ne']
      linarith
    · have half : (n : ℚ) < 2 * (m % n : ℕ) := by exact_mod_cast Nat.compare_eq_gt.mp order
      change ((m / n : ℕ) : ℚ) + 1 / 2 < m / n ∧ (m : ℚ) / n < (m / n : ℕ) + 1
      rw [lt_div_iff₀ unit, div_lt_iff₀ unit]
      constructor <;> linarith

theorem isRounded_div (first : 0 < m) (second : 0 < n) :
    IsRounded (m * 2 ^ d / (n * 2 ^ e)) (UnpackedFloat.div Format.binary64
      (.finite .positive m d first) (.finite .positive n e second)) := by
  obtain ⟨shift, amount⟩ : ∃ shift : ℕ, shift = (d - e - min (d - e)
      (Format.binary64.targetExponent (totalExponent m d - totalExponent n e))).toNat := ⟨_, rfl⟩
  have place : min (d - e)
      (Format.binary64.targetExponent (totalExponent m d - totalExponent n e)) = d - e - shift := by
    omega
  rw [UnpackedFloat.div, divCore, place, sub_sub_cancel, Int.toNat_natCast]
  refine isRounded_roundWithAccuracy ?_ ?_ ?_
  · have := two_zpow_pos d
    have := two_zpow_pos e
    positivity
  · have scaled : (m : ℚ) * 2 ^ d / (n * 2 ^ e) / 2 ^ (d - e - shift) = (m <<< shift : ℕ) / n := by
      rw [Nat.shiftLeft_eq, zpow_sub₀ (by norm_num), zpow_sub₀ (by norm_num), zpow_natCast]
      have := two_zpow_pos d
      have := two_zpow_pos e
      push_cast
      field_simp
    rw [scaled]
    exact approximates_div second
  · -- The dividend is shifted until the quotient has all its digits, or to the last place that there is.
    rcases le_or_gt (d - e - shift) (-1074) with tiny | normal
    · exact .inr tiny
    · refine .inl (le_log2 ((Nat.le_div_iff_mul_le second).mpr ?_))
      rw [targetExponent_eq, totalExponent, totalExponent] at place
      rw [Nat.shiftLeft_eq]
      calc 2 ^ 52 * n ≤ 2 ^ 52 * 2 ^ (n.log2 + 1) := Nat.mul_le_mul_left _ Nat.lt_log2_self.le
        _ = 2 ^ (52 + (n.log2 + 1)) := (Nat.pow_add ..).symm
        _ ≤ 2 ^ (m.log2 + shift) := Nat.pow_le_pow_right (by norm_num) (by omega)
        _ = 2 ^ m.log2 * 2 ^ shift := Nat.pow_add ..
        _ ≤ m * 2 ^ shift := Nat.mul_le_mul_right _ (Nat.log2_self_le first.ne')

theorem Represents.div (first : Represents x v) (second : Represents y w) (positive : 0 < w) :
    RoundsTo (v / w) (x / y) := by
  suffices IsRounded (v / w) (UnpackedFloat.div Format.binary64 x.toModel.unpack y.toModel.unpack) from
    this.roundsTo
  obtain ⟨m, d, one, -, rfl, unpacks⟩ := first.exists_unpack
  obtain ⟨n, e, other, -, rfl, splits⟩ := second.exists_unpack
  have right : 0 < n := Nat.pos_of_ne_zero fun none => by simp [none] at positive
  rw [unpacks, splits, unpacked_of_pos right]
  rcases Nat.eq_zero_or_pos m with rfl | left
  · rw [Nat.cast_zero, zero_mul, zero_div]
    exact isRounded_zero
  · rw [unpacked_of_pos left]
    exact isRounded_div left right

/-- The powers of ten that are looked up are what is computed for the others. -/
theorem powerOfTen_eq (power : ℕ) :
    Json.powerOfTen power = .ofModel (.ofScientific 1 power) := by
  rcases le_or_gt power 22 with small | great
  · have table : ∀ k : Fin 23,
        (Json.powerOfTen k).toBits = (Float.ofModel (.ofScientific 1 (k : ℕ))).toBits := by
      decide +kernel
    exact Float.toBits_inj.mp (table ⟨power, Nat.lt_succ_of_le small⟩)
  · exact dif_neg fun table => great.not_ge table.2

theorem roundsTo_powerOfTen {power : ℕ} (fits : power ≤ 308) :
    RoundsTo (10 ^ power) (Json.powerOfTen power) := by
  rw [powerOfTen_eq]
  suffices IsRounded (10 ^ power) (UnpackedFloat.ofScientific Format.binary64 1 power) from this.roundsTo
  have bounded : ¬ (2 ^ 11 : ℤ) < power := by omega
  have natural : ¬ (power : ℤ) < -(2 ^ 11 + (1 : ℕ).log2) := by omega
  rw [UnpackedFloat.ofScientific, dif_neg Nat.one_ne_zero, if_neg bounded, if_neg natural,
    if_pos (Int.natCast_nonneg power)]
  have exact : (10 : ℚ) ^ power =
      (1 <<< Format.binary64.mantissaBits : ℕ) * 2 ^ (-(Format.binary64.mantissaBits : ℤ)) *
        ((10 ^ (power : ℤ).toNat : ℕ) * 2 ^ (0 : ℤ)) := by
    rw [Nat.one_shiftLeft, zpow_neg, zpow_natCast, Int.toNat_natCast, zpow_zero, mul_one]
    push_cast
    rw [mul_inv_cancel₀ (by positivity), one_mul]
  rw [exact]
  refine isRounded_mul _ _ (.inl (le_log2 ?_))
  calc 2 ^ 52 ≤ 1 <<< 53 * 1 := by decide
    _ ≤ 1 <<< 53 * 10 ^ (power : ℤ).toNat := Nat.mul_le_mul_left _ (Nat.one_le_pow _ _ (by norm_num))

/-- What is rounded to the nearest double does not become infinite if a double is as great. -/
theorem RoundsTo.exists_represents {digits place : ℕ} (rounds : RoundsTo q x)
    (le : q ≤ (digits * 2 ^ place : ℕ)) (small : digits < 2 ^ 53) (fits : place ≤ 971) :
    ∃ v, Nearest q v ∧ Represents x v := by
  obtain ⟨v, nearest, ⟨-, represents⟩ | ⟨exceeds, -⟩⟩ := rounds
  · exact ⟨v, nearest, represents⟩
  · have double : IsDouble (digits * 2 ^ place : ℕ) :=
      ⟨digits, place, small, by omega, by push_cast; rw [zpow_natCast]⟩
    have few : (digits : ℚ) < 2 ^ 53 := by exact_mod_cast small
    have less : ((digits * 2 ^ place : ℕ) : ℚ) < 2 ^ 1024 := by
      push_cast
      calc (digits : ℚ) * 2 ^ place < 2 ^ 53 * 2 ^ place := mul_lt_mul_of_pos_right few (by positivity)
        _ ≤ 2 ^ 53 * 2 ^ 971 :=
          mul_le_mul_of_nonneg_left (pow_le_pow_right₀ (by norm_num) fits) (by norm_num)
        _ = 2 ^ 1024 := by rw [← pow_add]
    exact absurd (exceeds.trans (nearest.le_of_le double le)) less.not_ge

/-- A product that is not infinite is the exact one rounded. -/
theorem Represents.mul_eq_iff (first : Represents x v) (second : Represents y w) :
    (x * y).isInf = false ∧ x * y = z ↔
      ∃ u, Nearest (v * w) u ∧ u < 2 ^ 1024 ∧ Represents z u := by
  have nonneg : 0 ≤ v * w := mul_nonneg first.nonneg second.nonneg
  obtain ⟨u, nearest, rounded⟩ := first.mul second
  constructor
  · rintro ⟨finite, rfl⟩
    obtain ⟨below, represents⟩ | ⟨-, infinite⟩ := rounded
    · exact ⟨u, nearest, below, represents⟩
    · rw [finite] at infinite
      cases infinite
  · rintro ⟨t, other, below, found⟩
    obtain rfl := other.unique nonneg nearest
    obtain ⟨-, represents⟩ | ⟨exceeds, -⟩ := rounded
    · exact ⟨represents.isInf_eq_false, represents.unique found⟩
    · exact absurd below exceeds.not_gt

/-- Division by a double that is not below one does not make a double infinite. -/
theorem Represents.exists_div (first : Represents x v) (second : Represents y w) (least : 1 ≤ w) :
    ∃ u, Nearest (v / w) u ∧ Represents (x / y) u := by
  obtain ⟨u, nearest, ⟨-, represents⟩ | ⟨exceeds, -⟩⟩ := first.div second (by linarith)
  · exact ⟨u, nearest, represents⟩
  · have le := nearest.le_of_le first.isDouble (div_le_self first.nonneg least)
    exact absurd (exceeds.trans le) first.lt.not_ge

theorem exists_powerOfTen {power : ℕ} (fits : power ≤ 308) :
    ∃ p, 1 ≤ p ∧ Nearest (10 ^ power) p ∧ Represents (Json.powerOfTen power) p := by
  have le : 10 ^ power ≤ (2 ^ 53 - 1) * 2 ^ 971 :=
    (Nat.pow_le_pow_right (by norm_num) fits).trans (by decide +kernel)
  obtain ⟨p, nearest, represents⟩ :=
    (roundsTo_powerOfTen fits).exists_represents (by exact_mod_cast le) (by norm_num) le_rfl
  exact ⟨p, nearest.le_of_ge isDouble_one (one_le_pow₀ (by norm_num)), nearest, represents⟩

theorem exists_toFloat (n : UInt64) : ∃ v, Nearest n.toNat v ∧ Represents n.toFloat v := by
  have le : n.toNat ≤ 2 ^ 52 * 2 ^ 12 := n.toNat_lt.le.trans (by norm_num)
  exact (roundsTo_toFloat n).exists_represents (by exact_mod_cast le) (by norm_num) (by norm_num)

end Gateway.Double
