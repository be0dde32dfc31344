import Gateway.Proofs.Double
import Mathlib

/-! # Rounding to doubles

The arithmetic of doubles shifts an exact mantissa until it has the places of a double and keeps of the
digits that drop out whether they are less than half a place, half a place or more. That is all that it
takes to round to the nearest double. Whatever the nearest double is, it is the result, as long as it is
not beyond the greatest one.
-/

open Float.Model Float.Model.UnpackedFloat

namespace Gateway.Double

/-- What a mantissa and the two bits after it tell of an exact magnitude. -/
def Approximates (x : ℚ) : ExtendedMantissa → Prop
  | ⟨m, false, false⟩ => x = m
  | ⟨m, false, true⟩ => m < x ∧ x < m + 1 / 2
  | ⟨m, true, false⟩ => x = m + 1 / 2
  | ⟨m, true, true⟩ => m + 1 / 2 < x ∧ x < m + 1

variable {x q : ℚ} {em : ExtendedMantissa}

theorem Approximates.bounds (approximates : Approximates x em) :
    (em.mantissa : ℚ) ≤ x ∧ x < em.mantissa + 1 := by
  obtain ⟨m, _ | _, _ | _⟩ := em <;> simp only [Approximates] at approximates ⊢ <;>
    constructor <;> linarith

theorem Approximates.shiftRightOne (approximates : Approximates x em) :
    Approximates (x / 2) em.shiftRightOne := by
  obtain ⟨m, round, sticky⟩ := em
  have halves : (m : ℚ) = (m % 2 : ℕ) + 2 * (m / 2 : ℕ) := by exact_mod_cast (Nat.mod_add_div m 2).symm
  obtain last | last := Nat.mod_two_eq_zero_or_one m <;> rw [last] at halves <;> push_cast at halves <;>
    cases round <;> cases sticky <;>
    simp only [Approximates, ExtendedMantissa.shiftRightOne, last, bne_self_eq_false, Nat.reduceBneDiff,
      Bool.or_false, Bool.or_true, Bool.or_self] at approximates ⊢ <;>
    first | linarith | constructor <;> linarith

theorem Approximates.shiftRight (approximates : Approximates x em) (places : ℕ) :
    Approximates (x / 2 ^ places) (em >>> places) := by
  change Approximates _ (places.repeat ExtendedMantissa.shiftRightOne em)
  induction places with
  | zero => simpa [Nat.repeat] using approximates
  | succ places ih =>
    rw [Nat.repeat, pow_succ, ← div_div]
    exact ih.shiftRightOne

/-- The bits after a mantissa decide to which side it is rounded. -/
theorem Approximates.rounds (approximates : Approximates x em) : Rounds x em.roundedMantissa := by
  obtain ⟨low, high⟩ := approximates.bounds
  obtain ⟨m, _ | _, _ | _⟩ := em <;>
    simp only [Approximates, ExtendedMantissa.roundedMantissa, ExtendedMantissa.accuracy,
      Accuracy.roundToNearestEven] at approximates low high ⊢
  · rw [approximates]
    refine ⟨?_, ?_⟩ <;> norm_num
  · have dist : |x - m| < 1 / 2 := by rw [abs_lt]; constructor <;> linarith
    exact ⟨dist.le, fun tie => absurd tie dist.ne⟩
  · rw [approximates]
    obtain last | last := Nat.mod_two_eq_zero_or_one m
    · rw [last]
      refine ⟨by norm_num, fun _ => Nat.even_iff.mpr last⟩
    · rw [last]
      refine ⟨by push_cast; norm_num, fun _ => Nat.even_iff.mpr (by omega)⟩
  · have dist : |x - (m + 1 : ℕ)| < 1 / 2 := by
      rw [abs_lt]
      push_cast
      constructor <;> linarith
    exact ⟨dist.le, fun tie => absurd tie dist.ne⟩

theorem targetExponent_eq (total : ℤ) : Format.binary64.targetExponent total = max (total - 53) (-1074) := by
  rw [Format.targetExponent, Format.minExponent]
  rfl

theorem targetExponent_totalExponent (mantissa : ℕ) (exponent : ℤ) :
    Format.binary64.targetExponent (totalExponent mantissa exponent) =
      max (mantissa.log2 + exponent - 52) (-1074) := by
  rw [targetExponent_eq, totalExponent]
  omega

/-- Whether a mantissa has all places of a double, or all that there are. -/
def IsFull (mantissa : ℕ) (exponent : ℤ) : Prop := 52 ≤ mantissa.log2 ∨ exponent ≤ -1074

theorem log_eq {e k : ℤ} (low : 2 ^ k ≤ q / 2 ^ e) (high : q / 2 ^ e < 2 ^ (k + 1)) :
    Int.log 2 q = k + e := by
  rw [le_div_iff₀ (two_zpow_pos e), ← zpow_add₀ (by norm_num)] at low
  rw [div_lt_iff₀ (two_zpow_pos e), ← zpow_add₀ (by norm_num)] at high
  have positive : 0 < q := (two_zpow_pos _).trans_le low
  have least := (Int.zpow_le_iff_le_log (b := 2) (by norm_num) positive).mp low
  have greatest := (Int.lt_zpow_iff_log_lt (b := 2) (by norm_num) positive).mp high
  omega

/-- A mantissa with enough places tells the last place of the doubles around the exact magnitude. -/
theorem Approximates.targetExponent_eq_place {e : ℤ} (positive : 0 < q)
    (approximates : Approximates (q / 2 ^ e) em) (full : IsFull em.mantissa e) :
    Format.binary64.targetExponent (totalExponent em.mantissa e) = place q ∧ e ≤ place q := by
  obtain ⟨low, high⟩ := approximates.bounds
  rw [targetExponent_totalExponent, place]
  rcases Nat.eq_zero_or_pos em.mantissa with none | some
  · have tiny : e ≤ -1074 := by
      obtain many | tiny := full
      · rw [none] at many
        exact absurd many (by decide)
      · exact tiny
    have below : q < 2 ^ e := by
      rw [none, div_lt_iff₀ (two_zpow_pos e)] at high
      simpa using high
    have log := (Int.lt_zpow_iff_log_lt (b := 2) (by norm_num) positive).mp below
    have zero : (0 : ℕ).log2 = 0 := by decide
    rw [none, zero]
    omega
  · have least : (2 : ℚ) ^ (em.mantissa.log2 : ℤ) ≤ em.mantissa := by
      rw [zpow_natCast]
      exact_mod_cast Nat.log2_self_le some.ne'
    have greatest : (em.mantissa : ℚ) + 1 ≤ 2 ^ ((em.mantissa.log2 : ℤ) + 1) := by
      rw [← Nat.cast_succ, ← Nat.cast_succ, zpow_natCast]
      exact_mod_cast Nat.lt_log2_self
    rw [log_eq (least.trans low) (high.trans_le greatest)]
    refine ⟨rfl, ?_⟩
    obtain many | tiny := full <;> omega

/-- A mantissa of as many places as a double has, with its last place. -/
structure IsCanonical (mantissa : ℕ) (exponent : ℤ) : Prop where
  small : mantissa < 2 ^ 53
  low : -1074 ≤ exponent
  full : 2 ^ 52 ≤ mantissa ∨ exponent = -1074

/-- The magnitude of a mantissa and the power of two of its last place, as it is worked with. -/
def unpacked (mantissa : ℕ) (exponent : ℤ) : UnpackedFloat :=
  if positive : 0 < mantissa then .finite .positive mantissa exponent positive else .zero .positive

theorem unpacked_of_pos {mantissa : ℕ} {exponent : ℤ} (positive : 0 < mantissa) :
    unpacked mantissa exponent = .finite .positive mantissa exponent positive := dif_pos positive

theorem shiftToTargetExponent_of_canonical {mantissa : ℕ} {exponent : ℤ}
    (small : mantissa < 2 ^ 53) (low : -1074 ≤ exponent) :
    shiftToTargetExponent Format.binary64 mantissa exponent .exact =
      (⟨mantissa, false, false⟩, exponent) := by
  have digits : mantissa.log2 ≤ 52 := by
    rcases Nat.eq_zero_or_pos mantissa with rfl | positive
    · decide
    · exact Nat.lt_succ_iff.mp ((Nat.log2_lt positive.ne').mpr small)
  have still : (Format.binary64.targetExponent (totalExponent mantissa exponent) - exponent).toNat = 0 := by
    rw [targetExponent_totalExponent]
    omega
  simp only [shiftToTargetExponent, shiftToExponent, still]
  exact Prod.ext rfl (add_zero exponent)

theorem shiftToTargetExponent_of_carry {exponent : ℤ} (low : -1074 ≤ exponent) :
    shiftToTargetExponent Format.binary64 (2 ^ 53) exponent .exact =
      (⟨2 ^ 52, false, false⟩, exponent + 1) := by
  have once : (Format.binary64.targetExponent (totalExponent (2 ^ 53) exponent) - exponent).toNat = 1 := by
    rw [targetExponent_totalExponent, Nat.log2_two_pow]
    omega
  simp only [shiftToTargetExponent, shiftToExponent, once]
  rfl

/-- Whether a magnitude as it is worked with is the double nearest to `q`. -/
def IsRounded (q : ℚ) (result : UnpackedFloat) : Prop :=
  ∃ mantissa exponent, IsCanonical mantissa exponent ∧ Nearest q (mantissa * 2 ^ exponent) ∧
    result = unpacked mantissa exponent

theorem isRounded_zero : IsRounded 0 (.zero .positive) :=
  ⟨0, -1074, ⟨by norm_num, le_rfl, .inr rfl⟩, by simpa using nearest_zero, rfl⟩

/-- Rounding finds the nearest multiple of the last place, and shifts once more if that takes another
digit. -/
theorem isRounded_roundWithAccuracy {e : ℤ} {m : ℕ} {accuracy : Accuracy} (positive : 0 < q)
    (approximates : Approximates (q / 2 ^ e) (.ofMantissaAndAccuracy m accuracy))
    (full : IsFull m e) :
    IsRounded q (roundWithAccuracy Format.binary64 .positive m e accuracy) := by
  have kept : (ExtendedMantissa.ofMantissaAndAccuracy m accuracy).mantissa = m := by
    obtain _ | _ | _ | _ := accuracy <;> rfl
  obtain ⟨target, shallow⟩ := approximates.targetExponent_eq_place positive (by rwa [kept])
  rw [kept] at target
  obtain ⟨shift, reached⟩ := Int.le.dest shallow
  have shifted : shiftToTargetExponent Format.binary64 m e accuracy =
      (ExtendedMantissa.ofMantissaAndAccuracy m accuracy >>> shift, place q) := by
    have amount : (place q - e).toNat = shift := by omega
    simp only [shiftToTargetExponent, shiftToExponent, target, amount, reached]
  have scaled : q / 2 ^ e / 2 ^ shift = q / 2 ^ place q := by
    rw [div_div, ← zpow_natCast (2 : ℚ) shift, ← zpow_add₀ (by norm_num), reached]
  have rounds := (scaled ▸ approximates.shiftRight shift).rounds
  have nearest := nearest_of_rounds positive rounds
  have least := least_le_place q
  have many := full_of_near positive rounds.near
  rw [roundWithAccuracy, shifted]
  simp only []
  generalize (ExtendedMantissa.ofMantissaAndAccuracy m accuracy >>> shift).roundedMantissa = n
    at rounds nearest many
  -- Rounding up may reach a power of two, which has one digit too many.
  rcases rounds.le.lt_or_eq with small | rfl
  · refine ⟨n, place q, ⟨small, least, ?_⟩, nearest, ?_⟩
    · omega
    · rw [shiftToTargetExponent_of_canonical small least, unpacked]
      obtain rfl | some := Nat.eq_zero_or_pos n
      · rfl
      · rw [dif_neg some.ne', dif_pos some]
  · refine ⟨2 ^ 52, place q + 1, ⟨by norm_num, by omega, .inl le_rfl⟩, ?_, ?_⟩
    · convert nearest using 1
      rw [zpow_add_one₀ (by norm_num)]
      push_cast
      ring
    · rw [shiftToTargetExponent_of_carry least]
      rfl

end Gateway.Double
