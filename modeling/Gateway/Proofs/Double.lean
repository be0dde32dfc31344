import Mathlib.Data.Int.Log
import Mathlib.Data.Rat.Floor
import Mathlib.Tactic.Linarith
import Mathlib.Tactic.Positivity

/-! # Doubles as rational numbers

A double is a whole number of less than `2 ^ 53` times a power of two that is not below `2 ^ -1074`.
Every magnitude has one nearest double, if of two that are equally near the even one counts. It lies on
the grid of the last places of the doubles around the magnitude, which is where arithmetic finds it
(`nearest_of_rounds`). Overflow is not looked at here: powers of two may be as great as they like.
-/

namespace Gateway.Double

/-- Whether a magnitude takes no more than `digits` binary digits, the last of them no less than
`2 ^ least`. -/
def Holds (digits : ℕ) (least : ℤ) (v : ℚ) : Prop :=
  ∃ (mantissa : ℕ) (exponent : ℤ), mantissa < 2 ^ digits ∧ least ≤ exponent ∧
    v = mantissa * 2 ^ exponent

def IsDouble (v : ℚ) : Prop := Holds 53 (-1074) v

/-- Whether the last digit of a double is zero, so that it could do without it. -/
def IsEven (v : ℚ) : Prop := Holds 52 (-1073) v

/-- `v` is the double nearest to `q`, and the even one if there are two. -/
structure Nearest (q v : ℚ) : Prop where
  double : IsDouble v
  closest : ∀ w, IsDouble w → |q - v| ≤ |q - w|
  even : ∀ w, IsDouble w → w ≠ v → |q - v| = |q - w| → IsEven v

/-- `n` is the whole number nearest to `x`, and the even one if there are two. -/
structure Rounds (x : ℚ) (n : ℕ) : Prop where
  near : |x - n| ≤ 1 / 2
  even : |x - n| = 1 / 2 → Even n

theorem one_le_dist {k n : ℕ} (differ : k ≠ n) : (1 : ℚ) ≤ |(k : ℚ) - n| := by
  have apart : (1 : ℤ) ≤ |(k : ℤ) - n| := Int.one_le_abs (by omega)
  exact_mod_cast apart

theorem half_le_dist {x : ℚ} {k n : ℕ} (near : |x - n| ≤ 1 / 2) (differ : k ≠ n) :
    1 / 2 ≤ |x - k| := by
  have apart := one_le_dist differ
  have through : |(k : ℚ) - n| ≤ |x - k| + |x - n| := by
    rw [abs_sub_comm x k]
    exact abs_sub_le _ _ _
  linarith

theorem Rounds.closest {x : ℚ} {n : ℕ} (rounds : Rounds x n) (k : ℕ) : |x - n| ≤ |x - k| := by
  rcases eq_or_ne k n with rfl | differ
  · exact le_rfl
  · exact rounds.near.trans (half_le_dist rounds.near differ)

theorem exists_rounds {x : ℚ} (nonneg : 0 ≤ x) : ∃ n, Rounds x n := by
  have low := Nat.floor_le nonneg
  have high := Nat.lt_floor_add_one x
  rcases lt_trichotomy (x - ⌊x⌋₊) (1 / 2) with below | half | above
  · have dist : |x - ⌊x⌋₊| < 1 / 2 := by
      rwa [abs_of_nonneg (by linarith)]
    exact ⟨⌊x⌋₊, dist.le, fun tie => absurd tie dist.ne⟩
  · obtain even | odd := Nat.even_or_odd ⌊x⌋₊
    · exact ⟨⌊x⌋₊, by rw [half, abs_of_pos (by norm_num)], fun _ => even⟩
    · refine ⟨⌊x⌋₊ + 1, ?_, fun _ => odd.add_one⟩
      rw [abs_le]
      push_cast
      constructor <;> linarith
  · have dist : |x - (⌊x⌋₊ + 1 : ℕ)| < 1 / 2 := by
      rw [abs_lt]
      push_cast
      constructor <;> linarith
    exact ⟨⌊x⌋₊ + 1, dist.le, fun tie => absurd tie dist.ne⟩

/-- The power of two that the last place of the doubles around a magnitude stands for. -/
def place (q : ℚ) : ℤ := max (Int.log 2 q - 52) (-1074)

theorem least_le_place (q : ℚ) : -1074 ≤ place q := le_max_right _ _

theorem two_zpow_pos (e : ℤ) : (0 : ℚ) < 2 ^ e := zpow_pos (by norm_num) e

theorem two_zpow_le {d e : ℤ} (le : d ≤ e) : (2 : ℚ) ^ d ≤ 2 ^ e :=
  zpow_le_zpow_right₀ (by norm_num) le

/-- A magnitude takes no more than 53 digits before its last place. -/
theorem div_place_lt (q : ℚ) : q / 2 ^ place q < 2 ^ 53 := by
  have above : q < 2 ^ (Int.log 2 q + 1) := Int.lt_zpow_succ_log_self (by norm_num) q
  have wide : Int.log 2 q + 1 ≤ 53 + place q := by rw [place]; omega
  rw [div_lt_iff₀ (two_zpow_pos _)]
  calc q < 2 ^ (Int.log 2 q + 1) := above
    _ ≤ 2 ^ (53 + place q) := two_zpow_le wide
    _ = 2 ^ 53 * 2 ^ place q := zpow_add₀ (by norm_num) ..

/-- It takes all of them, unless its last place is the last one that there is. -/
theorem le_div_place {q : ℚ} (positive : 0 < q) (normal : -1074 < place q) :
    2 ^ 52 ≤ q / 2 ^ place q := by
  have below : (2 : ℚ) ^ Int.log 2 q ≤ q := Int.zpow_log_le_self (by norm_num) positive
  have exact : Int.log 2 q = 52 + place q := by rw [place] at normal ⊢; omega
  rw [le_div_iff₀ (two_zpow_pos _)]
  rw [exact, zpow_add₀ (by norm_num)] at below
  exact below

theorem abs_sub_grid (q : ℚ) (n : ℚ) :
    |q - n * 2 ^ place q| = |q / 2 ^ place q - n| * 2 ^ place q := by
  have positive := two_zpow_pos (place q)
  rw [← abs_of_pos positive, ← abs_mul, abs_of_pos positive, sub_mul, div_mul_cancel₀ _ positive.ne']

theorem holds_grid {digits : ℕ} {least e : ℤ} {n : ℕ} (small : n ≤ 2 ^ (digits + 1))
    (low : least ≤ e) : Holds (digits + 1) least (n * 2 ^ e) := by
  rcases small.lt_or_eq with less | rfl
  · exact ⟨n, e, less, low, rfl⟩
  · refine ⟨2 ^ digits, e + 1, by rw [pow_succ]; have := Nat.two_pow_pos digits; omega, by omega, ?_⟩
    rw [zpow_add_one₀ (by norm_num)]
    push_cast
    ring

theorem isDouble_grid {q : ℚ} {n : ℕ} (small : n ≤ 2 ^ 53) : IsDouble (n * 2 ^ place q) :=
  holds_grid small (least_le_place q)

/-- A double is on the grid, or it is below all doubles of as many digits as the magnitude. -/
theorem IsDouble.grid_or_lt {w : ℚ} (double : IsDouble w) (q : ℚ) :
    (∃ k : ℕ, w = k * 2 ^ place q) ∨ -1074 < place q ∧ w < 2 ^ 52 * 2 ^ place q := by
  obtain ⟨m, e, small, low, rfl⟩ := double
  rcases le_or_gt (place q) e with fine | coarse
  · refine .inl ⟨m * 2 ^ (e - place q).toNat, ?_⟩
    obtain ⟨shift, rfl⟩ := Int.le.dest fine
    rw [add_sub_cancel_left, Int.toNat_natCast, zpow_add₀ (by norm_num), zpow_natCast]
    push_cast
    ring
  · refine .inr ⟨low.trans_lt coarse, ?_⟩
    have digits : (m : ℚ) < 2 ^ 53 := by exact_mod_cast small
    calc (m : ℚ) * 2 ^ e < 2 ^ 53 * 2 ^ e := mul_lt_mul_of_pos_right digits (two_zpow_pos e)
      _ = 2 ^ 52 * 2 ^ (e + 1) := by rw [zpow_add_one₀ (by norm_num)]; ring
      _ ≤ 2 ^ 52 * 2 ^ place q :=
        mul_le_mul_of_nonneg_left (two_zpow_le coarse) (by norm_num)

/-- Doubles off the grid are farther from the magnitude than the nearest one on it. -/
theorem dist_lt_of_lt {q w : ℚ} {n : ℕ} (positive : 0 < q) (rounds : Rounds (q / 2 ^ place q) n)
    (normal : -1074 < place q) (below : w < 2 ^ 52 * 2 ^ place q) :
    |q - n * 2 ^ place q| < |q - w| := by
  have unit := two_zpow_pos (place q)
  have least : 2 ^ 52 * 2 ^ place q ≤ q := by
    rw [← le_div_iff₀ unit]
    exact le_div_place positive normal
  have best := mul_le_mul_of_nonneg_right (rounds.closest (2 ^ 52)) unit.le
  rw [← abs_sub_grid, ← abs_sub_grid, Nat.cast_pow, Nat.cast_ofNat] at best
  rw [abs_of_nonneg (show 0 ≤ q - 2 ^ 52 * 2 ^ place q by linarith)] at best
  rw [abs_of_pos (show 0 < q - w by linarith)]
  linarith

theorem Rounds.le {q : ℚ} {n : ℕ} (rounds : Rounds (q / 2 ^ place q) n) : n ≤ 2 ^ 53 := by
  have near := (abs_le.mp rounds.near).1
  have small := div_place_lt q
  have bound : (n : ℚ) < 2 ^ 53 + 1 := by linarith
  exact Nat.lt_succ_iff.mp (by exact_mod_cast bound)

theorem full_of_near {q : ℚ} {n : ℕ} (positive : 0 < q) (near : |q / 2 ^ place q - n| ≤ 1 / 2)
    (normal : -1074 < place q) : 2 ^ 52 ≤ n := by
  have many := le_div_place positive normal
  have close := (abs_le.mp near).2
  have bound : (2 ^ 52 : ℚ) < n + 1 := by linarith
  exact Nat.lt_succ_iff.mp (by exact_mod_cast bound)

theorem isEven_of_even {q : ℚ} {n : ℕ} (small : n ≤ 2 ^ 53) (even : Even n) :
    IsEven (n * 2 ^ place q) := by
  obtain ⟨half, rfl⟩ := even
  have least := least_le_place q
  have held : Holds 52 (-1073) (half * 2 ^ (place q + 1)) := holds_grid (by omega) (by omega)
  have same : (half : ℚ) * 2 ^ (place q + 1) = (half + half : ℕ) * 2 ^ place q := by
    rw [zpow_add_one₀ (by norm_num)]
    push_cast
    ring
  exact same ▸ held

/-- On the grid, even doubles are even multiples. -/
theorem even_of_isEven {q : ℚ} {n : ℕ} (full : -1074 < place q → 2 ^ 52 ≤ n)
    (even : IsEven (n * 2 ^ place q)) : Even n := by
  obtain ⟨m, e, small, low, same⟩ := even
  have unit := two_zpow_pos (place q)
  rcases lt_or_ge (place q) e with coarse | fine
  · obtain ⟨shift, rfl⟩ := Int.le.dest (Int.add_one_le_of_lt coarse)
    rw [zpow_add₀ (by norm_num), zpow_natCast, zpow_add_one₀ (by norm_num)] at same
    have whole : (n : ℚ) = (2 * (m * 2 ^ shift) : ℕ) := by
      refine mul_right_cancel₀ unit.ne' ?_
      rw [same]
      push_cast
      ring
    rw [Nat.cast_inj.mp whole]
    exact even_two_mul _
  · -- A digit less leaves no room for as many places as the grid has.
    have many : (2 ^ 52 : ℚ) ≤ n := by exact_mod_cast full (by omega)
    have few : (m : ℚ) < 2 ^ 52 := by exact_mod_cast small
    have bound : (m : ℚ) * 2 ^ e < n * 2 ^ place q :=
      calc (m : ℚ) * 2 ^ e < n * 2 ^ e := mul_lt_mul_of_pos_right (few.trans_le many) (two_zpow_pos e)
        _ ≤ n * 2 ^ place q := mul_le_mul_of_nonneg_left (two_zpow_le fine) (Nat.cast_nonneg n)
    exact absurd same bound.ne'

variable {q v w : ℚ}

theorem IsDouble.nearest (double : IsDouble v) : Nearest v v where
  double := double
  closest w _ := by
    rw [sub_self, abs_zero]
    exact abs_nonneg _
  even w _ differ tie := by
    rw [sub_self, abs_zero] at tie
    exact absurd (sub_eq_zero.mp (abs_eq_zero.mp tie.symm)).symm differ

theorem isDouble_zero : IsDouble 0 := ⟨0, 0, by norm_num, by norm_num, by norm_num⟩

theorem isDouble_one : IsDouble 1 := ⟨1, 0, by norm_num, by norm_num, by norm_num⟩

theorem nearest_zero : Nearest 0 0 := isDouble_zero.nearest

theorem Nearest.eq_zero (nearest : Nearest 0 v) : v = 0 := by
  have closest := nearest.closest 0 nearest_zero.double
  rw [sub_self, abs_zero, zero_sub, abs_neg] at closest
  exact abs_eq_zero.mp (le_antisymm closest (abs_nonneg v))

/-- The nearest multiple of the last place is the nearest double. -/
theorem nearest_of_rounds {n : ℕ} (positive : 0 < q) (rounds : Rounds (q / 2 ^ place q) n) :
    Nearest q (n * 2 ^ place q) := by
  have unit := two_zpow_pos (place q)
  refine ⟨isDouble_grid rounds.le, fun w double => ?_, fun w double differ tie => ?_⟩
  · obtain ⟨k, rfl⟩ | ⟨normal, below⟩ := double.grid_or_lt q
    · rw [abs_sub_grid, abs_sub_grid]
      exact mul_le_mul_of_nonneg_right (rounds.closest k) unit.le
    · exact (dist_lt_of_lt positive rounds normal below).le
  · obtain ⟨k, rfl⟩ | ⟨normal, below⟩ := double.grid_or_lt q
    · rw [abs_sub_grid, abs_sub_grid] at tie
      have half := half_le_dist rounds.near fun same => differ (same ▸ rfl)
      rw [← mul_right_cancel₀ unit.ne' tie] at half
      exact isEven_of_even rounds.le (rounds.even (le_antisymm rounds.near half))
    · exact absurd tie (dist_lt_of_lt positive rounds normal below).ne

theorem exists_nearest (nonneg : 0 ≤ q) : ∃ v, Nearest q v := by
  rcases nonneg.eq_or_lt with rfl | positive
  · exact ⟨0, nearest_zero⟩
  · obtain ⟨n, rounds⟩ := exists_rounds (div_nonneg nonneg (two_zpow_pos (place q)).le)
    exact ⟨_, nearest_of_rounds positive rounds⟩

/-- Two neighbours on the grid are not both even. -/
theorem Nearest.eq_of_rounds (positive : 0 < q) (nearest : Nearest q v) {n : ℕ}
    (rounds : Rounds (q / 2 ^ place q) n) : v = n * 2 ^ place q := by
  have other := nearest_of_rounds positive rounds
  have tie := le_antisymm (nearest.closest _ other.double) (other.closest _ nearest.double)
  by_contra differ
  obtain ⟨k, rfl⟩ | ⟨normal, below⟩ := nearest.double.grid_or_lt q
  · have apart : k ≠ n := fun same => differ (same ▸ rfl)
    have even := nearest.even _ other.double (Ne.symm differ) tie
    rw [abs_sub_grid, abs_sub_grid] at tie
    have same := mul_right_cancel₀ (two_zpow_pos (place q)).ne' tie
    have half := le_antisymm rounds.near (same ▸ half_le_dist rounds.near apart)
    have close : |(k : ℚ) - n| ≤ 1 := by
      have through := abs_sub_le (k : ℚ) (q / 2 ^ place q) n
      rw [abs_sub_comm (k : ℚ) (q / 2 ^ place q), same, half] at through
      linarith
    obtain ⟨i, rfl⟩ := even_of_isEven (full_of_near positive (same.trans half).le) even
    obtain ⟨j, rfl⟩ := rounds.even half
    have next : |((i + i : ℕ) : ℤ) - (j + j : ℕ)| ≤ 1 := by exact_mod_cast close
    obtain ⟨low, high⟩ := abs_le.mp next
    omega
  · exact absurd tie (dist_lt_of_lt positive rounds normal below).ne'

/-- A magnitude has one nearest double. -/
theorem Nearest.unique (nonneg : 0 ≤ q) (first : Nearest q v) (second : Nearest q w) : v = w := by
  rcases nonneg.eq_or_lt with rfl | positive
  · rw [first.eq_zero, second.eq_zero]
  · obtain ⟨n, rounds⟩ := exists_rounds (div_nonneg nonneg (two_zpow_pos (place q)).le)
    rw [first.eq_of_rounds positive rounds, second.eq_of_rounds positive rounds]

/-- The nearest double does not pass a double that the magnitude does not pass. -/
theorem Nearest.le_of_le (nearest : Nearest q v) (double : IsDouble w) (le : q ≤ w) : v ≤ w := by
  by_contra past
  have closest := nearest.closest w double
  rw [abs_sub_comm, abs_of_pos (by linarith), abs_sub_comm, abs_of_nonneg (by linarith)] at closest
  linarith

theorem Nearest.le_of_ge (nearest : Nearest q v) (double : IsDouble w) (le : w ≤ q) : w ≤ v := by
  by_contra past
  have closest := nearest.closest w double
  rw [abs_of_pos (by linarith), abs_of_nonneg (by linarith)] at closest
  linarith

theorem Nearest.nonneg (nearest : Nearest q v) : 0 ≤ v := by
  obtain ⟨m, e, -, -, rfl⟩ := nearest.double
  exact mul_nonneg (Nat.cast_nonneg m) (two_zpow_pos e).le

end Gateway.Double
