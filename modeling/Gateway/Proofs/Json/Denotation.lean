import Gateway.Proofs.Double.Arithmetic
import Gateway.Proofs.Json.Number

/-! # What a number denotes

A number that is written as a whole number in the range of a signed or unsigned word, other than negative
zero, denotes it. Every other number is a significand times a power of ten. The significand is made up of
the digits before the point as far as they fit an unsigned word, and of the digits after it that still fit.
It is rounded to a double, which is multiplied or divided by the double nearest to the power of ten, and
the result is rounded again. A negative power beyond the range of doubles is taken in steps. The number
denotes nothing if its significand is not zero and its power is too great, or if the product is not below
`2 ^ 1024` once it is rounded.
-/

namespace Gateway.Json

open Double (Nearest Represents)

/-- The digits that go on `before` as long as the number that they make up stays within the limit. -/
structure FitAfter (limit : Nat) (before digits taken left : List Nat) : Prop where
  split : digits = taken ++ left
  within : ofDigits (before ++ taken) ≤ limit
  full : ∀ digit ∈ left.head?, limit < ofDigits (before ++ taken ++ [digit])

/-- The significand and the power of ten that the digits of a literal stand for. Digits before the point
that are left out raise the power, digits after it that are taken lower it. -/
inductive Literal.Reads (literal : Literal) : Nat → Int → Prop where
  | digits {taken left more rest : List Nat} : FitAfter maxWord [] literal.whole taken left →
      FitAfter maxWord taken (literal.fraction.getD []) more rest →
      Literal.Reads literal (ofDigits (taken ++ more)) ((left.length : Int) - more.length)

def Exponent.value (exponent : Exponent) : Int :=
  if exponent.negative then -ofDigits exponent.digits else ofDigits exponent.digits

/-- The power of ten that is written after the digits. -/
def Literal.shift (literal : Literal) : Int := literal.exponent.elim 0 Exponent.value

/-- Whether the digits of the power of ten are too many. -/
def Literal.IsExcessive (literal : Literal) : Prop :=
  ∃ exponent ∈ literal.exponent, maxExponent < ofDigits exponent.digits

/-- Scaling a magnitude by a power of ten. -/
inductive Scales : ℚ → Int → ℚ → Prop where
  | product {a p v : ℚ} {power : Int} : 0 ≤ power → power ≤ 308 → Nearest (10 ^ power) p →
      Nearest (a * p) v → v < 2 ^ 1024 → Scales a power v
  | quotient {a p v : ℚ} {power : Int} : power < 0 → -308 ≤ power → Nearest (10 ^ (-power)) p →
      Nearest (a / p) v → Scales a power v
  | zero {power : Int} : 308 < power.natAbs → Scales 0 power 0
  | step {a b p v : ℚ} {power : Int} : power < -308 → a ≠ 0 → Nearest (10 ^ 308) p →
      Nearest (a / p) b → Scales b (power + 308) v → Scales a power v

/-- What a literal denotes. -/
inductive Literal.Denotes (literal : Literal) : Json → Prop where
  | integer {n : Int} : literal.IsInteger n → Literal.Denotes literal (.int n)
  | scaled {significand : Nat} {power : Int} {a v : ℚ} {x : Float} : (∀ n, ¬ literal.IsInteger n) →
      literal.Reads significand power → ¬ literal.IsExcessive → Nearest significand a →
      Scales a (power + literal.shift) v → Represents x v →
      Literal.Denotes literal (literal.signed x)
  | vanishing {significand : Nat} {power : Int} {x : Float} : literal.Reads significand power →
      literal.IsExcessive → significand = 0 ∨ literal.shift < 0 → Represents x 0 →
      Literal.Denotes literal (literal.signed x)

section Digits

variable {limit digit total : Nat} {before rest digits taken left : List Nat}

theorem ofDigits_concat (digits : List Nat) (digit : Nat) :
    ofDigits (digits ++ [digit]) = ofDigits digits * 10 + digit := by
  rw [ofDigits, ofDigits, List.foldl_append, List.foldl_cons, List.foldl_nil]

theorem ofDigits_le_append (digits more : List Nat) : ofDigits digits ≤ ofDigits (digits ++ more) := by
  rw [ofDigits, ofDigits, List.foldl_append]
  exact le_foldl_digits more _

theorem fitAfter_of_le (fits : ofDigits (before ++ [digit]) ≤ limit) :
    FitAfter limit before (digit :: rest) taken left ↔
      ∃ more, taken = digit :: more ∧ FitAfter limit (before ++ [digit]) rest more left := by
  constructor
  · rintro ⟨split, within, full⟩
    cases taken with
    | nil =>
      obtain rfl := split
      rw [List.append_nil] at full
      exact absurd fits (full digit rfl).not_ge
    | cons first more =>
      obtain ⟨rfl, rfl⟩ := List.cons.inj split
      rw [List.append_cons] at within full
      exact ⟨more, rfl, rfl, within, full⟩
  · rintro ⟨more, rfl, split, within, full⟩
    rw [← List.append_cons] at within full
    exact ⟨by rw [split, List.cons_append], within, full⟩

theorem fitAfter_of_lt (start : ofDigits before ≤ limit) (exceeds : limit < ofDigits (before ++ [digit])) :
    FitAfter limit before (digit :: rest) taken left ↔ taken = [] ∧ left = digit :: rest := by
  constructor
  · rintro ⟨split, within, full⟩
    cases taken with
    | nil => exact ⟨rfl, split.symm⟩
    | cons first more =>
      obtain ⟨rfl, rfl⟩ := List.cons.inj split
      rw [List.append_cons] at within
      exact absurd (exceeds.trans_le (ofDigits_le_append _ more)) within.not_gt
  · rintro ⟨rfl, rfl⟩
    refine ⟨rfl, by rwa [List.append_nil], ?_⟩
    rintro _ ⟨⟩
    rwa [List.append_nil]

/-- Digits are taken as long as they fit. -/
theorem absorb_eq_iff (start : ofDigits before ≤ limit) :
    absorb limit (ofDigits before) digits = (total, left) ↔
      ∃ taken, FitAfter limit before digits taken left ∧ ofDigits (before ++ taken) = total := by
  induction digits generalizing before with
  | nil =>
    rw [absorb]
    constructor
    · rintro ⟨⟩
      exact ⟨[], ⟨rfl, by rwa [List.append_nil], by simp⟩, by rw [List.append_nil]⟩
    · rintro ⟨taken, ⟨split, -, -⟩, rfl⟩
      obtain ⟨rfl, rfl⟩ := List.nil_eq_append_iff.mp split
      rw [List.append_nil]
  | cons digit rest ih =>
    rw [absorb, ← ofDigits_concat]
    split_ifs with fits
    · rw [ih fits]
      constructor
      · rintro ⟨more, fit, rfl⟩
        exact ⟨digit :: more, (fitAfter_of_le fits).mpr ⟨more, rfl, fit⟩, by rw [List.append_cons]⟩
      · rintro ⟨taken, fit, rfl⟩
        obtain ⟨more, rfl, later⟩ := (fitAfter_of_le fits).mp fit
        exact ⟨more, later, by rw [← List.append_cons]⟩
    · simp only [fitAfter_of_lt start (not_le.mp fits), Prod.mk.injEq, and_assoc, exists_eq_left,
        List.append_nil]
      constructor
      · rintro ⟨rfl, rfl⟩
        exact ⟨rfl, rfl⟩
      · rintro ⟨rfl, rfl⟩
        exact ⟨rfl, rfl⟩

theorem exists_fitAfter (digits : List Nat) (start : ofDigits before ≤ limit) :
    ∃ taken left, FitAfter limit before digits taken left := by
  obtain ⟨taken, fit, -⟩ := (absorb_eq_iff start).mp (Prod.eta (absorb limit (ofDigits before) digits)).symm
  exact ⟨taken, _, fit⟩

theorem FitAfter.unique {taken' left' : List Nat} (fit : FitAfter limit before digits taken left)
    (other : FitAfter limit before digits taken' left') : taken = taken' ∧ left = left' := by
  have start := (ofDigits_le_append before taken).trans fit.within
  have same : left = left' := by
    have one := (absorb_eq_iff start).mpr ⟨taken, fit, rfl⟩
    have two := (absorb_eq_iff start).mpr ⟨taken', other, rfl⟩
    exact (Prod.mk.inj (one.symm.trans two)).2
  obtain rfl := same
  exact ⟨List.append_cancel_right (fit.split.symm.trans other.split), rfl⟩

end Digits

section Scaling

variable {x y : Float} {a v : ℚ} {power : Int}

theorem ten_pow_natAbs (nonneg : 0 ≤ power) : (10 : ℚ) ^ power.natAbs = 10 ^ power := by
  rw [← zpow_natCast, Int.natAbs_of_nonneg nonneg]

theorem ten_pow_nonneg (power : Int) : (0 : ℚ) ≤ 10 ^ power := zpow_nonneg (by norm_num) power

variable {p : ℚ}

theorem scales_product_iff (nonneg : 0 ≤ power) (le : power ≤ 308) (nearest : Nearest (10 ^ power) p) :
    Scales a power v ↔ Nearest (a * p) v ∧ v < 2 ^ 1024 := by
  constructor
  · intro scales
    cases scales with
    | product _ _ other rounded below =>
      obtain rfl := other.unique (ten_pow_nonneg power) nearest
      exact ⟨rounded, below⟩
    | _ => omega
  · rintro ⟨rounded, below⟩
    exact .product nonneg le nearest rounded below

theorem scales_quotient_iff (negative : power < 0) (le : -308 ≤ power)
    (nearest : Nearest (10 ^ (-power)) p) : Scales a power v ↔ Nearest (a / p) v := by
  constructor
  · intro scales
    cases scales with
    | quotient _ _ other rounded =>
      obtain rfl := other.unique (ten_pow_nonneg _) nearest
      exact rounded
    | _ => omega
  · exact .quotient negative le nearest

theorem scales_zero_iff (far : 308 < power.natAbs) : Scales 0 power v ↔ v = 0 := by
  constructor
  · intro scales
    cases scales with
    | zero => rfl
    | step _ some => exact absurd rfl some
    | _ => omega
  · rintro rfl
    exact .zero far

theorem not_scales (some : a ≠ 0) (far : 308 < power) : ¬ Scales a power v := by
  intro scales
  cases scales with
  | zero => exact some rfl
  | _ => omega

theorem scales_step_iff {b : ℚ} (far : power < -308) (some : a ≠ 0) (nonneg : 0 ≤ a)
    (nearest : Nearest (10 ^ 308) p) (rounded : Nearest (a / p) b) :
    Scales a power v ↔ Scales b (power + 308) v := by
  constructor
  · intro scales
    cases scales with
    | zero => exact absurd rfl some
    | step _ _ other rounded' later =>
      obtain rfl := other.unique (by norm_num) nearest
      obtain rfl := rounded'.unique (div_nonneg nonneg nearest.nonneg) rounded
      exact later
    | _ => omega
  · exact .step far some nearest rounded

theorem exists_scales_of_neg {a : ℚ} {power : Int} (nonneg : 0 ≤ a) (negative : power < 0) :
    ∃ v, Scales a power v := by
  rcases le_or_gt (-308) power with near | far
  · obtain ⟨p, nearest⟩ := Double.exists_nearest (ten_pow_nonneg (-power))
    obtain ⟨v, rounded⟩ := Double.exists_nearest (div_nonneg nonneg nearest.nonneg)
    exact ⟨v, .quotient negative near nearest rounded⟩
  · by_cases zero : a = 0
    · exact ⟨0, zero ▸ .zero (by omega)⟩
    · obtain ⟨p, nearest⟩ := Double.exists_nearest (q := 10 ^ 308) (by norm_num)
      obtain ⟨b, rounded⟩ := Double.exists_nearest (div_nonneg nonneg nearest.nonneg)
      obtain ⟨v, scales⟩ := exists_scales_of_neg rounded.nonneg (show power + 308 < 0 by omega)
      exact ⟨v, .step far zero nearest rounded scales⟩
termination_by power.natAbs

/-- Only a magnitude that is not zero can become too great, by a power of ten beyond the doubles or because
the product is. -/
theorem exists_scales_iff (nonneg : 0 ≤ a) : (∃ v, Scales a power v) ↔ power < 0 ∨ a = 0 ∨
    power ≤ 308 ∧ ∀ p v, Nearest (10 ^ power) p → Nearest (a * p) v → v < 2 ^ 1024 := by
  constructor
  · rintro ⟨v, scales⟩
    cases scales with
    | @product _ p _ _ positive le nearest rounded below =>
      refine .inr (.inr ⟨le, fun p' v' nearest' rounded' => ?_⟩)
      obtain rfl := nearest'.unique (ten_pow_nonneg power) nearest
      rwa [rounded'.unique (mul_nonneg nonneg nearest.nonneg) rounded]
    | quotient negative => exact .inl negative
    | zero => exact .inr (.inl rfl)
    | step far => exact .inl (by omega)
  · intro bounded
    rcases lt_or_ge power 0 with negative | positive
    · exact exists_scales_of_neg nonneg negative
    · obtain ⟨p, nearest⟩ := Double.exists_nearest (ten_pow_nonneg power)
      obtain ⟨v, rounded⟩ := Double.exists_nearest (mul_nonneg nonneg nearest.nonneg)
      obtain negative | rfl | ⟨le, below⟩ := bounded
      · omega
      · rcases le_or_gt power 308 with near | far
        · rw [zero_mul] at rounded
          obtain rfl := rounded.eq_zero
          exact ⟨0, .product positive near nearest (by rwa [zero_mul]) (by positivity)⟩
        · exact ⟨0, .zero (by omega)⟩
      · exact ⟨v, .product positive le nearest rounded (below p v nearest rounded)⟩

theorem scale?_of_nonneg (represents : Represents x a) (nonneg : 0 ≤ power) (le : power ≤ 308) :
    scale? x power = some y ↔ ∃ v, Scales a power v ∧ Represents y v := by
  obtain ⟨p, -, nearest, ten⟩ := Double.exists_powerOfTen (show power.natAbs ≤ 308 by omega)
  rw [ten_pow_natAbs nonneg] at nearest
  have product : scale? x power = some y ↔ (x * powerOfTen power.natAbs).isInf = false ∧
      x * powerOfTen power.natAbs = y := by
    rw [scale?, if_pos (show power.natAbs ≤ 308 by omega), if_pos nonneg]
    cases infinite : (x * powerOfTen power.natAbs).isInf <;> simp [infinite]
  simp only [product, represents.mul_eq_iff ten, scales_product_iff nonneg le nearest, and_assoc]

theorem scale?_of_neg (represents : Represents x a) (negative : power < 0) (le : -308 ≤ power) :
    scale? x power = some y ↔ ∃ v, Scales a power v ∧ Represents y v := by
  obtain ⟨p, least, nearest, ten⟩ := Double.exists_powerOfTen (show power.natAbs ≤ 308 by omega)
  obtain ⟨b, rounded, quotient⟩ := represents.exists_div ten least
  rw [← Int.natAbs_neg, ten_pow_natAbs (show 0 ≤ -power by omega)] at nearest
  simp only [scales_quotient_iff negative le nearest]
  rw [scale?, if_pos (show power.natAbs ≤ 308 by omega), if_neg negative.not_ge, Option.some.injEq]
  constructor
  · rintro rfl
    exact ⟨b, rounded, quotient⟩
  · rintro ⟨v, other, found⟩
    obtain rfl := other.unique (div_nonneg represents.nonneg nearest.nonneg) rounded
    exact quotient.unique found

/-- Scaling a double scales its value. -/
theorem scale?_eq_some_iff {x y : Float} {a : ℚ} {power : Int} (represents : Represents x a) :
    scale? x power = some y ↔ ∃ v, Scales a power v ∧ Represents y v := by
  by_cases near : power.natAbs ≤ 308
  · rcases le_or_gt 0 power with nonneg | negative
    · exact scale?_of_nonneg represents nonneg (by omega)
    · exact scale?_of_neg represents negative (by omega)
  · rw [scale?, if_neg near]
    by_cases zero : (x == 0) = true
    · obtain rfl := represents.beq_zero_iff.mp zero
      simp only [if_pos zero, Option.some.injEq, scales_zero_iff (not_le.mp near), exists_eq_left]
      exact ⟨fun same => same ▸ represents, represents.unique⟩
    · have some := mt represents.beq_zero_iff.mpr zero
      rw [if_neg zero]
      split_ifs with nonneg
      · refine iff_of_false (by simp) ?_
        rintro ⟨v, scales, -⟩
        exact not_scales some (by omega) scales
      · obtain ⟨p, least, nearest, ten⟩ := Double.exists_powerOfTen (le_refl 308)
        obtain ⟨b, rounded, quotient⟩ := represents.exists_div ten least
        simp only [scales_step_iff (show power < -308 by omega) some represents.nonneg nearest rounded]
        exact scale?_eq_some_iff quotient
termination_by power.natAbs

/-- Scaling by one changes nothing. -/
theorem scale?_zero (represents : Represents x a) : scale? x 0 = some x := by
  have one : Nearest (10 ^ (0 : Int)) 1 := by
    rw [zpow_zero]
    exact Double.isDouble_one.nearest
  have product : Nearest (a * 1) a := by
    rw [mul_one]
    exact represents.isDouble.nearest
  have same : Scales a 0 a := .product le_rfl (by norm_num) one product represents.lt
  exact (scale?_eq_some_iff represents).mpr ⟨a, same, represents⟩

end Scaling

section Literals

variable {literal : Literal} {significand : Nat} {power : Int} {value : Json}

theorem Literal.exists_reads (literal : Literal) :
    ∃ significand power, literal.Reads significand power := by
  have start : ofDigits [] ≤ maxWord := Nat.zero_le _
  obtain ⟨taken, left, whole⟩ := exists_fitAfter literal.whole start
  obtain ⟨more, rest, fraction⟩ := exists_fitAfter (literal.fraction.getD []) whole.within
  exact ⟨_, _, .digits whole fraction⟩

theorem Literal.Reads.unique {significand' : Nat} {power' : Int} (reads : literal.Reads significand power)
    (other : literal.Reads significand' power') : significand = significand' ∧ power = power' := by
  obtain ⟨whole, fraction⟩ := reads
  obtain ⟨whole', fraction'⟩ := other
  obtain ⟨rfl, rfl⟩ := whole.unique whole'
  obtain ⟨rfl, rfl⟩ := fraction.unique fraction'
  exact ⟨rfl, rfl⟩

theorem Literal.Reads.le (reads : literal.Reads significand power) : significand ≤ maxWord := by
  obtain ⟨-, fraction⟩ := reads
  exact fraction.within

theorem isExcessive_iff {exponent : Exponent} (written : literal.exponent = some exponent) :
    literal.IsExcessive ↔ maxExponent < ofDigits exponent.digits := by
  simp [Literal.IsExcessive, written]

theorem Exponent.value_neg_iff {exponent : Exponent} (some : 0 < ofDigits exponent.digits) :
    exponent.value < 0 ↔ exponent.negative = true := by
  rw [Exponent.value]
  split_ifs with negative
  · exact iff_of_true (by omega) negative
  · exact iff_of_false (by omega) negative

/-- A power of ten that is not too great is added to that of the digits. -/
theorem scaled?_of_moderate (moderate : ¬ literal.IsExcessive) :
    literal.scaled? significand power =
      (scale? (UInt64.ofNat significand).toFloat (power + literal.shift)).map literal.signed := by
  rw [Literal.scaled?]
  cases written : literal.exponent with
  | none =>
    rw [Literal.shift, written, Option.elim_none, add_zero]
  | some exponent =>
    rw [isExcessive_iff written, not_lt] at moderate
    have taken : absorb maxExponent 0 exponent.digits = (ofDigits exponent.digits, []) :=
      absorb_of_le exponent.digits moderate
    have sum : (if exponent.negative then power - ofDigits exponent.digits
        else power + ofDigits exponent.digits) = power + exponent.value := by
      rw [Exponent.value]
      split_ifs <;> omega
    simp only [taken, sum, Literal.shift, written, Option.elim_some]

/-- One that is too great leaves zero or nothing. -/
theorem scaled?_of_excessive (excessive : literal.IsExcessive) :
    literal.scaled? significand power = some value ↔
      (significand = 0 ∨ literal.shift < 0) ∧ literal.signed 0 = value := by
  obtain ⟨exponent, written, excess⟩ := excessive
  have left := absorb_of_lt exponent.digits (Nat.zero_le _) excess
  obtain ⟨total, digit, rest, outcome⟩ : ∃ total digit rest,
      absorb maxExponent 0 exponent.digits = (total, digit :: rest) := by
    obtain ⟨digit, rest, same⟩ := List.exists_cons_of_ne_nil left
    exact ⟨_, digit, rest, Prod.ext rfl same⟩
  have kept : significand = 0 ∨ exponent.negative = true ↔
      ¬ (significand ≠ 0 ∧ exponent.negative = false) := by
    rw [not_and_or, not_not, Bool.not_eq_false]
  rw [Option.mem_def] at written
  rw [Literal.shift, written, Option.elim_some, Exponent.value_neg_iff (Nat.zero_lt_of_lt excess), kept]
  simp only [Literal.scaled?, written, outcome]
  split_ifs with refused <;> simp [refused]

/-- A significand and a power of ten are scaled by what is written after the digits. -/
theorem scaled?_eq_some_iff (small : significand ≤ maxWord) :
    literal.scaled? significand power = some value ↔
      (¬ literal.IsExcessive ∧ ∃ a v x, Nearest significand a ∧ Scales a (power + literal.shift) v ∧
        Represents x v ∧ literal.signed x = value) ∨
      literal.IsExcessive ∧ (significand = 0 ∨ literal.shift < 0) ∧ literal.signed 0 = value := by
  by_cases excessive : literal.IsExcessive
  · rw [scaled?_of_excessive excessive]
    simp only [excessive, not_true_eq_false, false_and, false_or, true_and]
  · have word : (UInt64.ofNat significand).toNat = significand :=
      UInt64.toNat_ofNat_of_lt' (Nat.lt_of_le_pred (by decide) small)
    obtain ⟨a, nearest, represents⟩ := Double.exists_toFloat (UInt64.ofNat significand)
    rw [word] at nearest
    rw [scaled?_of_moderate excessive]
    simp only [excessive, not_false_eq_true, true_and, false_and, or_false,
      Option.map_eq_some_iff, scale?_eq_some_iff represents]
    constructor
    · rintro ⟨x, ⟨v, scales, found⟩, same⟩
      exact ⟨a, v, x, nearest, scales, found, same⟩
    · rintro ⟨b, v, x, other, scales, found, same⟩
      obtain rfl := other.unique (Nat.cast_nonneg _) nearest
      exact ⟨x, ⟨v, scales, found⟩, same⟩

/-- Without a power of ten a significand is only rounded. -/
theorem scaled?_zero (plain : literal.exponent = none) :
    literal.scaled? significand 0 = some (literal.signed (UInt64.ofNat significand).toFloat) := by
  obtain ⟨a, -, represents⟩ := Double.exists_toFloat (UInt64.ofNat significand)
  simp only [Literal.scaled?, plain, scale?_zero represents, Option.map_some]

theorem value?_of_reads (reads : literal.Reads significand power)
    (broken : ∀ n, ¬ literal.IsInteger n) : literal.value? = literal.scaled? significand power := by
  obtain @⟨taken, left, more, rest, integral, fractional⟩ := reads
  have start : ofDigits [] ≤ maxWord := Nat.zero_le _
  have first : absorb maxWord 0 literal.whole = (ofDigits taken, left) :=
    (absorb_eq_iff start).mpr ⟨taken, integral, rfl⟩
  have second := (absorb_eq_iff integral.within).mpr ⟨more, fractional, rfl⟩
  rw [List.nil_append] at second
  cases point : literal.fraction with
  | some fraction =>
    rw [point, Option.getD_some] at fractional second
    have count : fraction.length - rest.length = more.length := by
      rw [fractional.split, List.length_append, Nat.add_sub_cancel]
    simp only [Literal.value?, first, point, second, count]
  | none =>
    rw [point, Option.getD_none] at fractional
    obtain ⟨rfl, -⟩ := List.nil_eq_append_iff.mp fractional.split
    have whole (n : Int) : literal.value? ≠ some (.int n) := fun read =>
      broken n (value?_eq_int_iff.mp read)
    simp only [Literal.value?, first, point, List.append_nil, List.length_nil] at whole ⊢
    -- Two of the cases give whole numbers, and in the third nothing raises or lowers the power of ten.
    split_ifs at whole ⊢ with scaled
    · rw [Nat.cast_zero, sub_zero]
    · exact absurd rfl (whole _)
    · obtain ⟨kept, plain⟩ := not_or.mp scaled
      have none : literal.exponent = none := Option.not_isSome_iff_eq_none.mp plain
      rw [not_ne_iff.mp kept, List.length_nil, Nat.cast_zero, sub_zero, scaled?_zero none]
    · exact absurd rfl (whole _)

theorem Literal.IsInteger.exponent_eq_none {n : Int} (integer : literal.IsInteger n) :
    literal.exponent = none := by
  obtain ⟨whole, -⟩ := integer
  by_contra some
  rw [Literal.integer?, if_neg fun plain => some plain.2] at whole
  cases whole

/-- A literal has the value that it denotes. -/
theorem value?_eq_some_iff : literal.value? = some value ↔ literal.Denotes value := by
  by_cases whole : ∃ n, literal.IsInteger n
  · obtain ⟨n, integer⟩ := whole
    rw [value?_eq_int_iff.mpr integer, Option.some.injEq]
    constructor
    · rintro rfl
      exact .integer integer
    · intro denotes
      cases denotes with
      | integer other =>
        exact Option.some.inj ((value?_eq_int_iff.mpr integer).symm.trans (value?_eq_int_iff.mpr other))
      | scaled broken => exact absurd integer (broken n)
      | vanishing _ excess =>
        obtain ⟨exponent, written, -⟩ := excess
        rw [integer.exponent_eq_none] at written
        cases written
  · have broken := not_exists.mp whole
    obtain ⟨significand, power, reads⟩ := literal.exists_reads
    rw [value?_of_reads reads broken, scaled?_eq_some_iff reads.le]
    constructor
    · rintro (⟨plain, a, v, x, nearest, scales, represents, rfl⟩ | ⟨excess, kept, rfl⟩)
      · exact .scaled broken reads plain nearest scales represents
      · exact .vanishing reads excess kept Double.represents_zero
    · intro denotes
      cases denotes with
      | integer integer => exact absurd integer (broken _)
      | @scaled _ _ a v x _ other plain nearest scales represents =>
        obtain ⟨rfl, rfl⟩ := other.unique reads
        exact .inl ⟨plain, a, v, x, nearest, scales, represents, rfl⟩
      | vanishing other excess kept represents =>
        obtain ⟨rfl, rfl⟩ := other.unique reads
        exact .inr ⟨excess, kept, by rw [represents.unique Double.represents_zero]⟩

end Literals

end Gateway.Json
