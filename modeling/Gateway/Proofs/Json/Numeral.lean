import Gateway.Proofs.Json.Number

/-! # Written numbers

`Numeral` holds the parts of an unsigned number as they are written and `Numeral.literal` what is read from
them. A regular numeral is a number of the grammar, and whatever number is printed is printed as one. A
whole number in the range of a signed or unsigned word is read back as itself.
-/

namespace Gateway

namespace Json

/-- An unsigned number as it is written. -/
structure Numeral where
  /-- The digits before the point. -/
  whole : List Char
  /-- The digits after the point, if there is one. -/
  fraction : Option (List Char)
  /-- Whether there is a power of ten, whether it is negative, and its digits. -/
  power : Option (Bool × List Char)

namespace Numeral

/-- The point and what follows it. -/
def fractionBytes : Option (List Char) → Bytes
  | none => []
  | some chars => 0x2E :: charBytes chars

/-- The power of ten with its sign. -/
def powerBytes : Option (Bool × List Char) → Bytes
  | none => []
  | some (negative, chars) => 0x65 :: (if negative then 0x2D else 0x2B) :: charBytes chars

/-- The text of a numeral with a sign. -/
def bytes (numeral : Numeral) (negative : Bool) : Bytes :=
  (if negative then [0x2D] else []) ++
    (charBytes numeral.whole ++ (fractionBytes numeral.fraction ++ powerBytes numeral.power))

/-- What is read from a numeral with a sign. -/
def literal (numeral : Numeral) (negative : Bool) : Literal where
  negative := negative
  whole := figures numeral.whole
  fraction := numeral.fraction.map figures
  exponent := numeral.power.map fun power => ⟨power.1, figures power.2⟩

/-- Whether the parts of a numeral are digits, of which there is no needless zero in front. -/
structure Regular (numeral : Numeral) : Prop where
  whole : IsWhole numeral.whole
  fraction : ∀ chars ∈ numeral.fraction, IsDecimal chars
  power : ∀ power ∈ numeral.power, IsDecimal power.2

theorem spelled_fractionBytes {fraction : Option (List Char)}
    (decimal : ∀ chars ∈ fraction, IsDecimal chars) :
    ∃ chars, SpellsFraction chars (fraction.map figures) ∧ fractionBytes fraction = charBytes chars := by
  cases fraction with
  | none => exact ⟨[], .none, rfl⟩
  | some chars =>
    have point : UInt8.ofNat '.'.toNat = 0x2E := rfl
    exact ⟨_, .point (decimal chars rfl), by rw [charBytes_cons_of_ascii (by decide), point]; rfl⟩

theorem spelled_powerBytes {power : Option (Bool × List Char)}
    (decimal : ∀ power' ∈ power, IsDecimal power'.2) :
    ∃ chars, SpellsPower chars (power.map fun power => ⟨power.1, figures power.2⟩) ∧
      powerBytes power = charBytes chars := by
  cases power with
  | none => exact ⟨[], .none, rfl⟩
  | some power =>
    obtain ⟨negative, chars⟩ := power
    cases negative with
    | false => exact ⟨_, .mark (.inl rfl) .plus (decimal _ rfl), rfl⟩
    | true => exact ⟨_, .mark (.inl rfl) .minus (decimal _ rfl), rfl⟩

/-- A regular numeral is a number of the grammar. -/
theorem Regular.spelled {numeral : Numeral} (regular : numeral.Regular) (negative : Bool) :
    ∃ chars, SpellsNumber chars (numeral.literal negative) ∧
      numeral.bytes negative = charBytes chars := by
  obtain ⟨point, pointed, fraction⟩ := spelled_fractionBytes regular.fraction
  obtain ⟨power, scaled, exponent⟩ := spelled_powerBytes regular.power
  refine ⟨_, .of negative regular.whole pointed scaled, ?_⟩
  rw [bytes, fraction, exponent, charBytes_append, charBytes_append, charBytes_append]
  cases negative <;> rfl

end Numeral

theorem head?_append_of_nonempty {left : List Char} (nonempty : left ≠ []) (right : List Char) :
    (left ++ right).head? = left.head? := by
  obtain ⟨c, chars, rfl⟩ := List.exists_cons_of_ne_nil nonempty
  rfl

theorem head_toDigits {n : Nat} (positive : 0 < n) :
    ∀ c ∈ (Nat.toDigits 10 n).head?, c ≠ '0' := by
  induction n using Nat.strongRecOn with
  | ind n ih =>
    rw [Nat.toDigits_eq_if (by decide)]
    split_ifs with small
    · rintro c ⟨⟩ zero
      exact Nat.ne_of_gt positive (Nat.digitChar_eq_zero.mp zero)
    · rw [head?_append_of_nonempty Nat.toDigits_ne_nil]
      exact ih (n / 10) (by omega) (by omega)

theorem isDecimal_toDigits (n : Nat) : IsDecimal (Nat.toDigits 10 n) where
  nonempty := Nat.toDigits_ne_nil
  digits := fun _ member => Nat.isDigit_of_mem_toDigits (by decide) (by decide) member

theorem isWhole_toDigits (n : Nat) : IsWhole (Nat.toDigits 10 n) where
  toIsDecimal := isDecimal_toDigits n
  trimmed := by
    cases n with
    | zero => exact .inl rfl
    | succ n => exact .inr (head_toDigits (Nat.succ_pos n))

/-- A whole number as it is written. -/
def Numeral.ofNat (n : Nat) : Numeral := ⟨Nat.toDigits 10 n, none, none⟩

theorem Numeral.regular_ofNat (n : Nat) : (ofNat n).Regular where
  whole := isWhole_toDigits n
  fraction := by rintro _ ⟨⟩
  power := by rintro _ ⟨⟩

theorem utf8_toString (value : Int) :
    utf8 (toString value) = (Numeral.ofNat value.natAbs).bytes (decide (value < 0)) := by
  have minus : utf8 "-" = [0x2D] := by decide +kernel
  rw [Int.toString_eq_repr, Int.repr_eq_if]
  split_ifs with sign
  · obtain ⟨n, rfl⟩ := Int.eq_ofNat_of_zero_le sign
    simp [Nat.repr_eq_ofList_toDigits, utf8_ofList, Numeral.bytes, Numeral.ofNat,
      Numeral.fractionBytes, Numeral.powerBytes]
  · have negative : value < 0 := by omega
    have size : (-value).toNat = value.natAbs := by omega
    simp [Nat.repr_eq_ofList_toDigits, utf8_ofList, minus, Numeral.bytes, Numeral.ofNat, size,
      negative, Numeral.fractionBytes, Numeral.powerBytes]

theorem ofDigits_toDigits (n : Nat) : ofDigits (figures (Nat.toDigits 10 n)) = n := by
  have read : Nat.ofDigitChars 10 (Nat.toDigits 10 n) 0 = n := Nat.ofDigitChars_ten_toDigits
  rw [Nat.ofDigitChars.eq_def] at read
  simpa only [ofDigits, figures, List.foldl_map, Nat.mul_comm] using read

/-- A whole number is read back as itself. -/
theorem value?_ofNat {value : Int} (word : isWord value = true) :
    ((Numeral.ofNat value.natAbs).literal (decide (value < 0))).value? = some (.int value) := by
  refine value?_eq_int_iff.mpr ⟨?_, word, ?_⟩
  · simp only [Literal.integer?, Numeral.literal, Numeral.ofNat, ofDigits_toDigits, Option.map_none,
      and_self, if_true, decide_eq_true_eq, Option.some.injEq]
    split_ifs <;> omega
  · simp only [Numeral.literal, decide_eq_true_eq]
    omega

end Json

namespace Decimal

theorem digits_onGrid? {b : Binary} {power : Int} {d : Scaled} (found : b.onGrid? power = some d) :
    0 < d.digits := by
  simp only [Binary.onGrid?, Option.map_eq_some_iff] at found
  obtain ⟨point, found, rfl⟩ := found
  have inside := List.find?_some found
  simp only [Bool.and_eq_true, decide_eq_true_eq] at inside
  exact inside.1

theorem digits_search {b : Binary} {d : Scaled} {count : Nat} {power : Int}
    (found : b.search count power = some d) : 0 < d.digits := by
  induction count generalizing power with
  | zero => cases found
  | succ count ih =>
    rw [Binary.search, Option.or_eq_some_iff] at found
    obtain here | ⟨-, further⟩ := found
    · exact digits_onGrid? here
    · exact ih further

theorem digits_shortest (b : Binary) : 0 < b.shortest.digits ∨ b.shortest.power = 0 := by
  rw [Binary.shortest]
  cases found : b.search 700 309 with
  | none => exact .inr rfl
  | some d => exact .inl (digits_search found)

end Decimal

namespace Json

theorem isDigit_of_mem_zeros {count : Nat} : ∀ c ∈ List.replicate count '0', c.isDigit = true := by
  intro c member
  obtain rfl := List.eq_of_mem_replicate member
  rfl

theorem isDecimal_append {left right : List Char} (nonempty : left ≠ [] ∨ right ≠ [])
    (first : ∀ c ∈ left, c.isDigit = true) (second : ∀ c ∈ right, c.isDigit = true) :
    IsDecimal (left ++ right) where
  nonempty := by simpa [Classical.or_iff_not_imp_left] using nonempty
  digits := by
    intro c member
    exact (List.mem_append.mp member).elim (first c) (second c)

theorem isDecimal_drop {chars : List Char} (decimal : IsDecimal chars) {place : Nat}
    (inside : place < chars.length) : IsDecimal (chars.drop place) where
  nonempty := by simpa using inside
  digits := fun c member => decimal.digits c (List.mem_of_mem_drop member)

theorem IsWhole.take {chars : List Char} (whole : IsWhole chars) {place : Nat}
    (positive : 0 < place) : IsWhole (chars.take place) := by
  obtain ⟨rest, rfl⟩ : ∃ rest, place = rest + 1 := ⟨place - 1, by omega⟩
  obtain _ | ⟨c, chars⟩ := chars
  · exact absurd rfl whole.nonempty
  · refine ⟨⟨by simp, fun other member => whole.digits other (List.mem_of_mem_take member)⟩, ?_⟩
    obtain short | visible := whole.trimmed
    · obtain rfl : chars = [] := by simpa using short
      exact .inl (by simp)
    · exact .inr visible

theorem utf8_pointed (chars : List Char) (place : Nat) :
    utf8 (Decimal.pointed chars place) =
      charBytes (chars.take place) ++ 0x2E :: charBytes (chars.drop place) := by
  have point : UInt8.ofNat '.'.toNat = 0x2E := rfl
  rw [Decimal.pointed, utf8_ofList, charBytes_append, charBytes_cons_of_ascii (by decide), point]

/-- Zeros after the digits stand for a power of ten. -/
theorem isWhole_shifted {d : Decimal.Scaled} (proper : 0 < d.digits ∨ d.power = 0) :
    IsWhole (Nat.toDigits 10 d.digits ++ List.replicate d.power.toNat '0') := by
  have digits := isWhole_toDigits d.digits
  refine ⟨isDecimal_append (.inl digits.nonempty) digits.digits isDigit_of_mem_zeros, ?_⟩
  obtain positive | flat := proper
  · refine .inr fun c first => ?_
    rw [head?_append_of_nonempty digits.nonempty] at first
    exact head_toDigits positive c first
  · simpa [flat] using digits.trimmed

/-- One digit stands before the point where a power of ten follows. -/
theorem utf8_mantissa {chars : List Char} (whole : IsWhole chars) :
    ∃ fraction, (∀ rest ∈ fraction, IsDecimal rest) ∧
      utf8 (if chars.length ≤ 1 then String.ofList chars else Decimal.pointed chars 1) =
        charBytes (chars.take 1) ++ Numeral.fractionBytes fraction := by
  split_ifs with short
  · refine ⟨none, by rintro _ ⟨⟩, ?_⟩
    rw [List.take_of_length_le short, utf8_ofList]
    exact (List.append_nil _).symm
  · refine ⟨some (chars.drop 1), ?_, utf8_pointed chars 1⟩
    rintro _ ⟨⟩
    exact isDecimal_drop whole.toIsDecimal (by omega)

theorem utf8_power (lead : Int) :
    utf8 floatLayout.powerMark ++ (utf8 (if lead < 0 then "-" else floatLayout.plus) ++
        utf8 (Nat.repr lead.natAbs)) =
      Numeral.powerBytes (some (decide (lead < 0), Nat.toDigits 10 lead.natAbs)) := by
  have mark : utf8 floatLayout.powerMark = [0x65] := by decide +kernel
  have plus : utf8 floatLayout.plus = [0x2B] := by decide +kernel
  have minus : utf8 "-" = [0x2D] := by decide +kernel
  rw [Nat.repr_eq_ofList_toDigits, utf8_ofList, mark]
  split_ifs with negative <;> simp [minus, plus, negative, Numeral.powerBytes]

/-- A decimal is printed as a regular numeral. -/
theorem utf8_scaledText {d : Decimal.Scaled} (proper : 0 < d.digits ∨ d.power = 0) :
    ∃ numeral : Numeral, numeral.Regular ∧ utf8 (d.text floatLayout) = numeral.bytes false := by
  have digits := isWhole_toDigits d.digits
  have length : 0 < (Nat.toDigits 10 d.digits).length := Nat.length_toDigits_pos
  have zero : IsWhole ['0'] := ⟨⟨by simp, by simp [Char.isDigit]⟩, .inl rfl⟩
  rw [Decimal.Scaled.text]
  generalize lead : (Nat.toDigits 10 d.digits).length + d.power - 1 = place
  by_cases positional : floatLayout.leastPower ≤ place ∧ place < floatLayout.powerLimit
  · rw [if_pos positional]
    split_ifs with shifted led
    · have mark : utf8 floatLayout.wholeMark = 0x2E :: charBytes ['0'] := by decide +kernel
      refine ⟨⟨_, some ['0'], none⟩, ⟨isWhole_shifted proper, ?_, by rintro _ ⟨⟩⟩, ?_⟩
      · rintro _ ⟨⟩
        exact zero.toIsDecimal
      · rw [utf8_append, utf8_ofList, mark]
        simp [Numeral.bytes, Numeral.fractionBytes, Numeral.powerBytes]
    · have inside : (place + 1).toNat < (Nat.toDigits 10 d.digits).length := by omega
      have led : 0 < (place + 1).toNat := by omega
      refine ⟨⟨_, some ((Nat.toDigits 10 d.digits).drop (place + 1).toNat), none⟩,
        ⟨digits.take led, ?_, by rintro _ ⟨⟩⟩, ?_⟩
      · rintro _ ⟨⟩
        exact isDecimal_drop digits.toIsDecimal inside
      · rw [utf8_pointed]
        simp [Numeral.bytes, Numeral.fractionBytes, Numeral.powerBytes]
    · refine ⟨⟨['0'], some (List.replicate (-place - 1).toNat '0' ++ Nat.toDigits 10 d.digits),
        none⟩, ⟨zero, ?_, by rintro _ ⟨⟩⟩, ?_⟩
      · rintro _ ⟨⟩
        exact isDecimal_append (.inr digits.nonempty) isDigit_of_mem_zeros digits.digits
      · rw [utf8_ofList, List.cons_append, List.cons_append]
        simp [Numeral.bytes, Numeral.fractionBytes, Numeral.powerBytes, charBytes_cons_of_ascii]
  · rw [if_neg positional]
    obtain ⟨fraction, decimal, mantissa⟩ := utf8_mantissa digits
    refine ⟨⟨_, fraction, some (decide (place < 0), Nat.toDigits 10 place.natAbs)⟩,
      ⟨digits.take Nat.one_pos, decimal, ?_⟩, ?_⟩
    · rintro _ ⟨⟩
      exact isDecimal_toDigits _
    · rw [utf8_append, utf8_append, utf8_append, mantissa, List.append_assoc, List.append_assoc,
        utf8_power]
      simp [Numeral.bytes]

/-- A fraction is printed as a regular numeral. -/
theorem utf8_floatText (x : Float) :
    ∃ (numeral : Numeral) (negative : Bool), numeral.Regular ∧
      utf8 (Decimal.floatText floatLayout x) = numeral.bytes negative := by
  obtain ⟨numeral, regular, bytes⟩ : ∃ numeral : Numeral, numeral.Regular ∧
      utf8 (if (Decimal.Binary.ofFloat x).mantissa = 0 then "0" ++ floatLayout.wholeMark
        else (Decimal.Binary.ofFloat x).shortest.text floatLayout) = numeral.bytes false := by
    split_ifs with zero
    · refine ⟨⟨['0'], some ['0'], none⟩, ⟨isWhole_toDigits 0, ?_, by rintro _ ⟨⟩⟩, ?_⟩
      · rintro _ ⟨⟩
        exact isDecimal_toDigits 0
      · decide +kernel
    · exact utf8_scaledText (Decimal.digits_shortest _)
  refine ⟨numeral, decide (UInt64.size / 2 ≤ x.toBits.toNat), regular, ?_⟩
  have minus : utf8 "-" = [0x2D] := by decide +kernel
  have empty : utf8 "" = [] := by decide +kernel
  have sign : utf8 (if UInt64.size / 2 ≤ x.toBits.toNat then "-" else "") =
      if decide (UInt64.size / 2 ≤ x.toBits.toNat) then [0x2D] else [] := by
    by_cases negative : UInt64.size / 2 ≤ x.toBits.toNat
    · rw [if_pos negative, if_pos (decide_eq_true negative), minus]
    · rw [if_neg negative, if_neg (by simpa using negative), empty]
  simp only [Numeral.bytes, Bool.false_eq_true, if_false, List.nil_append] at bytes
  rw [Numeral.bytes, ← sign, ← bytes, ← utf8_append, Decimal.floatText]
  by_cases zero : (Decimal.Binary.ofFloat x).mantissa = 0
  · rw [if_pos zero, if_pos zero, String.append_assoc]
  · rw [if_neg zero, if_neg zero]

end Json

end Gateway
