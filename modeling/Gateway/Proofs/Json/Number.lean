import Gateway.Json.Printer
import Gateway.Json.Token
import Mathlib.Tactic.SplitIfs

/-! # Numbers in texts

A number is spelled as digits before a point, perhaps digits after it and perhaps a power of ten, with a
minus in front if it is negative. Reading takes the whole of a spelled number, provided that nothing that
follows could go on it, and nothing else is read as a number. What is read denotes a whole number exactly
if it is spelled as one in the range of a signed or unsigned word and is not negative zero, and a fraction
otherwise, if anything.
-/

namespace Gateway

/-- The UTF-8 bytes of a list of characters. -/
def charBytes (chars : List Char) : Bytes := chars.flatMap String.utf8EncodeChar

theorem utf8_ofList (chars : List Char) : utf8 (String.ofList chars) = charBytes chars := by
  rw [utf8, String.toByteArray_ofList, List.utf8Encode]
  simp [charBytes]

@[simp] theorem charBytes_nil : charBytes [] = [] := rfl

theorem charBytes_cons (c : Char) (chars : List Char) :
    charBytes (c :: chars) = String.utf8EncodeChar c ++ charBytes chars := List.flatMap_cons

theorem charBytes_append (left right : List Char) :
    charBytes (left ++ right) = charBytes left ++ charBytes right := List.flatMap_append

theorem charBytes_cons_of_ascii {c : Char} (ascii : c.toNat ≤ 127) (chars : List Char) :
    charBytes (c :: chars) = UInt8.ofNat c.toNat :: charBytes chars := by
  have single : String.utf8EncodeChar c = [UInt8.ofNat c.toNat] := by
    rw [String.utf8EncodeChar]
    exact if_pos ascii
  rw [charBytes_cons, single, List.singleton_append]

/-- The bytes of characters between an opening and a closing mark. -/
theorem charBytes_enclosed {opening closing : Char} (first : opening.toNat ≤ 127)
    (last : closing.toNat ≤ 127) (chars : List Char) :
    charBytes (opening :: (chars ++ [closing])) =
      UInt8.ofNat opening.toNat :: (charBytes chars ++ [UInt8.ofNat closing.toNat]) := by
  rw [charBytes_cons_of_ascii first, charBytes_append, charBytes_cons_of_ascii last, charBytes_nil]

/-- The character that an ASCII byte stands for. -/
theorem exists_char {byte : UInt8} (ascii : byte.toNat ≤ 127) :
    ∃ c : Char, c.toNat = byte.toNat ∧ ∀ rest, charBytes (c :: rest) = byte :: charBytes rest := by
  have valid : byte.toNat.isValidChar := .inl (by omega)
  have same : (Char.ofNat byte.toNat).toNat = byte.toNat := by
    rw [Char.ofNat, dif_pos valid]
    rfl
  refine ⟨Char.ofNat byte.toNat, same, fun rest => ?_⟩
  rw [charBytes_cons_of_ascii (by omega), same, UInt8.ofNat_toNat]

namespace Json

/-- The digits that decimal characters stand for. -/
def figures (chars : List Char) : List Nat := chars.map fun c => c.toNat - '0'.toNat

/-- A run of decimal characters. -/
structure IsDecimal (chars : List Char) : Prop where
  nonempty : chars ≠ []
  digits : ∀ c ∈ chars, c.isDigit = true

/-- Whether no byte of a kind comes next. -/
def Stops (kind : UInt8 → Bool) (rest : Bytes) : Prop := ∀ byte ∈ rest.head?, kind byte = false

theorem stops_cons {kind : UInt8 → Bool} {byte : UInt8} (other : kind byte = false) (rest : Bytes) :
    Stops kind (byte :: rest) := by
  rintro _ ⟨⟩
  exact other

theorem Stops.mono {wide narrow : UInt8 → Bool} {rest : Bytes}
    (within : ∀ byte, narrow byte = true → wide byte = true) (stops : Stops wide rest) :
    Stops narrow rest := by
  intro byte next
  have other := stops byte next
  cases inside : narrow byte with
  | false => rfl
  | true => rw [within byte inside] at other; cases other

theorem digit_bounds {c : Char} (digit : c.isDigit = true) : 48 ≤ c.toNat ∧ c.toNat ≤ 57 :=
  Char.isDigit_iff_toNat.mp digit

theorem toNat_ofNat_of_digit {c : Char} (digit : c.isDigit = true) :
    (UInt8.ofNat c.toNat).toNat = c.toNat := by
  have bounds := digit_bounds digit
  have size : UInt8.size = 256 := rfl
  exact UInt8.toNat_ofNat_of_lt' (by omega)

theorem isDigit_ofNat {c : Char} (digit : c.isDigit = true) :
    isDigit (UInt8.ofNat c.toNat) = true := by
  have bounds := digit_bounds digit
  have value := toNat_ofNat_of_digit digit
  have low : (0x30 : UInt8).toNat = 48 := rfl
  have high : (0x39 : UInt8).toNat = 57 := rfl
  simp only [isDigit, Bool.and_eq_true, decide_eq_true_eq, UInt8.le_iff_toNat_le, value]
  omega

theorem digits_append {chars : List Char} (decimal : ∀ c ∈ chars, c.isDigit = true) {rest : Bytes}
    (stops : Stops isDigit rest) : digits (charBytes chars ++ rest) = (figures chars, rest) := by
  induction chars with
  | nil =>
    cases rest with
    | nil => rfl
    | cons byte rest =>
      have other : isDigit byte = false := stops byte rfl
      simp [digits, figures, charBytes, other]
  | cons c chars ih =>
    have digit := decimal c (List.mem_cons_self ..)
    have bounds := digit_bounds digit
    have known := isDigit_ofNat digit
    have tail := ih fun other member => decimal other (List.mem_cons_of_mem _ member)
    simp only [digits, Prod.mk.injEq] at tail
    rw [charBytes_cons_of_ascii (by omega), List.cons_append, digits,
      List.takeWhile_cons_of_pos known, List.dropWhile_cons_of_pos known, List.map_cons, tail.1,
      tail.2, toNat_ofNat_of_digit digit]
    rfl

theorem digits?_append {chars : List Char} (decimal : IsDecimal chars) {rest : Bytes}
    (stops : Stops isDigit rest) :
    digits? (charBytes chars ++ rest) = some (figures chars, rest) := by
  rw [digits?, digits_append decimal.digits stops]
  cases chars with
  | nil => exact absurd rfl decimal.nonempty
  | cons c chars => rfl

/-- A run of decimal characters that may stand before a point. -/
structure IsWhole (chars : List Char) : Prop extends IsDecimal chars where
  /-- Only a zero alone starts with a zero. -/
  trimmed : chars.length = 1 ∨ ∀ c ∈ chars.head?, c ≠ '0'

theorem whole?_append {chars : List Char} (whole : IsWhole chars) {rest : Bytes}
    (stops : Stops isDigit rest) :
    whole? (charBytes chars ++ rest) = some (figures chars, rest) := by
  rw [whole?, digits_append whole.digits stops]
  obtain _ | ⟨first, _ | ⟨second, chars⟩⟩ := chars
  · exact absurd rfl whole.nonempty
  · simp [figures]
  · have visible : first ≠ '0' := by
      obtain short | visible := whole.trimmed
      · simp at short
      · exact visible first rfl
    have bounds := digit_bounds (whole.digits first (List.mem_cons_self ..))
    have zero : '0'.toNat = 48 := rfl
    have positive : first.toNat - '0'.toNat ≠ 0 := by
      intro same
      exact visible (Char.toNat_inj.mp (by omega))
    simp only [figures, List.map_cons]
    split
    · rename_i same
      simp at same
    · rename_i same
      simp only [Prod.mk.injEq, List.cons.injEq] at same
      exact absurd same.1.1 positive
    · rfl

/-- The point and the digits after it, if there are any. -/
inductive SpellsFraction : List Char → Option (List Nat) → Prop where
  | none : SpellsFraction [] none
  | point {chars : List Char} : IsDecimal chars →
      SpellsFraction ('.' :: chars) (some (figures chars))

/-- The sign of a power of ten. -/
inductive SpellsSign : List Char → Bool → Prop where
  | none : SpellsSign [] false
  | plus : SpellsSign ['+'] false
  | minus : SpellsSign ['-'] true

/-- The power of ten, if there is one. -/
inductive SpellsPower : List Char → Option Exponent → Prop where
  | none : SpellsPower [] none
  | mark {mark : Char} {sign chars : List Char} {negative : Bool} : mark = 'e' ∨ mark = 'E' →
      SpellsSign sign negative → IsDecimal chars →
      SpellsPower (mark :: (sign ++ chars)) (some ⟨negative, figures chars⟩)

/-- A number. -/
inductive SpellsNumber : List Char → Literal → Prop where
  | of (negative : Bool) {whole point power : List Char} {fraction : Option (List Nat)}
      {exponent : Option Exponent} : IsWhole whole → SpellsFraction point fraction →
      SpellsPower power exponent →
      SpellsNumber ((if negative then ['-'] else []) ++ (whole ++ (point ++ power)))
        ⟨negative, figures whole, fraction, exponent⟩

/-- Whether a byte could go on a number. -/
def isNumeric (byte : UInt8) : Bool :=
  isDigit byte || byte = 0x2E || byte = 0x65 || byte = 0x45

theorem fraction?_of_stops {rest : Bytes} (stops : Stops (fun byte => byte = 0x2E) rest) :
    fraction? rest = some (none, rest) := by
  cases rest with
  | nil => rfl
  | cons byte rest =>
    have other : ¬ byte = 0x2E := by simpa using stops byte rfl
    rw [fraction?]
    rintro rest' ⟨⟩
    exact other rfl

theorem exponent?_of_stops {rest : Bytes} (stops : Stops isNumeric rest) :
    exponent? rest = some (none, rest) := by
  cases rest with
  | nil => rfl
  | cons byte rest =>
    have other := stops byte rfl
    simp only [isNumeric, Bool.or_eq_false_iff, decide_eq_false_iff_not] at other
    exact if_neg (not_or.mpr ⟨other.1.2, other.2⟩)

theorem SpellsPower.stops {chars : List Char} {exponent : Option Exponent}
    (power : SpellsPower chars exponent) {rest : Bytes} (stops : Stops isNumeric rest) :
    Stops isDigit (charBytes chars ++ rest) ∧
      Stops (fun byte => byte = 0x2E) (charBytes chars ++ rest) := by
  cases power with
  | none =>
    exact ⟨stops.mono fun byte digit => by simp [isNumeric, digit],
      stops.mono fun byte point => by simp [isNumeric, of_decide_eq_true point]⟩
  | mark letter sign decimal =>
    obtain rfl | rfl := letter <;>
      exact ⟨stops_cons (by decide) _, stops_cons (by decide) _⟩

theorem SpellsFraction.stops {chars : List Char} {fraction : Option (List Nat)}
    (point : SpellsFraction chars fraction) {rest : Bytes} (stops : Stops isDigit rest) :
    Stops isDigit (charBytes chars ++ rest) := by
  cases point with
  | none => exact stops
  | point decimal => exact stops_cons (by decide) _

theorem fraction?_of_spells {chars : List Char} {fraction : Option (List Nat)}
    (point : SpellsFraction chars fraction) {rest : Bytes} (stops : Stops isDigit rest)
    (pointless : Stops (fun byte => byte = 0x2E) rest) :
    fraction? (charBytes chars ++ rest) = some (fraction, rest) := by
  cases point with
  | none => exact fraction?_of_stops pointless
  | @point chars decimal =>
    have mark : UInt8.ofNat '.'.toNat = 0x2E := rfl
    rw [charBytes_cons_of_ascii (by decide), mark, List.cons_append, fraction?,
      digits?_append decimal stops]
    rfl

theorem exponentSign_of_digit {byte : UInt8} (digit : isDigit byte = true) (rest : Bytes) :
    exponentSign (byte :: rest) = (false, byte :: rest) := by
  rw [exponentSign] <;> rintro _ ⟨⟩ <;> cases digit

theorem exponentSign_of_spells {sign chars : List Char} {negative : Bool}
    (signed : SpellsSign sign negative) (decimal : IsDecimal chars) (rest : Bytes) :
    exponentSign (charBytes (sign ++ chars) ++ rest) = (negative, charBytes chars ++ rest) := by
  cases signed with
  | none =>
    obtain ⟨c, chars, rfl⟩ := List.exists_cons_of_ne_nil decimal.nonempty
    have digit := decimal.digits c (List.mem_cons_self ..)
    have bounds := digit_bounds digit
    rw [List.nil_append, charBytes_cons_of_ascii (by omega), List.cons_append,
      exponentSign_of_digit (isDigit_ofNat digit)]
  | plus => rfl
  | minus => rfl

theorem exponent?_of_spells {chars : List Char} {exponent : Option Exponent}
    (power : SpellsPower chars exponent) {rest : Bytes} (stops : Stops isNumeric rest) :
    exponent? (charBytes chars ++ rest) = some (exponent, rest) := by
  cases power with
  | none => exact exponent?_of_stops stops
  | @mark mark sign chars negative letter signed decimal =>
    have after : Stops isDigit rest := stops.mono fun byte digit => by simp [isNumeric, digit]
    obtain ⟨ascii, marked⟩ : mark.toNat ≤ 127 ∧
        (UInt8.ofNat mark.toNat = 0x65 ∨ UInt8.ofNat mark.toNat = 0x45) := by
      obtain rfl | rfl := letter <;> decide
    rw [charBytes_cons_of_ascii ascii, List.cons_append, exponent?, if_pos marked,
      exponentSign_of_spells signed decimal]
    simp only [digits?_append decimal after, Option.map_some]

theorem magnitude?_of_spells (negative : Bool) {whole point power : List Char}
    {fraction : Option (List Nat)} {exponent : Option Exponent} (integral : IsWhole whole)
    (pointed : SpellsFraction point fraction) (scaled : SpellsPower power exponent) {rest : Bytes}
    (stops : Stops isNumeric rest) :
    magnitude? negative (charBytes (whole ++ (point ++ power)) ++ rest) =
      some (⟨negative, figures whole, fraction, exponent⟩, rest) := by
  have ends := scaled.stops stops
  have first := whole?_append integral (pointed.stops ends.1)
  have second := fraction?_of_spells pointed ends.1 ends.2
  have third := exponent?_of_spells scaled stops
  simp only [magnitude?, charBytes_append, List.append_assoc, first, second, third,
    Option.bind_eq_bind, Option.bind_some]

theorem number?_of_digit {byte : UInt8} (digit : isDigit byte = true) (rest : Bytes) :
    number? (byte :: rest) = magnitude? false (byte :: rest) := by
  rw [number?]
  rintro _ ⟨⟩
  cases digit

/-- A number is taken whole. -/
theorem number?_of_spells {chars : List Char} {literal : Literal} (spells : SpellsNumber chars literal)
    {rest : Bytes} (stops : Stops isNumeric rest) :
    number? (charBytes chars ++ rest) = some (literal, rest) := by
  obtain ⟨negative, integral, pointed, scaled⟩ := spells
  have read := magnitude?_of_spells negative integral pointed scaled stops
  cases negative with
  | true => exact read
  | false =>
    rename_i whole _ _ _ _
    obtain ⟨c, whole, rfl⟩ := List.exists_cons_of_ne_nil integral.nonempty
    have digit := integral.digits c (List.mem_cons_self ..)
    have bounds := digit_bounds digit
    simp only [Bool.false_eq_true, if_false, List.nil_append, List.cons_append,
      charBytes_cons_of_ascii (show c.toNat ≤ 127 by omega)] at read ⊢
    rw [number?_of_digit (isDigit_ofNat digit), read]

/-- A number begins with a digit or a minus. -/
theorem SpellsNumber.eq_cons {chars : List Char} {literal : Literal}
    (spells : SpellsNumber chars literal) :
    ∃ byte more, charBytes chars = byte :: more ∧ (isDigit byte = true ∨ byte = 0x2D) := by
  obtain ⟨negative, integral, pointed, scaled⟩ := spells
  cases negative with
  | true => exact ⟨_, _, rfl, .inr rfl⟩
  | false =>
    rename_i whole _ _ _ _
    obtain ⟨c, whole, rfl⟩ := List.exists_cons_of_ne_nil integral.nonempty
    have digit := integral.digits c (List.mem_cons_self ..)
    have bounds := digit_bounds digit
    exact ⟨_, _, charBytes_cons_of_ascii (by omega) _, .inl (isDigit_ofNat digit)⟩

theorem spelled_of_digits {bytes rest : Bytes} {found : List Nat}
    (read : digits bytes = (found, rest)) :
    ∃ chars, (∀ c ∈ chars, c.isDigit = true) ∧ found = figures chars ∧
      bytes = charBytes chars ++ rest := by
  induction bytes generalizing found with
  | nil =>
    cases read
    exact ⟨[], by simp, rfl, rfl⟩
  | cons byte bytes ih =>
    simp only [digits, List.takeWhile_cons, List.dropWhile_cons] at read
    split_ifs at read with digit
    · cases read
      obtain ⟨chars, decimal, same, shape⟩ := ih rfl
      have bounds : 48 ≤ byte.toNat ∧ byte.toNat ≤ 57 := by
        simpa [isDigit, UInt8.le_iff_toNat_le] using digit
      obtain ⟨c, code, bytes⟩ := exists_char (show byte.toNat ≤ 127 by omega)
      have figure : c.isDigit = true := Char.isDigit_iff_toNat.mpr (code ▸ bounds)
      refine ⟨c :: chars, List.forall_mem_cons.mpr ⟨figure, decimal⟩, ?_, ?_⟩
      · rw [List.map_cons, ← code]
        exact congrArg _ same
      · rw [bytes, List.cons_append, ← shape]
    · cases read
      exact ⟨[], by simp, rfl, rfl⟩

theorem spelled_of_digits? {bytes rest : Bytes} {found : List Nat}
    (read : digits? bytes = some (found, rest)) :
    ∃ chars, IsDecimal chars ∧ found = figures chars ∧ bytes = charBytes chars ++ rest := by
  rw [digits?] at read
  split at read
  · cases read
  · rename_i nonempty
    obtain ⟨chars, decimal, rfl, shape⟩ := spelled_of_digits (Option.some.inj read)
    refine ⟨chars, ⟨?_, decimal⟩, rfl, shape⟩
    rintro rfl
    exact nonempty rest (Option.some.inj read)

theorem spelled_of_whole? {bytes rest : Bytes} {found : List Nat}
    (read : whole? bytes = some (found, rest)) :
    ∃ chars, IsWhole chars ∧ found = figures chars ∧ bytes = charBytes chars ++ rest := by
  rw [whole?] at read
  split at read
  · cases read
  · cases read
  · rename_i nonempty trimmed
    obtain ⟨chars, decimal, rfl, shape⟩ := spelled_of_digits (Option.some.inj read)
    refine ⟨chars, ⟨⟨?_, decimal⟩, ?_⟩, rfl, shape⟩
    · rintro rfl
      exact nonempty rest (Option.some.inj read)
    · obtain _ | ⟨first, _ | ⟨second, chars⟩⟩ := chars
      · exact .inr (by simp)
      · exact .inl rfl
      · refine .inr ?_
        rintro _ ⟨⟩ rfl
        exact trimmed _ _ _ (Option.some.inj read)

theorem spelled_of_fraction? {bytes rest : Bytes} {fraction : Option (List Nat)}
    (read : fraction? bytes = some (fraction, rest)) :
    ∃ chars, SpellsFraction chars fraction ∧ bytes = charBytes chars ++ rest := by
  have point : UInt8.ofNat '.'.toNat = 0x2E := rfl
  rw [fraction?.eq_def] at read
  split at read
  · obtain ⟨⟨found, after⟩, first, same⟩ := Option.map_eq_some_iff.mp read
    cases same
    obtain ⟨chars, decimal, rfl, rfl⟩ := spelled_of_digits? first
    exact ⟨_, .point decimal, by rw [charBytes_cons_of_ascii (by decide), point]; rfl⟩
  · cases read
    exact ⟨[], .none, rfl⟩

theorem spelled_of_exponentSign {bytes rest : Bytes} {negative : Bool}
    (read : exponentSign bytes = (negative, rest)) :
    ∃ sign, SpellsSign sign negative ∧ bytes = charBytes sign ++ rest := by
  rw [exponentSign.eq_def] at read
  split at read <;> cases read
  · exact ⟨['+'], .plus, rfl⟩
  · exact ⟨['-'], .minus, rfl⟩
  · exact ⟨[], .none, rfl⟩

theorem spelled_of_exponent? {bytes rest : Bytes} {exponent : Option Exponent}
    (read : exponent? bytes = some (exponent, rest)) :
    ∃ chars, SpellsPower chars exponent ∧ bytes = charBytes chars ++ rest := by
  cases bytes with
  | nil =>
    cases read
    exact ⟨[], .none, rfl⟩
  | cons byte bytes =>
    rw [exponent?] at read
    split_ifs at read with marked
    · cases minus : exponentSign bytes with
      | mk negative unsigned =>
      rw [minus] at read
      obtain ⟨⟨found, after⟩, first, same⟩ := Option.map_eq_some_iff.mp read
      cases same
      obtain ⟨sign, signed, rfl⟩ := spelled_of_exponentSign minus
      obtain ⟨chars, decimal, rfl, rfl⟩ := spelled_of_digits? first
      rw [← List.append_assoc, ← charBytes_append]
      obtain rfl | rfl := marked
      · exact ⟨_, .mark (.inl rfl) signed decimal, rfl⟩
      · exact ⟨_, .mark (.inr rfl) signed decimal, rfl⟩
    · cases read
      exact ⟨[], .none, rfl⟩

theorem spelled_of_magnitude? {negative : Bool} {bytes rest : Bytes} {literal : Literal}
    (read : magnitude? negative bytes = some (literal, rest)) :
    ∃ chars, SpellsNumber ((if negative then ['-'] else []) ++ chars) literal ∧
      bytes = charBytes chars ++ rest := by
  simp only [magnitude?, Option.bind_eq_bind, Option.bind_eq_some_iff] at read
  obtain ⟨⟨whole, _⟩, first, ⟨fraction, _⟩, second, ⟨exponent, _⟩, third, same⟩ := read
  cases same
  obtain ⟨whole, integral, rfl, rfl⟩ := spelled_of_whole? first
  obtain ⟨point, pointed, rfl⟩ := spelled_of_fraction? second
  obtain ⟨power, scaled, rfl⟩ := spelled_of_exponent? third
  exact ⟨_, .of negative integral pointed scaled, by simp [charBytes_append]⟩

/-- A number that is read is spelled. -/
theorem spelled_of_number? {bytes rest : Bytes} {literal : Literal}
    (read : number? bytes = some (literal, rest)) :
    ∃ chars, SpellsNumber chars literal ∧ bytes = charBytes chars ++ rest := by
  rw [number?.eq_def] at read
  split at read
  · obtain ⟨chars, spells, rfl⟩ := spelled_of_magnitude? read
    exact ⟨_, spells, rfl⟩
  · obtain ⟨chars, spells, rfl⟩ := spelled_of_magnitude? read
    exact ⟨_, spells, rfl⟩

/-- Whether a whole number is in the range of a signed or unsigned word. -/
def isWord (value : Int) : Bool := Int64.minValue.toInt ≤ value && value < UInt64.size

/-- The number that digits make up, the most significant digit first. -/
def ofDigits (digits : List Nat) : Nat := digits.foldl (fun n digit => n * 10 + digit) 0

/-- The whole number that a literal is written as, if it has no point and no power of ten. -/
def Literal.integer? (literal : Literal) : Option Int :=
  if literal.fraction = none ∧ literal.exponent = none then
    some (if literal.negative then -ofDigits literal.whole else ofDigits literal.whole)
  else none

/-- Whether a literal is written as a whole number in the range of a signed or unsigned word, other than
negative zero. -/
def Literal.IsInteger (literal : Literal) (value : Int) : Prop :=
  literal.integer? = some value ∧ isWord value = true ∧ ¬ (literal.negative = true ∧ value = 0)

theorem le_foldl_digits (digits : List Nat) (n : Nat) :
    n ≤ digits.foldl (fun n digit => n * 10 + digit) n := by
  induction digits generalizing n with
  | nil => exact Nat.le_refl n
  | cons digit rest ih => exact Nat.le_trans (by omega) (ih (n * 10 + digit))

/-- All digits are taken if the number that they make up stays within the limit. -/
theorem absorb_of_le {limit : Nat} (digits : List Nat) {n : Nat}
    (small : digits.foldl (fun n digit => n * 10 + digit) n ≤ limit) :
    absorb limit n digits = (digits.foldl (fun n digit => n * 10 + digit) n, []) := by
  induction digits generalizing n with
  | nil => rfl
  | cons digit rest ih =>
    have fits := Nat.le_trans (le_foldl_digits rest (n * 10 + digit)) small
    rw [absorb, if_pos fits]
    exact ih small

/-- Digits are left over if the number that they make up exceeds the limit. -/
theorem absorb_of_lt {limit : Nat} (digits : List Nat) {n : Nat} (start : n ≤ limit)
    (large : limit < digits.foldl (fun n digit => n * 10 + digit) n) :
    (absorb limit n digits).2 ≠ [] := by
  induction digits generalizing n with
  | nil => exact absurd large (Nat.not_lt.mpr start)
  | cons digit rest ih =>
    rw [absorb]
    split_ifs with fits
    · exact ih fits large
    · exact List.cons_ne_nil _ _

theorem exists_signed_of_scaled? {literal : Literal} {significand : Nat} {power : Int} {value : Json}
    (read : literal.scaled? significand power = some value) : ∃ x, value = literal.signed x := by
  simp only [Literal.scaled?] at read
  split at read
  · obtain ⟨x, -, rfl⟩ := Option.map_eq_some_iff.mp read
    exact ⟨x, rfl⟩
  · split at read
    · obtain ⟨x, -, rfl⟩ := Option.map_eq_some_iff.mp read
      exact ⟨x, rfl⟩
    · split_ifs at read
      exact ⟨0, (Option.some.inj read).symm⟩

theorem ne_int_of_scaled? {literal : Literal} {significand : Nat} {power value : Int} :
    literal.scaled? significand power ≠ some (.int value) := by
  intro read
  obtain ⟨x, same⟩ := exists_signed_of_scaled? read
  cases same

/-- A literal denotes a whole number exactly if it is written as one. -/
theorem value?_eq_int_iff {literal : Literal} {value : Int} :
    literal.value? = some (.int value) ↔ literal.IsInteger value := by
  have low : Int64.minValue.toInt = -9223372036854775808 := by decide
  have size : UInt64.size = 18446744073709551616 := rfl
  have greatest : maxWord = 18446744073709551615 := rfl
  obtain ⟨negative, whole, fraction, exponent⟩ := literal
  cases fraction with
  | some fraction => simp [Literal.value?, Literal.IsInteger, Literal.integer?, ne_int_of_scaled?]
  | none =>
    cases exponent with
    | some exponent =>
      simp [Literal.value?, Literal.IsInteger, Literal.integer?, ne_int_of_scaled?]
    | none =>
      obtain small | large := Nat.lt_or_ge maxWord (ofDigits whole)
      · have left := absorb_of_lt whole (Nat.zero_le maxWord) small
        have big : ¬ isWord (if negative then -ofDigits whole else ofDigits whole) = true := by
          simp only [isWord, Bool.and_eq_true, decide_eq_true_eq]
          split_ifs <;> omega
        simp only [Literal.value?, if_pos (Or.inl left), ne_int_of_scaled?, Literal.IsInteger,
          Literal.integer?, and_self, if_true, Option.some.injEq, false_iff, not_and]
        rintro rfl word
        exact absurd word big
      · have taken := absorb_of_le whole large
        rw [← ofDigits] at taken
        have none : (¬ (([] : List Nat) ≠ [] ∨ (none : Option Exponent).isSome)) := by simp
        simp only [Literal.value?, taken, if_neg none, Literal.IsInteger, Literal.integer?, and_self,
          if_true, Option.some.injEq, isWord, Bool.and_eq_true, decide_eq_true_eq]
        cases negative with
        | false =>
          simp only [if_true, Option.some.injEq, int.injEq, Bool.false_eq_true, if_false, false_and,
            not_false_eq_true, and_true]
          constructor <;> intro same <;> omega
        | true =>
          simp only [Bool.true_eq_false, if_false, if_true, true_and]
          split_ifs with odd
          · simp only [Literal.signed, Option.some.injEq, reduceCtorEq, false_iff]
            omega
          · simp only [Option.some.injEq, int.injEq]
            constructor <;> intro same <;> omega

/-- A number is a whole number or a fraction. -/
theorem value?_cases {literal : Literal} {value : Json} (read : literal.value? = some value) :
    (∃ n, value = .int n) ∨ ∃ x, value = .float x := by
  have scaled {significand : Nat} {power : Int}
      (read : literal.scaled? significand power = some value) : ∃ x, value = .float x := by
    obtain ⟨x, same⟩ := exists_signed_of_scaled? read
    exact ⟨_, same⟩
  simp only [Literal.value?] at read
  split at read
  · exact .inr (scaled read)
  · split_ifs at read
    · exact .inr (scaled read)
    · exact .inl ⟨_, (Option.some.inj read).symm⟩
    · exact .inr ⟨_, (Option.some.inj read).symm⟩
    · exact .inl ⟨_, (Option.some.inj read).symm⟩

end Json

end Gateway
