import Gateway.Proofs.Json.Quote
import Gateway.Text.Hex

/-! # Strings in texts

Between the quotes of a string a character stands for itself or is escaped: with a letter, with its own code
unit or with a surrogate pair. A surrogate that is not one of a pair spells nothing. What is spelled so is
read as pieces that spell its text, and all that is read is spelled so if its pieces spell well-formed text.
-/

namespace Gateway.Json

/-- The letters that escape characters, each with its character. -/
def letterEscapes : List (Char × Char) :=
  [('"', '"'), ('\\', '\\'), ('/', '/'), ('b', '\x08'), ('f', '\x0c'), ('n', '\n'), ('r', '\r'),
    ('t', '\t')]

/-- The code unit written with four hexadecimal digits of either case. -/
def charUnit? (a b c d : Char) : Option Nat := do
  let a ← Hex.value? a
  let b ← Hex.value? b
  let c ← Hex.value? c
  let d ← Hex.value? d
  some (((a * 16 + b) * 16 + c) * 16 + d)

/-- What stands between the quotes of a string, and its text. -/
inductive SpellsText : List Char → List Char → Prop where
  | nil : SpellsText [] []
  | plain {c : Char} {chars text : List Char} : 0x20 ≤ c.toNat → c ≠ '"' → c ≠ '\\' →
      SpellsText chars text → SpellsText (c :: chars) (c :: text)
  | letter {letter c : Char} {chars text : List Char} : (letter, c) ∈ letterEscapes →
      SpellsText chars text → SpellsText ('\\' :: letter :: chars) (c :: text)
  | unit {a b c d : Char} {value : Nat} {chars text : List Char} : charUnit? a b c d = some value →
      ¬ (0xD800 ≤ value ∧ value ≤ 0xDFFF) → SpellsText chars text →
      SpellsText ('\\' :: 'u' :: a :: b :: c :: d :: chars) (Char.ofNat value :: text)
  | pair {a b c d a' b' c' d' : Char} {high low : Nat} {chars text : List Char} :
      charUnit? a b c d = some high → 0xD800 ≤ high ∧ high ≤ 0xDBFF →
      charUnit? a' b' c' d' = some low → 0xDC00 ≤ low ∧ low ≤ 0xDFFF → SpellsText chars text →
      SpellsText
        ('\\' :: 'u' :: a :: b :: c :: d :: '\\' :: 'u' :: a' :: b' :: c' :: d' :: chars)
        (Char.ofNat (0x10000 + (high - 0xD800) * 0x400 + (low - 0xDC00)) :: text)

theorem hexDigit?_ofNat {c : Char} (ascii : c.toNat ≤ 127) :
    hexDigit? (UInt8.ofNat c.toNat) = Hex.value? c := by
  have all : ∀ n < 128, hexDigit? (UInt8.ofNat n) = Hex.value? (Char.ofNat n) := by decide
  simpa using all c.toNat (by omega)

theorem ascii_of_value? {c : Char} {value : Nat} (read : Hex.value? c = some value) :
    c.toNat ≤ 127 := by
  have le {one two : Char} : one ≤ two ↔ one.toNat ≤ two.toNat := Char.le_def
  have nine : '9'.toNat = 0x39 := rfl
  have small : 'f'.toNat = 0x66 := rfl
  have large : 'F'.toNat = 0x46 := rfl
  simp only [Hex.value?, le] at read
  split_ifs at read <;> omega

theorem hexDigit?_of_value? {c : Char} {value : Nat} (read : Hex.value? c = some value) :
    hexDigit? (UInt8.ofNat c.toNat) = some value := by
  rw [hexDigit?_ofNat (ascii_of_value? read), read]

theorem codeUnit?_of_charUnit? {a b c d : Char} {value : Nat}
    (read : charUnit? a b c d = some value) (rest : List Char) :
    ∃ a' b' c' d', charBytes (a :: b :: c :: d :: rest) = a' :: b' :: c' :: d' :: charBytes rest ∧
      codeUnit? a' b' c' d' = some value := by
  simp only [charUnit?, Option.bind_eq_bind, Option.bind_eq_some_iff] at read
  obtain ⟨one, first, two, second, three, third, four, fourth, same⟩ := read
  refine ⟨UInt8.ofNat a.toNat, UInt8.ofNat b.toNat, UInt8.ofNat c.toNat, UInt8.ofNat d.toNat, ?_,
    ?_⟩
  · rw [charBytes_cons_of_ascii (ascii_of_value? first),
      charBytes_cons_of_ascii (ascii_of_value? second),
      charBytes_cons_of_ascii (ascii_of_value? third),
      charBytes_cons_of_ascii (ascii_of_value? fourth)]
  · simp only [codeUnit?, hexDigit?_of_value? first, hexDigit?_of_value? second,
      hexDigit?_of_value? third, hexDigit?_of_value? fourth, Option.bind_eq_bind, Option.bind_some,
      same]

theorem string?_of_codeUnit {a b c d : UInt8} {value : Nat} (read : codeUnit? a b c d = some value)
    (rest : Bytes) :
    string? (0x5C :: 0x75 :: a :: b :: c :: d :: rest) =
      (string? rest).map fun (pieces, rest) => (.unit value :: pieces, rest) := by
  simp only [string?, read, Option.bind_eq_bind, Option.bind_some]
  cases string? rest <;> rfl

theorem codePointBytes_eq (code : Nat) :
    codePointBytes code = String.utf8EncodeChar (Char.ofNat code) := by
  rw [codePointBytes, String.singleton_eq_ofList, utf8_ofList]
  exact List.flatMap_singleton ..

theorem pieceBytes?_of_unit {value : Nat} (alone : ¬ (0xD800 ≤ value ∧ value ≤ 0xDFFF))
    (rest : List Piece) :
    pieceBytes? (.unit value :: rest) =
      (pieceBytes? rest).map (String.utf8EncodeChar (Char.ofNat value) ++ ·) := by
  rw [pieceBytes?.eq_def]
  simp only []
  rw [if_neg (by omega), if_neg (by omega), codePointBytes_eq]

theorem pieceBytes?_of_pair {high low : Nat} (first : 0xD800 ≤ high ∧ high ≤ 0xDBFF)
    (second : 0xDC00 ≤ low ∧ low ≤ 0xDFFF) (rest : List Piece) :
    pieceBytes? (.unit high :: .unit low :: rest) =
      (pieceBytes? rest).map (String.utf8EncodeChar
        (Char.ofNat (0x10000 + (high - 0xD800) * 0x400 + (low - 0xDC00))) ++ ·) := by
  rw [pieceBytes?.eq_def]
  simp only []
  rw [if_neg (by omega), if_pos first, if_pos second, codePointBytes_eq]

theorem escaped?_of_mem {letter c : Char} (known : (letter, c) ∈ letterEscapes) :
    letter.toNat ≤ 127 ∧ c.toNat ≤ 127 ∧
      escaped? (UInt8.ofNat letter.toNat) = some (UInt8.ofNat c.toNat) := by
  have all : ∀ escape ∈ letterEscapes, escape.1.toNat ≤ 127 ∧ escape.2.toNat ≤ 127 ∧
      escaped? (UInt8.ofNat escape.1.toNat) = some (UInt8.ofNat escape.2.toNat) := by decide
  exact all _ known

/-- What stands between quotes is read as pieces that spell its text. -/
theorem string?_of_spells {chars text : List Char} (spells : SpellsText chars text) :
    ∃ pieces, pieceBytes? pieces = some (charBytes text) ∧
      ∀ rest, string? (charBytes chars ++ 0x22 :: rest) = some (pieces, rest) := by
  have escape : UInt8.ofNat '\\'.toNat = 0x5C := rfl
  have mark : UInt8.ofNat 'u'.toNat = 0x75 := rfl
  induction spells with
  | nil => exact ⟨[], rfl, fun rest => rfl⟩
  | @plain c chars text visible unquoted unescaped _ ih =>
    obtain ⟨pieces, bytes, read⟩ := ih
    refine ⟨(String.utf8EncodeChar c).map .byte ++ pieces, ?_, fun rest => ?_⟩
    · rw [pieceBytes?_of_bytes, bytes]
      rfl
    · have plain := fun (byte : UInt8) (member : byte ∈ String.utf8EncodeChar c) =>
        isPlain_of_mem_utf8EncodeChar visible unquoted unescaped member
      rw [charBytes_cons, List.append_assoc, string?_of_plains plain, read]
      rfl
  | @letter letter c chars text known _ ih =>
    obtain ⟨pieces, bytes, read⟩ := ih
    obtain ⟨ascii, plain, known⟩ := escaped?_of_mem known
    refine ⟨.byte (UInt8.ofNat c.toNat) :: pieces, ?_, fun rest => ?_⟩
    · rw [pieceBytes?, bytes, charBytes_cons_of_ascii plain]
      rfl
    · rw [charBytes_cons_of_ascii (by decide), charBytes_cons_of_ascii ascii, escape,
        List.cons_append, List.cons_append, string?_of_escape known, read]
      rfl
  | @unit _ _ _ _ value chars _ unit alone _ ih =>
    obtain ⟨pieces, bytes, read⟩ := ih
    obtain ⟨a, b, c, d, shape, unit⟩ := codeUnit?_of_charUnit? unit chars
    refine ⟨.unit value :: pieces, ?_, fun rest => ?_⟩
    · rw [pieceBytes?_of_unit alone, bytes]
      rfl
    · rw [charBytes_cons_of_ascii (by decide), charBytes_cons_of_ascii (by decide), escape, mark,
        shape]
      simp only [List.cons_append, string?_of_codeUnit unit, read, Option.map_some]
  | @pair _ _ _ _ _ _ _ _ high low chars _ unit first other second _ ih =>
    obtain ⟨pieces, bytes, read⟩ := ih
    obtain ⟨a', b', c', d', tail, other⟩ := codeUnit?_of_charUnit? other chars
    obtain ⟨a, b, c, d, shape, unit⟩ := codeUnit?_of_charUnit? unit _
    refine ⟨.unit high :: .unit low :: pieces, ?_, fun rest => ?_⟩
    · rw [pieceBytes?_of_pair first second, bytes]
      rfl
    · rw [charBytes_cons_of_ascii (by decide), charBytes_cons_of_ascii (by decide), escape, mark,
        shape, charBytes_cons_of_ascii (by decide), charBytes_cons_of_ascii (by decide), escape,
        mark, tail]
      simp only [List.cons_append, string?_of_codeUnit unit, string?_of_codeUnit other, read,
        Option.map_some]

/-- No encoding of a character begins another. -/
theorem utf8EncodeChar_append_inj {c d : Char} {left right : Bytes}
    (same : String.utf8EncodeChar c ++ left = String.utf8EncodeChar d ++ right) :
    c = d ∧ left = right := by
  have chars : c = d := by
    have decoded := congrArg (fun bytes : Bytes => bytes.toByteArray.utf8DecodeChar? 0) same
    simpa [List.toByteArray_append, ByteArray.utf8DecodeChar?_utf8EncodeChar_append] using decoded
  subst chars
  exact ⟨rfl, List.append_cancel_left same⟩

/-- Only the first byte of a character is one that a character can begin with. -/
theorem utf8EncodeChar_eq_cons (c : Char) :
    ∃ first more, String.utf8EncodeChar c = first :: more ∧ first.IsUTF8FirstByte ∧
      ∀ byte ∈ more, ¬ byte.IsUTF8FirstByte := by
  obtain ⟨first, more, shape⟩ := List.exists_cons_of_ne_nil (String.utf8EncodeChar_ne_nil (c := c))
  have place {i : Nat} (inside : i < (first :: more).length) :
      ((first :: more)[i]).IsUTF8FirstByte ↔ i = 0 := by
    simp only [← shape] at inside ⊢
    exact UInt8.isUTF8FirstByte_getElem_utf8EncodeChar
  refine ⟨first, more, shape, (place (Nat.succ_pos _)).mpr rfl, fun byte member => ?_⟩
  obtain ⟨i, inside, rfl⟩ := List.getElem_of_mem member
  exact fun starts => Nat.succ_ne_zero i ((place (Nat.succ_lt_succ inside)).mp starts)

theorem isUTF8FirstByte_of_escaped? {letter value : UInt8} (known : escaped? letter = some value) :
    value.IsUTF8FirstByte := by
  simp only [escaped?] at known
  split_ifs at known <;> cases known <;> exact .inl rfl

theorem string?_eq_nil {bytes rest : Bytes} (read : string? bytes = some ([], rest)) :
    bytes = 0x22 :: rest := by
  rw [string?.eq_def] at read
  split at read
  · cases read
  · cases read
    rfl
  · simp [Option.bind_eq_some_iff] at read
  · simp [Option.bind_eq_some_iff] at read
  · split_ifs at read
    simp at read

theorem string?_eq_byte_cons {bytes rest : Bytes} {value : UInt8} {pieces : List Piece}
    (read : string? bytes = some (.byte value :: pieces, rest)) :
    ∃ after, string? after = some (pieces, rest) ∧
      (bytes = value :: after ∧ isPlain value = true ∨
        ∃ letter, escaped? letter = some value ∧ bytes = 0x5C :: letter :: after) := by
  rw [string?.eq_def] at read
  split at read
  · cases read
  · cases read
  · simp [Option.bind_eq_some_iff] at read
  · simp only [Option.bind_eq_bind, Option.bind_eq_some_iff] at read
    obtain ⟨found, known, ⟨others, after⟩, later, same⟩ := read
    cases same
    exact ⟨_, later, .inr ⟨_, known, rfl⟩⟩
  · rename_i byte after unquoted _ _
    split_ifs at read with visible
    obtain ⟨⟨others, later⟩, found, same⟩ := Option.map_eq_some_iff.mp read
    cases same
    obtain ⟨low, escape⟩ := not_or.mp visible
    have unquoted : value ≠ 0x22 := unquoted
    exact ⟨_, found, .inl ⟨rfl, by simp [isPlain, unquoted, escape, UInt8.not_lt.mp low]⟩⟩

theorem string?_eq_unit_cons {bytes rest : Bytes} {value : Nat} {pieces : List Piece}
    (read : string? bytes = some (.unit value :: pieces, rest)) :
    ∃ a b c d after, codeUnit? a b c d = some value ∧ string? after = some (pieces, rest) ∧
      bytes = 0x5C :: 0x75 :: a :: b :: c :: d :: after := by
  rw [string?.eq_def] at read
  split at read
  · cases read
  · cases read
  · simp only [Option.bind_eq_bind, Option.bind_eq_some_iff] at read
    obtain ⟨found, unit, ⟨others, after⟩, later, same⟩ := read
    cases same
    exact ⟨_, _, _, _, _, unit, later, rfl⟩
  · simp [Option.bind_eq_some_iff] at read
  · split_ifs at read
    simp at read

theorem pieceBytes?_unit_cons {value : Nat} {rest : List Piece} {bytes : Bytes}
    (read : pieceBytes? (.unit value :: rest) = some bytes) :
    (¬ (0xD800 ≤ value ∧ value ≤ 0xDFFF) ∧ ∃ more, pieceBytes? rest = some more ∧
      String.utf8EncodeChar (Char.ofNat value) ++ more = bytes) ∨
    (0xD800 ≤ value ∧ value ≤ 0xDBFF) ∧ ∃ low tail more, rest = .unit low :: tail ∧
      (0xDC00 ≤ low ∧ low ≤ 0xDFFF) ∧ pieceBytes? tail = some more ∧
      String.utf8EncodeChar (Char.ofNat (0x10000 + (value - 0xD800) * 0x400 + (low - 0xDC00))) ++
        more = bytes := by
  rw [pieceBytes?.eq_def] at read
  simp only [codePointBytes_eq] at read
  split_ifs at read with low high
  · split at read
    · split_ifs at read with second
      obtain ⟨more, found, rfl⟩ := Option.map_eq_some_iff.mp read
      exact .inr ⟨high, _, _, more, rfl, second, found, rfl⟩
    · cases read
  · obtain ⟨more, found, rfl⟩ := Option.map_eq_some_iff.mp read
    exact .inl ⟨by omega, more, found, rfl⟩

/-- What a code unit spells begins as a character does. -/
theorem isUTF8FirstByte_of_unit {value : Nat} {rest : List Piece} {byte : UInt8} {bytes : Bytes}
    (read : pieceBytes? (.unit value :: rest) = some (byte :: bytes)) : byte.IsUTF8FirstByte := by
  obtain ⟨c, more, shape⟩ : ∃ c more, String.utf8EncodeChar c ++ more = byte :: bytes := by
    obtain ⟨-, more, -, shape⟩ | ⟨-, _, _, more, -, -, -, shape⟩ := pieceBytes?_unit_cons read
    · exact ⟨_, _, shape⟩
    · exact ⟨_, _, shape⟩
  obtain ⟨first, others, encoded, starts, -⟩ := utf8EncodeChar_eq_cons c
  rw [encoded, List.cons_append] at shape
  exact (List.cons.inj shape).1 ▸ starts

theorem eq_nil_of_pieceBytes? {pieces : List Piece} (read : pieceBytes? pieces = some []) :
    pieces = [] := by
  cases pieces with
  | nil => rfl
  | cons piece rest =>
    cases piece with
    | byte value => simp [pieceBytes?] at read
    | unit value =>
      obtain ⟨-, more, -, shape⟩ | ⟨-, _, _, more, -, -, -, shape⟩ := pieceBytes?_unit_cons read
      · exact absurd (List.append_eq_nil_iff.mp shape).1 String.utf8EncodeChar_ne_nil
      · exact absurd (List.append_eq_nil_iff.mp shape).1 String.utf8EncodeChar_ne_nil

/-- The bytes of a character after its first stand for themselves, each in a piece of its own. -/
theorem string?_of_continuation {more spelled bytes rest : Bytes} {pieces : List Piece}
    (inner : ∀ byte ∈ more, ¬ byte.IsUTF8FirstByte)
    (spells : pieceBytes? pieces = some (more ++ spelled))
    (read : string? bytes = some (pieces, rest)) :
    ∃ others after, bytes = more ++ after ∧ pieceBytes? others = some spelled ∧
      string? after = some (others, rest) := by
  induction more generalizing pieces bytes with
  | nil => exact ⟨pieces, bytes, rfl, spells, read⟩
  | cons byte more ih =>
    obtain ⟨other, inners⟩ := List.forall_mem_cons.mp inner
    cases pieces with
    | nil => cases spells
    | cons piece pieces =>
      cases piece with
      | unit value => exact absurd (isUTF8FirstByte_of_unit spells) other
      | byte value =>
        obtain ⟨found, spells, same⟩ := Option.map_eq_some_iff.mp spells
        obtain ⟨rfl, rfl⟩ := List.cons.inj same
        obtain ⟨after, found, ⟨rfl, -⟩ | ⟨letter, known, -⟩⟩ := string?_eq_byte_cons read
        · obtain ⟨others, later, rfl, spells, last⟩ := ih inners spells found
          exact ⟨others, later, rfl, spells, last⟩
        · exact absurd (isUTF8FirstByte_of_escaped? known) other

/-- A letter that escapes a byte escapes a character of that byte. -/
theorem letterEscapes_of_escaped? {letter value : UInt8} (known : escaped? letter = some value) :
    ∃ l c, (l, c) ∈ letterEscapes ∧ String.utf8EncodeChar l = [letter] ∧
      String.utf8EncodeChar c = [value] := by
  simp only [escaped?] at known
  split_ifs at known with quote back slash b f n r t <;> cases known
  · exact ⟨'"', '"', by decide, by rw [quote]; rfl, rfl⟩
  · exact ⟨'\\', '\\', by decide, by rw [back]; rfl, rfl⟩
  · exact ⟨'/', '/', by decide, by rw [slash]; rfl, rfl⟩
  · exact ⟨'b', '\x08', by decide, by rw [b]; rfl, rfl⟩
  · exact ⟨'f', '\x0c', by decide, by rw [f]; rfl, rfl⟩
  · exact ⟨'n', '\n', by decide, by rw [n]; rfl, rfl⟩
  · exact ⟨'r', '\r', by decide, by rw [r]; rfl, rfl⟩
  · exact ⟨'t', '\t', by decide, by rw [t]; rfl, rfl⟩

theorem value?_of_hexDigit? {byte : UInt8} {value : Nat} (read : hexDigit? byte = some value) :
    ∃ c, Hex.value? c = some value ∧ ∀ chars, charBytes (c :: chars) = byte :: charBytes chars := by
  have ascii : byte.toNat ≤ 127 := by
    simp only [hexDigit?, UInt8.le_iff_toNat_le, UInt8.reduceToNat] at read
    split_ifs at read <;> omega
  obtain ⟨c, code, bytes⟩ := exists_char ascii
  refine ⟨c, ?_, bytes⟩
  rwa [← hexDigit?_ofNat (by omega), code, UInt8.ofNat_toNat]

theorem charUnit?_of_codeUnit? {a b c d : UInt8} {value : Nat}
    (read : codeUnit? a b c d = some value) :
    ∃ a' b' c' d', charUnit? a' b' c' d' = some value ∧
      ∀ chars, charBytes ('\\' :: 'u' :: a' :: b' :: c' :: d' :: chars) =
        0x5C :: 0x75 :: a :: b :: c :: d :: charBytes chars := by
  simp only [codeUnit?, Option.bind_eq_bind, Option.bind_eq_some_iff] at read
  obtain ⟨one, first, two, second, three, third, four, fourth, same⟩ := read
  obtain ⟨a', first, one⟩ := value?_of_hexDigit? first
  obtain ⟨b', second, two⟩ := value?_of_hexDigit? second
  obtain ⟨c', third, three⟩ := value?_of_hexDigit? third
  obtain ⟨d', fourth, four⟩ := value?_of_hexDigit? fourth
  refine ⟨a', b', c', d', ?_, fun chars => ?_⟩
  · simp only [charUnit?, first, second, third, fourth, Option.bind_eq_bind, Option.bind_some, same]
  · rw [charBytes_cons, charBytes_cons, one, two, three, four]
    rfl

theorem toNat_of_isPlain {c : Char} {first : UInt8} {more : Bytes}
    (encoded : String.utf8EncodeChar c = first :: more) (plain : isPlain first = true) :
    0x20 ≤ c.toNat ∧ c ≠ '"' ∧ c ≠ '\\' := by
  have quote : '"'.toNat = 0x22 := rfl
  have escape : '\\'.toNat = 0x5C := rfl
  suffices 0x20 ≤ c.toNat ∧ c.toNat ≠ 0x22 ∧ c.toNat ≠ 0x5C by
    refine ⟨this.1, ?_, ?_⟩ <;> rintro rfl <;> omega
  obtain ascii | wide := Nat.lt_or_ge c.toNat 128
  · have single := charBytes_cons_of_ascii (show c.toNat ≤ 127 by omega) []
    rw [charBytes_cons, encoded] at single
    have code : first.toNat = c.toNat := by
      rw [(List.cons.inj single).1]
      exact UInt8.toNat_ofNat_of_lt' (by rw [UInt8.size]; omega)
    simpa [isPlain, UInt8.le_iff_toNat_le, ← UInt8.toNat_inj, code, and_assoc] using plain
  · omega

/-- What is read between quotes is spelled, if its pieces spell well-formed text. -/
theorem spelled_of_string? {text : List Char} {pieces : List Piece} {bytes rest : Bytes}
    (read : string? bytes = some (pieces, rest))
    (spells : pieceBytes? pieces = some (charBytes text)) :
    ∃ chars, SpellsText chars text ∧ bytes = charBytes chars ++ 0x22 :: rest := by
  have escape : String.utf8EncodeChar '\\' = [0x5C] := rfl
  induction text generalizing pieces bytes with
  | nil =>
    obtain rfl := eq_nil_of_pieceBytes? spells
    exact ⟨[], .nil, string?_eq_nil read⟩
  | cons c text ih =>
    rw [charBytes_cons] at spells
    cases pieces with
    | nil => exact absurd (Option.some.inj spells).symm (by simp [String.utf8EncodeChar_ne_nil])
    | cons piece pieces =>
      cases piece with
      | byte value =>
        obtain ⟨first, more, encoded, starts, inner⟩ := utf8EncodeChar_eq_cons c
        obtain ⟨found, spells, same⟩ := Option.map_eq_some_iff.mp spells
        rw [encoded] at same
        obtain ⟨rfl, rfl⟩ := List.cons.inj same
        obtain ⟨after, found, form⟩ := string?_eq_byte_cons read
        obtain ⟨others, later, rfl, spells, last⟩ := string?_of_continuation inner spells found
        obtain ⟨chars, spelled, rfl⟩ := ih last spells
        obtain ⟨rfl, plain⟩ | ⟨letter, known, rfl⟩ := form
        · obtain ⟨visible, unquoted, unescaped⟩ := toNat_of_isPlain encoded plain
          exact ⟨_, .plain visible unquoted unescaped spelled, by simp [charBytes_cons, encoded]⟩
        · obtain ⟨l, d, member, lettered, escaped⟩ := letterEscapes_of_escaped? known
          have same : String.utf8EncodeChar c ++ [] = String.utf8EncodeChar d ++ more := by
            rw [encoded, escaped, List.append_nil, List.singleton_append]
          obtain ⟨rfl, rfl⟩ := utf8EncodeChar_append_inj same
          exact ⟨_, .letter member spelled, by simp [charBytes_cons, lettered, escape]⟩
      | unit value =>
        obtain ⟨alone, more, spells, same⟩ | ⟨high, low, tail, more, rfl, second, spells, same⟩ :=
          pieceBytes?_unit_cons spells
        · obtain ⟨rfl, rfl⟩ := utf8EncodeChar_append_inj same
          obtain ⟨a, b, c, d, after, unit, found, rfl⟩ := string?_eq_unit_cons read
          obtain ⟨a', b', c', d', unit, bytes⟩ := charUnit?_of_codeUnit? unit
          obtain ⟨chars, spelled, rfl⟩ := ih found spells
          exact ⟨_, .unit unit alone spelled, by rw [bytes]; rfl⟩
        · obtain ⟨rfl, rfl⟩ := utf8EncodeChar_append_inj same
          obtain ⟨a, b, c, d, after, unit, found, rfl⟩ := string?_eq_unit_cons read
          obtain ⟨a', b', c', d', unit, bytes⟩ := charUnit?_of_codeUnit? unit
          obtain ⟨e, f, g, h, later, other, last, rfl⟩ := string?_eq_unit_cons found
          obtain ⟨e', f', g', h', other, more⟩ := charUnit?_of_codeUnit? other
          obtain ⟨chars, spelled, rfl⟩ := ih last spells
          exact ⟨_, .pair unit high other second spelled, by rw [bytes, more]; rfl⟩

end Gateway.Json
