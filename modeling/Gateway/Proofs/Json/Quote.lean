import Gateway.Proofs.Json.Numeral

/-! # Quoted text

A text is printed between quotes, character by character, and read piece by piece: a character that
stands for itself is as many pieces as it has bytes, an escape is one piece. The pieces of a quoted text
spell the text that was quoted, whatever it holds.
-/

namespace Gateway.Json

/-- Whether a byte stands for itself between quotes. -/
def isPlain (byte : UInt8) : Bool := 0x20 ≤ byte && byte ≠ 0x22 && byte ≠ 0x5C

theorem string?_of_plain {byte : UInt8} (plain : isPlain byte = true) (rest : Bytes) :
    string? (byte :: rest) =
      (string? rest).map fun (pieces, rest) => (.byte byte :: pieces, rest) := by
  simp only [isPlain, Bool.and_eq_true, decide_eq_true_eq] at plain
  obtain ⟨⟨visible, unquoted⟩, unescaped⟩ := plain
  have visible : ¬ (byte < 0x20 ∨ byte = 0x5C) := by
    rintro (low | escape)
    · exact absurd (UInt8.lt_of_lt_of_le low visible) (UInt8.lt_irrefl _)
    · exact unescaped escape
  rw [string?.eq_def]
  split
  · rename_i same
    cases same
  · rename_i same
    exact absurd (List.cons.inj same).1 unquoted
  · rename_i same
    exact absurd (List.cons.inj same).1 unescaped
  · rename_i same
    exact absurd (List.cons.inj same).1 unescaped
  · rename_i same
    obtain ⟨rfl, rfl⟩ := List.cons.inj same
    rw [if_neg visible]

theorem string?_of_plains {bytes : Bytes} (plain : ∀ byte ∈ bytes, isPlain byte = true)
    (rest : Bytes) :
    string? (bytes ++ rest) =
      (string? rest).map fun (pieces, rest) => (bytes.map Piece.byte ++ pieces, rest) := by
  induction bytes with
  | nil => simp
  | cons byte bytes ih =>
    have tail := ih fun other member => plain other (List.mem_cons_of_mem _ member)
    rw [List.cons_append, string?_of_plain (plain byte (List.mem_cons_self ..)), tail]
    simp [Function.comp_def]

/-- A character that is not escaped is written in bytes that stand for themselves. -/
theorem isPlain_of_mem_utf8EncodeChar {c : Char} (visible : 0x20 ≤ c.toNat) (unquoted : c ≠ '"')
    (unescaped : c ≠ '\\') {byte : UInt8} (member : byte ∈ String.utf8EncodeChar c) :
    isPlain byte = true := by
  have quote : '"'.toNat = 0x22 := rfl
  have escape : '\\'.toNat = 0x5C := rfl
  have unquoted : c.toNat ≠ 0x22 := fun same => unquoted (Char.toNat_inj.mp same)
  have unescaped : c.toNat ≠ 0x5C := fun same => unescaped (Char.toNat_inj.mp same)
  have value : c.val.toNat = c.toNat := rfl
  suffices 0x20 ≤ byte.toNat ∧ byte.toNat ≠ 0x22 ∧ byte.toNat ≠ 0x5C by
    simpa [isPlain, UInt8.le_iff_toNat_le, ← UInt8.toNat_inj, and_assoc] using this
  rw [String.utf8EncodeChar, value] at member
  split_ifs at member with one two three
  all_goals
    simp only [List.mem_cons, List.not_mem_nil, or_false] at member
    rcases member with rfl | rfl | rfl | rfl
  all_goals
    rw [UInt8.toNat_ofNat']
    omega

theorem string?_of_escape {letter value : UInt8} (known : escaped? letter = some value)
    (rest : Bytes) :
    string? (0x5C :: letter :: rest) =
      (string? rest).map fun (pieces, rest) => (.byte value :: pieces, rest) := by
  have other : letter ≠ 0x75 := by
    rintro rfl
    cases known
  rw [string?.eq_def]
  split
  · rename_i same
    cases same
  · rename_i same
    cases same
  · rename_i same
    cases same
    exact absurd rfl other
  · rename_i same
    cases same
    rw [known]
    cases string? rest <;> rfl
  · rename_i unescaped same
    cases same
    exact absurd rfl (unescaped _ _ rfl)

/-- The two digits with which a control character is written. -/
theorem codeUnit?_hexDigits {n : Nat} (control : n < 0x20) :
    codeUnit? 0x30 0x30 (UInt8.ofNat (hexDigit (n / 16)).toNat)
      (UInt8.ofNat (hexDigit (n % 16)).toNat) = some n := by
  have all : ∀ n < 0x20, codeUnit? 0x30 0x30 (UInt8.ofNat (hexDigit (n / 16)).toNat)
      (UInt8.ofNat (hexDigit (n % 16)).toNat) = some n := by decide
  exact all n control

theorem hexDigit_ascii {n : Nat} (small : n < 16) : (hexDigit n).toNat ≤ 127 := by
  have all : ∀ n < 16, (hexDigit n).toNat ≤ 127 := by decide
  exact all n small

/-- The pieces as which a character is read. -/
def charPieces (c : Char) : List Piece :=
  if c.toNat < 0x20 ∧ c.toNat ∉ [0x08, 0x09, 0x0A, 0x0C, 0x0D] then [.unit c.toNat]
  else (String.utf8EncodeChar c).map .byte

/-- A character with a one-letter escape. -/
theorem string?_of_letter {c letter : Char} {value : UInt8} (ascii : letter.toNat ≤ 127)
    (known : escaped? (UInt8.ofNat letter.toNat) = some value)
    (pieces : charPieces c = [.byte value]) (rest : Bytes) :
    string? (charBytes ['\\', letter] ++ rest) =
      (string? rest).map fun (pieces, rest) => (charPieces c ++ pieces, rest) := by
  have escape : UInt8.ofNat '\\'.toNat = 0x5C := rfl
  rw [pieces, charBytes_cons_of_ascii (by decide), charBytes_cons_of_ascii ascii, escape]
  exact string?_of_escape known rest

theorem string?_of_unit {c : Char} (control : c.toNat < 0x20) (rest : Bytes) :
    string? (charBytes ['\\', 'u', '0', '0', hexDigit (c.toNat / 16), hexDigit (c.toNat % 16)] ++
        rest) =
      (string? rest).map fun (pieces, rest) => (.unit c.toNat :: pieces, rest) := by
  have escape : UInt8.ofNat '\\'.toNat = 0x5C := rfl
  have mark : UInt8.ofNat 'u'.toNat = 0x75 := rfl
  have zero : UInt8.ofNat '0'.toNat = 0x30 := rfl
  have high := hexDigit_ascii (show c.toNat / 16 < 16 by omega)
  have low := hexDigit_ascii (show c.toNat % 16 < 16 by omega)
  have read := codeUnit?_hexDigits control
  rw [charBytes_cons_of_ascii (by decide), charBytes_cons_of_ascii (by decide),
    charBytes_cons_of_ascii (by decide), charBytes_cons_of_ascii (by decide),
    charBytes_cons_of_ascii high, charBytes_cons_of_ascii low, escape, mark, zero]
  simp only [List.cons_append, string?, read, Option.bind_eq_bind, Option.bind_some, charBytes_nil,
    List.nil_append]
  cases string? rest <;> rfl

theorem string?_escapeChar (c : Char) (rest : Bytes) :
    string? (charBytes (escapeChar c) ++ rest) =
      (string? rest).map fun (pieces, rest) => (charPieces c ++ pieces, rest) := by
  rw [escapeChar]
  split_ifs with quote escape control backspace tab newline feed back
  · subst quote
    exact string?_of_letter (by decide) rfl rfl rest
  · subst escape
    exact string?_of_letter (by decide) rfl rfl rest
  · obtain rfl : c = '\x08' := Char.toNat_inj.mp backspace
    exact string?_of_letter (by decide) rfl rfl rest
  · obtain rfl : c = '\t' := Char.toNat_inj.mp tab
    exact string?_of_letter (by decide) rfl rfl rest
  · obtain rfl : c = '\n' := Char.toNat_inj.mp newline
    exact string?_of_letter (by decide) rfl rfl rest
  · obtain rfl : c = '\x0c' := Char.toNat_inj.mp feed
    exact string?_of_letter (by decide) rfl rfl rest
  · obtain rfl : c = '\r' := Char.toNat_inj.mp back
    exact string?_of_letter (by decide) rfl rfl rest
  · have pieces : charPieces c = [.unit c.toNat] :=
      if_pos ⟨control, by simp [backspace, tab, newline, feed, back]⟩
    rw [pieces]
    exact string?_of_unit control rest
  · have pieces : charPieces c = (String.utf8EncodeChar c).map .byte :=
      if_neg fun low => control low.1
    have visible : 0x20 ≤ c.toNat := by omega
    have plain := fun (byte : UInt8) (member : byte ∈ String.utf8EncodeChar c) =>
      isPlain_of_mem_utf8EncodeChar visible quote escape member
    rw [pieces, charBytes, List.flatMap_singleton]
    exact string?_of_plains plain rest

/-- The pieces as which a text is read. -/
def textPieces (text : String) : List Piece := text.toList.flatMap charPieces

theorem string?_escaped (chars : List Char) (rest : Bytes) :
    string? (charBytes (chars.flatMap escapeChar) ++ rest) =
      (string? rest).map fun (pieces, rest) => (chars.flatMap charPieces ++ pieces, rest) := by
  induction chars with
  | nil => simp
  | cons c chars ih =>
    rw [List.flatMap_cons, charBytes_append, List.append_assoc, string?_escapeChar, ih]
    simp [Function.comp_def]

/-- A quoted text is read as its pieces. -/
theorem token?_quote (text : String) (rest : Bytes) :
    token? (utf8 (quote text) ++ rest) = some (.string (textPieces text), rest) := by
  have mark : UInt8.ofNat '"'.toNat = 0x22 := rfl
  have read : string? (charBytes (text.toList.flatMap escapeChar) ++ 0x22 :: rest) =
      some (textPieces text, rest) := by
    rw [string?_escaped, string?]
    simp [textPieces]
  rw [quote, utf8_ofList, List.cons_append, charBytes_cons_of_ascii (by decide), charBytes_append,
    charBytes_cons_of_ascii (by decide), mark, charBytes_nil, List.cons_append, List.append_assoc,
    List.cons_append, List.nil_append, token?, read]
  rfl

theorem pieceBytes?_of_bytes (bytes : Bytes) (rest : List Piece) :
    pieceBytes? (bytes.map Piece.byte ++ rest) = (pieceBytes? rest).map (bytes ++ ·) := by
  induction bytes with
  | nil => simp
  | cons byte bytes ih =>
    rw [List.map_cons, List.cons_append, pieceBytes?, ih]
    simp [Function.comp_def]

theorem pieceBytes?_charPieces (c : Char) (rest : List Piece) :
    pieceBytes? (charPieces c ++ rest) =
      (pieceBytes? rest).map (String.utf8EncodeChar c ++ ·) := by
  rw [charPieces]
  split_ifs with control
  · have bytes : codePointBytes c.toNat = String.utf8EncodeChar c := by
      rw [codePointBytes, Char.ofNat_toNat, String.singleton_eq_ofList, utf8_ofList]
      exact List.flatMap_singleton ..
    rw [List.cons_append, List.nil_append, pieceBytes?.eq_def]
    simp only []
    rw [if_neg (by omega), if_neg (by omega), bytes]
  · exact pieceBytes?_of_bytes _ rest

/-- The pieces of a text spell it. -/
@[simp] theorem text?_textPieces (text : String) : text? (textPieces text) = some text := by
  have spelled (chars : List Char) :
      pieceBytes? (chars.flatMap charPieces) = some (charBytes chars) := by
    induction chars with
    | nil => rfl
    | cons c chars ih =>
      rw [List.flatMap_cons, pieceBytes?_charPieces, ih]
      rfl
  have bytes : charBytes text.toList = utf8 text := by rw [← utf8_ofList, String.ofList_toList]
  rw [text?, textPieces, spelled, bytes]
  exact ofUtf8?_utf8 text

end Gateway.Json
