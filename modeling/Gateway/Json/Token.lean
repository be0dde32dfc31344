import Gateway.Text.Blank
import Gateway.Json.Number

/-! # Tokens of JSON text

The lexical half of reading JSON: bytes become tokens, and white space between tokens goes. A string
token keeps its contents as pieces, so that a value which is only skipped is held to the grammar of
strings alone: whether the pieces spell well-formed text is asked by `text?`. Two tokens that touch
without a separator between them are told apart here and refused by the grammar of values.
-/

namespace Gateway.Json

/-- A part of a string as written. -/
inductive Piece where
  /-- A byte that stands for itself or was written with a one-letter escape. -/
  | byte (value : UInt8)
  /-- A UTF-16 code unit written with four hexadecimal digits. -/
  | unit (value : Nat)
deriving DecidableEq, Repr

/-- A token of JSON text. -/
inductive Token where
  | leftBrace
  | rightBrace
  | leftBracket
  | rightBracket
  | colon
  | comma
  | null
  | bool (value : Bool)
  | number (literal : Literal)
  | string (pieces : List Piece)
deriving DecidableEq, Repr

/-- The bytes of a code point that is no surrogate. -/
def codePointBytes (code : Nat) : Bytes := utf8 (String.singleton (Char.ofNat code))

/-- The bytes spelled by the pieces of a string. A surrogate must stand in a pair, high half first.
-/
def pieceBytes? : List Piece → Option Bytes
  | [] => some []
  | .byte value :: rest => (pieceBytes? rest).map (value :: ·)
  | .unit value :: rest =>
    if 0xDC00 ≤ value ∧ value ≤ 0xDFFF then none
    else if 0xD800 ≤ value ∧ value ≤ 0xDBFF then
      match rest with
      | .unit low :: rest =>
        if 0xDC00 ≤ low ∧ low ≤ 0xDFFF then
          (pieceBytes? rest).map
            (codePointBytes (0x10000 + (value - 0xD800) * 0x400 + (low - 0xDC00)) ++ ·)
        else none
      | _ => none
    else (pieceBytes? rest).map (codePointBytes value ++ ·)

/-- The text spelled by the pieces of a string, if they spell well-formed text. -/
def text? (pieces : List Piece) : Option String := (pieceBytes? pieces).bind ofUtf8?

/-- Whether a byte is white space between tokens. -/
def isSpace (byte : UInt8) : Bool := byte = 0x20 || byte = 0x09 || byte = 0x0A || byte = 0x0D

def isDigit (byte : UInt8) : Bool := 0x30 ≤ byte && byte ≤ 0x39

/-- The value of a hexadecimal digit. -/
def hexDigit? (byte : UInt8) : Option Nat :=
  if 0x30 ≤ byte ∧ byte ≤ 0x39 then some (byte.toNat - 0x30)
  else if 0x41 ≤ byte ∧ byte ≤ 0x46 then some (byte.toNat - 0x37)
  else if 0x61 ≤ byte ∧ byte ≤ 0x66 then some (byte.toNat - 0x57)
  else none

/-- The values of the decimal digits at the front, and what follows them. -/
def digits (bytes : Bytes) : List Nat × Bytes :=
  ((bytes.takeWhile isDigit).map fun byte => byte.toNat - 0x30, bytes.dropWhile isDigit)

/-- One decimal digit or more at the front, and what follows them. -/
def digits? (bytes : Bytes) : Option (List Nat × Bytes) :=
  match digits bytes with
  | ([], _) => none
  | found => some found

/-- The digits before the point: a zero alone, or digits that start with another one. -/
def whole? (bytes : Bytes) : Option (List Nat × Bytes) :=
  match digits bytes with
  | ([], _) => none
  | (0 :: _ :: _, _) => none
  | found => some found

/-- The point and the digits after it, if the input goes on with a point. -/
def fraction? : Bytes → Option (Option (List Nat) × Bytes)
  | 0x2E :: rest => (digits? rest).map fun (found, rest) => (some found, rest)
  | rest => some (none, rest)

/-- The sign of an exponent, if there is one. -/
def exponentSign : Bytes → Bool × Bytes
  | 0x2B :: rest => (false, rest)
  | 0x2D :: rest => (true, rest)
  | rest => (false, rest)

/-- The power of ten of a literal, if the input goes on with one. -/
def exponent? : Bytes → Option (Option Exponent × Bytes)
  | [] => some (none, [])
  | byte :: rest =>
    if byte = 0x65 ∨ byte = 0x45 then
      let (negative, rest) := exponentSign rest
      (digits? rest).map fun (found, rest) => (some ⟨negative, found⟩, rest)
    else some (none, byte :: rest)

/-- The number literal whose sign has been read. -/
def magnitude? (negative : Bool) (bytes : Bytes) : Option (Literal × Bytes) := do
  let (whole, rest) ← whole? bytes
  let (fraction, rest) ← fraction? rest
  let (exponent, rest) ← exponent? rest
  some (⟨negative, whole, fraction, exponent⟩, rest)

/-- The number literal at the front. -/
def number? : Bytes → Option (Literal × Bytes)
  | 0x2D :: rest => magnitude? true rest
  | rest => magnitude? false rest

/-- The byte that a one-letter escape stands for. -/
def escaped? (letter : UInt8) : Option UInt8 :=
  if letter = 0x22 then some 0x22
  else if letter = 0x5C then some 0x5C
  else if letter = 0x2F then some 0x2F
  else if letter = 0x62 then some 0x08
  else if letter = 0x66 then some 0x0C
  else if letter = 0x6E then some 0x0A
  else if letter = 0x72 then some 0x0D
  else if letter = 0x74 then some 0x09
  else none

/-- The code unit written with four hexadecimal digits. -/
def codeUnit? (a b c d : UInt8) : Option Nat := do
  let a ← hexDigit? a
  let b ← hexDigit? b
  let c ← hexDigit? c
  let d ← hexDigit? d
  some (((a * 16 + b) * 16 + c) * 16 + d)

/-- The pieces of a string whose opening quote has been read, and what follows its closing quote. -/
def string? : Bytes → Option (List Piece × Bytes)
  | [] => none
  | 0x22 :: rest => some ([], rest)
  | 0x5C :: 0x75 :: a :: b :: c :: d :: rest => do
    let value ← codeUnit? a b c d
    let (pieces, rest) ← string? rest
    some (.unit value :: pieces, rest)
  | 0x5C :: letter :: rest => do
    let value ← escaped? letter
    let (pieces, rest) ← string? rest
    some (.byte value :: pieces, rest)
  | byte :: rest =>
    if byte < 0x20 ∨ byte = 0x5C then none
    else (string? rest).map fun (pieces, rest) => (.byte byte :: pieces, rest)

/-- The token at the front of an input that starts with no white space. -/
def token? : Bytes → Option (Token × Bytes)
  | [] => none
  | 0x7B :: rest => some (.leftBrace, rest)
  | 0x7D :: rest => some (.rightBrace, rest)
  | 0x5B :: rest => some (.leftBracket, rest)
  | 0x5D :: rest => some (.rightBracket, rest)
  | 0x3A :: rest => some (.colon, rest)
  | 0x2C :: rest => some (.comma, rest)
  | 0x6E :: 0x75 :: 0x6C :: 0x6C :: rest => some (.null, rest)
  | 0x74 :: 0x72 :: 0x75 :: 0x65 :: rest => some (.bool true, rest)
  | 0x66 :: 0x61 :: 0x6C :: 0x73 :: 0x65 :: rest => some (.bool false, rest)
  | 0x22 :: rest => (string? rest).map fun (pieces, rest) => (.string pieces, rest)
  | bytes => (number? bytes).map fun (literal, rest) => (.number literal, rest)

/-- The tokens of an input, for as many bytes as `fuel`. -/
def tokensWith : Nat → Bytes → Option (List Token)
  | 0, bytes => if bytes.all isSpace then some [] else none
  | fuel + 1, bytes =>
    match bytes.dropWhile isSpace with
    | [] => some []
    | rest => do
      let (token, rest) ← token? rest
      let tokens ← tokensWith fuel rest
      some (token :: tokens)

/-- The tokens of an input. Each token takes at least one byte, so the length of the input is fuel
enough. -/
def tokens? (bytes : Bytes) : Option (List Token) := tokensWith bytes.length bytes

end Gateway.Json
