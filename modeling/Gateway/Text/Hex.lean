import Gateway.Text.Utf8

/-! # Hexadecimal text

Two lower-case digits for each byte, high half first. Reading takes either case.
-/

namespace Gateway.Hex

def digit (value : Nat) : Char :=
  if value < 10 then Char.ofNat ('0'.toNat + value) else Char.ofNat ('a'.toNat + (value - 10))

/-- The value of a digit of either case. -/
def value? (c : Char) : Option Nat :=
  if '0' ≤ c ∧ c ≤ '9' then some (c.toNat - '0'.toNat)
  else if 'a' ≤ c ∧ c ≤ 'f' then some (c.toNat - 'a'.toNat + 10)
  else if 'A' ≤ c ∧ c ≤ 'F' then some (c.toNat - 'A'.toNat + 10)
  else none

def ofByte (byte : UInt8) : List Char := [digit (byte.toNat / 16), digit (byte.toNat % 16)]

def encode (bytes : Bytes) : String := String.ofList (bytes.flatMap ofByte)

/-- The bytes spelled by a list of digits, taken in pairs. -/
def decodeChars? : List Char → Option Bytes
  | [] => some []
  | [_] => none
  | high :: low :: rest => do
    let high ← value? high
    let low ← value? low
    let rest ← decodeChars? rest
    some (UInt8.ofNat (16 * high + low) :: rest)

/-- The bytes that a hexadecimal text spells, if it spells any. -/
def decode? (text : String) : Option Bytes := decodeChars? text.toList

end Gateway.Hex
