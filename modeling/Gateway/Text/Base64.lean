import Gateway.Text.Utf8

/-! # Base64 text

The standard alphabet with padding: three bytes become four letters, and `=` fills the last group.
-/

namespace Gateway.Base64

/-- The letter of a value below sixty-four. -/
def letter (value : Nat) : Char :=
  if value < 26 then Char.ofNat ('A'.toNat + value)
  else if value < 52 then Char.ofNat ('a'.toNat + (value - 26))
  else if value < 62 then Char.ofNat ('0'.toNat + (value - 52))
  else if value = 62 then '+'
  else '/'

/-- The letters of a byte string, three bytes at a time. -/
def letters : Bytes → List Char
  | [] => []
  | [a] =>
    let group := a.toNat * 16
    [letter (group / 64), letter (group % 64), '=', '=']
  | [a, b] =>
    let group := (a.toNat * 256 + b.toNat) * 4
    [letter (group / 4096), letter (group / 64 % 64), letter (group % 64), '=']
  | a :: b :: c :: rest =>
    let group := (a.toNat * 256 + b.toNat) * 256 + c.toNat
    letter (group / 262144) :: letter (group / 4096 % 64) :: letter (group / 64 % 64) ::
      letter (group % 64) :: letters rest

def encode (bytes : Bytes) : String := String.ofList (letters bytes)

end Gateway.Base64
