import Gateway.Decimal.Shortest
import Gateway.Json.Basic

/-! # Compact JSON text

The text of a value has no white space. In a string the quote, the backslash and the control
characters below the space are escaped, the control characters with a one-letter escape where there
is one; every other character stands for itself. A fraction is written with the fewest digits that
read back as the same double.
-/

namespace Gateway.Json

/-- Positional notation from a hundred-thousandth up to ten to the sixteenth, with a point even in a
whole number; elsewhere a power of ten with its sign. -/
def floatLayout : Decimal.Layout where
  leastPower := -5
  powerLimit := 16
  wholeMark := ".0"
  powerMark := "e"
  plus := "+"

def hexDigit (value : Nat) : Char :=
  if value < 10 then Char.ofNat (0x30 + value) else Char.ofNat (0x57 + value)

/-- A character as it stands in a string. -/
def escapeChar (c : Char) : List Char :=
  if c = '"' then ['\\', '"']
  else if c = '\\' then ['\\', '\\']
  else if c.toNat < 0x20 then
    if c.toNat = 0x08 then ['\\', 'b']
    else if c.toNat = 0x09 then ['\\', 't']
    else if c.toNat = 0x0A then ['\\', 'n']
    else if c.toNat = 0x0C then ['\\', 'f']
    else if c.toNat = 0x0D then ['\\', 'r']
    else ['\\', 'u', '0', '0', hexDigit (c.toNat / 16), hexDigit (c.toNat % 16)]
  else [c]

def quote (text : String) : String :=
  String.ofList ('"' :: text.toList.flatMap escapeChar ++ ['"'])

def commaSeparated : List String → String
  | [] => ""
  | [text] => text
  | text :: rest => text ++ "," ++ commaSeparated rest

/-- The text of an object whose values are already written. -/
def objectText (fields : List (String × String)) : String :=
  "\x7b" ++ commaSeparated (fields.map fun field => quote field.1 ++ ":" ++ field.2) ++ "\x7d"

/-- The text of an array whose items are already written. -/
def arrayText (items : List String) : String := "[" ++ commaSeparated items ++ "]"

mutual

/-- The text of a value. -/
def render : Json → String
  | .null => "null"
  | .bool true => "true"
  | .bool false => "false"
  | .int value => toString value
  | .float value => Decimal.floatText floatLayout value
  | .string text => quote text
  | .array items => arrayText (renderItems items)
  | .object fields => objectText (renderFields fields)

def renderItems : List Json → List String
  | [] => []
  | item :: rest => render item :: renderItems rest

def renderFields : List (String × Json) → List (String × String)
  | [] => []
  | (name, value) :: rest => (name, render value) :: renderFields rest

end

end Gateway.Json
