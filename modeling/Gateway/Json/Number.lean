import Gateway.Json.Basic

/-! # Number literals

A literal keeps the digits it was written with. An integer literal in the range of a signed or
unsigned 64-bit word denotes that integer, except that `-0` is a fraction. Every other literal
denotes a double computed in two steps: the leading digits that fit an unsigned word are rounded to
a double, which is then multiplied or divided by a rounded power of ten. The result may differ in
the last place from the double nearest to the literal; a literal beyond the greatest double denotes
nothing.
-/

namespace Gateway.Json

/-- The power of ten of a literal: its sign and its digits. -/
structure Exponent where
  negative : Bool
  digits : List Nat
deriving DecidableEq, Repr

/-- A number as written. -/
structure Literal where
  negative : Bool
  /-- The digits before the point. -/
  whole : List Nat
  /-- The digits after the point, if there is one. -/
  fraction : Option (List Nat)
  exponent : Option Exponent
deriving DecidableEq, Repr

/-- The greatest unsigned 64-bit word. -/
def maxWord : Nat := UInt64.size - 1

/-- The greatest signed 32-bit word. -/
def maxExponent : Nat := UInt32.size / 2 - 1

/-- Digits appended to a number for as long as it stays within `limit`, and the digits left over. -/
def absorb (limit : Nat) : Nat → List Nat → Nat × List Nat
  | n, [] => (n, [])
  | n, digit :: rest =>
    if n * 10 + digit ≤ limit then absorb limit (n * 10 + digit) rest else (n, digit :: rest)

/-- The double nearest to a power of ten. -/
def powerOfTen (power : Nat) : Float := Float.ofScientific 1 false power

/-- A double times a power of ten, if the product is finite. Powers of ten beyond the range of
doubles are taken in steps, each of which rounds. -/
def scale? (x : Float) (power : Int) : Option Float :=
  if power.natAbs ≤ 308 then
    if 0 ≤ power then
      let product := x * powerOfTen power.natAbs
      if product.isInf then none else some product
    else some (x / powerOfTen power.natAbs)
  else if x == 0 then some x
  else if 0 ≤ power then none
  else scale? (x / powerOfTen 308) (power + 308)
termination_by power.natAbs

/-- A magnitude with the sign of the literal. -/
def Literal.signed (literal : Literal) (magnitude : Float) : Json :=
  .float (if literal.negative then -magnitude else magnitude)

/-- The double denoted by `significand · 10 ^ power` and the literal's exponent. -/
def Literal.scaled? (literal : Literal) (significand : Nat) (power : Int) : Option Json :=
  let magnitude := (UInt64.ofNat significand).toFloat
  match literal.exponent with
  | none => (scale? magnitude power).map literal.signed
  | some exponent =>
    match absorb maxExponent 0 exponent.digits with
    | (shift, []) =>
      (scale? magnitude (if exponent.negative then power - shift else power + shift)).map
        literal.signed
    | (_, _ :: _) =>
      if significand ≠ 0 ∧ exponent.negative = false then none else some (literal.signed 0)

/-- The value of a literal, if it denotes one. -/
def Literal.value? (literal : Literal) : Option Json :=
  let (significand, dropped) := absorb maxWord 0 literal.whole
  match literal.fraction with
  | some fraction =>
    let (extended, ignored) := absorb maxWord significand fraction
    literal.scaled? extended ((dropped.length : Int) - (fraction.length - ignored.length : Nat))
  | none =>
    if dropped ≠ [] ∨ literal.exponent.isSome then literal.scaled? significand dropped.length
    else if literal.negative = false then some (.int significand)
    else if significand = 0 ∨ UInt64.size / 2 < significand then
      some (literal.signed (UInt64.ofNat significand).toFloat)
    else some (.int (-significand))

end Gateway.Json
