/-! # Shortest decimals of binary fractions

A finite double is `mantissa · 2 ^ exponent` for whole numbers. Every real closer to it than to its
neighbours reads back as the same double, and so do the two ends of that interval when the mantissa
is even. `shortest` looks through the grids of multiples of powers of ten, coarsest first, and takes
the grid point in the interval that is nearest to the double, the even one of two equally near. All
arithmetic is exact, on natural numbers.
-/

namespace Gateway.Decimal

/-- The magnitude of a finite double as `mantissa · 2 ^ exponent`. -/
structure Binary where
  mantissa : Nat
  exponent : Int
deriving DecidableEq, Repr

/-- The magnitude of a finite double. -/
def Binary.ofFloat (x : Float) : Binary :=
  let bits := x.toBits.toNat
  let fraction := bits % Nat.pow 2 52
  let scale : Nat := bits / Nat.pow 2 52 % Nat.pow 2 11
  if scale = 0 then ⟨fraction, -1074⟩ else ⟨Nat.pow 2 52 + fraction, scale - 1075⟩

/-- A decimal `digits · 10 ^ power`. -/
structure Scaled where
  digits : Nat
  power : Int
deriving DecidableEq, Repr

/-- Whether a double lies at the lower end of its binade, where its lower neighbour is closer. -/
def Binary.atBinadeStart (b : Binary) : Bool :=
  decide (b.mantissa = Nat.pow 2 52) && decide (-1074 < b.exponent)

/-- The multiple of `10 ^ power` that reads back as the double and is nearest to it, if any. Lengths
are measured in quarters of the double's last place. -/
def Binary.onGrid? (b : Binary) (power : Int) : Option Scaled :=
  let step := Nat.pow 10 power.toNat * Nat.pow 2 (2 - b.exponent).toNat
  let quarter := Nat.pow 2 (b.exponent - 2).toNat * Nat.pow 10 (-power).toNat
  let value := 4 * b.mantissa * quarter
  let low := (4 * b.mantissa - if b.atBinadeStart then 1 else 2) * quarter
  let high := (4 * b.mantissa + 2) * quarter
  let inside (point : Nat) : Bool :=
    if b.mantissa % 2 = 0 then low ≤ point * step && point * step ≤ high
    else low < point * step && point * step < high
  let below := value / step
  let nearest :=
    if 2 * (value % step) < step || (2 * (value % step) = step && below % 2 = 0)
    then [below, below + 1] else [below + 1, below]
  (nearest.find? fun point => decide (0 < point) && inside point).map fun point => ⟨point, power⟩

/-- The first grid with a point in the interval, looking from `10 ^ power` downwards through `count`
powers. -/
def Binary.search (b : Binary) : Nat → Int → Option Scaled
  | 0, _ => none
  | count + 1, power => (b.onGrid? power).or (b.search count (power - 1))

/-- The decimal with the fewest digits that reads back as the double. The coarsest grid that can
have a point is that of the greatest double, the finest that of the least, so none is missed. -/
def Binary.shortest (b : Binary) : Scaled := (b.search 700 309).getD ⟨0, 0⟩

/-- How a finite double is written. -/
structure Layout where
  /-- Positional notation is for numbers of at least `10 ^ leastPower`. -/
  leastPower : Int
  /-- Positional notation is for numbers below `10 ^ powerLimit`. -/
  powerLimit : Int
  /-- What follows a whole number in positional notation. -/
  wholeMark : String
  /-- What stands between the digits and a power of ten. -/
  powerMark : String
  /-- The sign of a power of ten that is not negative. -/
  plus : String

/-- A list of decimal digits with a point after the first `place` of them. -/
def pointed (digits : List Char) (place : Nat) : String :=
  String.ofList (digits.take place ++ '.' :: digits.drop place)

/-- A decimal under a layout, without its sign. -/
def Scaled.text (layout : Layout) (d : Scaled) : String :=
  let digits := Nat.toDigits 10 d.digits
  let lead := (digits.length : Int) + d.power - 1
  if layout.leastPower ≤ lead ∧ lead < layout.powerLimit then
    if 0 ≤ d.power then
      String.ofList (digits ++ List.replicate d.power.toNat '0') ++ layout.wholeMark
    else if 0 ≤ lead then pointed digits (lead + 1).toNat
    else String.ofList ('0' :: '.' :: List.replicate (-lead - 1).toNat '0' ++ digits)
  else
    (if digits.length ≤ 1 then String.ofList digits else pointed digits 1) ++ layout.powerMark ++
      (if lead < 0 then "-" else layout.plus) ++ Nat.repr lead.natAbs

/-- The text of a finite double under a layout. -/
def floatText (layout : Layout) (x : Float) : String :=
  let magnitude := Binary.ofFloat x
  let sign := if UInt64.size / 2 ≤ x.toBits.toNat then "-" else ""
  if magnitude.mantissa = 0 then sign ++ "0" ++ layout.wholeMark
  else sign ++ magnitude.shortest.text layout

end Gateway.Decimal
