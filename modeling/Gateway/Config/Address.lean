/-! # Socket addresses

An address of the fourth version is four octets in decimal without leading zeros; one of the sixth
version is eight groups of up to four hexadecimal digits in brackets, of which one run of zero
groups may be left out, the last two may be written as an address of the fourth version, and a
decimal scope may follow. Each is followed by a colon and a port. When written, the first longest
run of at least two zero groups is left out, and a mapped address of the fourth version shows its
octets.
-/

namespace Gateway

/-- An address of a host and a port. -/
inductive SocketAddress where
  /-- Four octets and a port. -/
  | v4 (octets : List Nat) (port : Nat)
  /-- Eight groups of sixteen bits, a scope and a port. -/
  | v6 (groups : List Nat) (scope port : Nat)
deriving DecidableEq, Repr, Inhabited

namespace SocketAddress

/-- The value of a digit of either case below a radix. -/
def digitBelow? (radix : Nat) (c : Char) : Option Nat :=
  let value :=
    if '0' ≤ c ∧ c ≤ '9' then some (c.toNat - '0'.toNat)
    else if 'a' ≤ c ∧ c ≤ 'z' then some (c.toNat - 'a'.toNat + 10)
    else if 'A' ≤ c ∧ c ≤ 'Z' then some (c.toNat - 'A'.toNat + 10)
    else none
  value.filter fun value => value < radix

/-- The digits at the front and what follows them. -/
def digitsBelow (radix : Nat) : List Char → List Nat × List Char
  | [] => ([], [])
  | c :: rest =>
    match digitBelow? radix c with
    | none => ([], c :: rest)
    | some digit =>
      let (digits, rest) := digitsBelow radix rest
      (digit :: digits, rest)

/-- How a number is written. -/
structure NumberFormat where
  radix : Nat
  /-- The greatest number of digits, if there is one. -/
  maxDigits : Option Nat
  /-- The greatest value. -/
  limit : Nat
  /-- Whether a number of several digits may start with a zero. -/
  leadingZeros : Bool

/-- The number at the front and what follows it. -/
def NumberFormat.read? (format : NumberFormat) (text : List Char) : Option (Nat × List Char) :=
  let (digits, rest) := digitsBelow format.radix text
  let value := digits.foldl (fun value digit => value * format.radix + digit) 0
  if digits.isEmpty || format.maxDigits.any (· < digits.length) ||
      (!format.leadingZeros && digits.head? == some 0 && 1 < digits.length) ||
      format.limit < value then none
  else some (value, rest)

def octetFormat : NumberFormat := ⟨10, some 3, 255, false⟩

def groupFormat : NumberFormat := ⟨16, some 4, 0xFFFF, true⟩

def portFormat : NumberFormat := ⟨10, none, 0xFFFF, true⟩

def scopeFormat : NumberFormat := ⟨10, none, 0xFFFFFFFF, true⟩

/-- What follows a character at the front. -/
def after? (c : Char) : List Char → Option (List Char)
  | [] => none
  | other :: rest => if other = c then some rest else none

/-- Four octets at the front. -/
def octets? (text : List Char) : Option (List Nat × List Char) := do
  let (a, text) ← octetFormat.read? text
  let (b, text) ← octetFormat.read? (← after? '.' text)
  let (c, text) ← octetFormat.read? (← after? '.' text)
  let (d, text) ← octetFormat.read? (← after? '.' text)
  some ([a, b, c, d], text)

def groupsOfOctets : List Nat → List Nat
  | [a, b, c, d] => [a * 256 + b, c * 256 + d]
  | _ => []

/-- At most `count` groups at the front, whether octets stood at their end, and what follows. -/
def groups : Nat → Bool → List Char → List Nat × Bool × List Char
  | 0, _, text => ([], false, text)
  | count + 1, first, text =>
    match if first then some text else after? ':' text with
    | none => ([], false, text)
    | some inner =>
      match if 0 < count then octets? inner else none with
      | some (octets, rest) => (groupsOfOctets octets, true, rest)
      | none =>
        match groupFormat.read? inner with
        | none => ([], false, text)
        | some (group, rest) =>
          let (others, octets, rest) := groups count false rest
          (group :: others, octets, rest)

/-- Eight groups at the front, of which a run of zeros may be left out. -/
def hostV6? (text : List Char) : Option (List Nat × List Char) := do
  let (head, octets, rest) := groups 8 true text
  if head.length = 8 then some (head, rest)
  else if octets then none
  else
    let rest ← after? ':' rest
    let rest ← after? ':' rest
    let (tail, _, rest) := groups (7 - head.length) true rest
    some (head ++ List.replicate (8 - head.length - tail.length) 0 ++ tail, rest)

/-- The port at the front, after its colon. -/
def port? (text : List Char) : Option (Nat × List Char) := do portFormat.read? (← after? ':' text)

/-- An address of the fourth version at the front. -/
def readV4? (text : List Char) : Option (SocketAddress × List Char) := do
  let (octets, text) ← octets? text
  let (port, text) ← port? text
  some (.v4 octets port, text)

/-- An address of the sixth version at the front. -/
def readV6? (text : List Char) : Option (SocketAddress × List Char) := do
  let (groups, text) ← hostV6? (← after? '[' text)
  let scopeRead := (after? '%' text).bind scopeFormat.read?
  let (scope, text) := scopeRead.getD (0, text)
  let (port, text) ← port? (← after? ']' text)
  some (.v6 groups scope port, text)

def parse? (text : List Char) : Option SocketAddress :=
  match (readV4? text).or (readV6? text) with
  | some (address, []) => some address
  | _ => none

def octetsText (octets : List Nat) : String := ".".intercalate (octets.map Nat.repr)

def groupsText (groups : List Nat) : String :=
  ":".intercalate (groups.map fun group => String.ofList (Nat.toDigits 16 group))

/-- The start and length of the first longest run of zeros, where `current` zeros lie before the
position `index` and `best` is the longest run so far. -/
def longestZeros : Nat → Nat → Nat × Nat → List Nat → Nat × Nat
  | _, _, best, [] => best
  | index, current, best, group :: rest =>
    if group = 0 then
      let run := current + 1
      longestZeros (index + 1) run (if best.2 < run then (index + 1 - run, run) else best) rest
    else longestZeros (index + 1) 0 best rest

/-- The text of eight groups. -/
def hostV6Text (groups : List Nat) : String :=
  match groups with
  | [0, 0, 0, 0, 0, 0xFFFF, high, low] =>
    "::ffff:" ++ octetsText [high / 256, high % 256, low / 256, low % 256]
  | _ =>
    let (start, length) := longestZeros 0 0 (0, 0) groups
    if 1 < length then
      groupsText (groups.take start) ++ "::" ++ groupsText (groups.drop (start + length))
    else groupsText groups

/-- The text of an address. -/
def text : SocketAddress → String
  | .v4 octets port => octetsText octets ++ ":" ++ Nat.repr port
  | .v6 groups scope port =>
    "[" ++ hostV6Text groups ++ (if scope = 0 then "" else "%" ++ Nat.repr scope) ++ "]:" ++
      Nat.repr port

end SocketAddress

end Gateway
