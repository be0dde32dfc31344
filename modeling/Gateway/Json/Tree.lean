import Gateway.Json.Token

/-! # JSON text as a tree

The grammatical half of reading JSON: tokens become a tree that keeps everything a reader of some
structure may want to refuse: the spelling of each number, the pieces of each string and every field
of an object, in order and with repetitions. `value?` turns a tree into a value. It asks that
strings be well-formed, that numbers be in range and that arrays and objects nest at most as deep as
a given limit; a repeated field keeps its last value.
-/

namespace Gateway.Json

/-- JSON text of one value. -/
inductive Tree where
  | null
  | bool (value : Bool)
  | number (literal : Literal)
  | string (pieces : List Piece)
  | array (items : List Tree)
  | object (fields : List (List Piece × Tree))
deriving Inhabited, Repr

namespace Tree

mutual

/-- The value at the front of a list of tokens. -/
def read? : Nat → List Token → Option (Tree × List Token)
  | 0, _ => none
  | _, [] => none
  | fuel + 1, token :: rest =>
    match token with
    | .null => some (.null, rest)
    | .bool value => some (.bool value, rest)
    | .number literal => some (.number literal, rest)
    | .string pieces => some (.string pieces, rest)
    | .leftBracket =>
      match rest with
      | .rightBracket :: rest => some (.array [], rest)
      | rest => (readItems? fuel rest).map fun (items, rest) => (.array items, rest)
    | .leftBrace =>
      match rest with
      | .rightBrace :: rest => some (.object [], rest)
      | rest => (readFields? fuel rest).map fun (fields, rest) => (.object fields, rest)
    | _ => none

/-- The items of an array, up to its closing bracket. -/
def readItems? : Nat → List Token → Option (List Tree × List Token)
  | 0, _ => none
  | fuel + 1, tokens => do
    let (item, rest) ← read? fuel tokens
    match rest with
    | .comma :: rest =>
      let (items, rest) ← readItems? fuel rest
      some (item :: items, rest)
    | .rightBracket :: rest => some ([item], rest)
    | _ => none

/-- The fields of an object, up to its closing brace. -/
def readFields? : Nat → List Token → Option (List (List Piece × Tree) × List Token)
  | 0, _ => none
  | fuel + 1, .string name :: .colon :: tokens => do
    let (value, rest) ← read? fuel tokens
    match rest with
    | .comma :: rest =>
      let (fields, rest) ← readFields? fuel rest
      some ((name, value) :: fields, rest)
    | .rightBrace :: rest => some ([(name, value)], rest)
    | _ => none
  | _ + 1, _ => none

end

/-- The tree of a JSON text: one value and nothing after it. A value reads at most two levels of
calls for each token, so twice the number of tokens is fuel enough. -/
def parse? (bytes : Bytes) : Option Tree := do
  let tokens ← tokens? bytes
  match ← read? (2 * tokens.length + 1) tokens with
  | (tree, []) => some tree
  | _ => none

mutual

/-- The value of a tree whose arrays and objects nest at most `limit` deep. -/
def value? : Nat → Tree → Option Json
  | _, .null => some .null
  | _, .bool value => some (.bool value)
  | _, .number literal => literal.value?
  | _, .string pieces => (text? pieces).map .string
  | 0, .array _ => none
  | limit + 1, .array items => (itemValues? limit items).map .array
  | 0, .object _ => none
  | limit + 1, .object fields => (fieldValues? limit fields).map Json.ofFields

/-- The values of a list of trees. -/
def itemValues? : Nat → List Tree → Option (List Json)
  | _, [] => some []
  | limit, item :: rest => do
    let value ← value? limit item
    let values ← itemValues? limit rest
    some (value :: values)

/-- The names and values of a list of fields. -/
def fieldValues? : Nat → List (List Piece × Tree) → Option (List (String × Json))
  | _, [] => some []
  | limit, (name, tree) :: rest => do
    let name ← text? name
    let value ← value? limit tree
    let values ← fieldValues? limit rest
    some ((name, value) :: values)

end

end Tree

/-- How deep arrays and objects may nest. -/
def maxDepth : Nat := 127

def parse? (bytes : Bytes) : Option Json := do
  let tree ← Tree.parse? bytes
  tree.value? maxDepth

end Gateway.Json
