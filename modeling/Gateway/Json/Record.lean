import Gateway.Json.Tree

/-! # Structures read from JSON text

Readers for trees that are to become a structure rather than a value. A structure is written as an
object, whose unknown fields are skipped and none of whose known fields may be repeated, or as an
array of its fields in order. What is skipped is held to the grammar of JSON only. A case of an
enumeration is written as its name, or as an object that binds the name to null.
-/

namespace Gateway.Json.Tree

def string? : Tree → Option String
  | .string pieces => text? pieces
  | _ => none

/-- A whole number within bounds. -/
def int? (low high : Int) : Tree → Option Int
  | .number literal =>
    match literal.value? with
    | some (.int value) => if low ≤ value ∧ value ≤ high then some value else none
    | _ => none
  | _ => none

def case? : Tree → Option String
  | .string pieces => text? pieces
  | .object [(name, .null)] => text? name
  | _ => none

/-- What `read` makes of a tree, or nothing of null. -/
def nullable? (read : Tree → Option α) : Tree → Option (Option α)
  | .null => some none
  | tree => (read tree).map some

/-- The values of an array whose items nest at most `limit` deep. -/
def values? (limit : Nat) : Tree → Option (List Json)
  | .array items => itemValues? limit items
  | _ => none

/-- The known fields of an object, each at most once. -/
def knownFields? (known : List String) : List (List Piece × Tree) → Option (List (String × Tree))
  | [] => some []
  | (name, tree) :: rest => do
    let name ← text? name
    let fields ← knownFields? known rest
    if known.contains name then
      if fields.any fun field => field.1 == name then none else some ((name, tree) :: fields)
    else some fields

/-- The fields of a structure with the given field names. -/
def record? (known : List String) : Tree → Option (List (String × Tree))
  | .object fields => knownFields? known fields
  | .array items => if items.length ≤ known.length then some (known.zip items) else none
  | _ => none

/-- A field that has to be there. -/
def required? (fields : List (String × Tree)) (name : String) (read : Tree → Option α) : Option α :=
  (fields.lookup name).bind read

/-- A field that has a value when it is missing. -/
def optional? (fields : List (String × Tree)) (name : String) (missing : α)
    (read : Tree → Option α) : Option α :=
  match fields.lookup name with
  | some tree => read tree
  | none => some missing

end Gateway.Json.Tree
