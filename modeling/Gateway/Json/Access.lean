import Gateway.Json.Basic

/-! # Looking into values

What a value is, if it is of one kind, and what structure it is: an object, whose unknown fields do
not matter, or an array of its fields in order, of which some at the end may be missing. Where a
single field of an object is read, one that is null counts as missing.
-/

namespace Gateway.Json

def asString? : Json → Option String
  | .string text => some text
  | _ => none

def asInt? : Json → Option Int
  | .int value => some value
  | _ => none

def asBool? : Json → Option Bool
  | .bool value => some value
  | _ => none

def asArray? : Json → Option (List Json)
  | .array items => some items
  | _ => none

/-- The name of a case of an enumeration: a string, or an object that binds the name to null. -/
def case? : Json → Option String
  | .string name => some name
  | .object [(name, .null)] => some name
  | _ => none

/-- The fields of a structure with the given field names. -/
def record? (known : List String) : Json → Option (List (String × Json))
  | .object fields => some fields
  | .array items => if items.length ≤ known.length then some (known.zip items) else none
  | _ => none

/-- What is read from a field, unless it is missing or null. -/
def read? (json : Json) (name : String) (read : Json → Option β) : Option β :=
  match json.field? name with
  | none => none
  | some .null => none
  | some value => read value

end Gateway.Json
