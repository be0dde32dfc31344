import Gateway.Json.Access
import Gateway.Table

/-! # Message bodies

The body of a message is a record of a declared type, or a JSON value as received. A record type
lists its fields with the type of each and the value it has when it is missing; reading one checks
the fields of a structure, ignores the rest and yields a record with every field present. A body
whose writing fails stands for one that an application could not serialize.
-/

namespace Gateway

/-- The body of a message. -/
inductive Body where
  /-- A record of the declared type `type`. -/
  | record (type : String) (fields : List (String × Json))
  /-- A value of no declared type. -/
  | whole (value : Json)
  /-- A body that cannot be written, and why. -/
  | unwritable (reason : String)
deriving Inhabited, Repr

namespace Body

/-- The JSON value of a body, or why it has none. -/
def toJson : Body → Except String Json
  | .record _ fields => .ok (.ofFields fields)
  | .whole value => .ok value
  | .unwritable reason => .error reason

/-- The text in a field of a record of the given type. -/
def text? (type name : String) : Body → Option String
  | .record actual fields =>
    if actual = type then
      match Json.findField name fields with
      | some (.string text) => some text
      | _ => none
    else none
  | _ => none

def isRecord (type : String) : Body → Bool
  | .record actual _ => actual = type
  | _ => false

end Body

/-- The type of a record's field. -/
inductive FieldType where
  | text
  | integer (low high : Int)
  | flag
  | texts
  | optionalText
deriving DecidableEq, Repr

def Json.isString : Json → Bool
  | .string _ => true
  | _ => false

/-- The value of a field, if it is of the field's type. -/
def FieldType.read? : FieldType → Json → Option Json
  | .text, .string content => some (.string content)
  | .integer low high, .int value => if low ≤ value ∧ value ≤ high then some (.int value) else none
  | .flag, .bool value => some (.bool value)
  | .texts, .array items => if items.all Json.isString then some (.array items) else none
  | .optionalText, .null => some .null
  | .optionalText, .string content => some (.string content)
  | _, _ => none

/-- A field of a record type. -/
structure Field where
  name : String
  type : FieldType
  /-- What a missing field stands for; without it, the field has to be there. -/
  missing : Option Json

def Field.read? (field : Field) (fields : List (String × Json)) : Option (String × Json) :=
  match Json.findField field.name fields with
  | some found => (field.type.read? found).map (field.name, ·)
  | none => field.missing.map (field.name, ·)

structure RecordType where
  name : String
  fields : List Field

def RecordType.read? (type : RecordType) (value : Json) : Option Body := do
  let found ← value.record? (type.fields.map Field.name)
  let fields ← type.fields.mapM fun (field : Field) => field.read? found
  some (.record type.name fields)

/-- How the body of one type of message is read from the received object. -/
structure BodyType where
  read? : Json → Option Body

def RecordType.bodyType (type : RecordType) : BodyType := ⟨type.read?⟩

def BodyType.whole : BodyType := ⟨fun value => some (.whole value)⟩

end Gateway
