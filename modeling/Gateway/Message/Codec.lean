import Gateway.Message.Descriptor
import Gateway.Message.Envelope

/-! # Envelope codec

An envelope is written as one JSON object: the fields of its body, and the header fields `type`,
`id` and `systemId`, which win over fields of the body with these names. Decoding reads the type
first and then the object as the body of that type. A decoding failure is one of four: no message,
no type, an unknown type, or a malformed message whose type is named when it could be read.
-/

namespace Gateway

/-- Why an envelope cannot be decoded or encoded. -/
inductive CodecError where
  /-- The input is blank or null. -/
  | noMessage
  /-- The input is no object with a type. -/
  | noType
  /-- The type is not in the table. -/
  | unknownType (kind : String)
  /-- The input is no JSON text, or its fields are not those of the type, which is named. -/
  | malformedBody (kind : Option String)
  /-- The body has no object to write. -/
  | unencodable (kind reason : String)
deriving DecidableEq, Repr

namespace CodecError

/-- The code under which the failure is reported. -/
def code : CodecError → ErrorCode
  | .noMessage => ErrorCode.noMessage
  | .noType => ErrorCode.noType
  | .unknownType _ => ErrorCode.unknownMessage
  | .malformedBody _ => ErrorCode.malformedMessage
  | .unencodable _ _ => ErrorCode.unexpectedError

/-- The parameters for the template of the code. -/
def parameters : CodecError → List Json
  | .unknownType kind => [.string kind]
  | .malformedBody (some kind) => [.string kind]
  | _ => []

/-- The failure in words, for the gateway's side. -/
def message : CodecError → String
  | .noMessage => "No message"
  | .noType => "No type specified"
  | .unknownType kind => "Unknown message type: " ++ kind
  | .malformedBody _ => "Malformed message body"
  | .unencodable kind reason => "Cannot encode " ++ kind ++ ": " ++ reason

end CodecError

/-- A table of the types of messages that can be decoded. -/
structure Codec where
  types : Table String BodyType

namespace Codec

/-- The correlation id of an object: zero when it is missing or null. -/
def readId? (fields : List (String × Json)) : Option Int64 :=
  match Json.findField "id" fields with
  | none => some 0
  | some .null => some 0
  | some (.int value) =>
    if Int64.minValue.toInt ≤ value ∧ value ≤ Int64.maxValue.toInt then some (Int64.ofInt value)
    else none
  | some _ => none

/-- The identity that an object claims: none when it is missing or null. -/
def readIdentity? (fields : List (String × Json)) : Option (Option Identity) :=
  match Json.findField "systemId" fields with
  | none => some none
  | some .null => some none
  | some (.int value) =>
    if 0 ≤ value ∧ value < UInt64.size then some (some ⟨UInt64.ofNat value.toNat⟩) else none
  | some _ => none

/-- The type of an object, if it has one that is not empty. -/
def readKind? (fields : List (String × Json)) : Option String :=
  match Json.findField "type" fields with
  | some (.string kind) => if kind = "" then none else some kind
  | _ => none

/-- The envelope in an object of a type whose bodies are known. -/
def readEnvelope? (bodyType : BodyType) (kind : String) (fields : List (String × Json)) :
    Option Envelope := do
  let id ← readId? fields
  let identity ← readIdentity? fields
  let body ← bodyType.read? (.object fields)
  some (.ofParts kind id identity body)

/-- The envelope in a JSON value. -/
def decodeJson (codec : Codec) : Json → Except CodecError Envelope
  | .null => .error .noMessage
  | .object fields =>
    match readKind? fields with
    | none => .error .noType
    | some kind =>
      match codec.types.get? kind with
      | none => .error (.unknownType kind)
      | some bodyType =>
        match readEnvelope? bodyType kind fields with
        | none => .error (.malformedBody (some kind))
        | some envelope => .ok envelope
  | _ => .error .noType

/-- The envelope in a byte string. -/
def decode (codec : Codec) (bytes : Bytes) : Except CodecError Envelope :=
  if bytes.all isBlankByte then .error .noMessage
  else
    match Json.parse? bytes with
    | none => .error (.malformedBody none)
    | some value => codec.decodeJson value

/-- The fields of a body with the header fields over them. -/
def headed (envelope : Envelope) (fields : List (String × Json)) : List (String × Json) :=
  let typed := Json.setField "type" (.string envelope.kind) fields
  let numbered := Json.setField "id" (.int envelope.id.toInt) typed
  match envelope.identity with
  | some id => Json.setField "systemId" (.int id.value.toNat) numbered
  | none => Json.dropField "systemId" numbered

/-- The object in which an envelope is written. A body that is null has no fields. -/
def toJson (envelope : Envelope) : Except CodecError Json :=
  match envelope.body.toJson with
  | .ok (.object fields) => .ok (.object (headed envelope fields))
  | .ok .null => .ok (.object (headed envelope []))
  | .ok other =>
    .error (.unencodable envelope.kind ("body is not an object: " ++ other.render))
  | .error reason => .error (.unencodable envelope.kind reason)

def encode (envelope : Envelope) : Except CodecError String := (toJson envelope).map Json.render

end Codec

end Gateway
