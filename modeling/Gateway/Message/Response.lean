import Gateway.Key
import Gateway.Message.Descriptor

/-! # Responses

The one shape that every processed message is answered with. The keys under which a handler wants
the connection to be found travel with the response inside the gateway and are never written. A
response that is read from text has no such keys.
-/

namespace Gateway

/-- How processing a message ended. -/
inductive Status where
  | success
  | failure
  | warning
  | info
  | alert
  | critical
deriving DecidableEq, Repr, Inhabited

/-- The name of a status. -/
def Status.name : Status → String
  | .success => "SUCCESS"
  | .failure => "FAILURE"
  | .warning => "WARNING"
  | .info => "INFO"
  | .alert => "ALERT"
  | .critical => "CRITICAL"

/-- The status of a name. -/
def Status.ofName? : String → Option Status
  | "SUCCESS" => some .success
  | "FAILURE" => some .failure
  | "WARNING" => some .warning
  | "INFO" => some .info
  | "ALERT" => some .alert
  | "CRITICAL" => some .critical
  | _ => none

/-- The answer to a message. -/
structure Response where
  /-- The type that the answer is written with. -/
  kind : String
  status : Status
  /-- What failed. -/
  error : Option Descriptor
  /-- The items of the answer. -/
  payload : Option (List Json)
  /-- The keys under which the connection is to be found, in order. -/
  keys : Option (List Key)
  /-- The id of the message that is answered. -/
  id : Int64
  /-- The identity of the client that is answered. -/
  identity : Option Identity
deriving Inhabited, Repr

namespace Response

/-- The type of every answer that the gateway builds. -/
def standardKind : String := "RESPONSE"

/-- An answer with a payload, which is left out when it is empty. -/
def build (status : Status) (error : Option Descriptor) (payload : List Json) : Response where
  kind := standardKind
  status := status
  error := error
  payload := if payload.isEmpty then none else some payload
  keys := none
  id := 0
  identity := none

def success (payload : List Json) : Response := build .success none payload

def failure (error : Descriptor) (payload : List Json) : Response :=
  build .failure (some error) payload

def isSuccess (response : Response) : Bool := response.status = .success

def isFailure (response : Response) : Bool := response.status = .failure

/-- The answer with the keys under which the connection is to be found, in order and each once. -/
def withKeys (response : Response) (keys : List Key) : Response :=
  { response with keys := if keys.isEmpty then none else some (Key.sortOnce keys) }

def withId (response : Response) (id : Int64) : Response := { response with id := id }

/-- A field that is written only when it has a value. -/
def presentField (name : String) (text : α → String) : Option α → List (String × String)
  | none => []
  | some value => [(name, text value)]

/-- The JSON text of an answer. -/
def wire (response : Response) : String :=
  Json.objectText <|
    [("type", Json.quote response.kind), ("responseCode", Json.quote response.status.name)] ++
      presentField "error" Descriptor.wire response.error ++
      presentField "payload" (fun items => Json.arrayText (Json.renderItems items))
        response.payload ++
      [("id", toString response.id.toInt)] ++
      presentField "systemId" (fun id => toString id.value.toNat) response.identity

/-- The answer written by a tree. -/
def ofTree? (tree : Json.Tree) : Option Response := do
  let fields ← tree.record? ["type", "responseCode", "error", "payload", "id", "systemId"]
  let kind ← Json.Tree.optional? fields "type" standardKind Json.Tree.string?
  let status ← Json.Tree.required? fields "responseCode" fun tree =>
    tree.case?.bind Status.ofName?
  let error ← Json.Tree.optional? fields "error" none
    (Json.Tree.nullable? (Descriptor.ofTree? (Json.maxDepth - 3)))
  let payload ← Json.Tree.optional? fields "payload" none
    (Json.Tree.nullable? (Json.Tree.values? (Json.maxDepth - 2)))
  let id ← Json.Tree.optional? fields "id" 0
    (Json.Tree.int? Int64.minValue.toInt Int64.maxValue.toInt)
  let identity ← Json.Tree.optional? fields "systemId" none
    (Json.Tree.nullable? (Json.Tree.int? 0 (UInt64.size - 1)))
  some {
    kind := kind
    status := status
    error := error
    payload := payload
    keys := none
    id := Int64.ofInt id
    identity := identity.map fun id => ⟨UInt64.ofNat id.toNat⟩ }

def parse? (bytes : Bytes) : Option Response := (Json.Tree.parse? bytes).bind ofTree?

end Response

end Gateway
