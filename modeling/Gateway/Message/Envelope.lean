import Gateway.Key
import Gateway.Message.Body

/-! # Envelopes

A message with its header: a type, the client's correlation id, and what the gateway knows of the
session it arrived on. The session's part is stamped by the gateway; decoding leaves the transport
and the addresses empty.
-/

namespace Gateway

/-- How a message arrived. -/
inductive Transport where
  | raw
  | websocket
  | web
deriving DecidableEq, Repr, Inhabited

namespace Transport

def label : Transport → String
  | .raw => "raw"
  | .websocket => "websocket"
  | .web => "web"

def name : Transport → String
  | .raw => "RAW"
  | .websocket => "WEBSOCKET"
  | .web => "WEB"

/-- The transport of a name. -/
def ofName? : String → Option Transport
  | "RAW" => some .raw
  | "WEBSOCKET" => some .websocket
  | "WEB" => some .web
  | _ => none

def parse? (bytes : Bytes) : Option Transport :=
  (Json.Tree.parse? bytes).bind fun tree => tree.case?.bind ofName?

end Transport

/-- The two ends of a session. -/
structure Addresses where
  /-- The gateway's side. -/
  gateway : Option String
  /-- The client's side. -/
  client : Option String
deriving DecidableEq, Repr, Inhabited

/-- A message with its header. -/
structure Envelope where
  /-- The type of the message. -/
  kind : String
  /-- The client's id for the message. -/
  id : Int64
  identity : Option Identity
  transport : Option Transport
  addresses : Addresses
  body : Body
deriving Inhabited, Repr

/-- An envelope that no session has stamped. -/
def Envelope.ofParts (kind : String) (id : Int64) (identity : Option Identity) (body : Body) :
    Envelope :=
  ⟨kind, id, identity, none, ⟨none, none⟩, body⟩

/-- The envelope with the identity, transport and addresses of the session it arrived on. -/
def Envelope.stamp (envelope : Envelope) (id : Identity) (transport : Transport)
    (addresses : Addresses) : Envelope :=
  { envelope with identity := some id, transport := some transport, addresses := addresses }

end Gateway
