import Gateway.Hub

/-! # Socket sessions

What the hub does for a socket at an endpoint: connect it, answer its messages, send to it and
forget it. At the padded endpoints the pair of a connection is named after the client's address.
While that pair has an active pad, what arrives is combined with it before it is decoded, and every
frame that goes out is combined with the pad that is active at that moment and becomes binary.
-/

namespace Gateway

def unmaskCounter : String := "otp decrypt"

def maskCounter : String := "otp encrypt"

/-- What becomes of a message: the response, if the message was processed, and what became of the
frame that was sent in reply. -/
structure MessageResult where
  response : Option Response
  delivery : Delivery

namespace Hub

variable {α : Type}

/-- How the messages at an endpoint are dispatched. -/
def socketDispatcher (hub : Hub α) (application : Application α) (endpoint : Endpoint) :
    Dispatcher ConnectionId ConnectionId (Floor α) where
  transport := endpoint.transport
  codec := application.codec
  describe := application.describe
  admits := fun _ => true
  serve := fun directory envelope floor =>
    let shared := if endpoint.desk = .shared then directory else hub.desks.shared
    (application.pipeline (resolve shared)).serve envelope floor

/-- The pair that a connection at a padded endpoint belongs to. -/
def pairKey? (hub : Hub α) (id : ConnectionId) : Option Key :=
  (hub.channels.info id).addresses.client.map .name

/-- The pad that is active for a connection. -/
def padOf (hub : Hub α) (id : ConnectionId) : Option Bytes × Hub α :=
  match hub.pairKey? id with
  | none => (none, hub)
  | some key =>
    let (pad, channels) := hub.channels.activePad key
    (pad, { hub with channels := channels })

/-- The bytes that a frame stands for on arrival. -/
def unmask (hub : Hub α) (id : ConnectionId) (frame : Frame) : Except PadError Bytes × Hub α :=
  match hub.padOf id with
  | (none, hub) => (.ok frame.bytes, hub)
  | (some pad, hub) => (Pad.apply pad frame.bytes, hub.count unmaskCounter)

/-- The frame as it goes on the wire. -/
def mask (hub : Hub α) (id : ConnectionId) (frame : Frame) : Except SendError Frame × Hub α :=
  match hub.padOf id with
  | (none, hub) => (.ok frame, hub)
  | (some pad, hub) =>
    let hub := hub.count maskCounter
    match Pad.apply pad frame.bytes with
    | .ok bytes => (.ok (.binary bytes), hub)
    | .error _ => (.error .encrypt, hub)

/-- Queues a frame on a connection as it is. -/
def sendPlain (hub : Hub α) (id : ConnectionId) (frame : Frame) : Delivery × Hub α :=
  let (delivery, channels) := hub.channels.send id frame
  (delivery, { hub with channels := channels })

/-- Sends a frame to a connection at an endpoint. -/
def send (hub : Hub α) (endpoint : Endpoint) (id : ConnectionId) (frame : Frame) :
    Delivery × Hub α :=
  if endpoint.isPadded then
    match hub.mask id frame with
    | (.ok frame, hub) => hub.sendPlain id frame
    | (.error error, hub) => (.refused error, hub)
  else hub.sendPlain id frame

/-- The frame that a response is sent in. Only WebSockets are answered in text. -/
def replyTo (endpoint : Endpoint) (text : Bool) (response : Response) : Frame :=
  if text && endpoint.transport = .websocket then .text response.wire
  else .binary (utf8 response.wire)

/-- Reports a failure that no message gave rise to. -/
def sendError (hub : Hub α) (application : Application α) (endpoint : Endpoint) (id : ConnectionId)
    (code : ErrorCode) (parameters : List Json) : Delivery × Hub α :=
  hub.send endpoint id
    (replyTo endpoint true (Response.failure (application.describe code parameters) []))

/-- Sends a frame to whichever connection is registered under a key at an endpoint. There is no
delivery when none is. -/
def push (hub : Hub α) (endpoint : Endpoint) (key : Key) (frame : Frame) :
    Option (ConnectionId × Delivery) × Hub α :=
  match hub.findSocket endpoint.desk key with
  | (none, hub) => (none, hub)
  | (some id, hub) =>
    let (delivery, hub) := hub.send endpoint id frame
    (some (id, delivery), hub)

/-- The hub with a connection at a padded endpoint in the clear side of its pair. A connection that
cannot be paired goes on without. -/
def registerClear (hub : Hub α) (id : ConnectionId) : Hub α :=
  match hub.pairKey? id with
  | none => hub
  | some key => { hub with channels := (hub.channels.joinClear key id).2 }

/-- The identity of a connection that arrives at an endpoint. -/
def connect (hub : Hub α) (endpoint : Endpoint) (id : ConnectionId) : Identity × Hub α :=
  let connected := (hub.desks.get endpoint.desk).connect hub.commons.mint hub.now id id
  let hub :=
    { hub with
      desks := hub.desks.set endpoint.desk connected.directory
      commons := { hub.commons with mint := connected.mint } }.announce
        (removals (.sockets endpoint.desk) connected.removed)
  (connected.id, if endpoint.isPadded then hub.registerClear id else hub)

/-- The response to bytes that arrived from a connection at an endpoint. -/
def dispatchBytes (hub : Hub α) (application : Application α) (endpoint : Endpoint)
    (id : ConnectionId) (bytes : Bytes) : Response × Hub α :=
  let (response, state) :=
    (hub.socketDispatcher application endpoint).dispatch hub.now id id
      (hub.channels.info id).addresses bytes
      ⟨hub.desks.get endpoint.desk, hub.commons, ⟨hub.channels, hub.own⟩⟩
  (response,
    { hub with
      desks := hub.desks.set endpoint.desk state.directory
      commons := state.commons
      channels := state.rest.channels
      own := state.rest.own })

/-- The response to bytes, sent back to the connection. -/
def answerBytes (hub : Hub α) (application : Application α) (endpoint : Endpoint)
    (id : ConnectionId) (text : Bool) (bytes : Bytes) : MessageResult × Hub α :=
  let (response, hub) := hub.dispatchBytes application endpoint id bytes
  let (delivery, hub) := hub.send endpoint id (replyTo endpoint text response)
  (⟨some response, delivery⟩, hub)

/-- What becomes of a frame that arrives from a connection at an endpoint. -/
def message (hub : Hub α) (application : Application α) (endpoint : Endpoint) (id : ConnectionId)
    (frame : Frame) : MessageResult × Hub α :=
  if endpoint.isPadded then
    match hub.unmask id frame with
    | (.ok bytes, hub) => hub.answerBytes application endpoint id frame.isText bytes
    | (.error _, hub) =>
      let (delivery, hub) := hub.sendError application endpoint id ErrorCode.invalidPad []
      (⟨none, delivery⟩, hub)
  else hub.answerBytes application endpoint id frame.isText frame.bytes

def disconnect (hub : Hub α) (endpoint : Endpoint) (id : ConnectionId) : Hub α :=
  let (directory, notices) := (hub.desks.get endpoint.desk).disconnect hub.now id id
  { hub with desks := hub.desks.set endpoint.desk directory }.announce
    (notices.map (deskNotice (.sockets endpoint.desk)))

end Hub

end Gateway
