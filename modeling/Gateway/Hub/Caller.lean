import Gateway.Hub.Sessions
import Gateway.Hub.Sockets

/-! # Callers

Whoever talks to the gateway: a socket at an endpoint, a session of the web, or a session of the
process itself. Connecting, sending a message and disconnecting mean the same for each of them, over
the directory of the caller's desk.
-/

namespace Gateway

/-- Who talks to the gateway. -/
inductive Caller where
  | socket (endpoint : Endpoint) (id : ConnectionId)
  | web (session : WebSession)
  /-- A session of the process, the name through which it is reached, and its addresses. -/
  | inProcess (session handle : String) (addresses : Addresses)
deriving DecidableEq, Repr

namespace Caller

def desk : Caller → Desk
  | .socket endpoint _ => .sockets endpoint.desk
  | .web _ => .web
  | .inProcess _ _ _ => .inProcess

def transport (application : Application α) : Caller → Transport
  | .socket endpoint _ => endpoint.transport
  | .web _ => .web
  | .inProcess _ _ _ => application.inProcessTransport

end Caller

/-- What a directory holds under a key. -/
inductive Handle where
  | connection (id : ConnectionId)
  | web (session : WebSession)
  | inProcess (name : String)
deriving DecidableEq, Repr

namespace Hub

variable {α : Type}

def greet (hub : Hub α) : Caller → Identity × Hub α
  | .socket endpoint id => hub.connect endpoint id
  | .web session => hub.connectWeb session
  | .inProcess session handle _ => hub.connectInProcess session handle

/-- What becomes of a frame from a caller. A caller without a socket is handed its response. -/
def receive (hub : Hub α) (application : Application α) (frame : Frame) :
    Caller → MessageResult × Hub α
  | .socket endpoint id => hub.message application endpoint id frame
  | .web session =>
    let (response, hub) := hub.messageWeb application session frame.bytes
    (⟨some response, .sent⟩, hub)
  | .inProcess session handle addresses =>
    let (response, hub) := hub.messageInProcess application session handle addresses frame.bytes
    (⟨some response, .sent⟩, hub)

/-- Sends a frame to a caller. Nothing is ever sent to a caller without a socket. -/
def sendTo (hub : Hub α) (frame : Frame) : Caller → Delivery × Hub α
  | .socket endpoint id => hub.send endpoint id frame
  | .web _ => (.sent, hub)
  | .inProcess _ _ _ => (.sent, hub)

/-- Reports a failure that no message gave rise to. -/
def sendErrorTo (hub : Hub α) (application : Application α) (code : ErrorCode)
    (parameters : List Json) : Caller → Delivery × Hub α
  | .socket endpoint id => hub.sendError application endpoint id code parameters
  | .web _ => (.sent, hub)
  | .inProcess _ _ _ => (.sent, hub)

def dismiss (hub : Hub α) : Caller → Hub α
  | .socket endpoint id => hub.disconnect endpoint id
  | .web session => hub.disconnectWeb session
  | .inProcess session handle _ => hub.disconnectInProcess session handle

def identity? (hub : Hub α) : Caller → Option Identity
  | .socket endpoint id => (hub.desks.get endpoint.desk).roster.get? id
  | .web session => hub.web.roster.get? session.id
  | .inProcess session _ _ => hub.inProcess.roster.get? session

def keysOf (hub : Hub α) : Caller → List Key
  | .socket endpoint id => (hub.desks.get endpoint.desk).handles.keysHolding Key.le id
  | .web session => hub.web.handles.keysHolding Key.le session
  | .inProcess _ handle _ => hub.inProcess.handles.keysHolding Key.le handle

def keysAt (hub : Hub α) : Desk → List Key
  | .sockets desk => (hub.desks.get desk).handles.keys Key.le
  | .web => hub.web.handles.keys Key.le
  | .inProcess => hub.inProcess.handles.keys Key.le

/-- How many sessions of a desk have an identity. -/
def trackedAt (hub : Hub α) : Desk → Nat
  | .sockets desk => (hub.desks.get desk).roster.size
  | .web => hub.web.roster.size
  | .inProcess => hub.inProcess.roster.size

/-- What is found under a key at a desk. Its expiry starts anew. -/
def find (hub : Hub α) (key : Key) : Desk → Option Handle × Hub α
  | .sockets desk =>
    let (found, hub) := hub.findSocket desk key
    (found.map .connection, hub)
  | .web =>
    let (found, web, removed) := hub.web.find hub.now key
    (found.map .web, { hub with web := web }.announce (removals .web removed))
  | .inProcess =>
    let (found, inProcess, removed) := hub.inProcess.find hub.now key
    (found.map .inProcess,
      { hub with inProcess := inProcess }.announce (removals .inProcess removed))

end Hub

end Gateway
