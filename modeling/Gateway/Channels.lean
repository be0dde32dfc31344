import Gateway.Channel.Pair
import Gateway.Pad.Store
import Gateway.Pad.Transform

/-! # Connections, pairs and pads

The part of the gateway that handlers of messages may change: the open connections, the pairs they
belong to, the pads of those pairs, and who is told when a connection closes. Whatever anyone is
told is written down in a journal, oldest first.
-/

namespace Gateway

/-- A directory of socket connections. -/
inductive SocketDesk where
  | raw
  | websocket
  | padRaw
  /-- The desk shared by the secure sockets and the clear ones that pads apply to. -/
  | shared
deriving DecidableEq, Repr, Inhabited

/-- A directory of sessions. -/
inductive Desk where
  | sockets (desk : SocketDesk)
  | web
  | inProcess
deriving DecidableEq, Repr, Inhabited

/-- Something that the gateway told a listener. -/
inductive Notice where
  /-- A connection closed, told to the subscriber with this label. -/
  | closed (subscriber : String) (id : ConnectionId)
  /-- A pair is gone. -/
  | pairRemoved (key : Key)
  /-- A key is gone from a registry of sessions. -/
  | unregistered (desk : Desk) (key : Key)
  /-- Whatever is held for a key is to be released. -/
  | cleanup (key : Key)
deriving DecidableEq, Repr

/-- What a subscriber does when a connection closes. -/
inductive Reaction where
  | ignore
  /-- Closes further connections, in order. -/
  | close (targets : ConnectionId → List ConnectionId)
  /-- Looks at the pairs that the connection belongs to. -/
  | retirePairs

/-- Someone who is told of closing connections. -/
structure Subscriber where
  label : String
  reaction : Reaction

/-- The state that handlers of messages may change. -/
structure Channels where
  now : Nat
  connections : Table ConnectionId Connection
  /-- In the order in which they are told. -/
  subscribers : List Subscriber
  pairs : Registry Key Pair
  pads : PadStore
  /-- The size of the pads that the gateway generates. -/
  padSize : Nat
  entropy : Entropy
  /-- The pads handed out so far, oldest first. -/
  handedOut : List Bytes
  journal : List Notice

namespace Channels

/-- The channels before anything happened. -/
def initial (subscribers : List Subscriber) (pendingTtl padSize : Nat) (entropy : Entropy) :
    Channels where
  now := 0
  connections := .empty
  subscribers := subscribers
  pairs := .empty none
  pads := .empty pendingTtl
  padSize := padSize
  entropy := entropy
  handedOut := []
  journal := []

def announce (channels : Channels) (notices : List Notice) : Channels :=
  { channels with journal := channels.journal ++ notices }

def connection? (channels : Channels) (id : ConnectionId) : Option Connection :=
  channels.connections.get? id

def isActive (channels : Channels) (id : ConnectionId) : Bool :=
  (channels.connection? id).any Connection.active

def isSecure (channels : Channels) (id : ConnectionId) : Bool :=
  (channels.connection? id).any fun connection => connection.info.secure

/-- What is known of a connection; nothing is known of one that is not there. -/
def info (channels : Channels) (id : ConnectionId) : ConnectionInfo :=
  ((channels.connection? id).map Connection.info).getD ⟨⟨none, none⟩, false⟩

def openConnection (channels : Channels) (id : ConnectionId) (info : ConnectionInfo)
    (buffer : Nat) : Channels :=
  { channels with connections := channels.connections.insert id (.opened info buffer) }

/-- The channels with another state of a connection that is there. -/
def setConnection (channels : Channels) (id : ConnectionId) (connection : Connection) : Channels :=
  { channels with connections := channels.connections.modify id fun _ => connection }

/-- Sends a frame on a connection. -/
def send (channels : Channels) (id : ConnectionId) (frame : Frame) : Delivery × Channels :=
  match channels.connection? id with
  | none => (.refused .closed, channels)
  | some connection =>
    let (delivery, connection) := connection.send frame
    (delivery, channels.setConnection id connection)

/-- Sends a frame on a connection if there is room for it. -/
def offer (channels : Channels) (id : ConnectionId) (frame : Frame) :
    Except SendError Unit × Channels :=
  match channels.connection? id with
  | none => (.error .closed, channels)
  | some connection =>
    let (result, connection) := connection.offer frame
    (result, channels.setConnection id connection)

/-- Takes the oldest frame that waits on a connection. -/
def receive (channels : Channels) (id : ConnectionId) : Option Frame × Channels :=
  match channels.connection? id with
  | none => (none, channels)
  | some connection =>
    let (frame, connection) := connection.receive
    (frame, channels.setConnection id connection)

/-- The channels where nobody receives the frames of a connection any more. -/
def dropReceiver (channels : Channels) (id : ConnectionId) : Channels :=
  { channels with connections := channels.connections.modify id Connection.dropReceiver }

def deactivate (channels : Channels) (id : ConnectionId) : Channels :=
  { channels with connections := channels.connections.modify id Connection.deactivated }

/-- The channels without the pair of a key, if neither of its channels is active: whoever listens is
told, after the pads of the pair are revoked. -/
def retire (channels : Channels) (key : Key) : Channels :=
  let step := channels.pairs.removeWhen key fun pair => !pair.isAlive channels.isActive
  match step.result with
  | none => channels
  | some _ =>
    { channels with
      pairs := step.registry
      pads := channels.pads.revoke channels.now key }.announce [.pairRemoved key]

end Channels

end Gateway
