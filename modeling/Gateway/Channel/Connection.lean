import Gateway.Channel.Frame
import Gateway.Message.Envelope
import Gateway.Text.Hex

/-! # Connections

The gateway's side of one live socket. Frames to be written wait in a queue of bounded length until
the socket takes them. Sending waits for room, trying to send does not; both fail once the
connection is closed or the receiving end of its queue is gone.
-/

namespace Gateway

/-- The identifier of a connection: 122 random bits in the layout of a random UUID. -/
structure ConnectionId where
  high : UInt64
  low : UInt64
deriving DecidableEq, Repr, Inhabited

namespace ConnectionId

/-- The identifier made of two random words, whose version and variant bits are set. -/
def ofRandom (high low : UInt64) : ConnectionId :=
  ⟨(high &&& 0xFFFFFFFFFFFF0FFF) ||| 0x4000, (low &&& 0x3FFFFFFFFFFFFFFF) ||| 0x8000000000000000⟩

/-- The big-endian bytes of a word. -/
def wordBytes (word : UInt64) : Bytes :=
  ([56, 48, 40, 32, 24, 16, 8, 0] : List UInt64).map fun shift => (word >>> shift).toUInt8

/-- The text of an identifier: hexadecimal digits in groups of 8, 4, 4, 4 and 12. -/
def text (id : ConnectionId) : String :=
  let digits := (wordBytes id.high ++ wordBytes id.low).flatMap Hex.ofByte
  String.ofList <|
    digits.take 8 ++ '-' :: (digits.drop 8).take 4 ++ '-' :: (digits.drop 12).take 4 ++
      '-' :: (digits.drop 16).take 4 ++ '-' :: digits.drop 20

end ConnectionId

/-- Why a frame was not sent. -/
inductive SendError where
  /-- The connection is closed or nobody receives its frames. -/
  | closed
  /-- The queue is full. -/
  | full
  /-- The frame cannot be encrypted with the connection's pad. -/
  | encrypt
deriving DecidableEq, Repr

def SendError.message (id : ConnectionId) : SendError → String
  | .closed => "Connection " ++ id.text ++ " is closed"
  | .full => "Outbound queue full for connection " ++ id.text
  | .encrypt => "Cannot encrypt frame for connection " ++ id.text

/-- What became of a frame that was to be sent. -/
inductive Delivery where
  | sent
  | refused (error : SendError)
  /-- The frame, as it would go on the wire, waits for room in the queue. -/
  | stalled (frame : Frame)
deriving DecidableEq

/-- What is known of a connection from the start. -/
structure ConnectionInfo where
  addresses : Addresses
  /-- Whether the transport is secured. -/
  secure : Bool
deriving DecidableEq, Repr, Inhabited

/-- A connection. -/
structure Connection where
  info : ConnectionInfo
  active : Bool
  /-- How many frames may wait. -/
  capacity : Nat
  /-- The frames that wait, oldest first. -/
  queue : List Frame
  /-- Whether someone takes frames from the queue. -/
  receiving : Bool
deriving DecidableEq, Inhabited

namespace Connection

/-- A new connection whose queue has room for at least one frame. -/
def opened (info : ConnectionInfo) (buffer : Nat) : Connection :=
  ⟨info, true, max buffer 1, [], true⟩

def enqueue (connection : Connection) (frame : Frame) : Connection :=
  { connection with queue := connection.queue ++ [frame] }

def hasRoom (connection : Connection) : Bool := connection.queue.length < connection.capacity

/-- Sends a frame if there is room for it. -/
def offer (connection : Connection) (frame : Frame) : Except SendError Unit × Connection :=
  if !connection.active || !connection.receiving then (.error .closed, connection)
  else if connection.hasRoom then (.ok (), connection.enqueue frame)
  else (.error .full, connection)

/-- Sends a frame, or stalls until there is room for it. -/
def send (connection : Connection) (frame : Frame) : Delivery × Connection :=
  if !connection.active || !connection.receiving then (.refused .closed, connection)
  else if connection.hasRoom then (.sent, connection.enqueue frame)
  else (.stalled frame, connection)

/-- Queues a frame whose sending stalled while the connection was open, once there is room for it.
The frame is lost when nobody receives any more. The result is whether it has stopped waiting. -/
def resume (connection : Connection) (frame : Frame) : Bool × Connection :=
  if !connection.receiving then (true, connection)
  else if connection.hasRoom then (true, connection.enqueue frame)
  else (false, connection)

def receive (connection : Connection) : Option Frame × Connection :=
  match connection.queue with
  | [] => (none, connection)
  | frame :: rest => (some frame, { connection with queue := rest })

def deactivated (connection : Connection) : Connection := { connection with active := false }

@[simp] theorem active_deactivated (connection : Connection) :
    connection.deactivated.active = false := rfl

/-- The connection with nobody left to receive its frames. -/
def dropReceiver (connection : Connection) : Connection :=
  { connection with queue := [], receiving := false }

end Connection

end Gateway
