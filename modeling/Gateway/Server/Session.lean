import Gateway.Hub

/-! # Client sessions

A session is what a server has with one client from the moment the client is accepted: a handshake,
then messages in both directions, then the end. What the client has sent and the server has not read
yet waits in the inbox; what the server has written and the client has not read yet waits in the
outbox. A reply that found no room in the connection's queue holds up the reading of further
messages.
-/

namespace Gateway

/-- What a client sends. -/
inductive ClientMessage where
  | frame (content : Frame)
  | ping (payload : Bytes)
  | pong (payload : Bytes)
  /-- The closing handshake. -/
  | close
  /-- The socket ends, or what arrives on it is no message. -/
  | broken
deriving DecidableEq

/-- What a server writes. -/
inductive ServerMessage where
  | frame (content : Frame)
  | pong (payload : Bytes)
  /-- The closing handshake. -/
  | close
deriving DecidableEq

/-- How far a session has come. -/
inductive SessionStage where
  /-- The client is accepted and has not completed the handshake. -/
  | handshake
  /-- Messages are read. -/
  | running
  /-- No more messages are read. -/
  | leaving
  /-- The session is cleaned up. -/
  | over
deriving DecidableEq, Repr

/-- A session of a server. -/
structure Session where
  /-- The name of the listener that accepted the client. -/
  listener : String
  endpoint : Endpoint
  info : ConnectionInfo
  /-- How many frames may wait to be written. -/
  buffer : Nat
  stage : SessionStage
  /-- The messages that the client sent and the server has not read, oldest first. -/
  inbox : List ClientMessage
  /-- A reply that waits for room in the connection's queue. -/
  waiting : Option Frame
  /-- The messages that the server wrote and the client has not read, oldest first. -/
  outbox : List ServerMessage

namespace Session

def isLive (session : Session) : Bool := session.stage ≠ .over

def post (session : Session) (message : ServerMessage) : Session :=
  { session with outbox := session.outbox ++ [message] }

/-- The session with a frame that has been sent: one that stalled holds up the reading. -/
def hold (session : Session) : Delivery → Session
  | .stalled frame => { session with waiting := some frame }
  | _ => session

def isReading (session : Session) : Bool := session.stage = .running && session.waiting.isNone

end Session

end Gateway
