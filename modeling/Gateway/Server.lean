import Gateway.Hub.Sockets
import Gateway.Server.Session

/-! # Servers

A server is a hub with listeners in front of it. A listener serves one endpoint and has a limited
number of places; a client that finds them all taken is turned away before the handshake. A place is
taken when a client is accepted and given back when its session is over, so a listener's count is
the number of its sessions that are not over. Each step of a session is a function of its own, so
that the steps of different sessions may come in any order.
-/

namespace Gateway

/-- Whether a listener accepts clients. -/
inductive ListenerStage where
  | listening
  /-- Its address was taken. -/
  | bindFailed
  | stopped
deriving DecidableEq, Repr

/-- What accepts clients for an endpoint. -/
structure Listener where
  endpoint : Endpoint
  /-- The address at which clients arrive. -/
  address : String
  /-- Whether its transport is secured. -/
  secure : Bool
  /-- How many sessions it may have at once. -/
  limit : Nat
  /-- How many frames may wait on each of its connections. -/
  buffer : Nat
  stage : ListenerStage
  /-- How many places are taken. -/
  active : Nat

namespace Listener

def hasPlace (listener : Listener) : Bool :=
  listener.stage = .listening && listener.active < listener.limit

def occupied (listener : Listener) : Listener := { listener with active := listener.active + 1 }

def vacated (listener : Listener) : Listener := { listener with active := listener.active - 1 }

def stopped (listener : Listener) : Listener := { listener with stage := .stopped }

/-- The session of a client that the listener of the given name accepts. -/
def welcome (listener : Listener) (name client : String) : Session where
  listener := name
  endpoint := listener.endpoint
  info := ⟨⟨some listener.address, some client⟩, listener.secure⟩
  buffer := listener.buffer
  stage := .handshake
  inbox := []
  waiting := none
  outbox := []

end Listener

/-- What stopping a listener comes to. -/
inductive StopResult where
  | stopped
  /-- It never listened. -/
  | bindFailed
  | alreadyStopped
deriving DecidableEq, Repr

/-- A hub, its listeners by name, and their sessions by the identifier of the session's connection.
-/
structure Server (α : Type) where
  hub : Hub α
  listeners : Table String Listener
  sessions : Table ConnectionId Session

namespace Server

variable {α : Type}

def ofHub (hub : Hub α) : Server α := ⟨hub, .empty, .empty⟩

def session? (server : Server α) (id : ConnectionId) : Option Session := server.sessions.get? id

def setSession (server : Server α) (id : ConnectionId) (session : Session) : Server α :=
  { server with sessions := server.sessions.modify id fun _ => session }

def setChannels (server : Server α) (channels : Channels) : Server α :=
  { server with hub := { server.hub with channels := channels } }

def activeCount (server : Server α) (name : String) : Nat :=
  ((server.listeners.get? name).map Listener.active).getD 0

def isStopped (server : Server α) (name : String) : Bool :=
  (server.listeners.get? name).any fun listener => listener.stage = .stopped

def listen (server : Server α) (name : String) (listener : Listener) : Server α :=
  { server with listeners := server.listeners.insert name listener }

/-- Stops a listener. Its sessions are told to leave. -/
def stop (server : Server α) (name : String) : StopResult × Server α :=
  let stopped :=
    { server with listeners := server.listeners.modify name Listener.stopped }
  match (server.listeners.get? name).map Listener.stage with
  | some .listening => (.stopped, stopped)
  | some .bindFailed => (.bindFailed, stopped)
  | _ => (.alreadyStopped, server)

/-- A client arrives at a listener. The result is whether it is accepted. -/
def accept (server : Server α) (name client : String) (id : ConnectionId) : Bool × Server α :=
  match server.listeners.get? name with
  | none => (false, server)
  | some listener =>
    if listener.hasPlace then
      (true,
        { server with
          listeners := server.listeners.modify name Listener.occupied
          sessions := server.sessions.insert id (listener.welcome name client) })
    else (false, server)

/-- The server after a session is over: its place is free. -/
def vacate (server : Server α) (id : ConnectionId) (session : Session) : Server α :=
  { server.setSession id { session with stage := .over } with
    listeners := server.listeners.modify session.listener Listener.vacated }

/-- A client completes the handshake and is connected. The result is its identity. -/
def completeHandshake (server : Server α) (id : ConnectionId) : Option Identity × Server α :=
  match server.session? id with
  | none => (none, server)
  | some session =>
    if session.stage = .handshake then
      let opened := server.hub.openConnection id session.info session.buffer
      let (identity, hub) := opened.connect session.endpoint id
      (some identity, { server with hub := hub }.setSession id { session with stage := .running })
    else (none, server)

def failHandshake (server : Server α) (id : ConnectionId) : Server α :=
  match server.session? id with
  | none => server
  | some session => if session.stage = .handshake then server.vacate id session else server

/-- A client sends a message. The result is whether there was still a session to send it to. -/
def arrive (server : Server α) (id : ConnectionId) (message : ClientMessage) : Bool × Server α :=
  match server.session? id with
  | none => (false, server)
  | some session =>
    if session.stage = .running then
      (true, server.setSession id { session with inbox := session.inbox ++ [message] })
    else (false, server)

/-- A session stops reading and its connection is closed. -/
def leave (server : Server α) (id : ConnectionId) : Server α :=
  match server.session? id with
  | none => server
  | some session =>
    if session.isReading then
      (server.setSession id { session with stage := .leaving }).setChannels
        (server.hub.channels.close id).2
    else server

/-- A session stops reading if its connection is closed or its listener stopped. -/
def leaveIfDue (server : Server α) (id : ConnectionId) : Server α :=
  match server.session? id with
  | none => server
  | some session =>
    if server.hub.channels.isActive id && !server.isStopped session.listener then server
    else server.leave id

/-- What reading a message of a session comes to. -/
def react (server : Server α) (application : Application α) (id : ConnectionId)
    (session : Session) : ClientMessage → Server α
  | .frame frame =>
    let (result, hub) := server.hub.message application session.endpoint id frame
    { server with hub := hub }.setSession id (session.hold result.delivery)
  | .ping payload => server.setSession id (session.post (.pong payload))
  | .pong _ => server
  | .close => server.leave id
  | .broken => server.leave id

/-- A session reads the oldest message of its inbox. -/
def read (server : Server α) (application : Application α) (id : ConnectionId) : Server α :=
  match server.session? id with
  | none => server
  | some session =>
    match session.isReading, session.inbox with
    | true, message :: rest =>
      let session := { session with inbox := rest }
      (server.setSession id session).react application id session message
    | _, _ => server

/-- The oldest frame in the queue of a session's connection is written. -/
def write (server : Server α) (id : ConnectionId) : Server α :=
  match server.session? id with
  | none => server
  | some session =>
    match server.hub.channels.receive id with
    | (some frame, channels) =>
      (server.setSession id (session.post (.frame frame))).setChannels channels
    | (none, _) => server

/-- The reply that a session waits to send is queued, if there is room for it. -/
def resume (server : Server α) (id : ConnectionId) : Server α :=
  match server.session? id, server.hub.channels.connection? id with
  | some session, some connection =>
    match session.waiting with
    | none => server
    | some frame =>
      match connection.resume frame with
      | (true, connection) =>
        (server.setSession id { session with waiting := none }).setChannels
          (server.hub.channels.setConnection id connection)
      | (false, _) => server
  | _, _ => server

def queued (server : Server α) (id : ConnectionId) : Nat :=
  ((server.hub.channels.connection? id).map fun connection => connection.queue.length).getD 0

/-- The server after a number of frames of a session are written. -/
def writeMany : Nat → Server α → ConnectionId → Server α
  | 0, server, _ => server
  | count + 1, server, id => writeMany count (server.write id) id

/-- The server after all frames in the queue of a session's connection are written. -/
def drain (server : Server α) (id : ConnectionId) : Server α :=
  writeMany (server.queued id) server id

/-- A session that has stopped reading is cleaned up: it is disconnected, the frames that still
waited are written, the closing handshake follows, and its place is free. -/
def release (server : Server α) (id : ConnectionId) : Server α :=
  match server.session? id with
  | none => server
  | some session =>
    if session.stage = .leaving then
      let written := { server with hub := server.hub.disconnect session.endpoint id }.drain id
      match written.session? id with
      | none => written
      | some session =>
        (written.vacate id (session.post .close)).setChannels
          (written.hub.channels.dropReceiver id)
    else server

end Server

end Gateway
