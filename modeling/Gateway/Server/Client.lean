import Gateway.Server.Settle

/-! # Clients

A server as its clients see it: they dial, say something, hear what was written for them and hang
up. After each of these everything has happened that can happen without the clients.
-/

namespace Gateway.Server

variable {α : Type}

/-- A client dials a listener and completes the handshake. The result is its identity, unless it is
turned away. -/
def dial (server : Server α) (application : Application α) (name client : String)
    (id : ConnectionId) : Option Identity × Server α :=
  match server.accept name client id with
  | (false, server) => (none, server)
  | (true, server) =>
    let (identity, server) := server.completeHandshake id
    (identity, server.settle application)

/-- A client dials a listener and fails the handshake. -/
def knock (server : Server α) (name client : String) (id : ConnectionId) : Server α :=
  (server.accept name client id).2.failHandshake id

/-- A client sends a message. The result is whether there was still a session to send it to. -/
def say (server : Server α) (application : Application α) (id : ConnectionId)
    (message : ClientMessage) : Bool × Server α :=
  let (arrived, server) := server.arrive id message
  (arrived, server.settle application)

/-- The oldest message that a client has not read. -/
def hear (server : Server α) (id : ConnectionId) : Option ServerMessage × Server α :=
  match server.session? id with
  | none => (none, server)
  | some session =>
    match session.outbox with
    | [] => (none, server)
    | message :: rest => (some message, server.setSession id { session with outbox := rest })

/-- A client ends its session. The result is what it had not read. -/
def hangUp (server : Server α) (application : Application α) (id : ConnectionId)
    (message : ClientMessage) : List ServerMessage × Server α :=
  let (_, server) := server.say application id message
  match server.session? id with
  | none => ([], server)
  | some session =>
    (session.outbox.filter fun written => !decide (written = .close),
      server.setSession id { session with outbox := [] })

def isLive (server : Server α) (id : ConnectionId) : Bool := (server.session? id).any Session.isLive

/-- Stops a listener, whose sessions end. -/
def shutDown (server : Server α) (application : Application α) (name : String) :
    StopResult × Server α :=
  let (result, server) := server.stop name
  (result, server.settle application)

end Gateway.Server
