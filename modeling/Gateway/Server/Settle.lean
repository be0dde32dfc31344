import Gateway.Server

/-! # Settling

One order in which everything that can happen without the clients does happen: each session in turn
writes what waits and reads its inbox, message by message, and then every session whose connection
is closed or whose listener has stopped is cleaned up, in the order in which the connections closed.
-/

namespace Gateway.Server

variable {α : Type}

/-- The server after the frames of a session are written, along with a reply that waited for room.
-/
def flush (server : Server α) (id : ConnectionId) : Server α :=
  ((server.drain id).resume id).drain id

/-- The server after a session has read a number of messages, and each reply is written. -/
def readMany (application : Application α) : Nat → Server α → ConnectionId → Server α
  | 0, server, _ => server
  | count + 1, server, id =>
    readMany application count ((server.read application id).flush id) id

def unread (server : Server α) (id : ConnectionId) : Nat :=
  ((server.session? id).map fun session => session.inbox.length).getD 0

def readAll (application : Application α) (server : Server α) (id : ConnectionId) : Server α :=
  readMany application (server.unread id) (server.flush id) id

/-- The server after a session is cleaned up, if it is due to leave. -/
def finish (server : Server α) (id : ConnectionId) : Server α :=
  ((server.flush id).leaveIfDue id).release id

/-- The connections that closed, in the order in which they did. -/
def closedConnections (journal : List Notice) : List ConnectionId :=
  journal.filterMap fun notice =>
    match notice with
    | .closed _ id => some id
    | _ => none

/-- The server after everything that can happen without the clients. -/
def settle (server : Server α) (application : Application α) : Server α :=
  let heard := server.sessions.keys.foldl (readAll application) server
  let left := (closedConnections heard.hub.channels.journal).foldl finish heard
  left.sessions.keys.foldl finish left

end Gateway.Server
