import Gateway.Hub

/-! # Web and in-process sessions

Sessions that are no connections. A web session is known by its cookie and loses its identity once
it has gone unused for the time to live; only the types of messages on the application's list are
dispatched, and nothing is ever pushed. An in-process session is known by a name and reached through
another.
-/

namespace Gateway.Hub

variable {α : Type}

/-- How messages from the web are dispatched. -/
def webDispatcher (hub : Hub α) (application : Application α) :
    Dispatcher String WebSession (Floor α) where
  transport := .web
  codec := application.codec
  describe := application.describe
  admits := application.admitsWeb
  serve := fun _ envelope floor =>
    (application.pipeline (resolve hub.desks.shared)).serve envelope floor

/-- The identity of a web session. -/
def connectWeb (hub : Hub α) (session : WebSession) : Identity × Hub α :=
  let connected := hub.web.connect hub.commons.mint hub.now session.id session
  (connected.id,
    { hub with
      web := connected.directory
      commons := { hub.commons with mint := connected.mint } }.announce
        (removals .web connected.removed))

/-- The response to bytes from a web session. -/
def messageWeb (hub : Hub α) (application : Application α) (session : WebSession) (bytes : Bytes) :
    Response × Hub α :=
  let (response, state) :=
    (hub.webDispatcher application).dispatch hub.now session.id session session.addresses bytes
      ⟨hub.web, hub.commons, ⟨hub.channels, hub.own⟩⟩
  (response,
    { hub with
      web := state.directory
      commons := state.commons
      channels := state.rest.channels
      own := state.rest.own })

def disconnectWeb (hub : Hub α) (session : WebSession) : Hub α :=
  let (web, notices) := hub.web.disconnect hub.now session.id session
  { hub with web := web }.announce (notices.map (deskNotice .web))

/-- How messages from in-process sessions are dispatched. -/
def inProcessDispatcher (hub : Hub α) (application : Application α) :
    Dispatcher String String (Floor α) where
  transport := application.inProcessTransport
  codec := application.codec
  describe := application.describe
  admits := application.admitsInProcess
  serve := fun _ envelope floor =>
    (application.pipeline (resolve hub.desks.shared)).serve envelope floor

/-- The identity of an in-process session. -/
def connectInProcess (hub : Hub α) (session handle : String) : Identity × Hub α :=
  let connected := hub.inProcess.connect hub.commons.mint hub.now session handle
  (connected.id,
    { hub with
      inProcess := connected.directory
      commons := { hub.commons with mint := connected.mint } }.announce
        (removals .inProcess connected.removed))

/-- The response to bytes from an in-process session. -/
def messageInProcess (hub : Hub α) (application : Application α) (session handle : String)
    (addresses : Addresses) (bytes : Bytes) : Response × Hub α :=
  let (response, state) :=
    (hub.inProcessDispatcher application).dispatch hub.now session handle addresses bytes
      ⟨hub.inProcess, hub.commons, ⟨hub.channels, hub.own⟩⟩
  (response,
    { hub with
      inProcess := state.directory
      commons := state.commons
      channels := state.rest.channels
      own := state.rest.own })

def disconnectInProcess (hub : Hub α) (session handle : String) : Hub α :=
  let (inProcess, notices) := hub.inProcess.disconnect hub.now session handle
  { hub with inProcess := inProcess }.announce (notices.map (deskNotice .inProcess))

end Gateway.Hub
