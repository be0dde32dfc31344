import Gateway.Application
import Gateway.Registry.Sweeper

/-! # The hub

The whole state of a gateway between two steps: the channels, what all sessions have in common, the
directories of the sessions of each kind, the application's own state and the sweepers. Sockets
arrive at one of five endpoints, two of which work over one shared directory. Time stands still
within a step.
-/

namespace Gateway

/-- Where a socket arrives. -/
inductive Endpoint where
  /-- Plain sockets, answered in binary frames. -/
  | raw
  /-- WebSockets, answered in the kind of frame they sent. -/
  | websocket
  /-- Plain sockets that pads apply to. -/
  | padRaw
  /-- WebSockets behind a secured transport. -/
  | secure
  /-- WebSockets that pads apply to. -/
  | padWebsocket
deriving DecidableEq, Repr, Inhabited

namespace Endpoint

/-- The directory of an endpoint. -/
def desk : Endpoint → SocketDesk
  | .raw => .raw
  | .websocket => .websocket
  | .padRaw => .padRaw
  | .secure => .shared
  | .padWebsocket => .shared

/-- The transport of an endpoint. -/
def transport : Endpoint → Transport
  | .raw => .raw
  | .padRaw => .raw
  | .websocket => .websocket
  | .secure => .websocket
  | .padWebsocket => .websocket

/-- Whether pads apply to the traffic of an endpoint. -/
def isPadded : Endpoint → Bool
  | .padRaw => true
  | .padWebsocket => true
  | _ => false

end Endpoint

/-- A session of the web. -/
structure WebSession where
  /-- The cookie by which the session is known. -/
  id : String
  addresses : Addresses
deriving DecidableEq, Repr, Inhabited

abbrev SocketDirectory := Directory ConnectionId ConnectionId

/-- The directories of socket connections. -/
structure SocketDesks where
  raw : SocketDirectory
  websocket : SocketDirectory
  padRaw : SocketDirectory
  shared : SocketDirectory

namespace SocketDesks

/-- Directories without connections, whose entries stay until they are released. -/
def empty : SocketDesks :=
  ⟨.empty none false, .empty none false, .empty none false, .empty none false⟩

/-- The directory of a desk. -/
def get (desks : SocketDesks) : SocketDesk → SocketDirectory
  | .raw => desks.raw
  | .websocket => desks.websocket
  | .padRaw => desks.padRaw
  | .shared => desks.shared

/-- The directories with another one at a desk. -/
def set (desks : SocketDesks) (desk : SocketDesk) (directory : SocketDirectory) : SocketDesks :=
  match desk with
  | .raw => { desks with raw := directory }
  | .websocket => { desks with websocket := directory }
  | .padRaw => { desks with padRaw := directory }
  | .shared => { desks with shared := directory }

@[simp] theorem get_set (desks : SocketDesks) (desk other : SocketDesk)
    (directory : SocketDirectory) :
    (desks.set desk directory).get other = if desk = other then directory else desks.get other := by
  cases desk <;> cases other <;> rfl

end SocketDesks

/-- What a sweeper sweeps. -/
inductive SweepTarget where
  | web
  | pads
deriving DecidableEq, Repr

/-- The state of a gateway. -/
structure Hub (α : Type) where
  channels : Channels
  commons : Commons
  desks : SocketDesks
  web : Directory String WebSession
  inProcess : Directory String String
  /-- The application's own state. -/
  own : α
  sweepers : List (SweepTarget × Sweeper)

/-- What a gateway is started with. Times are in nanoseconds. -/
structure HubSettings where
  /-- The size of the pads that the gateway generates. -/
  padSize : Nat
  /-- How long a pad waits to be acknowledged. -/
  pendingTtl : Nat
  /-- How long a session of the web lives unused. -/
  webTtl : Nat
  /-- How long an in-process session lives unused, if it expires. -/
  inProcessTtl : Option Nat
  /-- How many handlers may run at once. -/
  workers : Nat

namespace Hub

/-- The hub before anything happened. -/
def initial (settings : HubSettings) (subscribers : List Subscriber) (mint : Mint)
    (entropy : Entropy) (own : α) : Hub α where
  channels := .initial subscribers settings.pendingTtl settings.padSize entropy
  commons := ⟨mint, .zero, .memory, .ofSize settings.workers⟩
  desks := .empty
  web := .empty (some settings.webTtl) true
  inProcess := .empty settings.inProcessTtl false
  own := own
  sweepers := []

def now (hub : Hub α) : Nat := hub.channels.now

def announce (hub : Hub α) (notices : List Notice) : Hub α :=
  { hub with channels := hub.channels.announce notices }

def openConnection (hub : Hub α) (id : ConnectionId) (info : ConnectionInfo) (buffer : Nat) :
    Hub α :=
  { hub with channels := hub.channels.openConnection id info buffer }

def count (hub : Hub α) (name : String) : Hub α := { hub with commons := hub.commons.count name }

/-- The connection of an identity at the shared desk. -/
def resolve (directory : SocketDirectory) (id : Identity) : Option ConnectionId :=
  directory.handles.stored? (.system id)

/-- The notices of the entries that left a directory. -/
def removals (desk : Desk) (keys : List Key) : List Notice :=
  keys.map fun key => .unregistered desk key

/-- The notice that a directory's own notice becomes. -/
def deskNotice (desk : Desk) : DirectoryNotice → Notice
  | .removed key => .unregistered desk key
  | .cleanup key => .cleanup key

/-- The hub after the pipeline alone has answered an envelope, which may be missing. -/
def process (hub : Hub α) (application : Application α) (envelope : Option Envelope) :
    Response × Hub α :=
  let (response, floor) :=
    (application.pipeline (resolve hub.desks.shared)).process envelope ⟨hub.channels, hub.own⟩
  (response, { hub with channels := floor.channels, own := floor.own })

def mint (hub : Hub α) : Identity × Hub α :=
  let (id, mint) := hub.commons.mint.issue
  (id, { hub with commons := { hub.commons with mint := mint } })

def closePool (hub : Hub α) : Hub α :=
  { hub with commons := { hub.commons with pool := hub.commons.pool.close } }

def findSocket (hub : Hub α) (desk : SocketDesk) (key : Key) : Option ConnectionId × Hub α :=
  let (found, directory, removed) := (hub.desks.get desk).find hub.now key
  (found,
    { hub with desks := hub.desks.set desk directory }.announce (removals (.sockets desk) removed))

def sweepWeb (hub : Hub α) : Nat × Hub α :=
  let (count, web, removed) := hub.web.sweep hub.now
  (count, { hub with web := web }.announce (removals .web removed))

def sweepInProcess (hub : Hub α) : Nat × Hub α :=
  let (count, inProcess, removed) := hub.inProcess.sweep hub.now
  (count, { hub with inProcess := inProcess }.announce (removals .inProcess removed))

/-- The hub after a sweep of what a sweeper sweeps. -/
def sweepTarget (hub : Hub α) : SweepTarget → Hub α
  | .web => hub.sweepWeb.2
  | .pads => { hub with channels := { hub.channels with pads := hub.channels.pads.sweep hub.now } }

/-- Runs the sweepers that are due. -/
def runSweepers (hub : Hub α) : List (SweepTarget × Sweeper) → Hub α × List (SweepTarget × Sweeper)
  | [] => (hub, [])
  | (target, sweeper) :: rest =>
    let (swept, sweeper) :=
      if sweeper.isDue hub.now then (hub.sweepTarget target, sweeper.sweptAt hub.now)
      else (hub, sweeper)
    let (settled, others) := swept.runSweepers rest
    (settled, (target, sweeper) :: others)

/-- The hub after the sweepers that are due have run. -/
def settleSweepers (hub : Hub α) : Hub α :=
  let (swept, sweepers) := hub.runSweepers hub.sweepers
  { swept with sweepers := sweepers }

/-- The hub with one more sweeper, which sweeps at once. -/
def startSweeper (hub : Hub α) (target : SweepTarget) (period : Nat) : Hub α :=
  { hub with sweepers := hub.sweepers ++ [(target, Sweeper.start hub.now period)] }.settleSweepers

def elapse (hub : Hub α) (nanoseconds : Nat) : Hub α :=
  { hub with channels := { hub.channels with now := hub.channels.now + nanoseconds } }

/-- The number of nanoseconds in a millisecond. -/
def millisecond : Nat := 1000000

/-- The hub after milliseconds have passed one by one, with the sweepers running after each. -/
def elapseSwept : Nat → Hub α → Hub α
  | 0, hub => hub
  | count + 1, hub => elapseSwept count (hub.elapse millisecond).settleSweepers

/-- The hub after milliseconds and then nanoseconds have passed. Sweepers run at whole milliseconds.
-/
def advance (hub : Hub α) (milliseconds nanoseconds : Nat) : Hub α :=
  (if hub.sweepers.isEmpty then hub.elapse (milliseconds * millisecond)
    else elapseSwept milliseconds hub).elapse nanoseconds

end Hub

end Gateway
