import Gateway.Channels.Close

/-! # Pairing channels

Putting a connection into a side of a pair closes the connection that held the side before. That
close may close further connections, the new occupant and the pair's other side among them, so the
pair is looked at once more when the new occupant did not survive it. Pads and other frames are
handed to the active occupant of a side without waiting for room.
-/

namespace Gateway

/-- Why a channel or a frame is refused. -/
inductive PairingError where
  /-- The connection for the encrypted side is not secure. -/
  | notEncrypted (id : ConnectionId)
  /-- The connection is closed. -/
  | inactiveChannel (id : ConnectionId)
  /-- There is nothing to send. -/
  | noMessage
  | pad (error : PadError)
deriving DecidableEq, Repr

/-- The failure in words. -/
def PairingError.message : PairingError → String
  | .notEncrypted id => "Connection " ++ id.text ++ " is not an encrypted channel"
  | .inactiveChannel id => "Connection " ++ id.text ++ " is not active"
  | .noMessage => "No message"
  | .pad error => error.message

namespace Channels

/-- Closes the former occupant of a side, unless it is the new one or inactive. -/
def closeFormer (channels : Channels) (former : Option ConnectionId) (id : ConnectionId) :
    Channels :=
  match former with
  | none => channels
  | some former =>
    if former ≠ id ∧ channels.isActive former = true then (channels.close former).2 else channels

/-- Puts an active connection into a side of the pair of a key. -/
def join (channels : Channels) (key : Key) (side : Side) (id : ConnectionId) :
    Except PairingError Unit × Channels :=
  if channels.isActive id then
    let swapped := channels.pairs.amend channels.now key Pair.empty fun pair =>
      (pair.occupant side, pair.occupy side id)
    let swappedChannels := { channels with pairs := swapped.registry }
    let settled := swappedChannels.closeFormer swapped.result id
    (.ok (), if settled.isActive id then settled else settled.retire key)
  else (.error (.inactiveChannel id), channels)

/-- Puts a connection into the clear side of the pair of a key. -/
def joinClear (channels : Channels) (key : Key) (id : ConnectionId) :
    Except PairingError Unit × Channels :=
  channels.join key .clear id

/-- Puts a secure connection into the encrypted side of the pair of a key. -/
def joinEncrypted (channels : Channels) (key : Key) (id : ConnectionId) :
    Except PairingError Unit × Channels :=
  if channels.isSecure id then channels.join key .encrypted id
  else (.error (.notEncrypted id), channels)

def pair? (channels : Channels) (key : Key) : Option Pair := channels.pairs.stored? key

/-- The active occupant of a side of the pair of a key. -/
def liveOccupant? (channels : Channels) (key : Key) (side : Side) : Option ConnectionId :=
  ((channels.pair? key).bind fun pair => pair.occupant side).filter channels.isActive

/-- Hands a frame to the active occupant of a side. The result is whether it was taken. -/
def handOver (channels : Channels) (key : Key) (side : Side) (frame : Frame) : Bool × Channels :=
  match channels.liveOccupant? key side with
  | none => (false, channels)
  | some id =>
    match channels.offer id frame with
    | (.ok (), channels) => (true, channels)
    | (.error _, channels) => (false, channels)

/-- Delivers a pad over the encrypted side of a pair. -/
def sendPad (channels : Channels) (key : Key) (pad : Bytes) : Except PairingError Bool × Channels :=
  if pad.isEmpty then (.error (.pad .missing), channels)
  else
    let (taken, channels) := channels.handOver key .encrypted (.binary pad)
    (.ok taken, channels)

/-- Sends a frame over the clear side of a pair as it is. -/
def sendClear (channels : Channels) (key : Key) (frame : Frame) :
    Except PairingError Bool × Channels :=
  if frame.isEmpty then (.error .noMessage, channels)
  else
    let (taken, channels) := channels.handOver key .clear frame
    (.ok taken, channels)

def hasPair (channels : Channels) (key : Key) : Bool := (channels.pair? key).isSome

/-- Whether the pair of a key has an active channel. -/
def isPairActive (channels : Channels) (key : Key) : Bool :=
  (channels.pair? key).any (Pair.isAlive channels.isActive)

def isPairComplete (channels : Channels) (key : Key) : Bool :=
  (channels.pair? key).any (Pair.isComplete channels.isActive)

def isSideActive (channels : Channels) (key : Key) (side : Side) : Bool :=
  (channels.pair? key).any fun pair => pair.isSideActive channels.isActive side

/-- The first key in whose pair a connection holds a side. -/
def keyBySide? (channels : Channels) (side : Side) (id : ConnectionId) : Option Key :=
  channels.pairs.firstKey? Key.le fun pair => pair.occupant side = some id

end Channels

end Gateway
