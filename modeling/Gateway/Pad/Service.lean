import Gateway.Channels.Pairing

/-! # Issuing pads

A new pad either waits until the client acknowledges it on the clear channel, or is put to use at
once. A pad that is pushed over the encrypted channel is kept only if the channel took it. Pads go
with the pair they belong to.
-/

namespace Gateway.Channels

def stagePad (channels : Channels) (key : Key) (pad : Bytes) : Channels :=
  { channels with pads := channels.pads.stage channels.now key pad }

def usePad (channels : Channels) (key : Key) (pad : Bytes) : Channels :=
  { channels with pads := channels.pads.install channels.now key pad }

/-- Puts the waiting pad of a key to use. The result is whether there was one. -/
def activatePad (channels : Channels) (key : Key) : Bool × Channels :=
  let (found, pads) := channels.pads.activate channels.now key
  (found, { channels with pads := pads })

def revokePads (channels : Channels) (key : Key) : Channels :=
  { channels with pads := channels.pads.revoke channels.now key }

def activePad (channels : Channels) (key : Key) : Option Bytes × Channels :=
  let (pad, pads) := channels.pads.activePad channels.now key
  (pad, { channels with pads := pads })

/-- The pad that waits for a key. Looking at it makes it wait from now on. -/
def pendingPad (channels : Channels) (key : Key) : Option Bytes × Channels :=
  let (pad, pads) := channels.pads.pendingPad channels.now key
  (pad, { channels with pads := pads })

def generatePad (channels : Channels) : Except PadError Bytes × Channels :=
  let (pad, entropy) := Pad.generate channels.padSize channels.entropy
  (pad, { channels with entropy := entropy })

def noteHandedOut (channels : Channels) (pad : Bytes) : Channels :=
  { channels with handedOut := channels.handedOut ++ [pad] }

def newPendingPad (channels : Channels) (key : Key) : Except PadError Bytes × Channels :=
  match channels.generatePad with
  | (.error error, channels) => (.error error, channels)
  | (.ok pad, channels) => (.ok pad, (channels.stagePad key pad).noteHandedOut pad)

/-- Pushes a new pad over the encrypted channel of a key. If it is taken, it waits for
acknowledgement or is put to use at once. The result is whether it was taken. -/
def issuePad (channels : Channels) (key : Key) (requireAck : Bool) :
    Except PairingError Bool × Channels :=
  match channels.generatePad with
  | (.error error, channels) => (.error (.pad error), channels)
  | (.ok pad, channels) =>
    match channels.sendPad key pad with
    | (.ok true, channels) =>
      let channels := if requireAck then channels.stagePad key pad else channels.usePad key pad
      (.ok true, channels.noteHandedOut pad)
    | other => other

end Gateway.Channels
