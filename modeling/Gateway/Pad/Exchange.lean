import Gateway.Handler
import Gateway.Pad.Service
import Gateway.Text.Base64

/-! # Pad exchange

A client asks for a pad on a connection it wants to be the encrypted channel of a pair, and confirms
the pad on the clear channel of that pair. The request puts the connection into the pair and is
answered with a pad that waits; the confirmation comes from the address that the pair is named after
and puts the pad to use.
-/

namespace Gateway.PadExchange

def requestKind : String := "OTP_NEW_KEY_REQUEST"

def ackKind : String := "OTP_NEW_KEY_ACK"

/-- The body of a request names the pair. -/
def requestType : RecordType := ⟨requestKind, [⟨"key", .text, none⟩]⟩

/-- The body of a confirmation is empty. -/
def ackType : RecordType := ⟨ackKind, []⟩

def requestedPair? (envelope : Envelope) : Option String := envelope.body.text? requestKind "key"

/-- The failure of a request whose body is none. -/
def notARequest (context : Context) : Fault :=
  context.fail ErrorCode.malformedMessage "body is not a key request" [.string requestKind] []

/-- A request has to name a pair. -/
def validateRequest (context : Context) (envelope : Envelope) : Outcome Unit :=
  match requestedPair? envelope with
  | none => .failed (notARequest context)
  | some key => context.ensure (key ≠ "") ErrorCode.malformedMessage "empty pairing key"

/-- Makes the connection of the client's identity the encrypted channel of the pair and answers with
a new pad. -/
def processRequest (resolve : Identity → Option ConnectionId) (context : Context)
    (envelope : Envelope) (channels : Channels) : Outcome Response × Channels :=
  match requestedPair? envelope with
  | none => (.failed (notARequest context), channels)
  | some name =>
    match envelope.identity.bind resolve with
    | none => (.failed (.unexpected ["no connection for the identity"]), channels)
    | some id =>
      match channels.joinEncrypted (.name name) id with
      | (.error (.notEncrypted _), channels) =>
        (.failed (context.fail ErrorCode.notEncrypted "key requested over plaintext" [] []),
          channels)
      | (.error error, channels) => (.failed (.unexpected [error.message]), channels)
      | (.ok (), channels) =>
        match channels.newPendingPad (.name name) with
        | (.error error, channels) =>
          (.failed (context.fail ErrorCode.invalidPad error.message [] []), channels)
        | (.ok pad, channels) => (.done (Response.success [.string (Base64.encode pad)]), channels)

/-- Serves requests. Identities are resolved to connections by `resolve`. -/
def requestHandler (resolve : Identity → Option ConnectionId) : Handler Channels where
  validate := fun context envelope channels => (validateRequest context envelope, channels)
  process := processRequest resolve

/-- Puts the pad that waits for the client's address to use. -/
def processAck (context : Context) (envelope : Envelope) (channels : Channels) :
    Outcome Response × Channels :=
  match envelope.addresses.client with
  | none =>
    (.failed (context.fail ErrorCode.noPad "ack without remote address" [.string "unknown"] []),
      channels)
  | some address =>
    match channels.activatePad (.name address) with
    | (true, channels) => (.done (Response.success []), channels)
    | (false, channels) =>
      (.failed (context.fail ErrorCode.noPad "no pending key to activate" [.string address] []),
        channels)

def ackHandler : Handler Channels where
  validate := fun _ _ channels => (.done (), channels)
  process := processAck

end Gateway.PadExchange
