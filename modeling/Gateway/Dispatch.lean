import Gateway.Counters
import Gateway.Directory
import Gateway.Handler.Pipeline
import Gateway.Handler.Pool
import Gateway.Message.Codec

/-! # Dispatch

What happens to the bytes of a message, whatever they arrived on. The session is connected if it is
not yet, the message is counted, decoded and stamped, the transport's filter is asked, and the
service runs on the worker pool. The response carries the id of the envelope and the identity of the
session, and the keys that it names are registered for the session's handle. Every path yields one
response.
-/

namespace Gateway

/-- What all sessions of a gateway have in common. -/
structure Commons where
  mint : Mint
  counters : Counters
  recorder : Recorder
  pool : Pool

def Commons.count (commons : Commons) (name : String) : Commons :=
  { commons with counters := commons.recorder.record commons.counters name }

/-- How the messages of one kind of session are dispatched. -/
structure Dispatcher (S : Type u) (H : Type v) (σ : Type w) where
  transport : Transport
  codec : Codec
  describe : Describer
  /-- Which types of messages the transport accepts. -/
  admits : String → Bool
  /-- What answers an envelope, given the directory as it stands. -/
  serve : Directory S H → Envelope → σ → Response × σ

structure DispatchState (S : Type u) (H : Type v) (σ : Type w) where
  directory : Directory S H
  commons : Commons
  rest : σ

namespace Dispatcher

variable {S : Type u} {H : Type v} {σ : Type w}

def messageCounter (transport : Transport) : String := transport.label ++ " messages"

def failureCounter (transport : Transport) : String := transport.label ++ " failed messages"

/-- A failure that no handler was asked about. -/
def failure (dispatcher : Dispatcher S H σ) (code : ErrorCode) (parameters : List Json) :
    Response :=
  Response.failure (dispatcher.describe code parameters) []

/-- The answer to an accepted envelope. -/
def run (dispatcher : Dispatcher S H σ) (pool : Pool) (directory : Directory S H)
    (envelope : Envelope) (rest : σ) : Response × σ :=
  let job (rest : σ) : Option Response × σ :=
    let (response, rest) := dispatcher.serve directory envelope rest
    (some response, rest)
  match pool.run job rest with
  | (.ok response, rest) => (response, rest)
  | (.error _, rest) =>
    ((dispatcher.failure ErrorCode.unexpectedError []).withId envelope.id, rest)

/-- The answer to the bytes of a message from a session with the given identity. -/
def answer (dispatcher : Dispatcher S H σ) (pool : Pool) (directory : Directory S H)
    (id : Identity) (addresses : Addresses) (bytes : Bytes) (rest : σ) : Response × σ :=
  match dispatcher.codec.decode bytes with
  | .error error => (dispatcher.failure error.code error.parameters, rest)
  | .ok decoded =>
    let envelope := decoded.stamp id dispatcher.transport addresses
    if dispatcher.admits envelope.kind then
      dispatcher.run pool directory envelope rest
    else
      ((dispatcher.failure ErrorCode.unexpectedMessage [.string envelope.kind]).withId envelope.id,
        rest)

variable [DecidableEq S]

/-- The identity of a session, which is connected if it has none. -/
def identify (state : DispatchState S H σ) (now : Nat) (session : S) (handle : H) :
    Identity × DispatchState S H σ :=
  match state.directory.roster.get? session with
  | some id => (id, state)
  | none =>
    let connected := state.directory.connect state.commons.mint now session handle
    (connected.id,
      { state with
        directory := connected.directory
        commons := { state.commons with mint := connected.mint } })

/-- The response to the bytes of a message. -/
def dispatch (dispatcher : Dispatcher S H σ) (now : Nat) (session : S) (handle : H)
    (addresses : Addresses) (bytes : Bytes) (state : DispatchState S H σ) :
    Response × DispatchState S H σ :=
  let (id, state) := identify state now session handle
  let commons := state.commons.count (messageCounter dispatcher.transport)
  let (answered, rest) :=
    dispatcher.answer commons.pool state.directory id addresses bytes state.rest
  let directory := state.directory.registerAll now (answered.keys.getD []) handle
  let response := { answered with identity := some id }
  let commons :=
    if response.isFailure then commons.count (failureCounter dispatcher.transport) else commons
  (response, ⟨directory, commons, rest⟩)

end Dispatcher

end Gateway
