import Gateway.Dispatch
import Gateway.Pad.Exchange

/-! # Applications

What an application brings to a gateway: the types of its messages, what serves them, the
descriptions of failures, and which messages the web may send. Application handlers keep a state of
their own and cannot reach the channels; the two services of the pad exchange can.
-/

namespace Gateway

/-- What serves one type of message. -/
inductive Service (α : Type) where
  | application (handler : Handler α)
  | padRequest
  | padAck

/-- What handlers work on: the channels, and the application's own state. -/
structure Floor (α : Type) where
  channels : Channels
  own : α

/-- The handler of a service. Identities are resolved to connections by `resolve`. -/
def Service.handler (resolve : Identity → Option ConnectionId) : Service α → Handler (Floor α)
  | .application handler =>
    handler.onPart Floor.own fun floor own => { floor with own := own }
  | .padRequest =>
    (PadExchange.requestHandler resolve).onPart Floor.channels fun floor channels =>
      { floor with channels := channels }
  | .padAck =>
    PadExchange.ackHandler.onPart Floor.channels fun floor channels =>
      { floor with channels := channels }

/-- An application. -/
structure Application (α : Type) where
  types : Table String BodyType
  services : Table String (Service α)
  describe : Describer
  /-- Which types of messages may come over the web. -/
  admitsWeb : String → Bool
  /-- The transport that in-process sessions count as. -/
  inProcessTransport : Transport
  /-- Which types of messages may come from in-process sessions. -/
  admitsInProcess : String → Bool

namespace Application

/-- The types of messages that an application and the pad exchange know. -/
def codec (application : Application α) : Codec :=
  ⟨(application.types.insert PadExchange.requestKind PadExchange.requestType.bodyType).insert
    PadExchange.ackKind PadExchange.ackType.bodyType⟩

/-- The application with a handler for a type, in place of what served the type before. -/
def handle (application : Application α) (type : String) (handler : Handler α) : Application α :=
  { application with services := application.services.insert type (.application handler) }

/-- The application that can also read messages of a type: the bodies of a type that it did not know
are the received objects themselves. -/
def understand (application : Application α) (type : String) : Application α :=
  if application.codec.types.contains type then application
  else { application with types := application.types.insert type .whole }

def pipeline (application : Application α) (resolve : Identity → Option ConnectionId) :
    Pipeline (Floor α) :=
  ⟨application.services.map (Service.handler resolve), ⟨application.describe⟩⟩

end Application

/-- The types of messages that are allowed, the one allowed last in front. -/
structure AllowList where
  types : List String

namespace AllowList

def allow (list : AllowList) (type : String) : AllowList := ⟨type :: list.types⟩

def admits (list : AllowList) (type : String) : Bool := list.types.contains type

end AllowList

end Gateway
