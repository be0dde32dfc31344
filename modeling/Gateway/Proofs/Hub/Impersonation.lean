import Gateway.Proofs.Hub.Confidentiality
import Gateway.Proofs.Message.RoundTrip

/-! # Impersonation

A message may name an identity as that of its sender. The name is read, and a message that names anything
else there is malformed; but before anyone looks at the envelope, the identity of the session takes the
place of the named one. So two messages that differ in nothing else have one answer and one effect,
unless the type of the message reads the name as part of its body. A request for a pad does not: it seats
the connection that the sender's own identity leads to, whomever it names.
-/

namespace Gateway

namespace Json

/-- Whether two lists of fields are the same but for the fields of one name. -/
def AgreeOutside (name : String) (one two : List (String × Json)) : Prop :=
  dropField name one = dropField name two

theorem AgreeOutside.findField {name other : String} {one two : List (String × Json)}
    (agree : AgreeOutside name one two) (differs : name ≠ other) :
    findField other one = findField other two := by
  have first := findField_dropField name other one
  have second := findField_dropField name other two
  rw [if_neg differs] at first second
  rw [← first, ← second, agree]

end Json

/-- A type of messages whose bodies are read without a look at one of the fields received. -/
def BodyType.Ignores (bodyType : BodyType) (name : String) : Prop :=
  ∀ one two, Json.AgreeOutside name one two →
    bodyType.read? (.object one) = bodyType.read? (.object two)

/-- Records are read without a look at fields that they do not have. -/
theorem RecordType.ignores {type : RecordType} {name : String}
    (absent : ∀ field ∈ type.fields, name ≠ field.name) : type.bodyType.Ignores name := by
  intro one two agree
  refine type.readsOnly one two fun other listed => agree.findField ?_
  obtain ⟨field, member, rfl⟩ := List.mem_map.mp listed
  exact absent field member

namespace Codec

/-- Whether an object names no sender, null or an identity. -/
def NamesIdentity (fields : List (String × Json)) : Prop :=
  ∀ value, Json.findField "systemId" fields = some value →
    value = .null ∨ ∃ id : Identity, value = .int id.value.toNat

/-- Two messages of a type that are objects with the same fields but for the identity that they name as
that of their sender. -/
inductive AlikeButSender (kind : String) (first second : Bytes) : Prop where
  | objects (one two : List (String × Json)) (parsed : Json.parse? first = some (.object one))
      (parsed' : Json.parse? second = some (.object two)) (typed : readKind? one = some kind)
      (agree : Json.AgreeOutside "systemId" one two) (names : NamesIdentity one)
      (names' : NamesIdentity two)

theorem readIdentity?_of_names {fields : List (String × Json)} (names : NamesIdentity fields) :
    ∃ named, readIdentity? fields = some named := by
  rw [readIdentity?]
  cases found : Json.findField "systemId" fields with
  | none => exact ⟨none, rfl⟩
  | some value =>
    obtain rfl | ⟨id, rfl⟩ := names value found
    · exact ⟨none, rfl⟩
    · have small : (id.value.toNat : Int) < UInt64.size := by exact_mod_cast id.value.toNat_lt
      exact ⟨_, if_pos ⟨Int.natCast_nonneg _, small⟩⟩

theorem readKind?_congr {one two : List (String × Json)}
    (agree : Json.AgreeOutside "systemId" one two) : readKind? one = readKind? two := by
  rw [readKind?, readKind?, agree.findField (by decide)]

theorem readId?_congr {one two : List (String × Json)}
    (agree : Json.AgreeOutside "systemId" one two) : readId? one = readId? two := by
  rw [readId?, readId?, agree.findField (by decide)]

variable {codec : Codec}

/-- Once the session's identity is stamped on them, envelopes that differ in the named sender are the
same. -/
theorem stamp_readEnvelope? (kind : String) {bodyType : BodyType} (ignores : bodyType.Ignores "systemId")
    {one two : List (String × Json)} (agree : Json.AgreeOutside "systemId" one two)
    (names : NamesIdentity one) (names' : NamesIdentity two) (id : Identity) (transport : Transport)
    (addresses : Addresses) :
    (readEnvelope? bodyType kind one).map (·.stamp id transport addresses) =
      (readEnvelope? bodyType kind two).map (·.stamp id transport addresses) := by
  obtain ⟨named, first⟩ := readIdentity?_of_names names
  obtain ⟨named', second⟩ := readIdentity?_of_names names'
  simp only [readEnvelope?, first, second, readId?_congr agree, ignores one two agree]
  cases readId? two with
  | none => rfl
  | some number => cases bodyType.read? (.object two) <;> rfl

theorem stamp_decode_of_alike {kind : String} {first second : Bytes}
    (alike : AlikeButSender kind first second) {bodyType : BodyType}
    (registered : codec.types.get? kind = some bodyType)
    (ignores : bodyType.Ignores "systemId") (id : Identity) (transport : Transport)
    (addresses : Addresses) :
    (codec.decode first).map (·.stamp id transport addresses) =
      (codec.decode second).map (·.stamp id transport addresses) := by
  obtain ⟨one, two, parsed, parsed', typed, agree, names, names'⟩ := alike
  have stamped := stamp_readEnvelope? kind ignores agree names names' id transport addresses
  rw [decode_of_parsed codec parsed, decode_of_parsed codec parsed']
  simp only [decodeJson, ← readKind?_congr agree, typed, registered]
  cases read : readEnvelope? bodyType kind one <;> cases read' : readEnvelope? bodyType kind two <;>
    simp only [read, read', Option.map_none, Option.map_some, reduceCtorEq,
      Option.some.injEq] at stamped
  · rfl
  · exact congrArg Except.ok stamped

end Codec

namespace Dispatcher

variable {S : Type u} {H : Type v} {σ : Type w} (dispatcher : Dispatcher S H σ) {first second : Bytes}

/-- Nothing but the stamped envelope is answered. -/
theorem answer_congr {id : Identity} {addresses : Addresses}
    (same : (dispatcher.codec.decode first).map (·.stamp id dispatcher.transport addresses) =
      (dispatcher.codec.decode second).map (·.stamp id dispatcher.transport addresses))
    (pool : Pool) (directory : Directory S H) (rest : σ) :
    dispatcher.answer pool directory id addresses first rest =
      dispatcher.answer pool directory id addresses second rest := by
  rw [answer, answer]
  cases decoded : dispatcher.codec.decode first <;>
    cases decoded' : dispatcher.codec.decode second <;>
    simp only [decoded, decoded', Except.map, reduceCtorEq, Except.error.injEq,
      Except.ok.injEq] at same
  · rw [same]
  · simp only [same]

variable [DecidableEq S]

/-- What a message of a type that ignores it names as its sender changes nothing. -/
theorem dispatch_of_alike {kind : String} (alike : Codec.AlikeButSender kind first second)
    {bodyType : BodyType} (registered : dispatcher.codec.types.get? kind = some bodyType)
    (ignores : bodyType.Ignores "systemId") (now : Nat) (session : S) (handle : H)
    (addresses : Addresses) (state : DispatchState S H σ) :
    dispatcher.dispatch now session handle addresses first state =
      dispatcher.dispatch now session handle addresses second state := by
  have same := fun id => Codec.stamp_decode_of_alike alike registered ignores id
    dispatcher.transport addresses
  simp only [dispatch, answer_congr dispatcher (same _)]

end Dispatcher

namespace PadExchange

/-- A request has no field for its sender. -/
theorem requestType_ignores : requestType.bodyType.Ignores "systemId" := by
  apply RecordType.ignores
  intro field member
  obtain rfl := List.mem_singleton.mp member
  decide

end PadExchange

/-- Every application can read a request for a pad. -/
theorem Application.registered_request {α : Type} (application : Application α) :
    application.codec.types.get? PadExchange.requestKind =
      some PadExchange.requestType.bodyType := by
  simp only [codec, Table.get?_insert]
  rfl

namespace Hub

variable {α : Type}

/-- What reading a frame does to the gateway does not depend on the frame. -/
theorem read_snd (hub : Hub α) (frame other : Frame) (caller : Caller) :
    (hub.read frame caller).2 = (hub.read other caller).2 := by
  cases caller with
  | socket endpoint id =>
    have unmasked : (hub.unmask id frame).2 = (hub.unmask id other).2 := by
      rw [unmask, unmask]
      rcases hub.padOf id with ⟨_ | pad, after⟩ <;> rfl
    simp only [read]
    split_ifs
    · rcases first : hub.unmask id frame with ⟨_ | _, after⟩ <;>
        rcases second : hub.unmask id other with ⟨_ | _, after'⟩ <;>
        rw [first, second] at unmasked <;> exact unmasked
    · rfl
  | web session => rfl
  | inProcess session handle addresses => rfl

section

variable {application : Application α} {kind : String} {first second : Bytes}
  (alike : Codec.AlikeButSender kind first second) {bodyType : BodyType}
  (registered : application.codec.types.get? kind = some bodyType)
  (ignores : bodyType.Ignores "systemId")

include alike registered ignores

theorem respond_of_alike (hub : Hub α) (caller : Caller) :
    hub.respond application first caller = hub.respond application second caller := by
  cases caller with
  | socket endpoint id =>
    simp only [respond, dispatchBytes]
    rw [Dispatcher.dispatch_of_alike (hub.socketDispatcher application endpoint) alike
      registered ignores]
  | web session =>
    simp only [respond, messageWeb]
    rw [Dispatcher.dispatch_of_alike (hub.webDispatcher application) alike
      registered ignores]
  | inProcess session handle addresses =>
    simp only [respond, messageInProcess]
    rw [Dispatcher.dispatch_of_alike (hub.inProcessDispatcher application) alike
      registered ignores]

/-- Frames of one sort that stand for such messages have one answer, one reply and one effect. -/
theorem receive_of_alike (hub : Hub α) (caller : Caller) {frame other : Frame}
    (sort : frame.isText = other.isText) (reads : (hub.read frame caller).1 = some first)
    (reads' : (hub.read other caller).1 = some second) :
    hub.receive application frame caller = hub.receive application other caller := by
  have responded := respond_of_alike alike registered ignores (hub.read frame caller).2 caller
  have reads : hub.read frame caller = (some first, (hub.read frame caller).2) :=
    Prod.ext reads rfl
  have reads' : hub.read other caller = (some second, (hub.read frame caller).2) :=
    Prod.ext reads' (hub.read_snd other frame caller)
  generalize (hub.read frame caller).2 = arrived at *
  cases caller with
  | socket endpoint id =>
    have dispatched : arrived.dispatchBytes application endpoint id first =
      arrived.dispatchBytes application endpoint id second := responded
    rw [receive, receive, message_of_read reads, message_of_read reads', answerBytes, answerBytes,
      dispatched, sort]
  | web _ | inProcess _ _ _ =>
    obtain ⟨named, rfl⟩ := Prod.mk.inj reads
    obtain ⟨named', -⟩ := Prod.mk.inj reads'
    obtain rfl := Option.some.inj named
    obtain rfl := Option.some.inj named'
    exact congrArg (fun answer => ((⟨some answer.1, .sent⟩ : MessageResult), answer.2)) responded

end

/-- The connection that the shared desk holds under the identity of a caller, who is connected if that
is still to be done. -/
def counterpart? (hub : Hub α) : Caller → Option ConnectionId
  | .socket endpoint id =>
    let (identity, arrived) :=
      Dispatcher.identify ⟨hub.desks.get endpoint.desk, hub.commons, hub.floor⟩ hub.now id id
    resolve (if endpoint.desk = .shared then arrived.directory else hub.desks.shared) identity
  | .web session =>
    resolve hub.desks.shared
      (Dispatcher.identify ⟨hub.web, hub.commons, hub.floor⟩ hub.now session.id session).1
  | .inProcess session handle _ =>
    resolve hub.desks.shared
      (Dispatcher.identify ⟨hub.inProcess, hub.commons, hub.floor⟩ hub.now session handle).1

/-- Whatever a call is about, its identity leads to the caller's counterpart. -/
theorem counterpart?_of_call {hub : Hub α} {application : Application α} {bytes : Bytes}
    {caller : Caller} {call : Call α} (called : hub.call? application bytes caller = some call) :
    call.envelope.identity.bind (resolve call.shared) = hub.counterpart? caller := by
  cases caller <;>
    · obtain ⟨⟨directory, envelope⟩, accepted, rfl⟩ := Option.map_eq_some_iff.mp called
      obtain ⟨rfl, decoded, -, rfl⟩ := Dispatcher.stamped_of_call accepted
      rfl

/-- A request for a pad seats the caller's counterpart. -/
theorem granted_of_call {hub : Hub α} {application : Application α} {bytes : Bytes}
    {caller : Caller} {call : Call α} (called : hub.call? application bytes caller = some call)
    {key : Key} {id : ConnectionId} (requested : call.requested? application = some (key, id)) :
    hub.counterpart? caller = some id ∧
      (hub.respond application bytes caller).2.channels = (hub.channels.grantPad key id).2 := by
  have granted : (call.served application).2.channels = (call.floor.channels.grantPad key id).2 := by
    rw [call.channels_served, requested]
  constructor
  · rw [← counterpart?_of_call called]
    rw [Call.requested?, Application.requested?] at requested
    split at requested
    · exact PadExchange.resolved_of_request requested
    · cases requested
  · rw [(respond_of_call called).2, granted, floor_of_call called]
    rfl

end Hub

/-- Two messages that differ in nothing but the identity that they name as that of their sender have
the same response and the same effect, on whatever dispatches them and in every state, where the type of
the messages is registered and does not read the name as part of its body. At a gateway they have the
same reply too, and a request for a pad is such a message. Whatever it names, it seats the connection
that the sender's own identity leads to. -/
theorem named_sender_changes_nothing {S : Type u} {H : Type v} {σ : Type w} [DecidableEq S] {α : Type}
    {kind : String} {first second : Bytes} (alike : Codec.AlikeButSender kind first second)
    (dispatcher : Dispatcher S H σ) (hub : Hub α) (application : Application α) :
    (∀ bodyType, dispatcher.codec.types.get? kind = some bodyType → bodyType.Ignores "systemId" →
      ∀ now session handle addresses state,
        dispatcher.dispatch now session handle addresses first state =
          dispatcher.dispatch now session handle addresses second state) ∧
    ((kind = PadExchange.requestKind ∨
        ∃ bodyType, application.codec.types.get? kind = some bodyType ∧
          bodyType.Ignores "systemId") →
      ∀ (caller : Caller) (frame other : Frame), frame.isText = other.isText →
        (hub.read frame caller).1 = some first → (hub.read other caller).1 = some second →
        hub.receive application frame caller = hub.receive application other caller) ∧
    ∀ (caller : Caller) (bytes : Bytes) (call : Hub.Call α) (key : Key) (id : ConnectionId),
      hub.call? application bytes caller = some call → call.requested? application = some (key, id) →
      hub.counterpart? caller = some id ∧
        (hub.respond application bytes caller).2.channels = (hub.channels.grantPad key id).2 := by
  refine ⟨fun bodyType registered ignores now session handle addresses state => ?_, ?_, ?_⟩
  · exact dispatcher.dispatch_of_alike alike registered ignores now session handle addresses state
  · intro readable caller frame other sort reads reads'
    obtain ⟨bodyType, registered, ignores⟩ : ∃ bodyType,
        application.codec.types.get? kind = some bodyType ∧ bodyType.Ignores "systemId" := by
      obtain rfl | readable := readable
      · exact ⟨_, application.registered_request, PadExchange.requestType_ignores⟩
      · exact readable
    exact Hub.receive_of_alike alike registered ignores hub caller sort reads reads'
  · intro caller bytes call key id called requested
    exact Hub.granted_of_call called requested

namespace Impersonating

def alice : ConnectionId := ⟨1, 1⟩

def mallory : ConnectionId := ⟨2, 2⟩

def honest : Frame := .text "\x7b\"type\":\"OTP_NEW_KEY_REQUEST\",\"id\":1,\"key\":\"addr:1\"\x7d"

/-- The same request in the name of the first identity, which is Alice's. -/
def forged : Frame :=
  .text "\x7b\"type\":\"OTP_NEW_KEY_REQUEST\",\"id\":1,\"key\":\"addr:1\",\"systemId\":1\x7d"

/-- Alice and Mallory are connected over secure sockets. -/
def met : Hub Unit :=
  Lobby.fresh.run Lobby.onWeb
    [.move (.accept alice ⟨⟨none, none⟩, true⟩ 4), .greet (.socket .secure alice),
      .move (.accept mallory ⟨⟨none, none⟩, true⟩ 4), .greet (.socket .secure mallory)]

theorem alike_honest_forged :
    Codec.AlikeButSender PadExchange.requestKind honest.bytes forged.bytes := by
  refine .objects
    [("id", .int 1), ("key", .string "addr:1"), ("type", .string PadExchange.requestKind)]
    [("id", .int 1), ("key", .string "addr:1"), ("systemId", .int 1),
      ("type", .string PadExchange.requestKind)] ?_ ?_ ?_ ?_ ?_ ?_
  · rfl
  · rfl
  · rfl
  · rfl
  · intro value found
    cases found
  · intro value found
    obtain rfl := Option.some.inj found
    exact .inr ⟨⟨1⟩, rfl⟩

end Impersonating

open Impersonating in
/-- A request that Mallory sends in Alice's name is her own one: it seats Mallory. -/
theorem forged_request_seats_its_sender :
    Codec.AlikeButSender PadExchange.requestKind honest.bytes forged.bytes ∧
      (∀ now session handle addresses state,
        (met.socketDispatcher Lobby.onWeb .secure).dispatch now session handle addresses honest.bytes
            state =
          (met.socketDispatcher Lobby.onWeb .secure).dispatch now session handle addresses forged.bytes
            state) ∧
      met.receive Lobby.onWeb honest (.socket .secure mallory) =
        met.receive Lobby.onWeb forged (.socket .secure mallory) ∧
      met.counterpart? (.socket .secure mallory) = some mallory ∧
      (met.respond Lobby.onWeb forged.bytes (.socket .secure mallory)).2.channels =
        (met.channels.grantPad (.name "addr:1") mallory).2 := by
  obtain ⟨dispatched, received, seated⟩ := named_sender_changes_nothing alike_honest_forged
    (met.socketDispatcher Lobby.onWeb .secure) met Lobby.onWeb
  have asked : (met.call? Lobby.onWeb forged.bytes (.socket .secure mallory)).bind
      (Hub.Call.requested? Lobby.onWeb) = some (.name "addr:1", mallory) := by decide +kernel
  obtain ⟨call, called, requested⟩ := Option.bind_eq_some_iff.mp asked
  exact ⟨alike_honest_forged,
    dispatched _ Lobby.onWeb.registered_request PadExchange.requestType_ignores,
    received (.inl rfl) (.socket .secure mallory) honest forged rfl rfl rfl,
    seated _ _ call _ _ called requested⟩

end Gateway
