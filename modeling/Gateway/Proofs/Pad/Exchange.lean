import Gateway.Application
import Gateway.Proofs.Dispatch

/-! # What serving the pad exchange comes to

A valid request names a pair and comes from an identity that resolves to a connection. Serving it seats
that connection on the encrypted side of the pair and, once the connection is seated, makes a new pad
wait for the pair; nothing looks at the pair in between. Serving a confirmation puts the waiting pad of
the client's address to use. Everything else that the services of an application are asked leaves the
channels alone.
-/

namespace Gateway

namespace Channels

/-- What becomes of a connection that asks for a pad of a pair: the pad that waits from now on, unless
the connection is not seated or no pad can be made. -/
def grantPad (channels : Channels) (key : Key) (id : ConnectionId) : Option Bytes × Channels :=
  match channels.joinEncrypted key id with
  | (.error _, channels) => (none, channels)
  | (.ok (), channels) =>
    match channels.newPendingPad key with
    | (.error _, channels) => (none, channels)
    | (.ok pad, channels) => (some pad, channels)

theorem grantPad_of_refused {channels joined : Channels} {key : Key} {id : ConnectionId}
    {error : PairingError} (refused : channels.joinEncrypted key id = (.error error, joined)) :
    channels.grantPad key id = (none, joined) := by
  simp only [grantPad, refused]

theorem grantPad_of_seated {channels joined : Channels} {key : Key} {id : ConnectionId}
    (seated : channels.joinEncrypted key id = (.ok (), joined)) :
    (channels.grantPad key id).2 = (joined.newPendingPad key).2 := by
  simp only [grantPad, seated]
  split <;> simp only [*]

/-- Only a connection that was seated gets a pad. -/
theorem joined_of_granted {channels : Channels} {key : Key} {id : ConnectionId} {pad : Bytes}
    (granted : (channels.grantPad key id).1 = some pad) :
    (channels.joinEncrypted key id).1 = .ok () := by
  rcases joined : channels.joinEncrypted key id with ⟨error | _, seated⟩
  · rw [grantPad_of_refused joined] at granted
    cases granted
  · rfl

end Channels

namespace PadExchange

/-- The pair and the connection that a valid request is about. -/
def request? (resolve : Identity → Option ConnectionId) (envelope : Envelope) :
    Option (Key × ConnectionId) :=
  match requestedPair? envelope, envelope.identity.bind resolve with
  | some name, some id => if name = "" then none else some (.name name, id)
  | _, _ => none

section

variable {resolve : Identity → Option ConnectionId} {envelope : Envelope}

/-- A request that names a pair and comes from a connection is answered with the pad that is granted, if
one is. -/
theorem processRequest_of_asked {name : String} {id : ConnectionId}
    (named : requestedPair? envelope = some name)
    (resolved : envelope.identity.bind resolve = some id) (context : Context) (channels : Channels) :
    match channels.grantPad (.name name) id with
    | (some pad, after) => processRequest resolve context envelope channels =
        (.done (Response.success [.string (Base64.encode pad)]), after)
    | (none, after) => ∃ fault,
        processRequest resolve context envelope channels = (.failed fault, after) := by
  simp only [processRequest, named, resolved, Channels.grantPad]
  rcases channels.joinEncrypted (.name name) id with ⟨error | _, joined⟩
  · cases error <;> exact ⟨_, rfl⟩
  · simp only
    rcases joined.newPendingPad (.name name) with ⟨error | pad, after⟩
    · exact ⟨_, rfl⟩
    · rfl

/-- A request that is about no pair or no connection fails. -/
theorem attempt_request_of_none (requested : request? resolve envelope = none) (context : Context)
    (channels : Channels) :
    ∃ fault, Pipeline.attempt context (requestHandler resolve) envelope channels =
      (.failed fault, channels) := by
  simp only [Pipeline.attempt, requestHandler, validateRequest, processRequest]
  cases named : requestedPair? envelope with
  | none => exact ⟨_, rfl⟩
  | some name =>
    by_cases empty : name = ""
    · exact ⟨_, by simp only [Context.ensure, empty, ne_eq, not_true_eq_false, decide_false,
        Bool.false_eq_true, ↓reduceIte]; rfl⟩
    · simp only [Context.ensure, empty, ne_eq, not_false_eq_true, decide_true, ↓reduceIte]
      cases resolved : envelope.identity.bind resolve with
      | none => exact ⟨_, rfl⟩
      | some id => simp only [request?, named, resolved, empty, ↓reduceIte, reduceCtorEq] at requested

/-- Any other request is answered with the pad that is granted, if one is. -/
theorem attempt_request_of_some {key : Key} {id : ConnectionId}
    (requested : request? resolve envelope = some (key, id)) (context : Context)
    (channels : Channels) :
    let attempted := Pipeline.attempt context (requestHandler resolve) envelope channels
    attempted.2 = (channels.grantPad key id).2 ∧
      match (channels.grantPad key id).1 with
      | some pad => attempted.1 = .done (Response.success [.string (Base64.encode pad)])
      | none => ∃ fault, attempted.1 = .failed fault := by
  obtain ⟨name, named, empty, resolved, rfl⟩ : ∃ name, requestedPair? envelope = some name ∧
      name ≠ "" ∧ envelope.identity.bind resolve = some id ∧ Key.name name = key := by
    rw [request?] at requested
    split at requested
    case h_1 name id' named resolved =>
      split_ifs at requested with empty
      obtain ⟨rfl, rfl⟩ := Prod.mk.inj (Option.some.inj requested)
      exact ⟨name, named, empty, resolved, rfl⟩
    case h_2 => cases requested
  have checked : Pipeline.attempt context (requestHandler resolve) envelope channels =
      processRequest resolve context envelope channels := by
    simp only [Pipeline.attempt, requestHandler, validateRequest, named, Context.ensure, empty, ne_eq,
      not_false_eq_true, decide_true, ↓reduceIte]
  rw [checked]
  have processed := processRequest_of_asked named resolved context channels
  rcases granted : channels.grantPad (.name name) id with ⟨_ | pad, after⟩ <;> rw [granted] at processed
  · obtain ⟨fault, failed⟩ := processed
    exact ⟨congrArg Prod.snd failed, fault, congrArg Prod.fst failed⟩
  · exact ⟨congrArg Prod.snd processed, congrArg Prod.fst processed⟩

end

theorem channels_attempt_request (resolve : Identity → Option ConnectionId) (context : Context)
    (envelope : Envelope) (channels : Channels) :
    (Pipeline.attempt context (requestHandler resolve) envelope channels).2 =
      match request? resolve envelope with
      | none => channels
      | some (key, id) => (channels.grantPad key id).2 := by
  cases requested : request? resolve envelope with
  | none =>
    obtain ⟨fault, refused⟩ := attempt_request_of_none requested context channels
    rw [refused]
  | some request => exact (attempt_request_of_some requested context channels).1

/-- A confirmation from an address puts the waiting pad of the pair named after it to use, and succeeds
if there is one. -/
theorem processAck_of_addressed (context : Context) {envelope : Envelope} (channels : Channels)
    {address : String} (addressed : envelope.addresses.client = some address) :
    (processAck context envelope channels).2 = (channels.activatePad (.name address)).2 ∧
      ((∃ response, (processAck context envelope channels).1 = .done response) ↔
        (channels.activatePad (.name address)).1 = true) := by
  simp only [processAck, addressed]
  rcases channels.activatePad (.name address) with ⟨_ | _, after⟩
  · refine ⟨rfl, ?_, nofun⟩
    rintro ⟨response, done⟩
    cases done
  · exact ⟨rfl, fun _ => rfl, fun _ => ⟨_, rfl⟩⟩

theorem channels_attempt_ack (context : Context) (envelope : Envelope) (channels : Channels) :
    (Pipeline.attempt context ackHandler envelope channels).2 =
      match envelope.addresses.client with
      | none => channels
      | some address => (channels.activatePad (.name address)).2 := by
  simp only [Pipeline.attempt, ackHandler]
  cases addressed : envelope.addresses.client with
  | none => simp only [processAck, addressed]
  | some address => exact (processAck_of_addressed context channels addressed).1

end PadExchange

/-- Attempting on a part of a state is attempting on that part. -/
theorem Pipeline.attempt_onPart (context : Context) (handler : Handler τ) (part : σ → τ)
    (replace : σ → τ → σ) (parted : ∀ state changed, part (replace state changed) = changed)
    (twice : ∀ state one two, replace (replace state one) two = replace state two)
    (envelope : Envelope) (state : σ) :
    Pipeline.attempt context (handler.onPart part replace) envelope state =
      ((Pipeline.attempt context handler envelope (part state)).1,
        replace state (Pipeline.attempt context handler envelope (part state)).2) := by
  simp only [Pipeline.attempt, Handler.onPart]
  rcases checked : handler.validate context envelope (part state) with ⟨_ | _ | _, after⟩
  · simp only [checked, parted, twice]
  · simp only [checked]
  · simp only [checked]

namespace Service

variable {α : Type} (resolve : Identity → Option ConnectionId) (context : Context)
  (envelope : Envelope) (floor : Floor α)

theorem attempt_application (handler : Handler α) :
    Pipeline.attempt context ((Service.application handler).handler resolve) envelope floor =
      ((Pipeline.attempt context handler envelope floor.own).1,
        { floor with own := (Pipeline.attempt context handler envelope floor.own).2 }) :=
  Pipeline.attempt_onPart context handler Floor.own (fun floor own => { floor with own := own })
    (fun _ _ => rfl) (fun _ _ _ => rfl) envelope floor

/-- The services of the pad exchange work on the channels. -/
theorem attempt_onChannels (handler : Handler Channels) :
    Pipeline.attempt context (handler.onPart Floor.channels fun (floor : Floor α) channels =>
        { floor with channels := channels }) envelope floor =
      ((Pipeline.attempt context handler envelope floor.channels).1,
        { floor with
          channels := (Pipeline.attempt context handler envelope floor.channels).2 }) :=
  Pipeline.attempt_onPart context handler Floor.channels
    (fun floor channels => { floor with channels := channels }) (fun _ _ => rfl)
    (fun _ _ _ => rfl) envelope floor

end Service

namespace Application

variable {α : Type} (application : Application α) (resolve : Identity → Option ConnectionId)

theorem get?_pipeline (kind : String) :
    (application.pipeline resolve).handlers.get? kind =
      (application.services.get? kind).map (Service.handler resolve) :=
  Table.lookup_map (fun _ => Service.handler resolve) kind application.services.entries

/-- What a pipeline runs is the handler of one of the application's services. -/
theorem handlers_pipeline {kind : String} {handler : Handler (Floor α)}
    (found : (application.pipeline resolve).handlers.get? kind = some handler) :
    ∃ service, application.services.get? kind = some service ∧
      service.handler resolve = handler := by
  rw [get?_pipeline] at found
  exact Option.map_eq_some_iff.mp found

/-- What a pipeline makes of an envelope whose type is served. -/
theorem serve_of_service {envelope : Envelope} {service : Service α}
    (asked : application.services.get? envelope.kind = some service) (floor : Floor α) :
    let attempted := Pipeline.attempt ⟨application.describe⟩ (service.handler resolve) envelope floor
    (application.pipeline resolve).serve envelope floor =
      ((Pipeline.answer ⟨application.describe⟩ attempted.1).withId envelope.id, attempted.2) := by
  simp only [Pipeline.serve, Pipeline.outcome, get?_pipeline, asked, Option.map_some]
  rfl

/-- The pair and the connection that the services are asked for a pad for. -/
def requested? (envelope : Envelope) : Option (Key × ConnectionId) :=
  match application.services.get? envelope.kind with
  | some .padRequest => PadExchange.request? resolve envelope
  | _ => none

/-- The pair whose pad the services are told of. -/
def confirmed? (envelope : Envelope) : Option Key :=
  match application.services.get? envelope.kind with
  | some .padAck => envelope.addresses.client.map .name
  | _ => none

/-- Serving an envelope grants a pad, puts one to use, or leaves the channels alone. -/
theorem channels_serve (envelope : Envelope) (floor : Floor α) :
    ((application.pipeline resolve).serve envelope floor).2.channels =
      match application.requested? resolve envelope, application.confirmed? envelope with
      | some (key, id), _ => (floor.channels.grantPad key id).2
      | none, some key => (floor.channels.activatePad key).2
      | none, none => floor.channels := by
  cases asked : application.services.get? envelope.kind with
  | none =>
    simp only [Pipeline.serve, Pipeline.outcome, get?_pipeline, requested?, confirmed?, asked,
      Option.map_none]
  | some service =>
    rw [application.serve_of_service resolve asked]
    cases service with
    | application handler => simp only [Service.attempt_application, requested?, confirmed?, asked]
    | padRequest =>
      simp only [Service.handler, Service.attempt_onChannels, requested?, confirmed?, asked,
        PadExchange.channels_attempt_request]
      cases PadExchange.request? resolve envelope <;> rfl
    | padAck =>
      simp only [Service.handler, Service.attempt_onChannels, requested?, confirmed?, asked,
        PadExchange.channels_attempt_ack]
      cases envelope.addresses.client <;> rfl

/-- A request that is answered with success seated its connection. -/
theorem joined_of_success {envelope : Envelope}
    (asked : application.services.get? envelope.kind = some .padRequest) {floor : Floor α}
    (success : ((application.pipeline resolve).serve envelope floor).1.isSuccess = true) :
    ∃ key id, application.requested? resolve envelope = some (key, id) ∧
      (floor.channels.joinEncrypted key id).1 = .ok () := by
  have asking : application.requested? resolve envelope = PadExchange.request? resolve envelope := by
    simp only [requested?, asked]
  have failing : ∀ fault, ((Pipeline.answer ⟨application.describe⟩ (.failed fault)).withId
      envelope.id).isSuccess ≠ true := by
    rintro (refusal | chain) <;> exact Bool.false_ne_true
  rw [application.serve_of_service resolve asked, Service.handler,
    Service.attempt_onChannels] at success
  cases requested : PadExchange.request? resolve envelope with
  | none =>
    obtain ⟨fault, refused⟩ := PadExchange.attempt_request_of_none requested
      ⟨application.describe⟩ floor.channels
    rw [refused] at success
    exact absurd success (failing fault)
  | some request =>
    obtain ⟨key, id⟩ := request
    have answered := (PadExchange.attempt_request_of_some requested ⟨application.describe⟩
      floor.channels).2
    refine ⟨key, id, asking.trans requested, ?_⟩
    cases granted : (floor.channels.grantPad key id).1 with
    | some pad => exact Channels.joined_of_granted granted
    | none =>
      rw [granted] at answered
      obtain ⟨fault, refused⟩ := answered
      rw [refused] at success
      exact absurd success (failing fault)

end Application

end Gateway
