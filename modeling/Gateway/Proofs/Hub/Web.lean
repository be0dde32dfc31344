import Gateway.Lobby
import Gateway.Proofs.Hub.Desks

/-! # The web's reception

Of everything that can happen to a gateway, the directory of web sessions sees six kinds of events:
web sessions that connect, send messages or leave, look-ups at its desk, sweeps, and all the rest, of
which it notices that time passes and that identities are taken from the mint they share.
-/

namespace Gateway

namespace Hub

variable {α : Type}

/-- The reception of the web. -/
def webReception (hub : Hub α) : Reception String WebSession := ⟨hub.web, hub.commons.mint, hub.now⟩

/-- The keys named by the answer to a message from the web. -/
def webKeys (hub : Hub α) (application : Application α) (session : WebSession) (bytes : Bytes) :
    List Key :=
  ((hub.webDispatcher application).answered hub.now session.id session session.addresses bytes
    ⟨hub.web, hub.commons, ⟨hub.channels, hub.own⟩⟩).1.keys.getD []

/-- What an action is to the web. -/
def webEvent (application : Application α) (hub : Hub α) (action : Action) :
    Reception.Event String WebSession :=
  match action with
  | .greet (.web session) => .connect session.id session
  | .receive frame (.web session) =>
    .message session.id session (hub.webKeys application session frame.bytes)
  | .dismiss (.web session) => .disconnect session.id session
  | .find key .web => .find key
  | .sweepWeb => .sweep
  | action =>
    .elsewhere (decide ((hub.perform application action).commons.mint ≠ hub.commons.mint))
      ((hub.perform application action).now - hub.now)

theorem webReception_messageWeb (hub : Hub α) (application : Application α) (session : WebSession)
    (bytes : Bytes) :
    (hub.messageWeb application session bytes).2.webReception =
      hub.webReception.perform
        (.message session.id session (hub.webKeys application session bytes)) := by
  have now : (hub.messageWeb application session bytes).2.now = hub.now :=
    (hub.served_respond application bytes (.web session)).served.steady.now
  rw [webReception, now]
  exact Dispatcher.reception_dispatch (hub.webDispatcher application) hub.now session.id session
    session.addresses bytes hub.web hub.commons hub.floor

/-- What an action does at the web's reception is what its event does. -/
theorem webReception_perform (application : Application α) (hub : Hub α) (action : Action) :
    (hub.perform application action).webReception =
      hub.webReception.perform (hub.webEvent application action) := by
  by_cases elsewhere : action.desk? = some .web
  · cases action with
    | greet caller =>
      cases caller with
      | web session => rfl
      | socket _ _ | inProcess _ _ _ => cases elsewhere
    | receive frame caller =>
      cases caller with
      | web session => exact hub.webReception_messageWeb application session frame.bytes
      | socket _ _ | inProcess _ _ _ => cases elsewhere
    | dismiss caller =>
      cases caller with
      | web session => rfl
      | socket _ _ | inProcess _ _ _ => cases elsewhere
    | find key desk =>
      cases desk with
      | web => rfl
      | sockets _ | inProcess => cases elsewhere
    | sweepWeb => rfl
    | _ => cases elsewhere
  · have event : hub.webEvent application action =
        .elsewhere (decide ((hub.perform application action).commons.mint ≠ hub.commons.mint))
          ((hub.perform application action).now - hub.now) := by
      unfold webEvent
      split <;> first | rfl | exact absurd rfl elsewhere
    obtain ⟨web, mint⟩ := apart_perform application hub elsewhere
    have web : (hub.perform application action).web = hub.web := web
    rw [event, webReception, web]
    exact Reception.perform_elsewhere hub.web (now_le_hub application hub action) mint

/-- What is left of the directory of web sessions after an action. -/
theorem web_perform (application : Application α) (hub : Hub α) (action : Action) :
    (hub.perform application action).web =
      (hub.webReception.perform (hub.webEvent application action)).directory :=
  congrArg Reception.directory (webReception_perform application hub action)

end Hub

namespace PadExchange

/-- The answer to a request names no keys. -/
theorem names_requestHandler (named : Key → Prop) (resolve : Identity → Option ConnectionId) :
    (requestHandler resolve).Names named := by
  intro context envelope channels response after processed
  simp only [requestHandler, processRequest] at processed
  refine Response.names_of_none ?_
  split at processed
  · cases processed
  · split at processed
    · cases processed
    · split at processed
      · cases processed
      · cases processed
      · split at processed
        · cases processed
        · cases processed
          rfl

/-- Nor does the answer to a confirmation. -/
theorem names_ackHandler (named : Key → Prop) : ackHandler.Names named := by
  intro context envelope channels response after processed
  simp only [ackHandler, processAck] at processed
  refine Response.names_of_none ?_
  split at processed
  · cases processed
  · split at processed
    · cases processed
      rfl
    · cases processed

end PadExchange

/-- Handlers of the application name aliases only. -/
def Application.NamesAliases {α : Type} (application : Application α) : Prop :=
  ∀ kind handler, application.services.get? kind = some (.application handler) →
    handler.Names Key.IsAlias

theorem Service.names_aliases {α : Type} {service : Service α}
    (own : ∀ handler, service = .application handler → handler.Names Key.IsAlias)
    (resolve : Identity → Option ConnectionId) : (service.handler resolve).Names Key.IsAlias := by
  cases service with
  | application handler => exact (own handler rfl).onPart _ _
  | padRequest =>
    rw [Service.handler]
    exact (PadExchange.names_requestHandler Key.IsAlias resolve).onPart _ _
  | padAck =>
    rw [Service.handler]
    exact (PadExchange.names_ackHandler Key.IsAlias).onPart _ _

/-- Then all answers of the application do. -/
theorem Application.NamesAliases.serve {α : Type} {application : Application α}
    (aliases : application.NamesAliases) (resolve : Identity → Option ConnectionId)
    (envelope : Envelope) (floor : Floor α) :
    ((application.pipeline resolve).serve envelope floor).1.Names Key.IsAlias := by
  refine Pipeline.names_serve (fun kind handler found => ?_) envelope floor
  obtain ⟨service, served, rfl⟩ := application.handlers_pipeline resolve found
  exact Service.names_aliases (fun handler same => aliases kind handler (same ▸ served)) resolve

namespace Hub

variable {α : Type} {application : Application α}

theorem webKeys_isAlias (aliases : application.NamesAliases) (hub : Hub α) (session : WebSession)
    (bytes : Bytes) : ∀ key ∈ hub.webKeys application session bytes, key.IsAlias :=
  Dispatcher.names_answer (hub.webDispatcher application)
    (fun _ envelope floor => aliases.serve _ envelope floor) _ _ _ _ bytes _

theorem webEvent_proper (aliases : application.NamesAliases) (hub : Hub α) (action : Action) :
    (hub.webEvent application action).Proper WebSession.id := by
  unfold webEvent
  split
  · rfl
  · exact ⟨rfl, hub.webKeys_isAlias aliases _ _⟩
  · rfl
  · trivial
  · trivial
  · trivial

/-- How many identities a run takes from the mint. -/
def mints (application : Application α) (hub : Hub α) : List Action → Nat
  | [] => 0
  | action :: rest =>
    hub.commons.mint.steps (hub.perform application action).commons.mint +
      mints application (hub.perform application action) rest

/-- The web's roster and handles agree. -/
abbrev WebConsistent (start : UInt64) (count : Nat) (hub : Hub α) : Prop :=
  Reception.Consistent WebSession.id start count hub.webReception

theorem WebConsistent.perform (aliases : application.NamesAliases) {start : UInt64} {count : Nat}
    {hub : Hub α} (consistent : hub.WebConsistent start count) (few : count < 2 ^ 64)
    (action : Action) :
    (hub.perform application action).WebConsistent start
      (count + hub.commons.mint.steps (hub.perform application action).commons.mint) := by
  have event := webReception_perform application hub action
  have minted : (hub.perform application action).commons.mint =
      (hub.webReception.perform (hub.webEvent application action)).mint :=
    congrArg Reception.mint event
  have kept := Reception.Consistent.perform consistent few (hub.webEvent_proper aliases action)
  rw [WebConsistent, event, minted]
  exact kept

theorem webConsistent_initial (settings : HubSettings) (subscribers : List Subscriber) (mint : Mint)
    (entropy : Entropy) (own : α) :
    (Hub.initial settings subscribers mint entropy own).WebConsistent mint.next 0 :=
  .initial WebSession.id mint.next (some settings.webTtl) true 0 (.inl rfl)

end Hub

namespace Lobby

/-- The only keys that the lobby names are names of users. -/
theorem names_stateless {σ : Type u} {answer : Context → Envelope → Outcome Response}
    (names : ∀ context envelope response, answer context envelope = .done response →
      response.Names Key.IsAlias) : (stateless answer : Handler σ).Names Key.IsAlias := by
  intro context envelope state response after processed
  exact names context envelope response (congrArg Prod.fst processed)

/-- The lobby, open to the web. -/
def onWeb : Application Unit := { application with admitsWeb := fun _ => true }

/-- Pads of 16 bytes, and sessions of the web that live for 30 nanoseconds. -/
def settings : HubSettings := ⟨16, 60, 30, none, 1⟩

/-- A gateway before anybody came. -/
def fresh : Hub Unit := .initial settings [] .initial ⟨fun _ => 0, 0⟩ ()

theorem namesAliases_onWeb : onWeb.NamesAliases := by
  intro kind handler served
  have listed : (Table.ofList services).get? kind = some (.application handler) := served
  simp only [Table.ofList, services, List.foldl_cons, List.foldl_nil, Table.get?_insert,
    Table.get?_empty] at listed
  split_ifs at listed <;> cases listed
  · refine names_stateless fun context envelope response answered => ?_
    cases answered
    exact Response.names_of_none rfl
  · refine names_stateless fun context envelope response answered => ?_
    rw [answerLogin] at answered
    split at answered
    · cases answered
      intro key member
      obtain rfl := List.mem_singleton.mp member
      intro id same
      cases same
    · cases answered
  · refine names_stateless fun context envelope response answered => ?_
    cases answered
    exact Response.names_of_none rfl

end Lobby

end Gateway
