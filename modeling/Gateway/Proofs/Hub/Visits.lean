import Gateway.Proofs.Directory.Visits
import Gateway.Proofs.Hub.Identities

/-! # What the desks of sockets hold

Endpoints may share a desk, and at each desk a run leaves a history of visits: connections arrive, have
messages answered and leave. What the desk holds at the end is determined by this history. Nothing else
that happens in the run, at the desk or away from it, shows in what is held. Identities come on top:
each is known for one connection, so that nothing but this connection is ever found under it.
-/

namespace Gateway.Hub

variable {α : Type} {application : Application α}

/-- The visit that an action is to a desk of sockets, if it is one. A message counts as soon as there is
a response, which names the keys. -/
def visit? (application : Application α) (hub : Hub α) (desk : SocketDesk) :
    Action → Option (Visit ConnectionId)
  | .greet (.socket endpoint id) => if endpoint.desk = desk then some (.arrived id) else none
  | .receive frame (.socket endpoint id) =>
    if endpoint.desk = desk then
      (hub.receive application frame (.socket endpoint id)).1.response.map fun response =>
        .answered id (response.keys.getD [])
    else none
  | .dismiss (.socket endpoint id) => if endpoint.desk = desk then some (.left id) else none
  | _ => none

/-- The visits that a run pays to a desk of sockets. -/
def visits (application : Application α) (hub : Hub α) (desk : SocketDesk) :
    List Action → List (Visit ConnectionId)
  | [] => []
  | action :: rest =>
    (hub.visit? application desk action).toList ++
      (hub.perform application action).visits application desk rest

/-- The event that an action is at its desk is the visit that it is, or idle. -/
theorem event_of_visit (application : Application α) (hub : Hub α) {desk : SocketDesk} {action : Action}
    (here : action.desk? = some (.sockets desk)) :
    match hub.visit? application desk action with
    | some visit => hub.socketEvent application action = visit.event
    | none => (hub.socketEvent application action).IsIdle := by
  cases action with
  | greet caller =>
    cases caller with
    | socket endpoint id =>
      obtain rfl := Desk.sockets.inj (Option.some.inj here)
      simp only [visit?, ↓reduceIte]
      rfl
    | web _ | inProcess _ _ _ => cases here
  | receive frame caller =>
    cases caller with
    | socket endpoint id =>
      obtain rfl := Desk.sockets.inj (Option.some.inj here)
      simp only [visit?, ↓reduceIte, socketEvent]
      rcases read : hub.read frame (.socket endpoint id) with ⟨_ | bytes, arrived⟩
      · rw [(receive_of_unread read application).1]
        trivial
      · rw [(receive_of_read read application).1]
        rfl
    | web _ | inProcess _ _ _ => cases here
  | dismiss caller =>
    cases caller with
    | socket endpoint id =>
      obtain rfl := Desk.sockets.inj (Option.some.inj here)
      simp only [visit?, ↓reduceIte]
      rfl
    | web _ | inProcess _ _ _ => cases here
  | push _ _ _ | find _ _ => trivial
  | _ => cases here

theorem visit?_of_elsewhere (hub : Hub α) {desk : SocketDesk} {action : Action}
    (elsewhere : action.desk? ≠ some (.sockets desk)) :
    hub.visit? application desk action = none := by
  cases action with
  | greet caller | receive frame caller | dismiss caller =>
    cases caller with
    | socket endpoint id => exact if_neg fun same => elsewhere (congrArg _ (congrArg _ same))
    | web _ | inProcess _ _ _ => rfl
  | _ => rfl

/-- At a desk of sockets an action is the visit that it is, or nobody's. -/
theorem socketReception_of_visit (application : Application α) (hub : Hub α) (desk : SocketDesk)
    (action : Action) :
    match hub.visit? application desk action with
    | some visit => (hub.perform application action).socketReception desk =
        (hub.socketReception desk).perform visit.event
    | none => ∃ event : Reception.Event ConnectionId ConnectionId, event.IsIdle ∧
        (hub.perform application action).socketReception desk =
          (hub.socketReception desk).perform event := by
  by_cases here : action.desk? = some (.sockets desk)
  · have event := event_of_visit application hub here
    have performed := hub.socketReception_perform application here
    cases visited : hub.visit? application desk action with
    | none =>
      rw [visited] at event
      exact ⟨_, event, performed⟩
    | some visit =>
      rw [visited] at event
      exact performed.trans (congrArg _ event)
  · obtain ⟨mints, nanoseconds, happened⟩ := hub.socketReception_elsewhere application here
    rw [hub.visit?_of_elsewhere here]
    exact ⟨.elsewhere mints nanoseconds, trivial, happened⟩

/-- An action is recorded at a desk if it is a visit, and leaves what is recorded otherwise. -/
theorem records_perform {hub : Hub α} {desk : SocketDesk} {visits : List (Visit ConnectionId)}
    (records : (hub.socketReception desk).Records visits) (action : Action) :
    ((hub.perform application action).socketReception desk).Records
      (visits ++ (hub.visit? application desk action).toList) := by
  have happened := hub.socketReception_of_visit application desk action
  cases visited : hub.visit? application desk action with
  | none =>
    rw [visited] at happened
    obtain ⟨event, idle, performed⟩ := happened
    rw [Option.toList_none, List.append_nil, performed]
    exact records.idle idle
  | some visit =>
    rw [visited] at happened
    have performed : _ = _ := happened
    rw [Option.toList_some, performed]
    exact records.visit visit

theorem records_run {hub : Hub α} {desk : SocketDesk} {visits : List (Visit ConnectionId)}
    (records : (hub.socketReception desk).Records visits) (actions : List Action) :
    ((hub.run application actions).socketReception desk).Records
      (visits ++ hub.visits application desk actions) := by
  induction actions generalizing hub visits with
  | nil => rwa [Hub.visits, List.append_nil]
  | cons action rest ih =>
    rw [Hub.visits, ← List.append_assoc]
    exact ih (records_perform records action)

theorem records_initial (settings : HubSettings) (subscribers : List Subscriber) (mint : Mint)
    (entropy : Entropy) (own : α) (desk : SocketDesk) :
    ((Hub.initial settings subscribers mint entropy own).socketReception desk).Records [] := by
  have empty : (Hub.initial settings subscribers mint entropy own).desks.get desk =
      .empty none false := by cases desk <;> rfl
  rw [socketReception, empty]
  exact .initial mint _

/-- In every run whose handlers name aliases only, a desk of sockets holds what its visits say and
nothing else. A connection has an identity exactly if it is there. A key reaches a connection exactly
if it is the connection's identity, or an alias that was given to the connection last and that the
connection holds because it is still there. Whoever leaves takes nothing with it that reaches another
connection. -/
theorem socket_desks_hold_what_visits_say (settings : HubSettings) (subscribers : List Subscriber)
    (mint : Mint) (entropy : Entropy) (own : α) (application : Application α)
    (aliases : application.NamesAliases) (actions : List Action)
    (few : (Hub.initial settings subscribers mint entropy own).mints application actions < 2 ^ 64)
    (desk : SocketDesk) :
    let start := Hub.initial settings subscribers mint entropy own
    let hub := start.run application actions
    let visits := start.visits application desk actions
    let directory := hub.desks.get desk
    (∀ id, (directory.identity? id).isSome ↔ Visit.Present visits id) ∧
      (∀ key id, directory.handles.stored? key = some id ↔
        (∃ identity, directory.identity? id = some identity ∧ key = .system identity) ∨
          key.IsAlias ∧ Visit.Holds visits key id) ∧
      ∀ endpoint : Endpoint, endpoint.desk = desk → ∀ id other, other ≠ id → ∀ key,
        directory.handles.stored? key = some other →
          ((hub.disconnect endpoint id).desks.get desk).handles.stored? key = some other := by
  intro start hub visits directory
  have records : (hub.socketReception desk).Records visits :=
    records_run (records_initial settings subscribers mint entropy own desk) actions
  have consistent := (identified_run settings subscribers mint entropy own aliases actions
    few).consistent desk
  refine ⟨records.present, fun key id => records.stored?_eq_some_iff consistent, ?_⟩
  rintro endpoint rfl id other differs key found
  have directory : (hub.disconnect endpoint id).desks.get endpoint.desk =
      ((hub.desks.get endpoint.desk).disconnect hub.now id id).1 := by
    simp [disconnect, announce]
  rw [directory]
  exact consistent.stored?_disconnect_of_other differs found hub.now

namespace Takeover

def first : ConnectionId := .ofRandom 0 1

def second : ConnectionId := .ofRandom 0 2

def login : Frame := .text "\x7b\"type\":\"LOGIN\",\"id\":1,\"user\":\"alice\"\x7d"

/-- One connection logs in as Alice, then another does at an endpoint of the same desk, which connects
it, and the first one leaves. -/
def actions : List Action :=
  [.greet (.socket .secure first), .receive login (.socket .secure first),
    .receive login (.socket .padWebsocket second), .dismiss (.socket .secure first)]

end Takeover

/-- Whoever took a login over keeps it when the other one leaves. -/
theorem socket_desks_hold_login_that_was_taken_over :
    Lobby.onWeb.NamesAliases ∧ Lobby.fresh.mints Lobby.onWeb Takeover.actions < 2 ^ 64 ∧
      ¬ Visit.Present (Lobby.fresh.visits Lobby.onWeb .shared Takeover.actions) Takeover.first ∧
      Visit.Present (Lobby.fresh.visits Lobby.onWeb .shared Takeover.actions) Takeover.second ∧
      Visit.Holds (Lobby.fresh.visits Lobby.onWeb .shared Takeover.actions) (.name "alice")
        Takeover.second ∧
      ((Lobby.fresh.run Lobby.onWeb Takeover.actions).desks.get .shared).handles.stored?
        (.name "alice") = some Takeover.second := by
  have few : Lobby.fresh.mints Lobby.onWeb Takeover.actions < 2 ^ 64 := by decide +kernel
  obtain ⟨known, stored, -⟩ := socket_desks_hold_what_visits_say Lobby.settings [] .initial
    ⟨fun _ => 0, 0⟩ () Lobby.onWeb Lobby.namesAliases_onWeb Takeover.actions few .shared
  have found : ((Lobby.fresh.run Lobby.onWeb Takeover.actions).desks.get .shared).handles.stored?
      (.name "alice") = some Takeover.second := by decide +kernel
  refine ⟨Lobby.namesAliases_onWeb, few, ?_, (known Takeover.second).mp (by decide +kernel), ?_,
    found⟩
  · exact fun present => absurd ((known Takeover.first).mpr present) (by decide +kernel)
  · obtain ⟨_, -, ⟨⟩⟩ | ⟨-, holds⟩ := (stored (.name "alice") Takeover.second).mp found
    exact holds

end Gateway.Hub
