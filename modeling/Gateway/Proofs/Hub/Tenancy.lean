import Gateway.Proofs.Hub.Web

/-! # Who has which identity at a gateway

The sessions of all desks of a gateway are places of one tenancy: every action is an event at the
reception of its own desk and leaves the sessions of the other desks alone. So identities are neither
shared nor given out again, at the desks of a gateway as at any receptions that share a mint.
-/

namespace Gateway

/-- Where a session is known. -/
inductive Seat where
  | socket (desk : SocketDesk) (id : ConnectionId)
  | web (session : String)
  | inProcess (session : String)
deriving DecidableEq

/-- The desk of a session. -/
def Seat.desk : Seat → Desk
  | .socket desk _ => .sockets desk
  | .web _ => .web
  | .inProcess _ => .inProcess

/-- Where a caller is known. -/
def Caller.seat : Caller → Seat
  | .socket endpoint id => .socket endpoint.desk id
  | .web session => .web session.id
  | .inProcess session _ _ => .inProcess session

namespace Hub

variable {α : Type} {application : Application α}

/-- The identity of a session. -/
def identityAt? (hub : Hub α) : Seat → Option Identity
  | .socket desk id => (hub.desks.get desk).identity? id
  | .web session => hub.web.identity? session
  | .inProcess session => hub.inProcess.identity? session

/-- The session that an action may give an identity to. -/
def Action.seat? : Action → Option Seat
  | .greet caller | .receive _ caller => some caller.seat
  | _ => none

theorem seat?_of_socketEvent {hub : Hub α} {action : Action} {desk : SocketDesk}
    {id : ConnectionId} (here : action.desk? = some (.sockets desk))
    (visitor : (hub.socketEvent application action).session? = some id) :
    action.seat? = some (.socket desk id) := by
  cases action with
  | greet caller =>
    cases caller with
    | socket endpoint sender =>
      cases here
      obtain rfl := Option.some.inj visitor
      rfl
    | web _ | inProcess _ _ _ => cases here
  | receive frame caller =>
    cases caller with
    | socket endpoint sender =>
      cases here
      rw [socketEvent] at visitor
      -- Only a frame that was read is a message.
      split at visitor
      · obtain rfl := Option.some.inj visitor
        rfl
      · cases visitor
    | web _ | inProcess _ _ _ => cases here
  | dismiss caller =>
    cases caller with
    | socket _ _ => cases visitor
    | web _ | inProcess _ _ _ => cases here
  | _ => cases visitor

theorem seat?_of_webEvent {hub : Hub α} {action : Action} {session : String}
    (visitor : (hub.webEvent application action).session? = some session) :
    action.seat? = some (.web session) := by
  unfold webEvent at visitor
  split at visitor
  · exact congrArg _ (congrArg _ (Option.some.inj visitor))
  · exact congrArg _ (congrArg _ (Option.some.inj visitor))
  all_goals cases visitor

theorem seat?_of_inProcessEvent {hub : Hub α} {action : Action} {session : String}
    (visitor : (hub.inProcessEvent application action).session? = some session) :
    action.seat? = some (.inProcess session) := by
  unfold inProcessEvent at visitor
  split at visitor
  · exact congrArg _ (congrArg _ (Option.some.inj visitor))
  · exact congrArg _ (congrArg _ (Option.some.inj visitor))
  all_goals cases visitor

/-- An action takes at most one identity. -/
theorem mint_perform (application : Application α) (hub : Hub α) (action : Action) :
    (hub.perform application action).commons.mint = hub.commons.mint ∨
      (hub.perform application action).commons.mint = hub.commons.mint.issue.2 := by
  have minted : (hub.perform application action).commons.mint =
      (hub.webReception.perform (hub.webEvent application action)).mint :=
    congrArg Reception.mint (webReception_perform application hub action)
  rw [minted]
  exact hub.webReception.mint_perform _

/-- Only the session that an action is about may get an identity by it. -/
theorem identityAt?_of_perform {hub : Hub α} {action : Action} {seat : Seat} {id : Identity}
    (known : (hub.perform application action).identityAt? seat = some id) :
    hub.identityAt? seat = some id ∨
      (hub.perform application action).commons.mint = hub.commons.mint.issue.2 ∧
        id = hub.commons.mint.issue.1 ∧ action.seat? = some seat := by
  cases seat with
  | socket desk connection =>
    by_cases here : action.desk? = some (.sockets desk)
    · have event := hub.socketReception_perform application here
      obtain before | ⟨minted, fresh, visitor⟩ := Reception.identity?_of_perform event known
      · exact .inl before
      · exact .inr ⟨minted, fresh, seat?_of_socketEvent here visitor⟩
    · have same : (hub.perform application action).desks.get desk = hub.desks.get desk :=
        (hub.apart_perform application here).directory
      rw [identityAt?, same] at known
      exact .inl known
  | web session =>
    have event := webReception_perform application hub action
    obtain before | ⟨minted, fresh, visitor⟩ := Reception.identity?_of_perform event known
    · exact .inl before
    · exact .inr ⟨minted, fresh, seat?_of_webEvent visitor⟩
  | inProcess session =>
    by_cases here : action.desk? = some .inProcess
    · have event := hub.inProcessReception_perform application here
      obtain before | ⟨minted, fresh, visitor⟩ := Reception.identity?_of_perform event known
      · exact .inl before
      · exact .inr ⟨minted, fresh, seat?_of_inProcessEvent visitor⟩
    · have same : (hub.perform application action).inProcess = hub.inProcess :=
        (hub.apart_perform application here).directory
      rw [identityAt?, same] at known
      exact .inl known

/-- The sessions of a gateway. -/
def tenancy (application : Application α) : Tenancy (Hub α) Action Seat where
  perform := perform application
  mint hub := hub.commons.mint
  held := identityAt?
  taker := Action.seat?
  frugal := mint_perform application
  granted _ _ _ _ := identityAt?_of_perform

/-- The tenancy counts as the gateway does. -/
theorem taken_tenancy (application : Application α) (hub : Hub α) (actions : List Action) :
    (tenancy application).taken hub actions = hub.mints application actions := by
  induction actions generalizing hub with
  | nil => rfl
  | cons action rest ih =>
    rw [Tenancy.taken, mints, ih]
    rfl

theorem mints_append (application : Application α) (hub : Hub α) (first second : List Action) :
    hub.mints application (first ++ second) =
      hub.mints application first + (hub.run application first).mints application second := by
  simp only [← taken_tenancy]
  exact Tenancy.taken_append ..

/-- What every action keeps while it counts the identities that it takes, a run keeps. -/
theorem counted_run {holds : Nat → Hub α → Prop}
    (kept : ∀ count hub action, count < 2 ^ 64 → holds count hub →
      holds (count + hub.commons.mint.steps (hub.perform application action).commons.mint)
        (hub.perform application action))
    {hub : Hub α} {count : Nat} (held : holds count hub) (actions : List Action)
    (few : count + hub.mints application actions < 2 ^ 64) :
    holds (count + hub.mints application actions) (hub.run application actions) := by
  rw [← taken_tenancy] at few ⊢
  exact (tenancy application).counted_run kept held actions few

theorem WebConsistent.run (aliases : application.NamesAliases) {start : UInt64} {count : Nat}
    {hub : Hub α} (consistent : hub.WebConsistent start count) (actions : List Action)
    (few : count + hub.mints application actions < 2 ^ 64) :
    (hub.run application actions).WebConsistent start (count + hub.mints application actions) := by
  refine counted_run (fun count hub action few consistent => ?_) consistent actions few
  exact WebConsistent.perform aliases consistent few action

theorem vacant_initial (settings : HubSettings) (subscribers : List Subscriber) (mint : Mint)
    (entropy : Entropy) (own : α) (seat : Seat) :
    (Hub.initial settings subscribers mint entropy own).identityAt? seat = none := by
  cases seat with
  | socket desk id => cases desk <;> rfl
  | web session | inProcess session => rfl

end Hub

/-- At receptions that share a mint, whatever rosters and handles they share and whether or not these
expire, no run that takes fewer identities than there are gives any identity to two sessions: neither
at once nor one after the other, neither in one roster nor in two. The same goes for the desks of a
gateway. -/
theorem identities_are_neither_shared_nor_reused {T G P : Type} [DecidableEq T] [DecidableEq G]
    {S : T → Type} {H : G → Type} [∀ roster, DecidableEq (S roster)]
    [∀ registry, BEq (H registry)] (wiring : Wiring T G P) (ttl : G → Option Nat)
    (events : List (wiring.Event S H))
    (fewEvents : wiring.tenancy.taken (.vacant ttl) events < 2 ^ 64) {α : Type}
    (application : Application α) (settings : HubSettings) (subscribers : List Subscriber)
    (entropy : Entropy) (own : α) (actions : List Hub.Action)
    (fewActions : (Hub.initial settings subscribers .initial entropy own).mints application
      actions < 2 ^ 64) :
    wiring.tenancy.NeverReused (.vacant ttl) events ∧
      (Hub.tenancy application).NeverReused
        (Hub.initial settings subscribers .initial entropy own) actions := by
  constructor
  · exact Tenancy.neverReused rfl (fun _ => rfl) events fewEvents
  · refine Tenancy.neverReused rfl (Hub.vacant_initial settings subscribers .initial entropy own)
      actions ?_
    rw [Hub.taken_tenancy]
    exact fewActions

namespace Absence

/-- Two receptions with rosters of their own that share their handles; one of them forgets. -/
def wiring : Wiring Bool Unit Bool := ⟨id, fun _ => (), id⟩

/-- The handles expire after 30 nanoseconds. -/
def vacant : Premises (fun _ : Bool => String) (fun _ : Unit => String) := .vacant fun _ => some 30

def visits : List (wiring.Event (fun _ : Bool => String) fun _ : Unit => String) :=
  [.visit true (.connect "guest" "door"), .visit true (.elsewhere false 31),
    .visit false (.connect "guest" "door"), .visit true (.connect "guest" "door")]

def actions : List Hub.Action :=
  [.greet (.web ⟨"guest", ⟨none, none⟩⟩), .move (.elapse 31), .greet (.socket .raw (.ofRandom 0 1)),
    .greet (.web ⟨"guest", ⟨none, none⟩⟩)]

end Absence

/-- The identity of a session that comes back too late is nobody's any more. -/
theorem identities_of_absent_sessions_are_not_reused :
    Absence.wiring.tenancy.taken Absence.vacant Absence.visits < 2 ^ 64 ∧
      Lobby.fresh.mints Lobby.onWeb Absence.actions < 2 ^ 64 ∧
      (∀ place, Absence.wiring.tenancy.held
        (Absence.wiring.tenancy.run Absence.vacant Absence.visits) place ≠ some ⟨1⟩) ∧
      ∀ seat, (Lobby.fresh.run Lobby.onWeb Absence.actions).identityAt? seat ≠ some ⟨1⟩ := by
  have fewVisits : Absence.wiring.tenancy.taken Absence.vacant Absence.visits < 2 ^ 64 := by
    decide +kernel
  have fewActions : Lobby.fresh.mints Lobby.onWeb Absence.actions < 2 ^ 64 := by decide +kernel
  obtain ⟨visited, acted⟩ := identities_are_neither_shared_nor_reused Absence.wiring
    (fun _ => some 30) Absence.visits fewVisits Lobby.onWeb Lobby.settings [] ⟨fun _ => 0, 0⟩ ()
    Absence.actions fewActions
  refine ⟨fewVisits, fewActions, fun place held => ?_, fun seat held => ?_⟩
  · have first : Absence.wiring.tenancy.held
        (Absence.wiring.tenancy.run Absence.vacant (Absence.visits.take 1)) ⟨true, "guest"⟩ =
          some ⟨1⟩ := by decide +kernel
    obtain rfl := visited.apart _ _ (List.take_prefix 1 _) (List.prefix_refl _) _ place ⟨1⟩ first
      held
    exact absurd held (by decide +kernel)
  · have first : (Lobby.fresh.run Lobby.onWeb (Absence.actions.take 1)).identityAt? (.web "guest") =
        some ⟨1⟩ := by decide +kernel
    obtain rfl := acted.apart _ _ (List.take_prefix 1 _) (List.prefix_refl _) (.web "guest") seat ⟨1⟩
      first held
    exact absurd held (by decide +kernel)

end Gateway
