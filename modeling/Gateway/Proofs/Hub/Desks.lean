import Gateway.Proofs.Directory.Tenancy
import Gateway.Proofs.Hub.Run

/-! # Where actions happen

An action happens at one desk at most: the desk of its caller, or the one where a key is looked up or
sessions are swept. The directories of all other desks stay as they are, and of the mint that the desks
share at most one identity is taken. At its own desk an action is an event of the desk's reception.
-/

namespace Gateway

variable {S : Type u} {H : Type v} {σ : Type w} [DecidableEq S]

/-- Identifying the sender of a message is the reception's business alone. -/
theorem Hub.identify_eq (directory : Directory S H) (commons : Commons) (rest : σ) (now : Nat)
    (session : S) (handle : H) :
    Dispatcher.identify ⟨directory, commons, rest⟩ now session handle =
      let arrived := Reception.identify ⟨directory, commons.mint, now⟩ session handle
      (arrived.1, ⟨arrived.2.directory, { commons with mint := arrived.2.mint }, rest⟩) := by
  simp only [Dispatcher.identify, Reception.identify, Directory.identity?]
  cases directory.roster.get? session with
  | none => rfl
  | some id => rfl

/-- A message is dispatched as an event of the reception. -/
theorem Dispatcher.reception_dispatch [BEq H] (dispatcher : Dispatcher S H σ) (now : Nat)
    (session : S) (handle : H) (addresses : Addresses) (bytes : Bytes) (directory : Directory S H)
    (commons : Commons) (rest : σ) :
    let start : DispatchState S H σ := ⟨directory, commons, rest⟩
    let after := (dispatcher.dispatch now session handle addresses bytes start).2
    (⟨after.directory, after.commons.mint, now⟩ : Reception S H) =
      Reception.perform ⟨directory, commons.mint, now⟩
        (.message session handle
          ((dispatcher.answered now session handle addresses bytes start).1.keys.getD [])) := by
  simp only [directory_dispatch, mint_dispatch, Hub.identify_eq, Reception.perform,
    Reception.now_identify]

/-- What happens away from a desk is an event of the desk's reception. -/
theorem Reception.perform_elsewhere [BEq H] (directory : Directory S H)
    {mint minted : Mint} {now later : Nat} (order : now ≤ later)
    (taken : minted = mint ∨ minted = mint.issue.2) :
    (⟨directory, minted, later⟩ : Reception S H) =
      Reception.perform ⟨directory, mint, now⟩
        (.elsewhere (decide (minted ≠ mint)) (later - now)) := by
  have passed : now + (later - now) = later := by omega
  rw [Reception.perform, passed]
  obtain rfl | rfl := taken
  · simp
  · simp [Mint.issue_ne]

namespace Hub

variable {α : Type}

/-- The directory of a desk is as it was. -/
def SameDesk (before after : Hub α) : Desk → Prop
  | .sockets desk => after.desks.get desk = before.desks.get desk
  | .web => after.web = before.web
  | .inProcess => after.inProcess = before.inProcess

/-- Nothing happened at a desk, but an identity may have been taken. -/
structure Apart (desk : Desk) (before after : Hub α) : Prop where
  directory : SameDesk before after desk
  mint : after.commons.mint = before.commons.mint ∨ after.commons.mint = before.commons.mint.issue.2

namespace Undisturbed

variable {first second third : Hub α}

theorem sameDesk (undisturbed : Undisturbed first second) (desk : Desk) :
    SameDesk first second desk := by
  cases desk with
  | sockets desk => exact congrArg (SocketDesks.get · desk) undisturbed.desks
  | web => exact undisturbed.web
  | inProcess => exact undisturbed.inProcess

theorem apart (undisturbed : Undisturbed first second) (desk : Desk) : Apart desk first second :=
  ⟨undisturbed.sameDesk desk, .inl undisturbed.mint⟩

theorem before (one : Undisturbed first second) {desk : Desk} (two : Apart desk second third) :
    Apart desk first third := by
  have same := one.sameDesk desk
  refine ⟨?_, one.mint ▸ two.mint⟩
  cases desk <;> exact two.directory.trans same

theorem after (two : Undisturbed second third) {desk : Desk} (one : Apart desk first second) :
    Apart desk first third := by
  have same := two.sameDesk desk
  refine ⟨?_, two.mint ▸ one.mint⟩
  cases desk <;> exact same.trans one.directory

end Undisturbed

theorem undisturbed_registerClear (hub : Hub α) (id : ConnectionId) :
    Undisturbed hub (hub.registerClear id) := by
  rw [registerClear]
  split <;> exact ⟨rfl, rfl, rfl, rfl⟩

/-- Setting the directory of one desk leaves the others. -/
theorem get_set_of_ne {desk other : SocketDesk} (ne : Desk.sockets desk ≠ .sockets other)
    (desks : SocketDesks) (directory : SocketDirectory) :
    (desks.set desk directory).get other = desks.get other := by
  rw [SocketDesks.get_set, if_neg fun same => ne (congrArg Desk.sockets same)]

theorem mint_identify {S : Type u} {H : Type v} {σ : Type w} [DecidableEq S]
    (state : DispatchState S H σ) (now : Nat) (session : S) (handle : H) :
    (Dispatcher.identify state now session handle).2.commons.mint = state.commons.mint ∨
      (Dispatcher.identify state now session handle).2.commons.mint =
        state.commons.mint.issue.2 := by
  rw [identify_eq]
  exact Reception.mint_identify _ session handle

theorem mint_respond (hub : Hub α) (application : Application α) (bytes : Bytes) (caller : Caller) :
    (hub.respond application bytes caller).2.commons.mint = hub.commons.mint ∨
      (hub.respond application bytes caller).2.commons.mint = hub.commons.mint.issue.2 := by
  cases caller with
  | socket endpoint id =>
    have minted := mint_identify ⟨hub.desks.get endpoint.desk, hub.commons, hub.floor⟩ hub.now id id
    rwa [← Dispatcher.mint_dispatch (hub.socketDispatcher application endpoint) hub.now id id
      (hub.channels.info id).addresses bytes] at minted
  | web session =>
    have minted := mint_identify ⟨hub.web, hub.commons, hub.floor⟩ hub.now session.id session
    rwa [← Dispatcher.mint_dispatch (hub.webDispatcher application) hub.now session.id session
      session.addresses bytes] at minted
  | inProcess session handle addresses =>
    have minted := mint_identify ⟨hub.inProcess, hub.commons, hub.floor⟩ hub.now session handle
    rwa [← Dispatcher.mint_dispatch (hub.inProcessDispatcher application) hub.now session handle
      addresses bytes] at minted

theorem apart_respond (hub : Hub α) (application : Application α) (bytes : Bytes) {caller : Caller}
    {desk : Desk} (elsewhere : caller.desk ≠ desk) :
    Apart desk hub (hub.respond application bytes caller).2 := by
  refine ⟨?_, hub.mint_respond application bytes caller⟩
  cases caller <;> cases desk <;>
    first | rfl | exact get_set_of_ne elsewhere _ _ | exact absurd rfl elsewhere

theorem apart_receive (hub : Hub α) (application : Application α) (frame : Frame) {caller : Caller}
    {desk : Desk} (elsewhere : caller.desk ≠ desk) :
    Apart desk hub (hub.receive application frame caller).2 := by
  have reading := hub.replies_read frame caller
  rcases read : hub.read frame caller with ⟨_ | bytes, arrived⟩ <;> rw [read] at reading
  · exact (receive_of_unread read application).2.undisturbed.apart desk
  · have responding := arrived.apart_respond application bytes elsewhere
    have replying := (receive_of_read read application).2.undisturbed
    exact reading.undisturbed.before (replying.after responding)

theorem apart_greet (hub : Hub α) {caller : Caller} {desk : Desk} (elsewhere : caller.desk ≠ desk) :
    Apart desk hub (hub.greet caller).2 := by
  cases caller with
  | socket endpoint id =>
    have minted := Directory.mint_connect (hub.desks.get endpoint.desk) hub.commons.mint hub.now id id
    simp only [greet, connect]
    split_ifs with padded
    · refine (undisturbed_registerClear _ id).after ⟨?_, minted⟩
      cases desk <;> first | rfl | exact get_set_of_ne elsewhere _ _
    · refine ⟨?_, minted⟩
      cases desk <;> first | rfl | exact get_set_of_ne elsewhere _ _
  | web session =>
    refine ⟨?_, Directory.mint_connect hub.web hub.commons.mint hub.now session.id session⟩
    cases desk <;> first | rfl | exact absurd rfl elsewhere
  | inProcess session handle addresses =>
    refine ⟨?_, Directory.mint_connect hub.inProcess hub.commons.mint hub.now session handle⟩
    cases desk <;> first | rfl | exact absurd rfl elsewhere

theorem apart_findSocket (hub : Hub α) {desk : SocketDesk} {other : Desk}
    (elsewhere : .sockets desk ≠ other) (key : Key) :
    Apart other hub (hub.findSocket desk key).2 := by
  refine ⟨?_, .inl rfl⟩
  cases other <;> first | rfl | exact get_set_of_ne elsewhere _ _

theorem apart_push (hub : Hub α) {endpoint : Endpoint} {desk : Desk}
    (elsewhere : .sockets endpoint.desk ≠ desk) (key : Key) (frame : Frame) :
    Apart desk hub (hub.push endpoint key frame).2 := by
  have finding := hub.apart_findSocket elsewhere key
  rw [push]
  rcases found : hub.findSocket endpoint.desk key with ⟨_ | id, after⟩ <;> rw [found] at finding
  · exact finding
  · exact (after.replies_send endpoint id frame).undisturbed.after finding

/-- The desk where an action happens, if it happens at one. -/
def Action.desk? : Action → Option Desk
  | .greet caller | .receive _ caller | .dismiss caller => some caller.desk
  | .push endpoint _ _ => some (.sockets endpoint.desk)
  | .find _ desk => some desk
  | .sweepWeb => some .web
  | .sweepInProcess => some .inProcess
  | _ => none

/-- Away from its own desk, an action takes at most an identity. -/
theorem apart_perform (application : Application α) (hub : Hub α) {action : Action} {desk : Desk}
    (elsewhere : action.desk? ≠ some desk) : Apart desk hub (hub.perform application action) := by
  have distinct : ∀ {here}, action.desk? = some here → here ≠ desk := by
    rintro here found rfl
    exact elsewhere found
  cases action with
  | greet caller => exact hub.apart_greet (distinct rfl)
  | receive frame caller => exact hub.apart_receive application frame (distinct rfl)
  | dismiss caller =>
    have other := distinct rfl
    refine ⟨?_, ?_⟩
    · cases caller <;> cases desk <;>
        first | rfl | exact get_set_of_ne other _ _ | exact absurd rfl other
    · cases caller <;> exact .inl rfl
  | push endpoint key frame => exact hub.apart_push (distinct rfl) key frame
  | find key here =>
    have other := distinct rfl
    cases here with
    | sockets here => exact hub.apart_findSocket other key
    | web | inProcess =>
      refine ⟨?_, .inl rfl⟩
      cases desk <;> first | rfl | exact absurd rfl other
  | sendTo frame caller =>
    cases caller with
    | socket endpoint id => exact (hub.replies_send endpoint id frame).undisturbed.apart desk
    | web _ | inProcess _ _ _ => exact (Undisturbed.refl hub).apart desk
  | sendErrorTo code parameters caller =>
    cases caller with
    | socket endpoint id => exact (hub.replies_send endpoint id _).undisturbed.apart desk
    | web _ | inProcess _ _ _ => exact (Undisturbed.refl hub).apart desk
  | sweepWeb | sweepInProcess =>
    have other := distinct rfl
    refine ⟨?_, .inl rfl⟩
    cases desk <;> first | rfl | exact absurd rfl other
  | mint =>
    refine ⟨?_, .inr rfl⟩
    cases desk <;> rfl
  | move _ | process _ | closePool =>
    refine ⟨?_, .inl rfl⟩
    cases desk <;> rfl

theorem now_le_hub (application : Application α) (hub : Hub α) (action : Action) :
    hub.now ≤ (hub.perform application action).now := by
  cases moves : action.isMove with
  | false => exact Nat.le_of_eq (hub.reaches_perform application moves).steady.now.symm
  | true =>
    cases action with
    | move move => exact hub.channels.now_le_perform move
    | _ => cases moves

/-- The reception of a desk of sockets. -/
def socketReception (hub : Hub α) (desk : SocketDesk) : Reception ConnectionId ConnectionId :=
  ⟨hub.desks.get desk, hub.commons.mint, hub.now⟩

/-- The keys named by the answer to bytes from a socket. -/
def socketKeys (hub : Hub α) (application : Application α) (endpoint : Endpoint)
    (id : ConnectionId) (bytes : Bytes) : List Key :=
  ((hub.socketDispatcher application endpoint).answered hub.now id id
    (hub.channels.info id).addresses bytes
    ⟨hub.desks.get endpoint.desk, hub.commons, hub.floor⟩).1.keys.getD []

/-- What an action at a desk of sockets is to its reception. -/
def socketEvent (application : Application α) (hub : Hub α) :
    Action → Reception.Event ConnectionId ConnectionId
  | .greet (.socket _ id) => .connect id id
  | .receive frame (.socket endpoint id) =>
    match hub.read frame (.socket endpoint id) with
    | (some bytes, arrived) => .message id id (arrived.socketKeys application endpoint id bytes)
    | (none, _) => .elsewhere false 0
  | .dismiss (.socket _ id) => .disconnect id id
  | .push _ key _ | .find key _ => .find key
  | _ => .elsewhere false 0

/-- Replies are no business of receptions. -/
theorem Replies.socketReception {before after : Hub α} (replies : Replies before after)
    (desk : SocketDesk) : after.socketReception desk = before.socketReception desk := by
  rw [Hub.socketReception, Hub.socketReception, replies.undisturbed.desks, replies.undisturbed.mint,
    Hub.now, Hub.now, replies.channels.routine.internal.steady.now]

theorem socketReception_connect (hub : Hub α) (endpoint : Endpoint) (id : ConnectionId) :
    (hub.connect endpoint id).2.socketReception endpoint.desk =
      (hub.socketReception endpoint.desk).perform (.connect id id) := by
  have now : (hub.connect endpoint id).2.now = hub.now :=
    (hub.reaches_connect endpoint id).internal.steady.now
  have same : (hub.connect endpoint id).2.desks.get endpoint.desk =
        ((hub.desks.get endpoint.desk).connect hub.commons.mint hub.now id id).directory ∧
      (hub.connect endpoint id).2.commons.mint =
        ((hub.desks.get endpoint.desk).connect hub.commons.mint hub.now id id).mint := by
    simp only [connect]
    split_ifs with padded
    · rw [(undisturbed_registerClear _ id).desks, (undisturbed_registerClear _ id).mint]
      exact ⟨by simp [announce], rfl⟩
    · exact ⟨by simp [announce], rfl⟩
  rw [socketReception, now, same.1, same.2]
  rfl

theorem socketReception_receive (hub : Hub α) (application : Application α) (frame : Frame)
    (endpoint : Endpoint) (id : ConnectionId) :
    (hub.receive application frame (.socket endpoint id)).2.socketReception endpoint.desk =
      (hub.socketReception endpoint.desk).perform
        (hub.socketEvent application (.receive frame (.socket endpoint id))) := by
  have reading := hub.replies_read frame (.socket endpoint id)
  rw [socketEvent]
  rcases read : hub.read frame (.socket endpoint id) with ⟨_ | bytes, arrived⟩ <;>
    rw [read] at reading
  · rw [(receive_of_unread read application).2.socketReception]
    rfl
  · have now : (arrived.dispatchBytes application endpoint id bytes).2.now = arrived.now :=
      (arrived.served_respond application bytes (.socket endpoint id)).served.steady.now
    have directory : (arrived.dispatchBytes application endpoint id bytes).2.desks.get
        endpoint.desk = ((arrived.socketDispatcher application endpoint).dispatch arrived.now id id
          (arrived.channels.info id).addresses bytes
          ⟨arrived.desks.get endpoint.desk, arrived.commons, arrived.floor⟩).2.directory :=
      (SocketDesks.get_set ..).trans (if_pos rfl)
    rw [(receive_of_read read application).2.socketReception, ← reading.socketReception, respond,
      socketReception, now, directory]
    exact Dispatcher.reception_dispatch (arrived.socketDispatcher application endpoint) arrived.now
      id id (arrived.channels.info id).addresses bytes (arrived.desks.get endpoint.desk)
      arrived.commons arrived.floor

theorem socketReception_findSocket (hub : Hub α) (desk : SocketDesk) (key : Key) :
    (hub.findSocket desk key).2.socketReception desk =
      (hub.socketReception desk).perform (.find key) := by
  have directory : (hub.findSocket desk key).2.desks.get desk =
      ((hub.desks.get desk).find hub.now key).2.1 := by simp [findSocket, announce]
  rw [socketReception, directory]
  rfl

/-- What an action does at the reception of its desk is what its event does. -/
theorem socketReception_perform (application : Application α) (hub : Hub α) {action : Action}
    {desk : SocketDesk} (here : action.desk? = some (.sockets desk)) :
    (hub.perform application action).socketReception desk =
      (hub.socketReception desk).perform (hub.socketEvent application action) := by
  cases action with
  | greet caller =>
    cases caller with
    | socket endpoint id =>
      cases here
      exact hub.socketReception_connect endpoint id
    | web _ | inProcess _ _ _ => cases here
  | receive frame caller =>
    cases caller with
    | socket endpoint id =>
      cases here
      exact hub.socketReception_receive application frame endpoint id
    | web _ | inProcess _ _ _ => cases here
  | dismiss caller =>
    cases caller with
    | socket endpoint id =>
      cases here
      have directory : (hub.disconnect endpoint id).desks.get endpoint.desk =
          ((hub.desks.get endpoint.desk).disconnect hub.now id id).1 := by
        simp [disconnect, announce]
      rw [perform, dismiss, socketReception, directory]
      rfl
    | web _ | inProcess _ _ _ => cases here
  | push endpoint key frame =>
    cases here
    have finding := hub.socketReception_findSocket endpoint.desk key
    rw [perform, push]
    rcases found : hub.findSocket endpoint.desk key with ⟨_ | id, after⟩ <;> rw [found] at finding
    · exact finding
    · exact ((after.replies_send endpoint id frame).socketReception _).trans finding
  | find key found =>
    cases here
    exact hub.socketReception_findSocket desk key
  | _ => cases here

/-- What happens elsewhere is an event away from the desk's reception. -/
theorem socketReception_elsewhere (application : Application α) (hub : Hub α) {action : Action}
    {desk : SocketDesk} (elsewhere : action.desk? ≠ some (.sockets desk)) :
    ∃ mints nanoseconds, (hub.perform application action).socketReception desk =
      (hub.socketReception desk).perform (.elsewhere mints nanoseconds) := by
  obtain ⟨directory, minted⟩ := hub.apart_perform application elsewhere
  have directory : (hub.perform application action).desks.get desk = hub.desks.get desk := directory
  rw [socketReception, directory]
  exact ⟨_, _, Reception.perform_elsewhere (hub.desks.get desk) (now_le_hub application hub action)
    minted⟩

/-- The reception of in-process sessions. -/
def inProcessReception (hub : Hub α) : Reception String String :=
  ⟨hub.inProcess, hub.commons.mint, hub.now⟩

/-- The keys named by the answer to a message from an in-process session. -/
def inProcessKeys (hub : Hub α) (application : Application α) (session handle : String)
    (addresses : Addresses) (bytes : Bytes) : List Key :=
  ((hub.inProcessDispatcher application).answered hub.now session handle addresses bytes
    ⟨hub.inProcess, hub.commons, hub.floor⟩).1.keys.getD []

/-- What an action at the desk of in-process sessions is to its reception. -/
def inProcessEvent (application : Application α) (hub : Hub α) :
    Action → Reception.Event String String
  | .greet (.inProcess session handle _) => .connect session handle
  | .receive frame (.inProcess session handle addresses) =>
    .message session handle
      (hub.inProcessKeys application session handle addresses frame.bytes)
  | .dismiss (.inProcess session handle _) => .disconnect session handle
  | .find key _ => .find key
  | .sweepInProcess => .sweep
  | _ => .elsewhere false 0

theorem inProcessReception_perform (application : Application α) (hub : Hub α) {action : Action}
    (here : action.desk? = some .inProcess) :
    (hub.perform application action).inProcessReception =
      hub.inProcessReception.perform (hub.inProcessEvent application action) := by
  cases action with
  | greet caller | dismiss caller =>
    cases caller with
    | inProcess session handle addresses => rfl
    | socket _ _ | web _ => cases here
  | receive frame caller =>
    cases caller with
    | inProcess session handle addresses =>
      have now : (hub.messageInProcess application session handle addresses frame.bytes).2.now =
          hub.now :=
        (hub.served_respond application frame.bytes
          (.inProcess session handle addresses)).served.steady.now
      rw [perform, receive, inProcessReception, now]
      exact Dispatcher.reception_dispatch (hub.inProcessDispatcher application) hub.now session
        handle addresses frame.bytes hub.inProcess hub.commons hub.floor
    | socket _ _ | web _ => cases here
  | find key desk =>
    cases here
    rfl
  | sweepInProcess => rfl
  | _ => cases here

end Hub

end Gateway
