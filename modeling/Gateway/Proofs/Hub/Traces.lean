import Gateway.Proofs.Channels.Cascade
import Gateway.Proofs.Channels.Fixture
import Gateway.Proofs.Hub.Visits

/-! # What connections leave behind

A desk of sockets holds nothing of a connection that has not visited it, whatever other connections do
there, and nothing of one that has left. While a connection stays, its identity does. Whatever happens
to a gateway, a connection that has closed was told to everyone who subscribed from the start, once
each.
-/

namespace Gateway

/-- The connection that pays a visit. -/
def Visit.visitor : Visit C → C
  | .arrived id | .answered id _ | .left id => id

namespace Reception

variable {C : Type u} [DecidableEq C]

/-- Nothing is held of a connection: it has no identity and no key reaches it. -/
structure Vacant (reception : Reception C C) (id : C) : Prop where
  unknown : reception.directory.identity? id = none
  unheld : ∀ key, reception.directory.handles.stored? key ≠ some id

theorem vacant_initial (mint : Mint) (now : Nat) (id : C) :
    (⟨.empty none false, mint, now⟩ : Reception C C).Vacant id := ⟨rfl, nofun⟩

namespace Records

variable {reception : Reception C C} {visits : List (Visit C)} {id other : C}

/-- Whoever arrives changes nothing for the others. -/
theorem connect_of_other (records : reception.Records visits) (differs : other ≠ id) :
    (reception.connect other other).2.directory.identity? id = reception.directory.identity? id ∧
      ((∀ key, reception.directory.handles.stored? key ≠ some id) → ∀ key,
        (reception.connect other other).2.directory.handles.stored? key ≠ some id) := by
  obtain ⟨identities, stored⟩ := Directory.connect_of_permanent records.permanent reception.mint
    reception.now other other
  constructor
  · rw [connect, identities, if_neg differs]
  · intro unheld key
    rw [connect, stored]
    split_ifs
    · exact fun same => differs (Option.some.inj same)
    · exact unheld key

/-- So does whoever sends a message. -/
theorem identify_of_other (records : reception.Records visits) (differs : other ≠ id) :
    (reception.identify other other).2.directory.identity? id = reception.directory.identity? id ∧
      ((∀ key, reception.directory.handles.stored? key ≠ some id) → ∀ key,
        (reception.identify other other).2.directory.handles.stored? key ≠ some id) := by
  cases known : reception.directory.identity? other with
  | some identity =>
    rw [identify_of_known known]
    exact ⟨rfl, fun unheld => unheld⟩
  | none =>
    rw [identify_of_unknown known]
    exact records.connect_of_other differs

/-- A visit changes no other connection's identity. -/
theorem identity?_of_other (records : reception.Records visits) {visit : Visit C}
    (differs : visit.visitor ≠ id) :
    (reception.perform visit.event).directory.identity? id =
      reception.directory.identity? id := by
  cases visit with
  | arrived other => exact (records.connect_of_other differs).1
  | answered other keys =>
    refine Eq.trans ?_ (records.identify_of_other differs).1
    exact congrArg (Roster.get? · id) (Directory.roster_registerAll ..)
  | left other => exact (Directory.identity?_disconnect records.remembers ..).trans (if_neg differs)

/-- A visit makes no other connection known. -/
theorem vacant_of_other (records : reception.Records visits) {visit : Visit C}
    (differs : visit.visitor ≠ id) (vacant : reception.Vacant id) :
    (reception.perform visit.event).Vacant id := by
  refine ⟨(records.identity?_of_other differs).trans vacant.unknown, fun key => ?_⟩
  cases visit with
  | arrived other => exact (records.connect_of_other differs).2 vacant.unheld key
  | answered other keys =>
    rw [Visit.event, perform, Directory.stored?_registerAll]
    split_ifs
    · exact fun same => differs (Option.some.inj same)
    · exact (records.identify_of_other differs).2 vacant.unheld key
  | left other =>
    rw [Visit.event, perform, Directory.stored?_disconnect]
    split_ifs
    · exact (Option.some_ne_none _).symm
    · exact vacant.unheld key

/-- Nothing is held of a connection that has left. -/
theorem vacant_of_left (records : reception.Records visits) (id : C) :
    (reception.perform (.disconnect id id)).Vacant id := by
  refine ⟨(Directory.identity?_disconnect records.remembers ..).trans (if_pos rfl), fun key found => ?_⟩
  rw [perform, Directory.stored?_disconnect] at found
  split_ifs at found with given
  exact given (Directory.mem_keysOf.mpr (.inl found))

theorem vacant_of_idle (records : reception.Records visits) {event : Event C C}
    (idle : event.IsIdle) (vacant : reception.Vacant id) : (reception.perform event).Vacant id := by
  obtain ⟨-, -, roster, stored⟩ := records.held_of_idle idle
  refine ⟨?_, fun key => ?_⟩
  · rw [Directory.identity?, roster]
    exact vacant.unknown
  · rw [stored]
    exact vacant.unheld key

/-- An answer leaves the identity of whoever has one. -/
theorem identity?_of_answered {identity : Identity}
    (known : reception.directory.identity? id = some identity) (keys : List Key) :
    (reception.perform (.message id id keys)).directory.identity? id = some identity := by
  rw [perform, identify_of_known known]
  exact (congrArg (Roster.get? · id) (Directory.roster_registerAll ..)).trans known

end Records

end Reception

namespace Hub

variable {α : Type} {application : Application α}

/-- The socket that an action is on behalf of, if it is on behalf of one. -/
def Action.socket? : Action → Option (Endpoint × ConnectionId)
  | .greet (.socket endpoint id) | .receive _ (.socket endpoint id)
  | .dismiss (.socket endpoint id) => some (endpoint, id)
  | _ => none

/-- A visit is paid by the socket that the action is on behalf of. -/
theorem socket?_of_visit {hub : Hub α} {desk : SocketDesk} {action : Action}
    {visit : Visit ConnectionId} (visited : hub.visit? application desk action = some visit) :
    ∃ endpoint, action.socket? = some (endpoint, visit.visitor) ∧ endpoint.desk = desk := by
  cases action with
  | greet caller | dismiss caller =>
    cases caller with
    | socket endpoint id =>
      simp only [visit?] at visited
      split_ifs at visited with here
      cases visited
      exact ⟨endpoint, rfl, here⟩
    | web _ | inProcess _ _ _ => cases visited
  | receive frame caller =>
    cases caller with
    | socket endpoint id =>
      simp only [visit?] at visited
      split_ifs at visited with here
      obtain ⟨response, -, rfl⟩ := Option.map_eq_some_iff.mp visited
      exact ⟨endpoint, rfl, here⟩
    | web _ | inProcess _ _ _ => cases visited
  | _ => cases visited

section

variable {hub : Hub α} {desk : SocketDesk} {visits : List (Visit ConnectionId)} {id : ConnectionId}
  {action : Action}

/-- A desk that holds nothing of a connection goes on so until the connection visits it. -/
theorem vacant_perform (records : (hub.socketReception desk).Records visits)
    (vacant : (hub.socketReception desk).Vacant id)
    (away : ∀ endpoint, action.socket? = some (endpoint, id) → endpoint.desk ≠ desk) :
    ((hub.perform application action).socketReception desk).Vacant id := by
  have happened := hub.socketReception_of_visit application desk action
  cases visited : hub.visit? application desk action with
  | none =>
    rw [visited] at happened
    obtain ⟨event, idle, performed⟩ := happened
    rw [performed]
    exact records.vacant_of_idle idle vacant
  | some visit =>
    rw [visited] at happened
    have performed : _ = _ := happened
    rw [performed]
    refine records.vacant_of_other ?_ vacant
    rintro rfl
    obtain ⟨endpoint, mine, here⟩ := socket?_of_visit visited
    exact away endpoint mine here

theorem vacant_run {actions : List Action} (records : (hub.socketReception desk).Records visits)
    (vacant : (hub.socketReception desk).Vacant id)
    (away : ∀ action ∈ actions, ∀ endpoint, action.socket? = some (endpoint, id) →
      endpoint.desk ≠ desk) :
    ((hub.run application actions).socketReception desk).Vacant id := by
  induction actions generalizing hub visits with
  | nil => exact vacant
  | cons action rest ih =>
    exact ih (records_perform records action)
      (vacant_perform records vacant (away action List.mem_cons_self))
      fun other member => away other (List.mem_cons_of_mem _ member)

/-- The desk of a socket that is dismissed holds nothing of it any more. -/
theorem vacant_dismiss {endpoint : Endpoint}
    (records : (hub.socketReception endpoint.desk).Records visits) (id : ConnectionId) :
    ((hub.perform application (.dismiss (.socket endpoint id))).socketReception
      endpoint.desk).Vacant id := by
  rw [hub.socketReception_perform application rfl]
  exact records.vacant_of_left id

/-- The identity of a socket stays until it connects anew or leaves. -/
theorem identity?_perform (records : (hub.socketReception desk).Records visits)
    {identity : Identity} (known : (hub.desks.get desk).identity? id = some identity)
    (stays : ∀ endpoint, action.socket? = some (endpoint, id) →
      ∃ frame, action = .receive frame (.socket endpoint id)) :
    ((hub.perform application action).desks.get desk).identity? id = some identity := by
  have happened := hub.socketReception_of_visit application desk action
  change ((hub.perform application action).socketReception desk).directory.identity? id =
    some identity
  cases visited : hub.visit? application desk action with
  | none =>
    rw [visited] at happened
    obtain ⟨event, idle, performed⟩ := happened
    obtain ⟨-, -, roster, -⟩ := records.held_of_idle idle
    rw [performed, Directory.identity?, roster]
    exact known
  | some visit =>
    rw [visited] at happened
    have performed : _ = _ := happened
    rw [performed]
    by_cases mine : visit.visitor = id
    · subst mine
      obtain ⟨endpoint, caller, here⟩ := socket?_of_visit visited
      obtain ⟨frame, rfl⟩ := stays endpoint caller
      simp only [visit?, here, ↓reduceIte] at visited
      obtain ⟨response, -, answered⟩ := Option.map_eq_some_iff.mp visited
      obtain ⟨id, keys, rfl⟩ : ∃ id keys, visit = .answered id keys := ⟨_, _, answered.symm⟩
      exact Reception.Records.identity?_of_answered known keys
    · exact (records.identity?_of_other mine).trans known

end

/-- Whether an action brings a connection or a subscriber. -/
def Action.isNew : Action → Bool
  | .move made => made.isNew
  | _ => false

/-- Whether an action leaves what stays of every connection. -/
def Action.isLasting : Action → Bool
  | .move made => made.isLasting
  | _ => true

theorem fades_perform (application : Application α) (hub : Hub α) {action : Action}
    (old : action.isNew = false) :
    hub.channels.Fades (hub.perform application action).channels := by
  cases moves : action.isMove with
  | false =>
    refine Channels.ReachesBy.keeps (fun channels move internal fades => ?_)
      (hub.reaches_perform application moves) (Channels.Fades.refl hub.channels)
    refine fades.trans (Channels.fades_perform channels ?_)
    cases move <;> first | rfl | cases internal
  | true =>
    cases action with
    | move move => exact Channels.fades_perform hub.channels old
    | _ => cases moves

theorem fades_run (application : Application α) (hub : Hub α) {actions : List Action}
    (old : ∀ action ∈ actions, action.isNew = false) :
    hub.channels.Fades (hub.run application actions).channels := by
  induction actions generalizing hub with
  | nil => exact .refl hub.channels
  | cons action rest ih =>
    exact (hub.fades_perform application (old action List.mem_cons_self)).trans
      (ih _ fun other member => old other (List.mem_cons_of_mem _ member))

theorem sameFixtures_perform (application : Application α) (hub : Hub α) {action : Action}
    (lasting : action.isLasting = true) :
    hub.channels.SameFixtures (hub.perform application action).channels := by
  cases moves : action.isMove with
  | false =>
    refine Channels.ReachesBy.keeps (fun channels move internal same => ?_)
      (hub.reaches_perform application moves) (Channels.SameFixtures.refl hub.channels)
    refine same.trans (Channels.sameFixtures_perform channels ?_)
    cases move <;> first | rfl | cases internal
  | true =>
    cases action with
    | move move => exact Channels.sameFixtures_perform hub.channels lasting
    | _ => cases moves

end Hub

/-- Everyone who subscribed from the start was told of every closed connection once, and of no other.
-/
structure Channels.Informs (start channels : Channels) : Prop where
  audience : channels.audience = start.audience
  told : ∀ label id, channels.timesTold label id = channels.expected label id

namespace Channels.Informs

variable {start channels after : Channels}

theorem fades (informs : start.Informs channels) (fades : channels.Fades after) :
    start.Informs after where
  audience := fades.audience.trans informs.audience
  told label id := by
    have balance := fades.balance label id
    have before := informs.told label id
    omega

theorem accept (informs : start.Informs channels) (id : ConnectionId) (info : ConnectionInfo)
    (buffer : Nat) : start.Informs (channels.perform (.accept id info buffer)) where
  audience := by
    refine Eq.trans ?_ informs.audience
    rw [perform]
    split_ifs <;> rfl
  told label other := by
    obtain ⟨told, expected⟩ := channels.balance_accept id other info buffer label
    rw [told, expected, informs.told]

end Channels.Informs

end Gateway
