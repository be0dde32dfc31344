import Gateway.Proofs.Hub.Tenancy

/-! # Identities at all desks

All desks draw on one mint. As long as it has not come round, nobody is given an identity that was
given before, so no identity is known at two desks; and at a desk of sockets the handle under the
identity of a connection is that connection. So an identity that a message is stamped with leads from
the shared desk back to the connection that the message came from, or nowhere.
-/

namespace Gateway

namespace Directory

variable {S : Type u} {H : Type v} [DecidableEq S]

/-- Whether some session has an identity. -/
def Knows (directory : Directory S H) (id : Identity) : Prop :=
  ∃ session, directory.identity? session = some id

end Directory

namespace Reception

variable {S : Type u} {H : Type v} [DecidableEq S] [BEq H] {reception : Reception S H}

omit [BEq H] in
/-- Whoever sends a message is known from then on. -/
theorem identity?_identify (reception : Reception S H) (session : S) (handle : H) :
    (reception.identify session handle).2.directory.identity? session =
      some (reception.identify session handle).1 := by
  rw [identify]
  cases known : reception.directory.identity? session with
  | some id => exact known
  | none => exact reception.directory.identity?_connect reception.mint reception.now session handle

omit [BEq H] in
/-- The handle under the identity of whoever sends a message reaches it. -/
theorem Consistent.reached_identify {owner : H → S} {start : UInt64} {count : Nat}
    (consistent : Consistent owner start count reception) (few : count < 2 ^ 64) {session : S}
    {handle : H} (proper : owner handle = session) :
    ∃ reached, (reception.identify session handle).2.directory.handles.stored?
      (.system (reception.identify session handle).1) = some reached ∧ owner reached = session :=
  ((consistent.identify few proper).reached session _).mp
    (reception.identity?_identify session handle)

end Reception

namespace Hub

variable {α : Type} {application : Application α}

/-- Whether an identity is known at a desk. -/
def Knows (hub : Hub α) : Desk → Identity → Prop
  | .sockets desk => (hub.desks.get desk).Knows
  | .web => hub.web.Knows
  | .inProcess => hub.inProcess.Knows

/-- What is known at a desk is the identity of a session there. -/
theorem knows_iff {hub : Hub α} {desk : Desk} {id : Identity} :
    hub.Knows desk id ↔ ∃ seat : Seat, seat.desk = desk ∧ hub.identityAt? seat = some id := by
  constructor
  · intro knows
    cases desk with
    | sockets desk =>
      obtain ⟨connection, known⟩ := knows
      exact ⟨.socket desk connection, rfl, known⟩
    | web =>
      obtain ⟨session, known⟩ := knows
      exact ⟨.web session, rfl, known⟩
    | inProcess =>
      obtain ⟨session, known⟩ := knows
      exact ⟨.inProcess session, rfl, known⟩
  · rintro ⟨seat, rfl, known⟩
    cases seat <;> exact ⟨_, known⟩

theorem knows_of_sameDesk {before after : Hub α} {desk : Desk} (same : SameDesk before after desk)
    {id : Identity} (knows : after.Knows desk id) : before.Knows desk id := by
  cases desk with
  | sockets desk =>
    have same : after.desks.get desk = before.desks.get desk := same
    rwa [Knows, same] at knows
  | web =>
    have same : after.web = before.web := same
    rwa [Knows, same] at knows
  | inProcess =>
    have same : after.inProcess = before.inProcess := same
    rwa [Knows, same] at knows

theorem socketKeys_isAlias (aliases : application.NamesAliases) (hub : Hub α) (endpoint : Endpoint)
    (id : ConnectionId) (bytes : Bytes) :
    ∀ key ∈ hub.socketKeys application endpoint id bytes, key.IsAlias :=
  Dispatcher.names_answer (hub.socketDispatcher application endpoint)
    (fun _ envelope floor => aliases.serve _ envelope floor) _ _ _ _ bytes _

theorem socketEvent_proper (aliases : application.NamesAliases) (hub : Hub α) (action : Action) :
    (hub.socketEvent application action).Proper fun id => id := by
  unfold socketEvent
  split
  · rfl
  · split
    · exact ⟨rfl, socketKeys_isAlias aliases _ _ _ _⟩
    · trivial
  · rfl
  · trivial
  · trivial
  · trivial

/-- At every desk of sockets, an action is a proper event. -/
theorem socketReception_event (aliases : application.NamesAliases) (hub : Hub α) (action : Action)
    (desk : SocketDesk) :
    ∃ event : Reception.Event ConnectionId ConnectionId, (event.Proper fun id => id) ∧
      (hub.perform application action).socketReception desk =
        (hub.socketReception desk).perform event := by
  by_cases here : action.desk? = some (.sockets desk)
  · exact ⟨_, hub.socketEvent_proper aliases action, hub.socketReception_perform application here⟩
  · obtain ⟨mints, nanoseconds, happened⟩ := hub.socketReception_elsewhere application here
    exact ⟨.elsewhere mints nanoseconds, trivial, happened⟩

/-- The roster and the handles of every desk of sockets agree. -/
theorem socketConsistent_run (settings : HubSettings) (subscribers : List Subscriber) (mint : Mint)
    (entropy : Entropy) (own : α) (aliases : application.NamesAliases) (actions : List Action)
    (few : (Hub.initial settings subscribers mint entropy own).mints application actions < 2 ^ 64)
    (desk : SocketDesk) :
    let start := Hub.initial settings subscribers mint entropy own
    Reception.Consistent (fun id => id) mint.next (start.mints application actions)
      ((start.run application actions).socketReception desk) := by
  intro start
  have empty : start.socketReception desk = ⟨.empty none false, mint, 0⟩ := by cases desk <;> rfl
  have initial : Reception.Consistent (fun id => id) mint.next 0 (start.socketReception desk) := by
    rw [empty]
    exact .initial _ mint.next none false 0 (.inr rfl)
  have kept : ∀ count (hub : Hub α) action, count < 2 ^ 64 →
      Reception.Consistent (fun id => id) mint.next count (hub.socketReception desk) →
        Reception.Consistent (fun id => id) mint.next
          (count + hub.commons.mint.steps (hub.perform application action).commons.mint)
          ((hub.perform application action).socketReception desk) := by
    intro count hub action few consistent
    obtain ⟨event, proper, happened⟩ := hub.socketReception_event aliases action desk
    have minted : (hub.perform application action).commons.mint =
        ((hub.socketReception desk).perform event).mint := congrArg Reception.mint happened
    rw [happened, minted]
    exact consistent.perform few proper
  rw [← Nat.zero_add (mints ..)] at few ⊢
  exact counted_run kept initial actions few

/-- What holds of the identities that are known at the desks. -/
structure Identified (start : UInt64) (count : Nat) (hub : Hub α) : Prop where
  issued : ∀ desk id, hub.Knows desk id → id.Issued start count
  /-- No identity is known at two desks. -/
  apart : ∀ one two id, hub.Knows one id → hub.Knows two id → one = two
  consistent : ∀ desk, Reception.Consistent (fun id => id) start count (hub.socketReception desk)

namespace Identified

variable {hub : Hub α} {start : UInt64} {count : Nat}

theorem minted (identified : hub.Identified start count) :
    hub.commons.mint.next = start + UInt64.ofNat count :=
  (identified.consistent .shared).minted

/-- The next identity of the mint is known nowhere. -/
theorem not_knows_next (identified : hub.Identified start count) (few : count < 2 ^ 64)
    (desk : Desk) : ¬ hub.Knows desk hub.commons.mint.issue.1 := by
  intro knows
  exact Identity.not_issued_issue identified.minted few (identified.issued desk _ knows)

/-- Where no two sessions share an identity, no two desks do. -/
theorem of_sound (sound : (tenancy application).Sound start count hub)
    (consistent : ∀ desk, Reception.Consistent (fun id => id) start count (hub.socketReception desk)) :
    hub.Identified start count where
  issued desk id knows := by
    obtain ⟨seat, rfl, known⟩ := knows_iff.mp knows
    exact sound.issued seat id known
  apart one two id first second := by
    obtain ⟨here, rfl, known⟩ := knows_iff.mp first
    obtain ⟨there, rfl, known'⟩ := knows_iff.mp second
    exact congrArg Seat.desk (sound.injective here there id known known')
  consistent := consistent

/-- Replies are no business of the desks. -/
theorem replies (identified : hub.Identified start count) {after : Hub α}
    (replies : Replies hub after) : after.Identified start count where
  issued desk id knows :=
    identified.issued desk id (knows_of_sameDesk (replies.undisturbed.sameDesk desk) knows)
  apart one two id first second :=
    identified.apart one two id (knows_of_sameDesk (replies.undisturbed.sameDesk one) first)
      (knows_of_sameDesk (replies.undisturbed.sameDesk two) second)
  consistent desk := replies.socketReception desk ▸ identified.consistent desk

end Identified

/-- What identifying a sender tells it is known at its desk, or comes from the mint. -/
theorem given_identify {S : Type u} {H : Type v} {σ : Type w} [DecidableEq S]
    (directory : Directory S H) (commons : Commons) (rest : σ) (now : Nat) (session : S)
    (handle : H) :
    let id := (Dispatcher.identify ⟨directory, commons, rest⟩ now session handle).1
    directory.Knows id ∨ id = commons.mint.issue.1 := by
  rw [identify_eq]
  have told := Reception.identity?_identify ⟨directory, commons.mint, now⟩ session handle
  obtain before | ⟨-, fresh, -⟩ := Reception.identity?_of_identify told
  · exact .inl ⟨session, before⟩
  · exact .inr fresh

section

variable {hub : Hub α} {bytes : Bytes} {caller : Caller} {call : Call α}

/-- A call is about the message that was decoded. -/
theorem kind_of_call (called : hub.call? application bytes caller = some call) :
    ∃ decoded, application.codec.decode bytes = .ok decoded ∧
      call.envelope.kind = decoded.kind := by
  cases caller <;>
    · obtain ⟨⟨directory, envelope⟩, accepted, rfl⟩ := Option.map_eq_some_iff.mp called
      obtain ⟨-, decoded, decoding, rfl⟩ := Dispatcher.stamped_of_call accepted
      exact ⟨decoded, decoding, rfl⟩

namespace Identified

variable {start : UInt64} {count : Nat}

/-- What someone elsewhere is told leads from the shared desk to no connection. -/
theorem resolve_of_elsewhere (identified : hub.Identified start count) (few : count < 2 ^ 64)
    (desk : Desk) (elsewhere : desk ≠ .sockets .shared) {id : Identity}
    (given : hub.Knows desk id ∨ id = hub.commons.mint.issue.1) :
    resolve hub.desks.shared id = none := by
  rw [Option.eq_none_iff_forall_ne_some]
  intro reached stored
  have known : hub.Knows (.sockets .shared) id :=
    ⟨reached, ((identified.consistent .shared).reached reached id).mpr ⟨reached, stored, rfl⟩⟩
  -- A handle stored under the identity would make it known at the shared desk as well.
  obtain here | rfl := given
  · exact elsewhere (identified.apart _ _ id here known)
  · exact identified.not_knows_next few _ known

/-- What a connection at the shared desk is told leads to the connection. -/
theorem resolve_identify (identified : hub.Identified start count) (few : count < 2 ^ 64)
    (rest : Floor α) (id : ConnectionId) :
    let arrived := Dispatcher.identify ⟨hub.desks.shared, hub.commons, rest⟩ hub.now id id
    resolve arrived.2.directory arrived.1 = some id := by
  rw [identify_eq]
  have consistent := identified.consistent .shared
  obtain ⟨reached, stored, same⟩ := consistent.reached_identify few (rfl : id = id)
  exact stored.trans (congrArg some same)

/-- The identity that a call is stamped with leads to the connection that the call came from, if it
leads to any. -/
theorem caller_of_resolved (identified : hub.Identified start count) (few : count < 2 ^ 64)
    (called : hub.call? application bytes caller = some call) {id : ConnectionId}
    (resolved : call.envelope.identity.bind (resolve call.shared) = some id) :
    ∃ endpoint : Endpoint, caller = .socket endpoint id ∧ endpoint.desk = .shared := by
  cases caller with
  | socket endpoint sender =>
    obtain ⟨⟨directory, envelope⟩, accepted, rfl⟩ := Option.map_eq_some_iff.mp called
    obtain ⟨rfl, decoded, -, rfl⟩ := Dispatcher.stamped_of_call accepted
    by_cases shared : endpoint.desk = .shared
    · refine ⟨endpoint, ?_, shared⟩
      have reached := identified.resolve_identify few hub.floor sender
      simp only [shared, ↓reduceIte] at resolved
      exact congrArg _ (Option.some.inj (reached.symm.trans resolved))
    -- Other endpoints resolve identities at the shared desk without having stored any there.
    · have given := given_identify (hub.desks.get endpoint.desk) hub.commons hub.floor hub.now
        sender sender
      have nowhere := identified.resolve_of_elsewhere few (.sockets endpoint.desk)
        (fun same => shared (Desk.sockets.inj same)) given
      simp only [shared, ↓reduceIte] at resolved
      exact nomatch nowhere.symm.trans resolved
  | web session =>
    obtain ⟨⟨directory, envelope⟩, accepted, rfl⟩ := Option.map_eq_some_iff.mp called
    obtain ⟨rfl, decoded, -, rfl⟩ := Dispatcher.stamped_of_call accepted
    have given := given_identify hub.web hub.commons hub.floor hub.now session.id session
    have nowhere := identified.resolve_of_elsewhere few .web nofun given
    exact nomatch nowhere.symm.trans resolved
  | inProcess session handle addresses =>
    obtain ⟨⟨directory, envelope⟩, accepted, rfl⟩ := Option.map_eq_some_iff.mp called
    obtain ⟨rfl, decoded, -, rfl⟩ := Dispatcher.stamped_of_call accepted
    have given := given_identify hub.inProcess hub.commons hub.floor hub.now session handle
    have nowhere := identified.resolve_of_elsewhere few .inProcess nofun given
    exact nomatch nowhere.symm.trans resolved

end Identified

end

theorem identified_run (settings : HubSettings) (subscribers : List Subscriber) (mint : Mint)
    (entropy : Entropy) (own : α) (aliases : application.NamesAliases) (actions : List Action)
    (few : (Hub.initial settings subscribers mint entropy own).mints application actions < 2 ^ 64) :
    let start := Hub.initial settings subscribers mint entropy own
    (start.run application actions).Identified mint.next (start.mints application actions) := by
  intro start
  have vacant := (tenancy application).sound_of_vacant
    (vacant_initial settings subscribers mint entropy own)
  have sound := vacant.run actions (by rw [taken_tenancy]; omega)
  rw [Nat.zero_add, taken_tenancy] at sound
  exact .of_sound sound
    (socketConsistent_run settings subscribers mint entropy own aliases actions few)

end Hub

end Gateway
