import Gateway.Proofs.Directory.Lease
import Gateway.Proofs.Hub.Tenancy
import Mathlib.Logic.Basic

/-! # How long a web session keeps its identity

A web session is used by connecting and by sending messages. Connecting renews the lease of the
session. A message does not: it is answered with whatever identity the session has, and renews
nothing unless the session is unknown. So a session that only sends messages loses its identity when a
sweep finds that nobody connected for the time to live, or when it connects again after that time;
and as long as neither happens, messages are answered with an identity that has expired.
-/

namespace Gateway

/-- A use of a web session. -/
inductive WebUse where
  | connection (session : WebSession)
  | message (session : WebSession) (frame : Frame)

namespace WebUse

/-- The session that is used. -/
def session : WebUse → WebSession
  | .connection session | .message session _ => session

def action : WebUse → Hub.Action
  | .connection session => .greet (.web session)
  | .message session frame => .receive frame (.web session)

end WebUse

namespace Hub

variable {α : Type}

/-- The lease of a web session. -/
abbrev lease? (hub : Hub α) (session : String) : Option Lease := hub.web.lease? session

/-- The identity that a use of a session is answered with. -/
def stamped (application : Application α) (hub : Hub α) : WebUse → Option Identity
  | .connection session => some (hub.greet (.web session)).1
  | .message session frame =>
    (hub.receive application frame (.web session)).1.response.bind Response.identity

/-- Whether a use of a session renews its lease. -/
def renews (hub : Hub α) : WebUse → Bool
  | .connection _ => true
  | .message session _ => (hub.web.identity? session.id).isNone

/-- An action that is no business of a web session, nor a look-up of its identity. -/
def Action.Spares (session : String) (id : Identity) : Action → Prop
  | .greet (.web other) | .receive _ (.web other) | .dismiss (.web other) => other.id ≠ session
  | .find key .web => key ≠ .system id
  | _ => True

/-- Whether an action sweeps the web sessions. -/
def Action.isSweep : Action → Bool
  | .sweepWeb => true
  | _ => false

/-- Whether the web sessions are swept after a point in time. -/
def sweptAfter (application : Application α) (deadline : Nat) (hub : Hub α) : List Action → Bool
  | [] => false
  | action :: rest =>
    action.isSweep && decide (deadline < hub.now) ||
      sweptAfter application deadline (hub.perform application action) rest

/-- Whether a session has lost an identity when it is used, by a point in time and after some actions:
connecting looks at the time, and a message at what sweeps have left. -/
def hasLapsed (application : Application α) (deadline : Nat) (hub : Hub α) (actions : List Action) :
    WebUse → Bool
  | .connection _ => deadline < (hub.run application actions).now
  | .message _ _ => hub.sweptAfter application deadline actions

theorem webEvent_spares {session : String} {id : Identity} {action : Action}
    (spared : action.Spares session id) (application : Application α) (hub : Hub α) :
    (hub.webEvent application action).Spares session id := by
  unfold webEvent
  split
  · exact spared
  · exact spared
  · exact spared
  · exact spared
  · trivial
  · trivial

theorem ends_webEvent (application : Application α) (hub : Hub α) (action : Action) (ttl : Nat)
    (lease : Lease) :
    (hub.webEvent application action).ends ttl hub.now lease =
      (action.isSweep && decide (lease.since + ttl < hub.now)) := by
  unfold webEvent
  split
  case h_6 other =>
    have unswept : action.isSweep = false := by
      cases action with
      | sweepWeb => exact absurd rfl other
      | _ => rfl
    rw [unswept]
    rfl
  all_goals rfl

theorem now_le_run (application : Application α) (hub : Hub α) (actions : List Action) :
    hub.now ≤ (hub.run application actions).now := by
  induction actions generalizing hub with
  | nil => exact Nat.le_refl hub.now
  | cons action rest ih =>
    have first := now_le_hub application hub action
    have others := ih (hub.perform application action)
    rw [run_cons]
    omega

/-- A sweep after a point in time leaves that point in the past. -/
theorem lt_now_of_sweptAfter (application : Application α) {deadline : Nat} {hub : Hub α}
    {actions : List Action} (swept : hub.sweptAfter application deadline actions = true) :
    deadline < (hub.run application actions).now := by
  induction actions generalizing hub with
  | nil => cases swept
  | cons action rest ih =>
    rw [sweptAfter, Bool.or_eq_true, Bool.and_eq_true, decide_eq_true_eq] at swept
    obtain ⟨-, past⟩ | later := swept
    · have onward := now_le_run application hub (action :: rest)
      omega
    · exact ih later

theorem ttl_perform (application : Application α) (hub : Hub α) (action : Action) :
    (hub.perform application action).web.handles.ttl = hub.web.handles.ttl := by
  rw [web_perform]
  exact hub.webReception.ttl_perform (hub.webEvent application action)

theorem ttl_run (application : Application α) (hub : Hub α) (actions : List Action) :
    (hub.run application actions).web.handles.ttl = hub.web.handles.ttl := by
  induction actions generalizing hub with
  | nil => rfl
  | cons action rest ih => exact (ih _).trans (hub.ttl_perform application action)

namespace WebConsistent

variable {application : Application α} {start : UInt64} {count : Nat} {hub : Hub α} {ttl : Nat}
  {session : String} {id : Identity}

/-- An action that spares a session leaves it its lease, unless it is a sweep and the lease is over.
-/
theorem lease?_perform (aliases : application.NamesAliases)
    (consistent : hub.WebConsistent start count) (few : count < 2 ^ 64)
    (mortal : hub.web.handles.ttl = some ttl)
    (held : ∀ lease, hub.lease? session = some lease → lease.id = id) {action : Action}
    (spared : action.Spares session id) :
    (hub.perform application action).lease? session =
      (hub.lease? session).filter fun lease =>
        !(action.isSweep && decide (lease.since + ttl < hub.now)) := by
  have kept := Reception.Consistent.lease?_perform consistent few mortal
    (hub.webEvent_proper aliases action) held (webEvent_spares spared application hub)
  rw [Reception.lease?, ← web_perform] at kept
  refine kept.trans (congrArg (Option.filter · (hub.lease? session)) (funext fun lease => ?_))
  exact congrArg _ (ends_webEvent application hub action ttl lease)

/-- So does a run of such actions, unless it sweeps when the lease is over. -/
theorem lease?_run (aliases : application.NamesAliases)
    (consistent : hub.WebConsistent start count) {actions : List Action}
    (few : count + hub.mints application actions < 2 ^ 64)
    (mortal : hub.web.handles.ttl = some ttl)
    (held : ∀ lease, hub.lease? session = some lease → lease.id = id)
    (spared : ∀ action ∈ actions, action.Spares session id) :
    (hub.run application actions).lease? session =
      (hub.lease? session).filter fun lease =>
        !hub.sweptAfter application (lease.since + ttl) actions := by
  induction actions generalizing hub count with
  | nil =>
    rw [run_nil]
    cases hub.lease? session <;> rfl
  | cons action rest ih =>
    rw [mints, ← Nat.add_assoc] at few
    have first := consistent.lease?_perform aliases (by omega) mortal held
      (spared action (List.mem_cons_self ..))
    have held' : ∀ lease, (hub.perform application action).lease? session = some lease →
        lease.id = id := by
      intro lease after
      rw [first] at after
      exact held lease (Option.filter_eq_some_iff.mp after).1
    rw [run_cons, ih (consistent.perform aliases (by omega) action) few
      ((hub.ttl_perform application action).trans mortal) held'
      (fun action member => spared action (List.mem_cons_of_mem _ member)), first,
      Option.filter_filter]
    refine congrArg (Option.filter · (hub.lease? session)) (funext fun lease => ?_)
    rw [sweptAfter, Bool.not_or]

/-- The identity of one session is not the next one to be minted after a run. -/
theorem ne_issue_run (aliases : application.NamesAliases)
    (consistent : hub.WebConsistent start count) {actions : List Action}
    (few : count + hub.mints application actions < 2 ^ 64)
    (known : hub.web.identity? session = some id) :
    (hub.run application actions).commons.mint.issue.1 ≠ id := by
  have later := consistent.run aliases actions few
  have issued := consistent.issued session id known
  rintro rfl
  exact Identity.not_issued_issue later.minted few (issued.mono (Nat.le_add_right ..))

end WebConsistent

section

variable {application : Application α} {hub : Hub α}

theorem stamped_connection (application : Application α) (hub : Hub α) (session : WebSession) :
    hub.stamped application (.connection session) =
      some (hub.webReception.connect session.id session).1 := rfl

theorem stamped_message (application : Application α) (hub : Hub α) (session : WebSession)
    (frame : Frame) :
    hub.stamped application (.message session frame) =
      some (hub.webReception.identify session.id session).1 := by
  have answered : hub.stamped application (.message session frame) =
      some (Dispatcher.identify ⟨hub.web, hub.commons, (⟨hub.channels, hub.own⟩ : Floor α)⟩ hub.now
        session.id session).1 := Dispatcher.identity_dispatch ..
  rw [answered, identify_eq]
  rfl

/-- After a use the session has a lease for the identity that the use is answered with. The lease
starts anew if the use renews it, and is as it was otherwise. -/
theorem lease?_of_use {start : UInt64} {count : Nat} (aliases : application.NamesAliases)
    (consistent : hub.WebConsistent start count) {use : WebUse} {id : Identity}
    (given : hub.stamped application use = some id) :
    ∃ since, (hub.perform application use.action).lease? use.session.id = some ⟨id, since⟩ ∧
      if hub.renews use then since = hub.now else hub.lease? use.session.id = some ⟨id, since⟩ := by
  cases use with
  | connection session =>
    obtain rfl := Option.some.inj given
    exact ⟨hub.now, hub.webReception.lease?_connect session.id session, rfl⟩
  | message session frame =>
    rw [stamped_message] at given
    obtain rfl := Option.some.inj given
    have named := hub.webKeys_isAlias aliases session frame.bytes
    have after : (hub.perform application (.receive frame (.web session))).lease? session.id =
        (hub.webReception.identify session.id session).2.lease? session.id := by
      rw [lease?, web_perform]
      exact Reception.lease?_registerAll _ named _ session session.id
    rw [WebUse.action, WebUse.session, after, renews]
    cases known : hub.web.identity? session.id with
    | none =>
      rw [Reception.identify_of_unknown known]
      exact ⟨hub.now, hub.webReception.lease?_connect session.id session, rfl⟩
    | some id =>
      rw [Reception.identify_of_known known]
      obtain ⟨since, held⟩ := consistent.lease known
      exact ⟨since, held, held⟩

/-- An unknown session is answered with the next identity. -/
theorem stamped_of_unknown (application : Application α) {use : WebUse}
    (unknown : hub.web.identity? use.session.id = none) :
    hub.stamped application use = some hub.commons.mint.issue.1 := by
  have unknown' : hub.webReception.directory.identity? use.session.id = none := unknown
  have connected := Reception.identity_connect_of_unknown unknown' use.session
  cases use with
  | connection session =>
    rw [stamped_connection]
    exact congrArg some connected
  | message session frame =>
    have identified := congrArg Prod.fst (Reception.identify_of_unknown unknown' session)
    rw [stamped_message]
    exact congrArg some (identified.trans connected)

/-- A session with a lease is answered with its identity, unless it connects when the lease is over.
-/
theorem stamped_of_lease (application : Application α) {ttl : Nat}
    (mortal : hub.web.handles.ttl = some ttl) {use : WebUse} {lease : Lease}
    (held : hub.lease? use.session.id = some lease) :
    hub.stamped application use =
      some (if hub.hasLapsed application (lease.since + ttl) [] use then hub.commons.mint.issue.1
        else lease.id) := by
  have mortal' : hub.webReception.directory.handles.ttl = some ttl := mortal
  have connected := Reception.identity_connect_of_lease mortal' held use.session
  cases use with
  | connection session =>
    rw [stamped_connection]
    exact congrArg some connected
  | message session frame =>
    have known := (Directory.lease?_eq_some_iff.mp held).1
    have identified : hub.webReception.identify session.id session = (lease.id, hub.webReception) :=
      Reception.identify_of_known known session
    rw [stamped_message, identified]
    rfl

/-- From the lease of a session on, a use of the session that follows actions of others is answered
with the identity of the lease exactly if it has not lapsed by then. -/
theorem WebConsistent.stamped_iff {start : UInt64} {count : Nat} (aliases : application.NamesAliases)
    (consistent : hub.WebConsistent start count) {actions : List Action}
    (few : count + hub.mints application actions < 2 ^ 64) {ttl : Nat}
    (mortal : hub.web.handles.ttl = some ttl) {use : WebUse} {id : Identity} {since : Nat}
    (held : hub.lease? use.session.id = some ⟨id, since⟩)
    (spared : ∀ action ∈ actions, action.Spares use.session.id id) :
    (hub.run application actions).stamped application use = some id ↔
      hub.hasLapsed application (since + ttl) actions use = false := by
  have kept := consistent.lease?_run aliases few mortal
    (fun lease same => congrArg Lease.id (Option.some.inj (same.symm.trans held))) spared
  have later := consistent.run aliases actions few
  have mortal' := (hub.ttl_run application actions).trans mortal
  have known := (Directory.lease?_eq_some_iff.mp held).1
  have fresh := consistent.ne_issue_run aliases few known
  rw [held, Option.filter_some] at kept
  cases swept : hub.sweptAfter application (since + ttl) actions with
  | true =>
    rw [swept] at kept
    have unknown := later.unknown kept
    have lapsed : hub.hasLapsed application (since + ttl) actions use = true := by
      cases use with
      | connection session => exact decide_eq_true (lt_now_of_sweptAfter application swept)
      | message session frame => exact swept
    rw [stamped_of_unknown application unknown, lapsed]
    simp [fresh]
  | false =>
    rw [swept] at kept
    have lapsed : (hub.run application actions).hasLapsed application (since + ttl) [] use =
        hub.hasLapsed application (since + ttl) actions use := by
      cases use with
      | connection session => rfl
      | message session frame => exact swept.symm
    rw [stamped_of_lease application mortal' kept, lapsed]
    cases hub.hasLapsed application (since + ttl) actions use with
    | true => simp [fresh]
    | false => simp

end

/-- In every run whose handlers name aliases only, between two uses of a web session with nothing of
that session between them: the second use is answered with the identity of the first exactly if the
lease has not lapsed by then, and the lease runs from the first use only if that renewed it. So the
identity lasts for the time to live from the first use on exactly if the lease lapses with that time.
-/
theorem web_identity_lasts_from_its_renewal (settings : HubSettings) (subscribers : List Subscriber)
    (mint : Mint) (entropy : Entropy) (own : α) (application : Application α)
    (aliases : application.NamesAliases) (earlier : List Action) (first : WebUse)
    (between : List Action) (second : WebUse) (same : second.session.id = first.session.id)
    (few : (Hub.initial settings subscribers mint entropy own).mints application
      (earlier ++ first.action :: between) < 2 ^ 64) (id : Identity) :
    let before := (Hub.initial settings subscribers mint entropy own).run application earlier
    let after := before.perform application first.action
    let later := after.run application between
    before.stamped application first = some id →
      (∀ action ∈ between, action.Spares first.session.id id) →
      ∃ since, after.lease? first.session.id = some ⟨id, since⟩ ∧
        (if before.renews first then since = before.now
          else before.lease? first.session.id = some ⟨id, since⟩) ∧
        (later.stamped application second = some id ↔
          after.hasLapsed application (since + settings.webTtl) between second = false) ∧
        ((later.stamped application second = some id ↔ later.now - before.now ≤ settings.webTtl) ↔
          (after.hasLapsed application (since + settings.webTtl) between second = true ↔
            settings.webTtl < later.now - before.now)) := by
  intro before after later given spared
  rw [mints_append, mints, ← Nat.add_assoc] at few
  have initially := webConsistent_initial settings subscribers mint entropy own
  have met := initially.run aliases earlier (by omega)
  rw [Nat.zero_add] at met
  have used := met.perform aliases (by omega) first.action
  obtain ⟨since, held, renewed⟩ := lease?_of_use aliases met given
  have mortal : after.web.handles.ttl = some settings.webTtl :=
    (before.ttl_perform application first.action).trans (ttl_run application _ earlier)
  rw [← same] at held spared
  have answered := used.stamped_iff aliases few mortal held spared
  refine ⟨since, same ▸ held, renewed, answered, ?_⟩
  rw [answered, ← Bool.not_eq_true, ← Nat.not_le]
  exact not_iff_comm.trans iff_comm

namespace Waiting

def visitor : WebSession := ⟨"cookie", ⟨none, none⟩⟩

/-- The visitor says hello. -/
def hello : WebUse :=
  .message visitor (.text "\x7b\"type\":\"HELLO\",\"id\":1\x7d")

def wait (nanoseconds : Nat) : Action := .move (.elapse nanoseconds)

/-- The gateway after the visitor has connected and 20 nanoseconds have passed. -/
def idle : Hub Unit := Lobby.fresh.run Lobby.onWeb [.greet (.web visitor), wait 20]

end Waiting

/-- A visitor who connects again in time keeps its identity. -/
theorem web_identity_lasts_between_connections :
    Lobby.onWeb.NamesAliases ∧
      Lobby.fresh.mints Lobby.onWeb [.greet (.web Waiting.visitor), Waiting.wait 30] < 2 ^ 64 ∧
      Lobby.fresh.stamped Lobby.onWeb (.connection Waiting.visitor) = some ⟨1⟩ ∧
      (∀ action ∈ [Waiting.wait 30], action.Spares "cookie" ⟨1⟩) ∧
      (Lobby.fresh.run Lobby.onWeb [.greet (.web Waiting.visitor), Waiting.wait 30]).stamped
        Lobby.onWeb (.connection Waiting.visitor) = some ⟨1⟩ := by
  have few : Lobby.fresh.mints Lobby.onWeb
      [.greet (.web Waiting.visitor), Waiting.wait 30] < 2 ^ 64 := by decide +kernel
  have given : Lobby.fresh.stamped Lobby.onWeb (.connection Waiting.visitor) = some ⟨1⟩ := by rfl
  have spared : ∀ action ∈ [Waiting.wait 30], action.Spares "cookie" ⟨1⟩ := by
    intro action member
    obtain rfl := List.mem_singleton.mp member
    trivial
  obtain ⟨since, -, renewed, answered, -⟩ := web_identity_lasts_from_its_renewal Lobby.settings []
    .initial ⟨fun _ => 0, 0⟩ () Lobby.onWeb Lobby.namesAliases_onWeb [] (.connection Waiting.visitor)
    [Waiting.wait 30] (.connection Waiting.visitor) rfl few ⟨1⟩ given spared
  have now : since = 0 := renewed
  subst now
  exact ⟨Lobby.namesAliases_onWeb, few, given, spared, answered.mpr (by rfl)⟩

/-- A visitor who says hello and connects again in time has lost its identity nevertheless, and one
who lets the time pass and says hello is still answered with it. -/
theorem hello_renews_nothing :
    let soon := (Waiting.idle.perform Lobby.onWeb Waiting.hello.action).run Lobby.onWeb
      [Waiting.wait 20]
    let late := Waiting.idle.run Lobby.onWeb [Waiting.wait 20]
    (Waiting.idle.stamped Lobby.onWeb Waiting.hello = some ⟨1⟩ ∧
      soon.stamped Lobby.onWeb (.connection Waiting.visitor) = some ⟨2⟩ ∧
      soon.now - Waiting.idle.now ≤ Lobby.settings.webTtl) ∧
    Lobby.fresh.stamped Lobby.onWeb (.connection Waiting.visitor) = some ⟨1⟩ ∧
      late.stamped Lobby.onWeb Waiting.hello = some ⟨1⟩ ∧
      Lobby.settings.webTtl < late.now - Lobby.fresh.now := by
  decide +kernel

end Hub

end Gateway
