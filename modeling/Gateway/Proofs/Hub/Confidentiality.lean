import Gateway.Proofs.Hub.Identities
import Gateway.Proofs.Hub.Masking

/-! # Pads go to secure connections only

A pad leaves the gateway in two ways. One that is issued goes to the encrypted side of its pair, which
is secure in every state. One that is asked for goes back in the reply, onto the connection that the
request came from, while it is the connection behind the sender's identity that has to be secure. The
two are the same: that identity leads from the shared desk to the sender, or nowhere.
-/

namespace Gateway

namespace Channels

theorem isSecure_join (channels : Channels) (key : Key) (side : Side) (id other : ConnectionId) :
    (channels.join key side id).2.isSecure other = channels.isSecure other := by
  cases active : channels.isActive id with
  | true => exact (closing_join key side active).secure other
  | false => rw [join, if_neg (by simp [active])]

/-- A connection that is secure stays so. -/
theorem isSecure_perform (channels : Channels) (move : Move) {id : ConnectionId}
    (secure : channels.isSecure id = true) : (channels.perform move).isSecure id = true := by
  cases move with
  | close other => exact ((closing_work channels [.close other]).secure id).trans secure
  | joinClear key other => exact (isSecure_join channels key .clear other id).trans secure
  | joinEncrypted key other =>
    rw [perform, joinEncrypted]
    split_ifs
    · exact (isSecure_join channels key .encrypted other id).trans secure
    · exact secure
  | _ => exact (quiet_perform channels rfl).secure id secure

theorem ReachesBy.isSecure {kind : Move → Bool} {before after : Channels}
    (reaches : before.ReachesBy kind after) {id : ConnectionId}
    (secure : before.isSecure id = true) : after.isSecure id = true :=
  reaches.keeps (fun channels move _ secure => isSecure_perform channels move secure) secure

/-- The encrypted side of a pair is secure while it is active. -/
theorem Sound.secure_of_live {channels : Channels} (sound : channels.Sound) {key : Key}
    {id : ConnectionId} (live : channels.liveOccupant? key .encrypted = some id) :
    channels.isSecure id = true ∧ channels.isActive id = true := by
  rw [liveOccupant?, Option.filter_eq_some_iff] at live
  obtain ⟨here, active⟩ := live
  obtain ⟨pair, stored, occupant⟩ := Option.bind_eq_some_iff.mp here
  exact ⟨sound.secured key pair id stored occupant, active⟩

/-- Only secure connections are seated on the encrypted side of a pair. -/
theorem secure_of_joined {channels : Channels} {key : Key} {id : ConnectionId}
    (joined : (channels.joinEncrypted key id).1 = .ok ()) : channels.isSecure id = true := by
  rw [joinEncrypted] at joined
  split_ifs at joined with secure
  exact secure

end Channels

/-- A request is about the connection behind its identity. -/
theorem PadExchange.resolved_of_request {resolve : Identity → Option ConnectionId}
    {envelope : Envelope} {key : Key} {id : ConnectionId}
    (requested : request? resolve envelope = some (key, id)) :
    envelope.identity.bind resolve = some id := by
  rw [request?] at requested
  split at requested
  case h_1 name id' named resolved =>
    split_ifs at requested
    obtain ⟨-, rfl⟩ := Prod.mk.inj (Option.some.inj requested)
    exact resolved
  case h_2 => cases requested

namespace Hub

variable {α : Type} {application : Application α} {hub : Hub α}

/-- A request for a pad that is answered with success came from a secure connection at the shared desk.
-/
theorem secure_of_granted {start : UInt64} {count : Nat} (identified : hub.Identified start count)
    (few : count < 2 ^ 64) {bytes : Bytes} {caller : Caller} {envelope : Envelope}
    (decoded : application.codec.decode bytes = .ok envelope)
    (asked : application.services.get? envelope.kind = some .padRequest)
    (success : (hub.respond application bytes caller).1.isSuccess = true) :
    ∃ endpoint id, caller = .socket endpoint id ∧ endpoint.desk = .shared ∧
      hub.channels.isSecure id = true := by
  cases called : hub.call? application bytes caller with
  | none =>
    rw [(respond_of_uncalled called).1] at success
    cases success
  | some call =>
    rw [(respond_of_call called).1] at success
    obtain ⟨message, decoded', kind⟩ := kind_of_call called
    obtain rfl := Except.ok.inj (decoded'.symm.trans decoded)
    rw [← kind] at asked
    obtain ⟨key, id, requested, joined⟩ :=
      application.joined_of_success (resolve call.shared) asked success
    have resolved : call.envelope.identity.bind (resolve call.shared) = some id := by
      rw [Application.requested?, asked] at requested
      exact PadExchange.resolved_of_request requested
    -- The connection that was seated is the one that the request came from.
    obtain ⟨endpoint, rfl, shared⟩ := identified.caller_of_resolved few called resolved
    have secure := Channels.secure_of_joined joined
    rw [floor_of_call called] at secure
    exact ⟨endpoint, id, rfl, shared, secure⟩

/-- In every run of channels whose pairs someone looks at, with fewer than `2 ^ 64` identities and
services that name aliases only. A pad that is issued goes onto one connection, which is secure and
active, or none is issued. A request for a pad that is answered with success, whoever it comes from,
came from a connection that is secure and stays so, and the response goes onto this connection and no
other. -/
theorem pads_are_confided_to_secure_connections (settings : HubSettings) (front back : List Subscriber)
    (label : String) (mint : Mint) (entropy : Entropy) (own : α) (application : Application α)
    (aliases : application.NamesAliases) (actions : List Action)
    (few : (Hub.initial settings (front ++ ⟨label, .retirePairs⟩ :: back) mint entropy own).mints
      application actions < 2 ^ 64) :
    let hub := (Hub.initial settings (front ++ ⟨label, .retirePairs⟩ :: back) mint entropy own).run
      application actions
    (∀ key requireAck,
      let issued := hub.channels.issuePad key requireAck
      (∃ pad id, hub.channels.isSecure id = true ∧ hub.channels.isActive id = true ∧
        ∀ other, issued.2.queueOf other =
          if other = id then hub.channels.queueOf other ++ [.binary pad]
          else hub.channels.queueOf other) ∨
      issued.1 ≠ .ok true ∧ Channels.SameQueues hub.channels issued.2) ∧
    ∀ frame caller bytes arrived envelope response,
      hub.read frame caller = (some bytes, arrived) →
      application.codec.decode bytes = .ok envelope →
      application.services.get? envelope.kind = some .padRequest →
      (hub.receive application frame caller).1.response = some response →
      response.isSuccess = true →
        ∃ endpoint id, caller = .socket endpoint id ∧
          hub.channels.isSecure id = true ∧
          (hub.receive application frame caller).2.channels.isSecure id = true ∧
          Carries hub id
            ((arrived.respond application bytes caller).2.wire endpoint id
              (replyTo endpoint frame.isText response))
            (hub.receive application frame caller).1.delivery
            (hub.receive application frame caller).2 := by
  intro hub
  have sound : hub.channels.Sound :=
    sound_run settings mint entropy own application actions front back label
  have permanent : hub.channels.pads.active.ttl = none :=
    permanent_run settings mint entropy own application actions _
  constructor
  · intro key requireAck issued
    obtain ⟨pad, occupant, -, issues⟩ | ⟨unsent, same, -⟩ :=
      Channels.issuePad_cases hub.channels key requireAck
    · obtain ⟨secure, active⟩ := sound.secure_of_live issues.live
      exact .inl ⟨pad, occupant, secure, active, issues.queues⟩
    · exact .inr ⟨unsent, same⟩
  · intro frame caller bytes arrived envelope response reads decoded asked responded success
    have identified := identified_run settings (front ++ ⟨label, .retirePairs⟩ :: back) mint entropy
      own aliases actions few
    have reading := hub.replies_read frame caller
    have arriving := twin_read permanent frame caller
    rw [reads] at reading arriving
    obtain ⟨answered, replying⟩ := receive_of_read reads application
    obtain rfl := Option.some.inj (answered.symm.trans responded)
    obtain ⟨endpoint, id, rfl, -, secure⟩ :=
      secure_of_granted (identified.replies reading) few decoded asked success
    have served := arrived.served_respond application bytes (.socket endpoint id)
    refine ⟨endpoint, id, rfl, ?_, ?_, (carries_response application permanent reads).1⟩
    · rwa [Channels.isSecure, arriving.connection?] at secure
    · exact replying.channels.isSecure (served.isSecure secure)

namespace Confiding

/-- A secure connection. -/
def client : ConnectionId := ⟨1, 1⟩

def pair : Key := .name "addr:1"

def request : Frame := .text "\x7b\"type\":\"OTP_NEW_KEY_REQUEST\",\"id\":1,\"key\":\"addr:1\"\x7d"

/-- The client has asked for a pad of the pair. -/
def actions : List Action :=
  [.move (.accept client ⟨⟨none, none⟩, true⟩ 4), .greet (.socket .secure client),
    .receive request (.socket .secure client)]

def fresh : Hub Unit :=
  .initial Lobby.settings [⟨"pairs", .retirePairs⟩] .initial ⟨fun _ => 0, 0⟩ ()

def asked : Hub Unit := fresh.run Lobby.onWeb actions

theorem kind_of_request : ∃ envelope, Lobby.onWeb.codec.decode request.bytes = .ok envelope ∧
    Lobby.onWeb.services.get? envelope.kind = some .padRequest := by
  have kind : (Lobby.onWeb.codec.decode request.bytes).toOption.map Envelope.kind =
      some PadExchange.requestKind := by decide +kernel
  cases decoded : Lobby.onWeb.codec.decode request.bytes with
  | error error =>
    rw [decoded] at kind
    cases kind
  | ok envelope =>
    rw [decoded] at kind
    have kind : envelope.kind = PadExchange.requestKind := Option.some.inj kind
    exact ⟨envelope, rfl, by rw [kind]; rfl⟩

end Confiding

section

open Confiding

/-- Another pad that is issued for the pair goes onto a secure connection, and so does the response to
another request. -/
theorem pads_of_secure_client_are_confided_to_it :
    fresh.mints Lobby.onWeb actions < 2 ^ 64 ∧
      (asked.channels.issuePad pair true).1 = .ok true ∧
      (∃ pad id, asked.channels.isSecure id = true ∧ asked.channels.isActive id = true ∧
        ∀ other, (asked.channels.issuePad pair true).2.queueOf other =
          if other = id then asked.channels.queueOf other ++ [.binary pad]
          else asked.channels.queueOf other) ∧
      ∃ response,
        (asked.receive Lobby.onWeb request (.socket .secure client)).1.response = some response ∧
          response.isSuccess = true ∧
          ∃ endpoint id, Caller.socket .secure client = .socket endpoint id ∧
            asked.channels.isSecure id = true ∧
            ∃ wire, Carries asked id wire
              (asked.receive Lobby.onWeb request (.socket .secure client)).1.delivery
              (asked.receive Lobby.onWeb request (.socket .secure client)).2 := by
  have few : fresh.mints Lobby.onWeb actions < 2 ^ 64 := by decide +kernel
  obtain ⟨issues, confides⟩ := pads_are_confided_to_secure_connections Lobby.settings [] [] "pairs"
    .initial ⟨fun _ => 0, 0⟩ () Lobby.onWeb Lobby.namesAliases_onWeb actions few
  have issued : (asked.channels.issuePad pair true).1 = .ok true := by
    have taken : (asked.channels.issuePad pair true).1.toOption = some true := by decide +kernel
    cases result : (asked.channels.issuePad pair true).1 with
    | error error =>
      rw [result] at taken
      cases taken
    | ok delivered =>
      rw [result] at taken
      exact congrArg Except.ok (Option.some.inj taken)
  obtain ⟨envelope, decoded, served⟩ := kind_of_request
  have granted : (asked.receive Lobby.onWeb request (.socket .secure client)).1.response.map
      Response.isSuccess = some true := by decide +kernel
  obtain ⟨response, responded, success⟩ := Option.map_eq_some_iff.mp granted
  refine ⟨few, issued, ?_, response, responded, success, ?_⟩
  · obtain confided | ⟨unsent, -⟩ := issues pair true
    · exact confided
    · exact absurd issued unsent
  · obtain ⟨endpoint, id, same, secure, -, carries⟩ := confides request (.socket .secure client)
      request.bytes asked envelope response rfl decoded served responded success
    exact ⟨endpoint, id, same, secure, _, carries⟩

end

end Hub

end Gateway
