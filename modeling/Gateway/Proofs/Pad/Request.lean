import Gateway.Proofs.Channels.Custody
import Gateway.Proofs.Channels.Seating
import Gateway.Proofs.Pad.Issuing

/-! # What a request that fails leaves behind

A request for a pad goes through five points at which it may fail. At the first four nothing has
happened yet. The last one comes after the connection has been seated on the encrypted side of the pair,
and whoever sat there closed: if no pad can be made then, because pads have no size, the request fails
and the connection has been seated *in vain*, except that the seat may have been its own before. That is
the one way in which a request that fails changes anything. A request that succeeds is answered with the
pad that waits for its pair.
-/

namespace Gateway

namespace Channels

/-- Whether pairs, pads and the activity of connections are as they were. -/
structure Intact (before after : Channels) : Prop where
  pairs : ∀ key, after.pair? key = before.pair? key
  pads : after.pads = before.pads
  active : ∀ id, after.isActive id = before.isActive id

theorem Intact.refl (channels : Channels) : Intact channels channels :=
  ⟨fun _ => rfl, rfl, fun _ => rfl⟩

variable {channels : Channels} {key : Key} {side : Side} {id : ConnectionId}

/-- A connection that takes the seat it has changes nothing. -/
theorem intact_join (permanent : channels.pairs.ttl = none) (active : channels.isActive id = true)
    (sits : channels.occupant? key side = some id) :
    Intact channels (channels.join key side id).2 := by
  have nobody : channels.eviction? key side id = none := by
    rw [eviction?_eq permanent, sits, Option.filter_some_neg (by simp), Option.map_none]
  have settled : channels.afterEviction key side id = (channels.seat key side id).2 := by
    rw [afterEviction, nobody]
  have still : (channels.seat key side id).2.isActive id = true := active
  rw [join_of_active key side active, settled, if_pos still]
  obtain ⟨pair, stored, here⟩ := Option.bind_eq_some_iff.mp sits
  refine ⟨?_, rfl, fun _ => rfl⟩
  intro other
  rw [pair?_seat permanent, stored, Option.getD_some, Pair.occupy_of_occupant here]
  split_ifs with this
  · rw [← this, stored]
  · rfl

/-- A connection that takes a seat changes its pair, or does not outlive the eviction. -/
theorem not_intact_join (permanent : channels.pairs.ttl = none) (active : channels.isActive id = true)
    (elsewhere : channels.occupant? key side ≠ some id) :
    ¬ Intact channels (channels.join key side id).2 := by
  intro intact
  have here := Pair.occupant_occupy ((channels.pair? key).getD Pair.empty) side id
  have seated := pair?_seat_self permanent key side id
  -- A pair that is kept has the newcomer in it now; one that is gone has lost the newcomer as well.
  obtain ⟨_, -, fates⟩ := (closing_join key side active).fates
  cases fates key with
  | kept same _ =>
    have former := (intact.pairs key).symm.trans (same.trans seated)
    apply elsewhere
    rw [occupant?, former]
    exact here
  | retired pair stored dead _ _ =>
    obtain rfl := Option.some.inj (stored.symm.trans seated)
    have still := (intact.active id).trans active
    exact Bool.eq_false_iff.mp dead (Pair.isAlive_of_occupant here still)

/-- A new pad waits for its key from now on. -/
theorem newPendingPad_of_sized (sized : 0 < channels.padSize) (key : Key) :
    ∃ pad after, channels.newPendingPad key = (.ok pad, after) ∧
      after.pads.pending.entries.get? key = some ⟨pad, after.now⟩ := by
  rw [newPendingPad, generatePad_of_sized sized]
  refine ⟨_, _, rfl, ?_⟩
  simp only [stagePad, noteHandedOut, PadStore.stage, Registry.put, Registry.get?_store, ↓reduceIte]

/-- A connection that may not sit on an encrypted side is granted nothing, and nothing changes. -/
theorem grantPad_of_unfit (unfit : ¬ (channels.isSecure id = true ∧ channels.isActive id = true))
    (key : Key) : channels.grantPad key id = (none, channels) := by
  obtain ⟨-, -, refused⟩ | ⟨-, -, refused⟩ | ⟨secure, active, -⟩ :=
    channels.joinSide_cases key .encrypted id
  · exact grantPad_of_refused refused
  · exact grantPad_of_refused refused
  · exact absurd ⟨secure rfl, active⟩ unfit

/-- A connection that may sit there is seated, and granted a pad if pads have a size. -/
theorem grantPad_of_fit (secure : channels.isSecure id = true) (active : channels.isActive id = true)
    (key : Key) :
    channels.padSize = 0 ∧ channels.grantPad key id = (none, (channels.join key .encrypted id).2) ∨
      0 < channels.padSize ∧ ∃ pad after, channels.grantPad key id = (some pad, after) ∧
        after.pads.pending.entries.get? key = some ⟨pad, after.now⟩ := by
  have joined : channels.joinEncrypted key id = (.ok (), (channels.join key .encrypted id).2) := by
    rw [joinEncrypted, if_pos secure, join_of_active key .encrypted active]
  have steady := steady_join channels key .encrypted id
  simp only [grantPad, joined]
  rcases Nat.eq_zero_or_pos channels.padSize with unsized | sized
  · rw [newPendingPad_of_unsized (steady.padSize.trans unsized)]
    exact .inl ⟨unsized, rfl⟩
  · obtain ⟨pad, after, made, waits⟩ := newPendingPad_of_sized (steady.padSize ▸ sized) key
    rw [made]
    exact .inr ⟨sized, pad, after, rfl, waits⟩

end Channels

namespace PadExchange

/-- Whether a request puts a connection into the encrypted side of the pair of a name. -/
structure Seating (resolve : Identity → Option ConnectionId) (envelope : Envelope)
    (channels : Channels) (name : String) (id : ConnectionId) : Prop where
  named : requestedPair? envelope = some name
  resolved : envelope.identity.bind resolve = some id
  secure : channels.isSecure id = true
  active : channels.isActive id = true

/-- Whether a request puts its connection into a seat that is not its own although no pad can be made
for it. -/
def SeatsInVain (resolve : Identity → Option ConnectionId) (envelope : Envelope)
    (channels : Channels) : Prop :=
  channels.padSize = 0 ∧ ∃ name id, Seating resolve envelope channels name id ∧
    channels.occupant? (.name name) .encrypted ≠ some id

section

variable {resolve : Identity → Option ConnectionId} {envelope : Envelope} {channels : Channels}

/-- A request is about one seat. -/
theorem Seating.unique {name other : String} {id id' : ConnectionId}
    (one : Seating resolve envelope channels name id)
    (two : Seating resolve envelope channels other id') : name = other ∧ id = id' :=
  ⟨Option.some.inj (one.named.symm.trans two.named),
    Option.some.inj (one.resolved.symm.trans two.resolved)⟩

/-- Where pads have no size, seating the connection of a request changes nothing exactly if the request
does not seat it in vain. -/
theorem Seating.intact_join_iff {name : String} {id : ConnectionId}
    (seating : Seating resolve envelope channels name id) (permanent : channels.pairs.ttl = none)
    (unsized : channels.padSize = 0) :
    channels.Intact (channels.join (.name name) .encrypted id).2 ↔
      ¬ SeatsInVain resolve envelope channels := by
  constructor
  · rintro intact ⟨-, other, id', seating', elsewhere⟩
    obtain ⟨rfl, rfl⟩ := seating.unique seating'
    exact Channels.not_intact_join permanent seating.active elsewhere intact
  · intro useful
    apply Channels.intact_join permanent seating.active
    by_contra elsewhere
    exact useful ⟨unsized, name, id, seating, elsewhere⟩

/-- A request that is about no seat fails and changes nothing. -/
theorem processRequest_of_unseated (context : Context)
    (unseated : ∀ name id, ¬ Seating resolve envelope channels name id) :
    ∃ fault, processRequest resolve context envelope channels = (.failed fault, channels) := by
  cases named : requestedPair? envelope with
  | none => exact ⟨_, by rw [processRequest, named]⟩
  | some name =>
    cases resolved : envelope.identity.bind resolve with
    | none => exact ⟨_, by rw [processRequest, named, resolved]⟩
    | some id =>
      have ungranted := Channels.grantPad_of_unfit
        (fun fit => unseated name id ⟨named, resolved, fit.1, fit.2⟩) (.name name)
      have processed := processRequest_of_asked named resolved context channels
      rwa [ungranted] at processed

/-- Any other request seats its connection, and succeeds if pads have a size. -/
theorem processRequest_of_seated (context : Context) {name : String} {id : ConnectionId}
    (seating : Seating resolve envelope channels name id) :
    (channels.padSize = 0 ∧ ∃ fault, processRequest resolve context envelope channels =
        (.failed fault, (channels.join (.name name) .encrypted id).2)) ∨
      0 < channels.padSize ∧ ∃ pad after, processRequest resolve context envelope channels =
          (.done (Response.success [.string (Base64.encode pad)]), after) ∧
        after.pads.pending.entries.get? (.name name) = some ⟨pad, after.now⟩ := by
  have processed := processRequest_of_asked seating.named seating.resolved context channels
  obtain ⟨unsized, ungranted⟩ | ⟨sized, pad, after, granted, waits⟩ :=
    Channels.grantPad_of_fit seating.secure seating.active (.name name)
  · rw [ungranted] at processed
    exact .inl ⟨unsized, processed⟩
  · rw [granted] at processed
    exact .inr ⟨sized, pad, after, processed, waits⟩

end

/-- In every run, whatever the size of pads and whoever listens: checking a request changes nothing; a
request that fails changes nothing unless it seats its connection in vain, and one that does so fails and
has changed something; a request that succeeds is answered with one item, the pad that waits from now on
for the pair that it names. -/
theorem failing_request_changes_nothing_unless_it_seats_in_vain (subscribers : List Subscriber)
    (pendingTtl padSize : Nat) (entropy : Entropy) (moves : List Channels.Move)
    (resolve : Identity → Option ConnectionId) (context : Context) (envelope : Envelope) :
    let channels := (Channels.initial subscribers pendingTtl padSize entropy).run moves
    let checked := (requestHandler resolve).validate context envelope channels
    let processed := (requestHandler resolve).process context envelope channels
    checked.2 = channels ∧
      (∀ fault, processed.1 = .failed fault →
        (channels.Intact processed.2 ↔ ¬ SeatsInVain resolve envelope channels)) ∧
      (SeatsInVain resolve envelope channels → ∃ fault, processed.1 = .failed fault) ∧
      (∀ response, processed.1 = .done response → ∃ name pad,
        requestedPair? envelope = some name ∧
          response = Response.success [.string (Base64.encode pad)] ∧
            processed.2.pads.pending.entries.get? (.name name) = some ⟨pad, processed.2.now⟩) ∧
      ∀ message, processed.1 ≠ .brokeOff message := by
  intro channels checked processed
  have permanent : channels.pairs.ttl = none := Channels.ttl_pairs_run _ moves
  refine ⟨rfl, ?_⟩
  by_cases seated : ∃ name id, Seating resolve envelope channels name id
  · obtain ⟨name, id, seating⟩ := seated
    obtain ⟨unsized, fault, failed⟩ | ⟨sized, pad, after, done, waits⟩ :=
      processRequest_of_seated context seating
    · rw [show processed = _ from failed]
      refine ⟨fun _ _ => seating.intact_join_iff permanent unsized, ?_, nofun, nofun⟩
      exact fun _ => ⟨fault, rfl⟩
    · rw [show processed = _ from done]
      refine ⟨nofun, ?_, ?_, nofun⟩
      · rintro ⟨unsized, -⟩
        omega
      · rintro _ ⟨⟩
        exact ⟨name, pad, seating.named, rfl, waits⟩
  · have unseated : ∀ name id, ¬ Seating resolve envelope channels name id :=
      fun name id seating => seated ⟨name, id, seating⟩
    have useful : ¬ SeatsInVain resolve envelope channels := by
      rintro ⟨-, name, id, seating, -⟩
      exact unseated name id seating
    obtain ⟨fault, failed⟩ := processRequest_of_unseated context unseated
    rw [show processed = _ from failed]
    refine ⟨fun _ _ => iff_of_true (.refl channels) useful, ?_, nofun, nofun⟩
    exact fun vain => absurd vain useful

namespace Vain

/-- A secure connection, on the encrypted side of the pair of an address. -/
def former : ConnectionId := ⟨1, 1⟩

/-- Another secure connection. -/
def newcomer : ConnectionId := ⟨1, 2⟩

/-- Pads have no size. -/
def channels : Channels :=
  (Channels.initial [⟨"pairs", .retirePairs⟩] 60 0 ⟨fun _ => 0, 0⟩).run
    [.accept former ⟨⟨none, none⟩, true⟩ 4, .accept newcomer ⟨⟨none, none⟩, true⟩ 4,
      .joinEncrypted (.name "addr:1") former]

def resolve : Identity → Option ConnectionId := fun _ => some newcomer

def context : Context := ⟨Templates.builtIn.describe⟩

/-- The other connection asks for a pad of the pair. -/
def request : Envelope :=
  ⟨requestKind, 1, some ⟨1⟩, some .websocket, ⟨none, none⟩,
    .record requestKind [("key", .string "addr:1")]⟩

end Vain

open Vain

/-- Where pads have no size, a request that fails closes the connection whose seat it asked for and
leaves the seat to the connection that asked. -/
theorem refused_request_closes_former_occupant :
    let processed := (requestHandler resolve).process context request channels
    (∃ fault, processed.1 = .failed fault) ∧
      channels.occupant? (.name "addr:1") .encrypted = some former ∧
      processed.2.occupant? (.name "addr:1") .encrypted = some newcomer ∧
      channels.isActive former = true ∧ processed.2.isActive former = false := by
  intro processed
  have fails : ∃ fault, processed.1 = .failed fault := by
    have seating : Seating resolve request channels "addr:1" newcomer :=
      ⟨by decide +kernel, rfl, by decide +kernel, by decide +kernel⟩
    obtain ⟨-, fault, failed⟩ | ⟨sized, -⟩ := processRequest_of_seated context seating
    · exact ⟨fault, congrArg Prod.fst failed⟩
    · exact absurd sized (by decide +kernel)
  exact ⟨fails, by decide +kernel, by decide +kernel, by decide +kernel, by decide +kernel⟩

end PadExchange

end Gateway
