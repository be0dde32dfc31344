import Gateway.Proofs.Channels.Queue
import Gateway.Proofs.Hub.Transparency

/-! # What goes onto connections

A frame goes onto one connection, as it is or combined with the pad in use. At the padded endpoints it
is combined, whatever gave rise to it: a reply, an error, a frame sent to the connection or one that is
pushed to a key. The secure endpoint works over the same directory as one of the padded ones, so a key
can lead from it to a connection that a pad applies to, and what is pushed there goes onto the
connection as it is.
-/

namespace Gateway

/-- A frame combined with a pad. -/
def Frame.masked (pad : Bytes) (frame : Frame) : Frame := .binary (Pad.combine pad pad frame.bytes)

namespace Hub

variable {α : Type}

/-- A frame was put onto a connection, in the form in which it goes on the wire: it is at the end of
the connection's queue if it was sent, it waits for room if it stalled, and it is nowhere if it was
refused. -/
structure Carries (before : Hub α) (id : ConnectionId) (wire : Frame) (delivery : Delivery)
    (after : Hub α) : Prop where
  queues : ∀ other, after.channels.queueOf other =
    if other = id ∧ delivery = .sent then before.channels.queueOf other ++ [wire]
    else before.channels.queueOf other
  waiting : ∀ frame, delivery = .stalled frame → frame = wire

namespace Carries

variable {first before after : Hub α} {id : ConnectionId} {wire : Frame} {delivery : Delivery}

/-- It does not matter what happened before, as long as all frames stayed where they were. -/
theorem since (same : Channels.SameQueues first.channels before.channels)
    (carries : Carries before id wire delivery after) : Carries first id wire delivery after where
  queues other := by rw [carries.queues other, same other]
  waiting := carries.waiting

/-- Nothing tells how a frame was put onto a connection that refused it. -/
theorem iff_eq_or_refused (carries : Carries before id wire delivery after) (other : Frame) :
    Carries before id other delivery after ↔
      other = wire ∨ ∃ error, delivery = .refused error := by
  constructor
  · intro carries'
    cases delivery with
    | sent =>
      have queue := (carries'.queues id).symm.trans (carries.queues id)
      simp only [and_self, ↓reduceIte, List.append_cancel_left_eq, List.cons.injEq,
        and_true] at queue
      exact .inl queue
    | refused error => exact .inr ⟨error, rfl⟩
    | stalled frame =>
      exact .inl ((carries'.waiting frame rfl).symm.trans (carries.waiting frame rfl))
  · rintro (rfl | ⟨error, rfl⟩)
    · exact carries
    · refine ⟨fun other => ?_, nofun⟩
      simpa only [reduceCtorEq, and_false, ↓reduceIte] using carries.queues other

end Carries

variable {hub : Hub α}

theorem carries_sendPlain (hub : Hub α) (id : ConnectionId) (frame : Frame) :
    Carries hub id frame (hub.sendPlain id frame).1 (hub.sendPlain id frame).2 where
  queues := Channels.queueOf_send hub.channels id frame
  waiting _ stalled := Channels.eq_of_stalled stalled

theorem padFor?_sendPlain (hub : Hub α) (id : ConnectionId) (frame : Frame) (other : ConnectionId) :
    (hub.sendPlain id frame).2.padFor? other = hub.padFor? other := by
  have info : (hub.channels.send id frame).2.info other = hub.channels.info other := by
    rw [Channels.send]
    cases found : hub.channels.connection? id with
    | none => rfl
    | some connection =>
      rw [Channels.connection?] at found
      simp only [Channels.info, Channels.connection?, Channels.setConnection, Table.get?_modify]
      split_ifs with same
      · subst same
        simp only [found, Option.map_some, Connection.send]
        split_ifs <;> rfl
      · rfl
  have pads : (hub.channels.send id frame).2.pads = hub.channels.pads := by
    rw [Channels.send]
    split <;> rfl
  simp only [padFor?, pairKey?, sendPlain, info, pads]

namespace Twin

theorem sameQueues {one two : Hub α} (twin : one.Twin two) :
    Channels.SameQueues one.channels two.channels := by
  obtain ⟨⟨alike⟩⟩ := twin
  exact .of_connections rfl

end Twin

/-- The form in which a frame goes from an endpoint onto a connection. -/
def wire (hub : Hub α) (endpoint : Endpoint) (id : ConnectionId) (frame : Frame) : Frame :=
  match endpoint.isPadded, hub.padFor? id with
  | true, some pad => frame.masked pad
  | _, _ => frame

theorem wire_of_masked {endpoint : Endpoint} (padded : endpoint.isPadded = true) {id : ConnectionId}
    {pad : Bytes} (inUse : hub.padFor? id = some pad) (frame : Frame) :
    hub.wire endpoint id frame = frame.masked pad := by
  rw [wire, padded, inUse]

theorem wire_of_bare {endpoint : Endpoint} (bare : endpoint.isPadded = false) (id : ConnectionId)
    (frame : Frame) : hub.wire endpoint id frame = frame := by
  rw [wire, bare]

/-- A frame that is sent goes onto its connection in the form that the pad in use gives it, unless that
pad is unfit. -/
theorem send_cases (hub : Hub α) (permanent : hub.channels.pads.active.ttl = none)
    (endpoint : Endpoint) (id : ConnectionId) (frame : Frame) :
    ∃ twin : Hub α, hub.Twin twin ∧
      (hub.send endpoint id frame = twin.sendPlain id (hub.wire endpoint id frame) ∨
        ∃ error, hub.send endpoint id frame = (.refused error, twin)) := by
  cases padded : endpoint.isPadded with
  | false =>
    refine ⟨hub, .refl permanent, .inl ?_⟩
    rw [send, padded, wire_of_bare padded]
    rfl
  | true =>
    rw [send, if_pos padded]
    cases inUse : hub.padFor? id with
    | none =>
      refine ⟨hub, .refl permanent, .inl ?_⟩
      rw [mask_of_none permanent inUse, wire, padded, inUse]
    | some pad =>
      obtain ⟨after, found, twin⟩ := padOf_of_some permanent inUse
      rw [wire_of_masked padded inUse, mask, found]
      refine ⟨after.count maskCounter, twin.count _, ?_⟩
      -- Masking fails under the empty pad alone.
      cases pad with
      | nil => exact .inr ⟨_, rfl⟩
      | cons first rest => exact .inl rfl

theorem carries_send (hub : Hub α) (permanent : hub.channels.pads.active.ttl = none)
    (endpoint : Endpoint) (id : ConnectionId) (frame : Frame) :
    Carries hub id (hub.wire endpoint id frame) (hub.send endpoint id frame).1
      (hub.send endpoint id frame).2 := by
  obtain ⟨twin, looking, sent | ⟨error, refused⟩⟩ := hub.send_cases permanent endpoint id frame
  · rw [sent]
    exact (twin.carries_sendPlain id _).since looking.sameQueues
  · rw [refused]
    refine ⟨fun other => ?_, nofun⟩
    simpa only [reduceCtorEq, and_false, ↓reduceIte] using looking.sameQueues other

/-- Sending changes no pad. -/
theorem padFor?_send (hub : Hub α) (permanent : hub.channels.pads.active.ttl = none)
    (endpoint : Endpoint) (id : ConnectionId) (frame : Frame) (other : ConnectionId) :
    (hub.send endpoint id frame).2.padFor? other = hub.padFor? other := by
  obtain ⟨twin, looking, sent | ⟨error, refused⟩⟩ := hub.send_cases permanent endpoint id frame
  · rw [sent, padFor?_sendPlain, looking.padFor?]
  · rw [refused, looking.padFor?]

/-- A frame that is pushed goes onto the connection that the key leads to. -/
theorem carries_push (permanent : hub.channels.pads.active.ttl = none) {endpoint : Endpoint}
    {key : Key} {id : ConnectionId} (found : (hub.findSocket endpoint.desk key).1 = some id)
    (frame : Frame) :
    ∃ delivery, (hub.push endpoint key frame).1 = some (id, delivery) ∧
      Carries hub id (hub.wire endpoint id frame) delivery (hub.push endpoint key frame).2 := by
  have same : Channels.SameQueues hub.channels (hub.findSocket endpoint.desk key).2.channels :=
    .of_connections rfl
  have wired : (hub.findSocket endpoint.desk key).2.wire endpoint id frame =
      hub.wire endpoint id frame := rfl
  have sending := (hub.findSocket endpoint.desk key).2.carries_send permanent endpoint id frame
  rw [wired] at sending
  rw [push]
  rcases looked : hub.findSocket endpoint.desk key with ⟨_ | other, after⟩ <;>
    rw [looked] at found same sending
  · cases found
  · obtain rfl := Option.some.inj found
    exact ⟨_, rfl, sending.since same⟩

theorem unmask_cases (permanent : hub.channels.pads.active.ttl = none) (id : ConnectionId)
    (frame : Frame) :
    hub.Twin (hub.unmask id frame).2 ∧
      ∀ error, (hub.unmask id frame).1 = .error error → hub.padFor? id = some [] := by
  cases inUse : hub.padFor? id with
  | none =>
    rw [unmask_of_none permanent inUse]
    exact ⟨.refl permanent, nofun⟩
  | some pad =>
    obtain ⟨after, unmasked, twin⟩ := unmask_of_some permanent inUse frame
    rw [unmasked]
    refine ⟨twin, fun error failed => ?_⟩
    cases pad with
    | nil => rfl
    | cons first rest => cases failed

/-- Reading a frame looks at a pad at most. -/
theorem twin_read (permanent : hub.channels.pads.active.ttl = none) (frame : Frame)
    (caller : Caller) : hub.Twin (hub.read frame caller).2 := by
  cases caller with
  | socket endpoint id =>
    obtain ⟨arriving, -⟩ := unmask_cases permanent id frame
    rw [read]
    split_ifs
    · rcases unmasked : hub.unmask id frame with ⟨_ | _, arrived⟩ <;> rw [unmasked] at arriving <;>
        exact arriving
    · exact .refl permanent
  | web _ | inProcess _ _ _ => exact .refl permanent

/-- The response to a message goes back onto the connection that the message came from, and replying
changes no pad. -/
theorem carries_response (application : Application α)
    (permanent : hub.channels.pads.active.ttl = none) {frame : Frame} {endpoint : Endpoint}
    {id : ConnectionId} {bytes : Bytes} {arrived : Hub α}
    (reads : hub.read frame (.socket endpoint id) = (some bytes, arrived)) :
    let responded := arrived.respond application bytes (.socket endpoint id)
    let received := hub.receive application frame (.socket endpoint id)
    Carries hub id (responded.2.wire endpoint id (replyTo endpoint frame.isText responded.1))
      received.1.delivery received.2 ∧
      ∀ other, received.2.padFor? other = responded.2.padFor? other := by
  intro responded received
  have arriving := twin_read permanent frame (.socket endpoint id)
  rw [reads] at arriving
  have serving := arrived.served_respond application bytes (.socket endpoint id)
  have permanent' : responded.2.channels.pads.active.ttl = none :=
    serving.served.steady.active.trans arriving.permanent
  have sending := responded.2.carries_send permanent' endpoint id
    (replyTo endpoint frame.isText responded.1)
  have answered : received = arrived.answerBytes application endpoint id frame.isText bytes :=
    message_of_read reads application
  rw [answered]
  constructor
  · exact sending.since (arriving.sameQueues.trans serving.sameQueues)
  · exact responded.2.padFor?_send permanent' endpoint id _

/-- Where a pad is in use once a message has been served, the reply goes back in the form that this pad
gives it. -/
theorem carries_reply (permanent : hub.channels.pads.active.ttl = none)
    (application : Application α) {endpoint : Endpoint} (padded : endpoint.isPadded = true)
    {id : ConnectionId} {frame : Frame} {pad : Bytes} (material : pad ≠ [])
    (inUse : (hub.message application endpoint id frame).2.padFor? id = some pad) :
    ∃ response, (hub.message application endpoint id frame).1.response = some response ∧
      Carries hub id ((replyTo endpoint frame.isText response).masked pad)
        (hub.message application endpoint id frame).1.delivery
        (hub.message application endpoint id frame).2 := by
  obtain ⟨arriving, unfit⟩ := unmask_cases permanent id frame
  rcases unmasked : hub.unmask id frame with ⟨error | bytes, arrived⟩ <;>
    rw [unmasked] at arriving unfit
  -- Only an empty pad leaves a message unread, and it is still in use when the error is sent.
  · simp only [message, padded, unmasked, ↓reduceIte] at inUse
    rw [sendError, arrived.padFor?_send arriving.permanent, arriving.padFor?,
      unfit error rfl] at inUse
    exact absurd (Option.some.inj inUse).symm material
  -- The message itself may have put another pad to use, so the pad is read off the end.
  · have reads : hub.read frame (.socket endpoint id) = (some bytes, arrived) := by
      rw [read, if_pos padded, unmasked]
    obtain ⟨carries, pads⟩ := carries_response application permanent reads
    have inUse := (pads id).symm.trans inUse
    rw [wire_of_masked padded inUse] at carries
    exact ⟨_, (receive_of_read reads application).1, carries⟩

/-- In every run, for every connection whose pair has a pad in use that is not empty: whatever a padded
endpoint sends to the connection goes onto it combined with that pad, a reply with the pad that is in
use once its message has been served. So does what is pushed to a key that leads to the connection, if
it is pushed from a padded endpoint; from any other endpoint it goes onto the connection as it is. -/
theorem padded_sockets_are_sent_masked_frames (settings : HubSettings)
    (subscribers : List Subscriber) (mint : Mint) (entropy : Entropy) (own : α)
    (application : Application α) (actions : List Action) (id : ConnectionId) (pad : Bytes)
    (material : pad ≠ []) :
    let hub := (Hub.initial settings subscribers mint entropy own).run application actions
    (∀ endpoint : Endpoint, endpoint.isPadded = true →
      (hub.padFor? id = some pad →
        (∀ frame, Carries hub id (frame.masked pad) (hub.send endpoint id frame).1
          (hub.send endpoint id frame).2) ∧
        ∀ code parameters, Carries hub id
          ((replyTo endpoint true
            (Response.failure (application.describe code parameters) [])).masked pad)
          (hub.sendError application endpoint id code parameters).1
          (hub.sendError application endpoint id code parameters).2) ∧
      ∀ frame, (hub.message application endpoint id frame).2.padFor? id = some pad →
        ∃ response, (hub.message application endpoint id frame).1.response = some response ∧
          Carries hub id ((replyTo endpoint frame.isText response).masked pad)
            (hub.message application endpoint id frame).1.delivery
            (hub.message application endpoint id frame).2) ∧
    ∀ endpoint key frame, hub.padFor? id = some pad →
      (hub.findSocket endpoint.desk key).1 = some id →
        ∃ delivery, (hub.push endpoint key frame).1 = some (id, delivery) ∧
          (Carries hub id (frame.masked pad) delivery (hub.push endpoint key frame).2 ↔
            endpoint.isPadded = true ∨ frame.masked pad = frame ∨
              ∃ error, delivery = .refused error) ∧
          (endpoint.isPadded = false →
            Carries hub id frame delivery (hub.push endpoint key frame).2) := by
  intro hub
  have permanent : hub.channels.pads.active.ttl = none :=
    permanent_run settings mint entropy own application actions subscribers
  constructor
  · intro endpoint padded
    constructor
    · intro inUse
      have sends : ∀ frame, Carries hub id (frame.masked pad) (hub.send endpoint id frame).1
          (hub.send endpoint id frame).2 := by
        intro frame
        have sending := hub.carries_send permanent endpoint id frame
        rwa [wire_of_masked padded inUse] at sending
      exact ⟨sends, fun code parameters => sends _⟩
    · intro frame inUse
      exact carries_reply permanent application padded material inUse
  · intro endpoint key frame inUse found
    obtain ⟨delivery, pushed, carries⟩ := carries_push permanent found frame
    refine ⟨delivery, pushed, ?_, ?_⟩
    · cases padded : endpoint.isPadded with
      | true =>
        rw [wire_of_masked padded inUse] at carries
        simp only [carries, true_or]
      | false =>
        rw [wire_of_bare padded] at carries
        simp only [carries.iff_eq_or_refused, Bool.false_eq_true, false_or]
    · intro bare
      rwa [wire_of_bare bare] at carries

namespace Pushing

/-- A connection whose pair has a pad of one byte. -/
def visitor : ConnectionId := ⟨1, 1⟩

def pad : Bytes := [0x5a]

/-- The key of the visitor's identity. -/
def key : Key := .system ⟨1⟩

def settings : HubSettings := ⟨16, 60, 30, none, 1⟩

def actions : List Action :=
  [.move (.accept visitor ⟨⟨none, some "addr:1"⟩, false⟩ 4),
    .greet (.socket .padWebsocket visitor), .move (.usePad (.name "addr:1") pad)]

def keyed : Hub Unit :=
  (Hub.initial settings [⟨"pairs", .retirePairs⟩] .initial ⟨fun _ => 0, 0⟩ ()).run
    Lobby.application actions

def news : Frame := .text "hi"

/-- The visitor's greeting, as it arrives. -/
def greeting : Frame := (Frame.text "\x7b\"type\":\"HELLO\",\"id\":1\x7d").masked pad

end Pushing

section

open Pushing

/-- The reply to a greeting goes out combined with the pad, and so does a push from the padded endpoint.
-/
theorem reply_and_push_go_masked :
    pad ≠ [] ∧ Endpoint.padWebsocket.isPadded = true ∧
      (keyed.message Lobby.application .padWebsocket visitor greeting).2.padFor? visitor = some pad ∧
      (∃ response,
        (keyed.message Lobby.application .padWebsocket visitor greeting).1.response = some response ∧
          Carries keyed visitor ((replyTo .padWebsocket greeting.isText response).masked pad)
            (keyed.message Lobby.application .padWebsocket visitor greeting).1.delivery
            (keyed.message Lobby.application .padWebsocket visitor greeting).2) ∧
      keyed.padFor? visitor = some pad ∧
      (keyed.findSocket Endpoint.padWebsocket.desk key).1 = some visitor ∧
      (keyed.push .padWebsocket key news).1 = some (visitor, .sent) ∧
      Carries keyed visitor (news.masked pad) .sent (keyed.push .padWebsocket key news).2 := by
  obtain ⟨padded, pushed⟩ := padded_sockets_are_sent_masked_frames settings
    [⟨"pairs", .retirePairs⟩] .initial ⟨fun _ => 0, 0⟩ () Lobby.application actions visitor pad
    nofun
  have served : (keyed.message Lobby.application .padWebsocket visitor greeting).2.padFor? visitor =
      some pad := by decide +kernel
  have inUse : keyed.padFor? visitor = some pad := by decide +kernel
  have found : (keyed.findSocket Endpoint.padWebsocket.desk key).1 = some visitor := by
    decide +kernel
  have sent : (keyed.push .padWebsocket key news).1 = some (visitor, .sent) := by decide +kernel
  refine ⟨nofun, rfl, served, (padded .padWebsocket rfl).2 greeting served, inUse, found, sent, ?_⟩
  obtain ⟨delivery, taken, masked, -⟩ := pushed .padWebsocket key news inUse found
  obtain ⟨-, rfl⟩ := Prod.mk.inj (Option.some.inj (taken.symm.trans sent))
  exact masked.mpr (.inl rfl)

/-- A push from the secure endpoint leaves the frame as it is, although a pad is in use for the clear
side of the pair that it goes to. -/
theorem push_from_secure_endpoint_goes_unmasked :
    keyed.channels.liveOccupant? (.name "addr:1") .clear = some visitor ∧
      keyed.padFor? visitor = some pad ∧ pad ≠ [] ∧
      (keyed.findSocket Endpoint.secure.desk key).1 = some visitor ∧
      (keyed.push .secure key news).1 = some (visitor, .sent) ∧
      (keyed.push .secure key news).2.channels.queueOf visitor = [news] ∧
      news.masked pad ≠ news := by
  refine ⟨?_, ?_, nofun, ?_, ?_, ?_, nofun⟩ <;> decide +kernel

end

end Hub

end Gateway
