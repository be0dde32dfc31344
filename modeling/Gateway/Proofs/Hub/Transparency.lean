import Gateway.Lobby
import Gateway.Proofs.Channels.Twin
import Gateway.Proofs.Hub.Run
import Gateway.Proofs.Pad

/-! # Pads are transparent

At a padded endpoint a frame that is combined with the pad in use is served as the bytes it stands
for, and the reply is combined with the pad that is in use once the message has been served, which
the message itself may have put to use. What the message does to the gateway is what dispatching the
bare bytes does, up to counters and to when pads were last looked at: hubs that differ in these alone
are *twins*. Where no pad is in use before or after, a padded endpoint works as a bare one.

An empty pad can be put to use and masks nothing: it refuses every frame, the reply included.
-/

namespace Gateway

/-- The second floor is the first one up to when active pads were last used. -/
structure Floor.Twin (one two : Floor α) : Prop where
  channels : one.channels.Twin two.channels
  own : two.own = one.own

theorem Service.respects_twin (resolve : Identity → Option ConnectionId) (service : Service α) :
    (service.handler resolve).Respectful Floor.Twin := by
  intro context envelope
  cases service with
  | application handler =>
    constructor
    · intro one two twin
      simp only [Service.handler, Handler.onPart, twin.own]
      exact ⟨trivial, twin.channels, rfl⟩
    · intro one two twin
      simp only [Service.handler, Handler.onPart, twin.own]
      exact ⟨trivial, twin.channels, rfl⟩
  | padRequest =>
    constructor
    · intro one two twin
      exact ⟨rfl, twin⟩
    · intro one two twin
      obtain ⟨result, channels⟩ :=
        Channels.respects_processRequest resolve context envelope twin.channels
      exact ⟨result, channels, twin.own⟩
  | padAck =>
    constructor
    · intro one two twin
      exact ⟨rfl, twin⟩
    · intro one two twin
      obtain ⟨result, channels⟩ := Channels.respects_processAck context envelope twin.channels
      exact ⟨result, channels, twin.own⟩

theorem Application.respects_serve (application : Application α)
    (resolve : Identity → Option ConnectionId) (envelope : Envelope) :
    Respects Floor.Twin ((application.pipeline resolve).serve envelope) := by
  refine Pipeline.respects_serve (fun kind handler found => ?_) envelope
  obtain ⟨service, -, rfl⟩ := application.handlers_pipeline resolve found
  exact service.respects_twin resolve

namespace Hub

variable {α : Type}

/-- The second hub is the first one up to counters and to when active pads were last used. -/
inductive Twin (hub : Hub α) : Hub α → Prop where
  | intro {channels : Channels} {counters : Counters} (twin : hub.channels.Twin channels) :
    Twin hub
      { hub with channels := channels, commons := { hub.commons with counters := counters } }

/-- The pad in use for the pair of a connection. -/
def padFor? (hub : Hub α) (id : ConnectionId) : Option Bytes :=
  (hub.pairKey? id).bind hub.channels.pads.active.stored?

/-- The binary frame in which a response goes to a connection at a padded endpoint. An empty pad
refuses it. -/
def reply? (hub : Hub α) (id : ConnectionId) (response : Response) : Option Frame :=
  match hub.padFor? id with
  | none => some (.binary (utf8 response.wire))
  | some [] => none
  | some pad => some (.binary (Pad.combine pad pad (utf8 response.wire)))

namespace Twin

variable {one two three : Hub α}

theorem refl (permanent : one.channels.pads.active.ttl = none) : one.Twin one :=
  .intro (.refl permanent)

theorem trans (first : one.Twin two) (second : two.Twin three) : one.Twin three := by
  cases first with
  | intro twin =>
    cases second with
    | intro twin' => exact .intro (twin.trans twin')

theorem count (twin : one.Twin two) (name : String) : one.Twin (two.count name) := by
  cases twin with
  | intro twin => exact .intro twin

theorem permanent (twin : one.Twin two) : two.channels.pads.active.ttl = none := by
  obtain ⟨⟨alike⟩⟩ := twin
  exact alike.permanent'

theorem padFor? (twin : one.Twin two) (id : ConnectionId) : two.padFor? id = one.padFor? id := by
  obtain ⟨⟨alike⟩⟩ := twin
  have key : ∀ {active : Registry Key Bytes} {counters : Counters},
      ({ one with
        channels := one.channels.withActive active
        commons := { one.commons with counters := counters } } : Hub α).pairKey? id =
          one.pairKey? id := rfl
  simp only [Hub.padFor?, key]
  exact congrArg _ (funext alike.values)

theorem dispatchBytes (twin : one.Twin two) (application : Application α) (endpoint : Endpoint)
    (id : ConnectionId) (bytes : Bytes) :
    (two.dispatchBytes application endpoint id bytes).1 =
        (one.dispatchBytes application endpoint id bytes).1 ∧
      (one.dispatchBytes application endpoint id bytes).2.Twin
        (two.dispatchBytes application endpoint id bytes).2 := by
  obtain ⟨⟨alike⟩⟩ := twin
  rename_i counters active
  have floors : Floor.Twin ⟨one.channels, one.own⟩ ⟨one.channels.withActive active, one.own⟩ :=
    ⟨.intro alike, rfl⟩
  obtain ⟨response, directory, ⟨counted, commons⟩, channels, own⟩ :=
    Dispatcher.dispatch_congr (one.socketDispatcher application endpoint)
      (fun _ envelope => application.respects_serve _ envelope) one.now id id
      (one.channels.info id).addresses bytes (one.desks.get endpoint.desk) one.commons counters
      floors
  refine ⟨response, ?_⟩
  have settled : ∀ {first second : DispatchState ConnectionId ConnectionId (Floor α)},
      second.directory = first.directory →
      second.commons = { first.commons with counters := counted } →
      first.rest.channels.Twin second.rest.channels → second.rest.own = first.rest.own →
      Twin
        { one with
          desks := one.desks.set endpoint.desk first.directory
          commons := first.commons
          channels := first.rest.channels
          own := first.rest.own }
        { one with
          desks := one.desks.set endpoint.desk second.directory
          commons := second.commons
          channels := second.rest.channels
          own := second.rest.own } := by
    rintro ⟨_, _, _⟩ ⟨_, _, _⟩ directory commons channels own
    simp only at directory commons own ⊢
    rw [directory, commons, own]
    exact .intro channels
  exact settled directory commons channels own

theorem sendPlain (twin : one.Twin two) (id : ConnectionId) (frame : Frame) :
    (two.sendPlain id frame).1 = (one.sendPlain id frame).1 ∧
      (one.sendPlain id frame).2.Twin (two.sendPlain id frame).2 := by
  obtain ⟨⟨alike⟩⟩ := twin
  rename_i counters active
  have found : (one.channels.withActive active).connection? id = one.channels.connection? id := rfl
  simp only [Hub.sendPlain, Channels.send, found]
  cases one.channels.connection? id with
  | none => exact ⟨rfl, .intro (.intro alike)⟩
  | some connection => exact ⟨rfl, .intro (.intro alike)⟩

end Twin

variable {hub : Hub α}

theorem padOf_of_none (permanent : hub.channels.pads.active.ttl = none) {id : ConnectionId}
    (bare : hub.padFor? id = none) : hub.padOf id = (none, hub) := by
  rw [padOf]
  rw [padFor?] at bare
  cases paired : hub.pairKey? id with
  | none => rfl
  | some key =>
    have absent : hub.channels.pads.active.stored? key = none := by simpa [paired] using bare
    simp only [Channels.activePad, PadStore.activePad, Registry.get_of_absent permanent _ absent]

theorem padOf_of_some (permanent : hub.channels.pads.active.ttl = none) {id : ConnectionId}
    {pad : Bytes} (inUse : hub.padFor? id = some pad) :
    ∃ after, hub.padOf id = (some pad, after) ∧ hub.Twin after := by
  rw [padFor?] at inUse
  obtain ⟨key, paired, stored⟩ := Option.bind_eq_some_iff.mp inUse
  obtain ⟨found, alike⟩ := Registry.Alike.looked permanent hub.now key
  let looked := hub.channels.withActive (hub.channels.pads.active.get hub.now key).registry
  refine ⟨{ hub with channels := looked }, ?_, .intro (.intro alike)⟩
  rw [padOf, paired, ← stored, ← found]
  rfl

theorem unmask_of_none (permanent : hub.channels.pads.active.ttl = none) {id : ConnectionId}
    (bare : hub.padFor? id = none) (frame : Frame) :
    hub.unmask id frame = (.ok frame.bytes, hub) := by
  rw [unmask, padOf_of_none permanent bare]

theorem unmask_of_some (permanent : hub.channels.pads.active.ttl = none) {id : ConnectionId}
    {pad : Bytes} (inUse : hub.padFor? id = some pad) (frame : Frame) :
    ∃ after, hub.unmask id frame = (Pad.apply pad frame.bytes, after) ∧ hub.Twin after := by
  obtain ⟨after, found, twin⟩ := padOf_of_some permanent inUse
  refine ⟨after.count unmaskCounter, ?_, twin.count _⟩
  rw [unmask, found]

theorem mask_of_none (permanent : hub.channels.pads.active.ttl = none) {id : ConnectionId}
    (bare : hub.padFor? id = none) (frame : Frame) : hub.mask id frame = (.ok frame, hub) := by
  rw [mask, padOf_of_none permanent bare]

/-- What masking a reply comes to. -/
theorem mask_reply (permanent : hub.channels.pads.active.ttl = none) (endpoint : Endpoint)
    (id : ConnectionId) (response : Response) :
    ∃ after, hub.Twin after ∧
      hub.mask id (replyTo endpoint false response) =
        (match hub.reply? id response with
          | some frame => .ok frame
          | none => .error .encrypt, after) := by
  have framed : replyTo endpoint false response = .binary (utf8 response.wire) := rfl
  rw [framed, reply?]
  cases inUse : hub.padFor? id with
  | none => exact ⟨hub, .refl permanent, mask_of_none permanent inUse _⟩
  | some pad =>
    obtain ⟨after, found, twin⟩ := padOf_of_some permanent inUse
    refine ⟨after.count maskCounter, twin.count _, ?_⟩
    rw [mask, found]
    cases pad with
    | nil => rfl
    | cons first rest => rfl

/-- How a masked message went, compared with dispatching the bytes that it stands for. -/
structure Answers (id : ConnectionId) (bare : Response × Hub α) (masked : MessageResult × Hub α) :
    Prop where
  response : masked.1.response = some bare.1
  /-- Without a frame to reply in, dispatching is all that happens; otherwise that frame is sent. -/
  effect :
    match bare.2.reply? id bare.1 with
    | none => masked.1.delivery = .refused .encrypt ∧ bare.2.Twin masked.2
    | some frame =>
      masked.1.delivery = (bare.2.sendPlain id frame).1 ∧
        (bare.2.sendPlain id frame).2.Twin masked.2
  /-- An open connection with room for it gets exactly the frame of the reply. -/
  queued : ∀ connection frame, bare.2.channels.connection? id = some connection →
    connection.active = true → connection.receiving = true → connection.hasRoom = true →
    bare.2.reply? id bare.1 = some frame →
      masked.1.delivery = .sent ∧
        masked.2.channels.connection? id = some (connection.enqueue frame)

theorem sendPlain_open {id : ConnectionId} {connection : Connection}
    (found : hub.channels.connection? id = some connection) (active : connection.active = true)
    (receiving : connection.receiving = true) (room : connection.hasRoom = true) (frame : Frame) :
    (hub.sendPlain id frame).1 = .sent ∧
      (hub.sendPlain id frame).2.channels.connection? id = some (connection.enqueue frame) := by
  have sent : connection.send frame = (.sent, connection.enqueue frame) := by
    simp [Connection.send, active, receiving, room]
  simp only [sendPlain, Channels.send, found, sent]
  refine ⟨trivial, ?_⟩
  simp only [Channels.connection?, Channels.setConnection, Table.get?_modify, ↓reduceIte] at found ⊢
  rw [found, Option.map_some]

theorem Twin.connection? {one two : Hub α} (twin : one.Twin two) (id : ConnectionId) :
    two.channels.connection? id = one.channels.connection? id := by
  obtain ⟨⟨alike⟩⟩ := twin
  rfl

theorem answers_message (permanent : hub.channels.pads.active.ttl = none)
    (application : Application α) {endpoint : Endpoint} (padded : endpoint.isPadded = true)
    {id : ConnectionId} {pad plain cipher : Bytes} (inUse : hub.padFor? id = some pad)
    (applied : Pad.apply pad plain = .ok cipher) :
    Answers id (hub.dispatchBytes application endpoint id plain)
      (hub.message application endpoint id (.binary cipher)) := by
  obtain ⟨arrived, unmasked, arriving⟩ := unmask_of_some permanent inUse (.binary cipher)
  have plainly : Pad.apply pad (Frame.binary cipher).bytes = .ok plain := Pad.apply_apply applied
  rw [message, if_pos padded, unmasked, plainly]
  obtain ⟨same, serving⟩ := arriving.dispatchBytes application endpoint id plain
  rcases bared : hub.dispatchBytes application endpoint id plain with ⟨response, bare⟩
  rcases served : arrived.dispatchBytes application endpoint id plain with ⟨response', masked⟩
  rw [bared, served] at same serving
  obtain rfl : response' = response := same
  obtain ⟨last, looking, replied⟩ := mask_reply serving.permanent endpoint id response'
  have twin : bare.Twin last := serving.trans looking
  have reply : masked.reply? id response' = bare.reply? id response' := by
    rw [reply?, reply?, serving.padFor? id]
  simp only [answerBytes, served, Frame.isText, send, if_pos padded, replied, reply]
  cases framed : bare.reply? id response' with
  | none =>
    constructor
    case response => rfl
    case effect => simpa only [framed, true_and] using twin
    case queued => simp [framed]
  | some frame =>
    obtain ⟨delivery, sending⟩ := twin.sendPlain id frame
    constructor
    case response => rfl
    case effect => simpa only [framed] using ⟨delivery, sending⟩
    case queued =>
      intro connection other found active receiving room replies
      obtain rfl := Option.some.inj (framed.symm.trans replies)
      obtain ⟨sent, queue⟩ := sendPlain_open found active receiving room frame
      exact ⟨delivery.trans sent, (sending.connection? id).trans queue⟩

/-- The hub whose raw endpoint works over the directory of the padded one, and the other way round. -/
def exchangeRaw (hub : Hub α) : Hub α :=
  { hub with desks := { hub.desks with raw := hub.desks.padRaw, padRaw := hub.desks.raw } }

/-- What becomes of a frame where pads do not apply: at the endpoint that has the same transport and
works over the same directory. -/
def bareMessage (hub : Hub α) (application : Application α) (endpoint : Endpoint)
    (id : ConnectionId) (frame : Frame) : MessageResult × Hub α :=
  match endpoint with
  | .padRaw =>
    let (result, hub) := hub.exchangeRaw.message application .raw id frame
    (result, hub.exchangeRaw)
  | .padWebsocket => hub.message application .secure id frame
  | endpoint => hub.message application endpoint id frame

/-- Without a pad, a padded endpoint dispatches what it gets and sends the reply as it is. -/
theorem message_of_none (permanent : hub.channels.pads.active.ttl = none)
    (application : Application α) {endpoint : Endpoint} (padded : endpoint.isPadded = true)
    {id : ConnectionId} {frame : Frame} (before : hub.padFor? id = none)
    (after : (hub.dispatchBytes application endpoint id frame.bytes).2.padFor? id = none) :
    hub.message application endpoint id frame =
      let dispatched := hub.dispatchBytes application endpoint id frame.bytes
      let sent := dispatched.2.sendPlain id (replyTo endpoint frame.isText dispatched.1)
      (⟨some dispatched.1, sent.1⟩, sent.2) := by
  have permanent' : (hub.dispatchBytes application endpoint id
      frame.bytes).2.channels.pads.active.ttl = none :=
    (hub.served_respond application frame.bytes (.socket endpoint id)).served.steady.active.trans
      permanent
  rw [message, if_pos padded, unmask_of_none permanent before]
  simp only [answerBytes, send, if_pos padded, mask_of_none permanent' after]

theorem message_bare (permanent : hub.channels.pads.active.ttl = none)
    (application : Application α) {endpoint : Endpoint} (padded : endpoint.isPadded = true)
    {id : ConnectionId} {frame : Frame} (before : hub.padFor? id = none)
    (after : (hub.dispatchBytes application endpoint id frame.bytes).2.padFor? id = none) :
    hub.message application endpoint id frame = hub.bareMessage application endpoint id frame := by
  rw [message_of_none permanent application padded before after]
  cases endpoint with
  | raw | websocket | secure => cases padded
  | padRaw => rfl
  | padWebsocket => rfl

/-- In every run, at both padded endpoints: a frame that is combined with the pad in use goes as the
bytes it stands for, and where no pad is in use before and after, the endpoint works as a bare one. -/
theorem pads_are_transparent (settings : HubSettings) (subscribers : List Subscriber) (mint : Mint)
    (entropy : Entropy) (own : α) (application : Application α) (actions : List Action)
    (endpoint : Endpoint) (padded : endpoint.isPadded = true) (id : ConnectionId) :
    let hub := (Hub.initial settings subscribers mint entropy own).run application actions
    (∀ pad plain cipher, hub.padFor? id = some pad → Pad.apply pad plain = .ok cipher →
      Answers id (hub.dispatchBytes application endpoint id plain)
        (hub.message application endpoint id (.binary cipher))) ∧
    ∀ frame, hub.padFor? id = none →
      (hub.dispatchBytes application endpoint id frame.bytes).2.padFor? id = none →
        hub.message application endpoint id frame =
          hub.bareMessage application endpoint id frame := by
  intro hub
  have permanent : hub.channels.pads.active.ttl = none :=
    channels_run (fun channels move => (Channels.ttl_active_perform channels move).trans)
      application rfl actions
  constructor
  · intro pad plain cipher inUse applied
    exact answers_message permanent application padded inUse applied
  · intro frame before after
    exact message_bare permanent application padded before after

namespace Rotation

/-- A connection whose pair has a pad of one byte. -/
def visitor : ConnectionId := ⟨1, 1⟩

/-- The pad in use before. -/
def former : Bytes := [0x5a]

def settings : HubSettings := ⟨16, 60, 30, none, 1⟩

/-- The visitor is connected and another pad waits for its acknowledgement. -/
def actions (pad : Bytes) : List Action :=
  [.move (.accept visitor ⟨⟨none, some "addr:1"⟩, false⟩ 4), .greet (.socket .padRaw visitor),
    .move (.usePad (.name "addr:1") former), .move (.stagePad (.name "addr:1") pad)]

def rotating (pad : Bytes) : Hub Unit :=
  (Hub.initial settings [⟨"pairs", .retirePairs⟩] .initial ⟨fun _ => 0, 0⟩ ()).run
    Lobby.application (actions pad)

/-- The acknowledgement that puts the waiting pad to use. -/
def acknowledgement : Bytes := utf8 "\x7b\"type\":\"OTP_NEW_KEY_ACK\",\"id\":2\x7d"

end Rotation

section

open Rotation

/-- The acknowledgement of a pad is answered under that pad. -/
theorem pads_are_transparent_at_rotation :
    Endpoint.padRaw.isPadded = true ∧
      (rotating [1]).padFor? visitor = some former ∧
      Pad.apply former acknowledgement = .ok (Pad.combine former former acknowledgement) ∧
      ((rotating [1]).dispatchBytes Lobby.application .padRaw visitor acknowledgement).2.padFor?
        visitor = some [1] ∧
      Answers visitor
        ((rotating [1]).dispatchBytes Lobby.application .padRaw visitor acknowledgement)
        ((rotating [1]).message Lobby.application .padRaw visitor
          (.binary (Pad.combine former former acknowledgement))) := by
  refine ⟨rfl, by decide +kernel, rfl, by decide +kernel, ?_⟩
  exact (pads_are_transparent settings [⟨"pairs", .retirePairs⟩] .initial ⟨fun _ => 0, 0⟩ ()
    Lobby.application (actions [1]) .padRaw rfl visitor).1 former acknowledgement _
      (by decide +kernel) rfl

/-- The acknowledgement of an empty pad gets no reply, although the connection is open and has room. -/
theorem reply_lost_at_rotation_to_empty_pad :
    let bare := (rotating []).dispatchBytes Lobby.application .padRaw visitor acknowledgement
    let masked := (rotating []).message Lobby.application .padRaw visitor
      (.binary (Pad.combine former former acknowledgement))
    (rotating []).padFor? visitor = some former ∧
      Pad.apply former acknowledgement = .ok (Pad.combine former former acknowledgement) ∧
      ∃ connection, bare.2.channels.connection? visitor = some connection ∧
        connection.active = true ∧ connection.receiving = true ∧ connection.hasRoom = true ∧
        ∀ frame, masked.2.channels.connection? visitor ≠ some (connection.enqueue frame) := by
  intro bare masked
  refine ⟨by decide +kernel, rfl, ⟨⟨⟨none, some "addr:1"⟩, false⟩, true, 4, [], true⟩,
    by decide +kernel, rfl, rfl, rfl, fun frame queued => ?_⟩
  have silent : masked.2.channels.connection? visitor =
      some ⟨⟨⟨none, some "addr:1"⟩, false⟩, true, 4, [], true⟩ := by decide +kernel
  rw [silent] at queued
  simp [Connection.enqueue] at queued

end

end Hub

end Gateway
