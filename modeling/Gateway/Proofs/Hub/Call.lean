import Gateway.Hub.Caller
import Gateway.Proofs.Channels.Internal
import Gateway.Proofs.Pad.Exchange

/-! # Calls of the services

A frame that arrives is read, its bytes are dispatched, and the caller is sent the response. Services
are asked at most once on the way: a *call* is the envelope that they are asked about, together with
the floor and the shared desk as they find them. Before and after a call the gateway only looks at
pads and sends frames.
-/

namespace Gateway

/-- What the services are asked, and where they are asked it. -/
structure Hub.Call (α : Type) where
  shared : SocketDirectory
  envelope : Envelope
  floor : Floor α

namespace Hub

variable {α : Type}

namespace Call

variable (application : Application α) (call : Call α)

/-- What the services make of a call. -/
def served : Response × Floor α :=
  (application.pipeline (resolve call.shared)).serve call.envelope call.floor

/-- The pair and the connection that a call asks a pad for. -/
def requested? : Option (Key × ConnectionId) :=
  application.requested? (resolve call.shared) call.envelope

/-- The channels after a call. -/
theorem channels_served :
    (call.served application).2.channels =
      match call.requested? application, application.confirmed? call.envelope with
      | some (key, id), _ => (call.floor.channels.grantPad key id).2
      | none, some key => (call.floor.channels.activatePad key).2
      | none, none => call.floor.channels :=
  application.channels_serve (resolve call.shared) call.envelope call.floor

theorem reaches_grantPad (channels : Channels) (key : Key) (id : ConnectionId) :
    channels.ReachesBy Channels.Move.isServed (channels.grantPad key id).2 := by
  have joining : channels.ReachesBy Channels.Move.isServed (channels.joinEncrypted key id).2 :=
    .move channels (.joinEncrypted key id) rfl
  rcases joined : channels.joinEncrypted key id with ⟨error | _, seated⟩ <;> rw [joined] at joining
  · rwa [Channels.grantPad_of_refused joined]
  · rw [Channels.grantPad_of_seated joined]
    exact joining.trans (.move seated (.newPendingPad key) rfl)

theorem reaches_served :
    call.floor.channels.ReachesBy Channels.Move.isServed (call.served application).2.channels := by
  rw [channels_served]
  split
  · exact reaches_grantPad call.floor.channels _ _
  · exact .move call.floor.channels (.activatePad _) rfl
  · exact .refl call.floor.channels

end Call

/-- What handlers work on. -/
def floor (hub : Hub α) : Floor α := ⟨hub.channels, hub.own⟩

/-- The response to bytes from a caller. -/
def respond (hub : Hub α) (application : Application α) (bytes : Bytes) :
    Caller → Response × Hub α
  | .socket endpoint id => hub.dispatchBytes application endpoint id bytes
  | .web session => hub.messageWeb application session bytes
  | .inProcess session handle addresses =>
    hub.messageInProcess application session handle addresses bytes

/-- The call that bytes from a caller lead to, if they lead to one. -/
def call? (hub : Hub α) (application : Application α) (bytes : Bytes) : Caller → Option (Call α)
  | .socket endpoint id =>
    ((hub.socketDispatcher application endpoint).call? hub.now id id
      (hub.channels.info id).addresses bytes
      ⟨hub.desks.get endpoint.desk, hub.commons, hub.floor⟩).map fun (directory, envelope) =>
        ⟨if endpoint.desk = .shared then directory else hub.desks.shared, envelope, hub.floor⟩
  | .web session =>
    ((hub.webDispatcher application).call? hub.now session.id session session.addresses bytes
      ⟨hub.web, hub.commons, hub.floor⟩).map fun (_, envelope) =>
        ⟨hub.desks.shared, envelope, hub.floor⟩
  | .inProcess session handle addresses =>
    ((hub.inProcessDispatcher application).call? hub.now session handle addresses bytes
      ⟨hub.inProcess, hub.commons, hub.floor⟩).map fun (_, envelope) =>
        ⟨hub.desks.shared, envelope, hub.floor⟩

section

variable {hub : Hub α} {application : Application α} {bytes : Bytes} {caller : Caller}

/-- A call is made on the floor of the hub. -/
theorem floor_of_call {call : Call α} (called : hub.call? application bytes caller = some call) :
    call.floor = hub.floor := by
  cases caller <;> obtain ⟨_, -, rfl⟩ := Option.map_eq_some_iff.mp called <;> rfl

/-- The response to bytes that lead to a call is what the services answer. -/
theorem respond_of_call {call : Call α} (called : hub.call? application bytes caller = some call) :
    (hub.respond application bytes caller).1.isSuccess = (call.served application).1.isSuccess ∧
      (hub.respond application bytes caller).2.channels = (call.served application).2.channels := by
  cases caller <;>
    · obtain ⟨⟨directory, envelope⟩, accepted, rfl⟩ := Option.map_eq_some_iff.mp called
      have answered := Dispatcher.answered_of_call accepted
      exact ⟨congrArg (fun answer => answer.1.isSuccess) answered,
        congrArg (fun answer => answer.2.channels) answered⟩

/-- Other bytes are answered with a failure and change nothing of the channels. -/
theorem respond_of_uncalled (uncalled : hub.call? application bytes caller = none) :
    (hub.respond application bytes caller).1.isSuccess = false ∧
      (hub.respond application bytes caller).2.channels = hub.channels := by
  cases caller <;>
    · obtain ⟨response, -, failed, answered⟩ :=
        Dispatcher.answered_of_uncalled (Option.map_eq_none_iff.mp uncalled)
      exact ⟨(congrArg (fun answer => answer.1.isSuccess) answered).trans failed,
        congrArg (fun answer => answer.2.channels) answered⟩

/-- Whatever dispatching does to the channels, services do. -/
theorem served_respond (hub : Hub α) (application : Application α) (bytes : Bytes)
    (caller : Caller) :
    hub.channels.ReachesBy Channels.Move.isServed
      (hub.respond application bytes caller).2.channels := by
  cases called : hub.call? application bytes caller with
  | none =>
    rw [(respond_of_uncalled called).2]
    exact .refl hub.channels
  | some call =>
    have serving := call.reaches_served application
    rwa [floor_of_call called, ← (respond_of_call called).2] at serving

end

/-- Directories and mint are as they were. -/
structure Undisturbed (before after : Hub α) : Prop where
  desks : after.desks = before.desks
  web : after.web = before.web
  inProcess : after.inProcess = before.inProcess
  mint : after.commons.mint = before.commons.mint

namespace Undisturbed

theorem refl (hub : Hub α) : Undisturbed hub hub := ⟨rfl, rfl, rfl, rfl⟩

theorem trans {first second third : Hub α} (one : Undisturbed first second)
    (two : Undisturbed second third) : Undisturbed first third where
  desks := two.desks.trans one.desks
  web := two.web.trans one.web
  inProcess := two.inProcess.trans one.inProcess
  mint := two.mint.trans one.mint

end Undisturbed

/-- Nothing is done but looking at pads, counting and sending frames. -/
structure Replies (before after : Hub α) : Prop where
  channels : before.channels.ReachesBy Channels.Move.isReply after.channels
  undisturbed : Undisturbed before after

namespace Replies

theorem refl (hub : Hub α) : Replies hub hub := ⟨.refl hub.channels, .refl hub⟩

theorem trans {first second third : Hub α} (one : Replies first second)
    (two : Replies second third) : Replies first third :=
  ⟨one.channels.trans two.channels, one.undisturbed.trans two.undisturbed⟩

theorem count {before after : Hub α} (replies : Replies before after) (name : String) :
    Replies before (after.count name) :=
  ⟨replies.channels, replies.undisturbed.trans ⟨rfl, rfl, rfl, rfl⟩⟩

end Replies

theorem replies_padOf (hub : Hub α) (id : ConnectionId) : Replies hub (hub.padOf id).2 := by
  rw [padOf]
  cases hub.pairKey? id with
  | none => exact .refl hub
  | some key => exact ⟨.move hub.channels (.activePad key) rfl, ⟨rfl, rfl, rfl, rfl⟩⟩

theorem replies_unmask (hub : Hub α) (id : ConnectionId) (frame : Frame) :
    Replies hub (hub.unmask id frame).2 := by
  have looking := hub.replies_padOf id
  rw [unmask]
  rcases found : hub.padOf id with ⟨_ | pad, after⟩ <;> rw [found] at looking
  · exact looking
  · exact looking.count unmaskCounter

theorem replies_mask (hub : Hub α) (id : ConnectionId) (frame : Frame) :
    Replies hub (hub.mask id frame).2 := by
  have looking := hub.replies_padOf id
  rw [mask]
  rcases found : hub.padOf id with ⟨_ | pad, after⟩ <;> rw [found] at looking
  · exact looking
  · simp only
    cases Pad.apply pad frame.bytes <;> exact looking.count maskCounter

theorem replies_sendPlain (hub : Hub α) (id : ConnectionId) (frame : Frame) :
    Replies hub (hub.sendPlain id frame).2 :=
  ⟨.move hub.channels (.send id frame) rfl, ⟨rfl, rfl, rfl, rfl⟩⟩

theorem replies_send (hub : Hub α) (endpoint : Endpoint) (id : ConnectionId) (frame : Frame) :
    Replies hub (hub.send endpoint id frame).2 := by
  rw [send]
  split_ifs with padded
  · have masking := hub.replies_mask id frame
    rcases masked : hub.mask id frame with ⟨error | frame, after⟩ <;> rw [masked] at masking
    · exact masking
    · exact masking.trans (after.replies_sendPlain id frame)
  · exact hub.replies_sendPlain id frame

/-- The bytes that a frame from a caller stands for, unless its pad is unfit. -/
def read (hub : Hub α) (frame : Frame) : Caller → Option Bytes × Hub α
  | .socket endpoint id =>
    if endpoint.isPadded then
      match hub.unmask id frame with
      | (.ok bytes, hub) => (some bytes, hub)
      | (.error _, hub) => (none, hub)
    else (some frame.bytes, hub)
  | .web _ => (some frame.bytes, hub)
  | .inProcess _ _ _ => (some frame.bytes, hub)

theorem replies_read (hub : Hub α) (frame : Frame) (caller : Caller) :
    Replies hub (hub.read frame caller).2 := by
  cases caller with
  | socket endpoint id =>
    rw [read]
    split_ifs
    · have unmasking := hub.replies_unmask id frame
      rcases unmasked : hub.unmask id frame with ⟨error | bytes, after⟩ <;>
        rw [unmasked] at unmasking <;> exact unmasking
    · exact .refl hub
  | web session => exact .refl hub
  | inProcess session handle addresses => exact .refl hub

section

variable {hub after : Hub α} {frame : Frame}

/-- A frame that is read is answered as the bytes that it stands for. -/
theorem message_of_read {endpoint : Endpoint} {id : ConnectionId} {bytes : Bytes}
    (read : hub.read frame (.socket endpoint id) = (some bytes, after))
    (application : Application α) :
    hub.message application endpoint id frame =
      after.answerBytes application endpoint id frame.isText bytes := by
  rw [message]
  simp only [Hub.read] at read
  split_ifs at read ⊢
  · rcases unmasked : hub.unmask id frame with ⟨error | plain, arrived⟩ <;>
      simp only [unmasked, Prod.mk.injEq, reduceCtorEq, false_and, Option.some.injEq] at read
    obtain ⟨rfl, rfl⟩ := read
    rfl
  · obtain ⟨rfl, rfl⟩ := read
    rfl

/-- A frame that is read is dispatched, and all that follows is the reply. -/
theorem receive_of_read {caller : Caller} {bytes : Bytes}
    (read : hub.read frame caller = (some bytes, after)) (application : Application α) :
    (hub.receive application frame caller).1.response =
        some (after.respond application bytes caller).1 ∧
      Replies (after.respond application bytes caller).2
        (hub.receive application frame caller).2 := by
  cases caller with
  | socket endpoint id =>
    rw [receive, message_of_read read]
    exact ⟨rfl, replies_send _ endpoint id _⟩
  | web session =>
    obtain ⟨rfl, rfl⟩ := read
    exact ⟨rfl, .refl _⟩
  | inProcess session handle addresses =>
    obtain ⟨rfl, rfl⟩ := read
    exact ⟨rfl, .refl _⟩

/-- A frame that cannot be read is answered with an error, and that is all. -/
theorem receive_of_unread {caller : Caller} (unread : hub.read frame caller = (none, after))
    (application : Application α) :
    (hub.receive application frame caller).1.response = none ∧
      Replies hub (hub.receive application frame caller).2 := by
  cases caller with
  | socket endpoint id =>
    have unmasking := hub.replies_unmask id frame
    simp only [receive, message]
    simp only [Hub.read] at unread
    split_ifs at unread ⊢
    · rcases unmasked : hub.unmask id frame with ⟨error | plain, arrived⟩ <;>
        simp only [unmasked, Prod.mk.injEq, reduceCtorEq, false_and] at unread unmasking
      exact ⟨rfl, unmasking.trans (arrived.replies_send endpoint id _)⟩
    · cases unread
  | web session => cases unread
  | inProcess session handle addresses => cases unread

end

end Hub

end Gateway
