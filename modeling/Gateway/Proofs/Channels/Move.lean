import Gateway.Hub
import Gateway.Proofs.Channels.Closing

/-! # Moves of the channels

Everything that can happen to the channels between two closes: connections arrive and are closed,
pairs are joined, frames and pads are handed over, and time passes. A run is a list of moves. The
identifiers of connections are never used twice, so an arrival under a known identifier does nothing.
What a subscriber closes is a function of the connection it is told of, which is no restriction: it
is told of a connection once.

Three moves change pairs or close connections. The others are *quiet*: they leave all pairs alone,
take activity from nobody and tell nothing of pairs. Most of these are *tweaks*, which change nothing
but pads, entropy, time and the frames that wait on connections.
-/

namespace Gateway.Channels

/-- What can happen to the channels while nothing is closing. -/
inductive Move where
  /-- A connection arrives, under an identifier that was never used. -/
  | accept (id : ConnectionId) (info : ConnectionInfo) (buffer : Nat)
  | subscribe (subscriber : Subscriber)
  /-- From now on the closing of the first connection closes the other one. -/
  | link (first other : ConnectionId)
  | close (id : ConnectionId)
  | joinClear (key : Key) (id : ConnectionId)
  | joinEncrypted (key : Key) (id : ConnectionId)
  | send (id : ConnectionId) (frame : Frame)
  | offer (id : ConnectionId) (frame : Frame)
  /-- A frame that waited for room is queued if there is room now. -/
  | resume (id : ConnectionId) (frame : Frame)
  /-- The socket takes the oldest frame that waits. -/
  | take (id : ConnectionId)
  | dropReceiver (id : ConnectionId)
  | sendPad (key : Key) (pad : Bytes)
  | sendClear (key : Key) (frame : Frame)
  | stagePad (key : Key) (pad : Bytes)
  | usePad (key : Key) (pad : Bytes)
  | activatePad (key : Key)
  | revokePads (key : Key)
  /-- Someone looks at the pad in use. -/
  | activePad (key : Key)
  /-- Someone looks at the pad that waits. -/
  | pendingPad (key : Key)
  | newPendingPad (key : Key)
  | issuePad (key : Key) (requireAck : Bool)
  | sweepPads
  /-- A directory tells its listeners. -/
  | tell (desk : Desk) (notice : DirectoryNotice)
  | elapse (nanoseconds : Nat)

/-- The channels after a move. -/
def perform (channels : Channels) : Move → Channels
  | .accept id info buffer =>
    if (channels.connection? id).isSome then channels else channels.openConnection id info buffer
  | .subscribe subscriber => { channels with subscribers := channels.subscribers ++ [subscriber] }
  | .link first other => channels.linkClosing first other
  | .close id => (channels.close id).2
  | .joinClear key id => (channels.joinClear key id).2
  | .joinEncrypted key id => (channels.joinEncrypted key id).2
  | .send id frame => (channels.send id frame).2
  | .offer id frame => (channels.offer id frame).2
  | .resume id frame =>
    match channels.connection? id with
    | none => channels
    | some connection => channels.setConnection id (connection.resume frame).2
  | .take id => (channels.receive id).2
  | .dropReceiver id => channels.dropReceiver id
  | .sendPad key pad => (channels.sendPad key pad).2
  | .sendClear key frame => (channels.sendClear key frame).2
  | .stagePad key pad => channels.stagePad key pad
  | .usePad key pad => channels.usePad key pad
  | .activatePad key => (channels.activatePad key).2
  | .revokePads key => channels.revokePads key
  | .activePad key => (channels.activePad key).2
  | .pendingPad key => (channels.pendingPad key).2
  | .newPendingPad key => (channels.newPendingPad key).2
  | .issuePad key requireAck => (channels.issuePad key requireAck).2
  | .sweepPads => { channels with pads := channels.pads.sweep channels.now }
  | .tell desk notice => channels.announce [Hub.deskNotice desk notice]
  | .elapse nanoseconds => { channels with now := channels.now + nanoseconds }

/-- The channels after a list of moves. -/
def run (channels : Channels) (moves : List Move) : Channels := moves.foldl perform channels

theorem run_append (channels : Channels) (first second : List Move) :
    channels.run (first ++ second) = (channels.run first).run second := List.foldl_append

/-- How a state comes from another one when nothing changes but pads, entropy, time and the frames that
wait on connections. -/
structure Tweaks (before after : Channels) : Prop where
  subscribers : after.subscribers = before.subscribers
  pairs : after.pairs = before.pairs
  journal : after.journal = before.journal
  active : after.isActive = before.isActive
  known : ∀ id, (after.connection? id).map Connection.info = (before.connection? id).map Connection.info

namespace Tweaks

theorem refl (channels : Channels) : Tweaks channels channels := ⟨rfl, rfl, rfl, rfl, fun _ => rfl⟩

theorem trans {first second third : Channels} (one : Tweaks first second)
    (two : Tweaks second third) : Tweaks first third where
  subscribers := two.subscribers.trans one.subscribers
  pairs := two.pairs.trans one.pairs
  journal := two.journal.trans one.journal
  active := two.active.trans one.active
  known id := (two.known id).trans (one.known id)

theorem secure {before after : Channels} (tweaks : Tweaks before after) (id : ConnectionId) :
    after.isSecure id = before.isSecure id := by
  rw [isSecure_eq, isSecure_eq, tweaks.known]

theorem of_same {before after : Channels} (connections : after.connections = before.connections)
    (subscribers : after.subscribers = before.subscribers) (pairs : after.pairs = before.pairs)
    (journal : after.journal = before.journal) : Tweaks before after where
  subscribers := subscribers
  pairs := pairs
  journal := journal
  active := by
    funext id
    rw [isActive, isActive, connection?, connection?, connections]
  known id := by rw [connection?, connection?, connections]

theorem of_modify (channels : Channels) (id : ConnectionId) {change : Connection → Connection}
    (active : ∀ connection, channels.connection? id = some connection →
      (change connection).active = connection.active)
    (info : ∀ connection, channels.connection? id = some connection →
      (change connection).info = connection.info) :
    Tweaks channels { channels with connections := channels.connections.modify id change } where
  subscribers := rfl
  pairs := rfl
  journal := rfl
  active := by
    funext other
    simp only [isActive, connection?, Table.get?_modify] at active ⊢
    split_ifs with same
    · subst same
      cases found : channels.connections.get? other with
      | none => rfl
      | some connection => exact active connection found
    · rfl
  known other := by
    simp only [connection?, Table.get?_modify] at info ⊢
    split_ifs with same
    · subst same
      cases found : channels.connections.get? other with
      | none => rfl
      | some connection => exact congrArg some (info connection found)
    · rfl

theorem of_setConnection {channels : Channels} {id : ConnectionId} {before after : Connection}
    (found : channels.connection? id = some before) (active : after.active = before.active)
    (info : after.info = before.info) : Tweaks channels (channels.setConnection id after) := by
  apply of_modify
  · intro connection found'
    obtain rfl := Option.some.inj (found.symm.trans found')
    exact active
  · intro connection found'
    obtain rfl := Option.some.inj (found.symm.trans found')
    exact info

end Tweaks

theorem tweaks_send (channels : Channels) (id : ConnectionId) (frame : Frame) :
    Tweaks channels (channels.send id frame).2 := by
  rw [send]
  cases found : channels.connection? id with
  | none => exact .refl channels
  | some connection =>
    refine .of_setConnection found ?_ ?_ <;> simp only [Connection.send] <;> split_ifs <;> rfl

theorem tweaks_offer (channels : Channels) (id : ConnectionId) (frame : Frame) :
    Tweaks channels (channels.offer id frame).2 := by
  rw [offer]
  cases found : channels.connection? id with
  | none => exact .refl channels
  | some connection =>
    refine .of_setConnection found ?_ ?_ <;> simp only [Connection.offer] <;> split_ifs <;> rfl

theorem tweaks_resume (channels : Channels) (id : ConnectionId) (frame : Frame) :
    Tweaks channels (channels.perform (.resume id frame)) := by
  rw [perform]
  cases found : channels.connection? id with
  | none => exact .refl channels
  | some connection =>
    refine .of_setConnection found ?_ ?_ <;> simp only [Connection.resume] <;> split_ifs <;> rfl

theorem tweaks_take (channels : Channels) (id : ConnectionId) :
    Tweaks channels (channels.receive id).2 := by
  rw [receive]
  cases found : channels.connection? id with
  | none => exact .refl channels
  | some connection =>
    refine .of_setConnection found ?_ ?_ <;> simp only [Connection.receive] <;> split <;> rfl

theorem tweaks_handOver (channels : Channels) (key : Key) (side : Side) (frame : Frame) :
    Tweaks channels (channels.handOver key side frame).2 := by
  rw [handOver]
  cases channels.liveOccupant? key side with
  | none => exact .refl channels
  | some id =>
    have offered := tweaks_offer channels id frame
    rcases sent : channels.offer id frame with ⟨_ | _, after⟩ <;> rw [sent] at offered <;>
      simpa only [sent] using offered

theorem tweaks_sendPad (channels : Channels) (key : Key) (pad : Bytes) :
    Tweaks channels (channels.sendPad key pad).2 := by
  rw [sendPad]
  split_ifs
  · exact .refl channels
  · exact tweaks_handOver channels key .encrypted (.binary pad)

theorem tweaks_sendClear (channels : Channels) (key : Key) (frame : Frame) :
    Tweaks channels (channels.sendClear key frame).2 := by
  rw [sendClear]
  split_ifs
  · exact .refl channels
  · exact tweaks_handOver channels key .clear frame

theorem tweaks_newPendingPad (channels : Channels) (key : Key) :
    Tweaks channels (channels.newPendingPad key).2 := by
  simp only [newPendingPad, generatePad, Pad.generate]
  split_ifs <;> exact .of_same rfl rfl rfl rfl

theorem tweaks_generatePad (channels : Channels) : Tweaks channels channels.generatePad.2 :=
  .of_same rfl rfl rfl rfl

theorem tweaks_issuePad (channels : Channels) (key : Key) (requireAck : Bool) :
    Tweaks channels (channels.issuePad key requireAck).2 := by
  rw [issuePad]
  have drawing := tweaks_generatePad channels
  rcases made : channels.generatePad with ⟨_ | pad, drawn⟩ <;> rw [made] at drawing
  · exact drawing
  · have sending := drawing.trans (tweaks_sendPad drawn key pad)
    rcases sent : drawn.sendPad key pad with ⟨_ | _ | _, after⟩ <;> rw [sent] at sending <;>
      simp only [sent]
    · exact sending
    · exact sending
    · refine sending.trans ?_
      split_ifs <;> exact .of_same rfl rfl rfl rfl

/-- Whether a move is a tweak. -/
def Move.isTweak : Move → Bool
  | .accept _ _ _ | .subscribe _ | .link _ _ | .tell _ _ => false
  | .close _ | .joinClear _ _ | .joinEncrypted _ _ => false
  | _ => true

theorem tweaks_perform (channels : Channels) {move : Move} (tweak : move.isTweak = true) :
    Tweaks channels (channels.perform move) := by
  cases move with
  | send id frame => exact tweaks_send channels id frame
  | offer id frame => exact tweaks_offer channels id frame
  | resume id frame => exact tweaks_resume channels id frame
  | take id => exact tweaks_take channels id
  | dropReceiver id => exact .of_modify channels id (fun _ _ => rfl) (fun _ _ => rfl)
  | sendPad key pad => exact tweaks_sendPad channels key pad
  | sendClear key frame => exact tweaks_sendClear channels key frame
  | newPendingPad key => exact tweaks_newPendingPad channels key
  | issuePad key requireAck => exact tweaks_issuePad channels key requireAck
  | stagePad _ _ | usePad _ _ | activatePad _ | revokePads _ | activePad _ | pendingPad _
  | sweepPads | elapse _ => exact .of_same rfl rfl rfl rfl
  | accept _ _ _ | subscribe _ | link _ _ | tell _ _ | close _ | joinClear _ _ | joinEncrypted _ _ =>
    cases tweak

/-- How a state comes from another one by moves that are no business of the pairs. -/
structure Quiet (before after : Channels) : Prop where
  pairs : after.pairs = before.pairs
  watched : before.WatchesPairs → after.WatchesPairs
  active : ∀ id, before.isActive id = true → after.isActive id = true
  secure : ∀ id, before.isSecure id = true → after.isSecure id = true
  untold : ∃ told, after.journal = before.journal ++ told ∧ ∀ key, told.count (.pairRemoved key) = 0

/-- A journal without a new entry tells of no pair. -/
theorem untold_refl (journal : List Notice) :
    ∃ told, journal = journal ++ told ∧ ∀ key, told.count (.pairRemoved key) = 0 :=
  ⟨[], (List.append_nil journal).symm, fun _ => rfl⟩

namespace Quiet

theorem refl (channels : Channels) : Quiet channels channels where
  pairs := rfl
  watched watched := watched
  active _ active := active
  secure _ secure := secure
  untold := untold_refl channels.journal

/-- Tweaks are no business of the pairs. -/
theorem of_tweaks {before after : Channels} (tweaks : Tweaks before after) : Quiet before after where
  pairs := tweaks.pairs
  watched watched := by rwa [WatchesPairs, tweaks.subscribers]
  active id active := by rwa [tweaks.active]
  secure id secure := by rwa [tweaks.secure]
  untold := by
    rw [tweaks.journal]
    exact untold_refl before.journal

end Quiet

theorem quiet_accept (channels : Channels) (id : ConnectionId) (info : ConnectionInfo)
    (buffer : Nat) : Quiet channels (channels.perform (.accept id info buffer)) := by
  simp only [perform]
  split_ifs with known
  · exact .refl channels
  · have distinct : ∀ {other} {accepts : Connection → Bool},
        (channels.connection? other).any accepts = true → id ≠ other := by
      rintro other accepts held rfl
      cases found : channels.connection? id with
      | none => simp [found] at held
      | some connection => simp [found] at known
    constructor
    case pairs => rfl
    case watched => exact fun watched => watched
    case active =>
      intro other held
      have other_ne := distinct held
      simpa [isActive, connection?, openConnection, other_ne] using held
    case secure =>
      intro other held
      have other_ne := distinct held
      simpa [isSecure, connection?, openConnection, other_ne] using held
    case untold => exact untold_refl channels.journal

theorem quiet_link (channels : Channels) (first other : ConnectionId) :
    Quiet channels (channels.linkClosing first other) where
  pairs := rfl
  watched := by
    rintro ⟨subscriber, member, looks⟩
    refine ⟨subscriber, ?_, looks⟩
    refine List.mem_map.mpr ⟨subscriber, member, ?_⟩
    simp only [looks]
  active _ active := active
  secure _ secure := secure
  untold := untold_refl channels.journal

theorem quiet_subscribe (channels : Channels) (subscriber : Subscriber) :
    Quiet channels (channels.perform (.subscribe subscriber)) where
  pairs := rfl
  watched := by
    rintro ⟨watcher, member, looks⟩
    exact ⟨watcher, List.mem_append_left _ member, looks⟩
  active _ active := active
  secure _ secure := secure
  untold := untold_refl channels.journal

theorem quiet_tell (channels : Channels) (desk : Desk) (notice : DirectoryNotice) :
    Quiet channels (channels.perform (.tell desk notice)) where
  pairs := rfl
  watched watched := watched
  active _ active := active
  secure _ secure := secure
  untold := by
    refine ⟨[Hub.deskNotice desk notice], rfl, ?_⟩
    intro key
    cases notice <;> simp [Hub.deskNotice]

/-- Whether a move leaves pairs and the activity of connections alone. -/
def Move.isQuiet : Move → Bool
  | .close _ | .joinClear _ _ | .joinEncrypted _ _ => false
  | _ => true

theorem quiet_perform (channels : Channels) {move : Move} (quiet : move.isQuiet = true) :
    Quiet channels (channels.perform move) := by
  cases move with
  | accept id info buffer => exact quiet_accept channels id info buffer
  | subscribe subscriber => exact quiet_subscribe channels subscriber
  | link first other => exact quiet_link channels first other
  | tell desk notice => exact quiet_tell channels desk notice
  | close _ | joinClear _ _ | joinEncrypted _ _ => cases quiet
  | _ => exact .of_tweaks (tweaks_perform channels rfl)

end Gateway.Channels
