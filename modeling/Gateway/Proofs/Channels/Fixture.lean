import Gateway.Proofs.Channels.Liveness

/-! # What stays of a connection

From its arrival on a connection keeps what is known of it and how many frames may wait on it, and
someone receives its frames until the receiver is dropped. Whatever else happens to the channels only
touches its queue and whether it is active.
-/

namespace Gateway

/-- What stays of a connection until its receiver is dropped. -/
def Connection.fixture (connection : Connection) : ConnectionInfo × Nat × Bool :=
  (connection.info, connection.capacity, connection.receiving)

namespace Channels

/-- Every connection is what it was, but for its queue and its activity. -/
def SameFixtures (before after : Channels) : Prop :=
  ∀ id, (after.connection? id).map Connection.fixture =
    (before.connection? id).map Connection.fixture

namespace SameFixtures

theorem refl (channels : Channels) : SameFixtures channels channels := fun _ => rfl

theorem trans {first second third : Channels} (one : SameFixtures first second)
    (two : SameFixtures second third) : SameFixtures first third :=
  fun id => (two id).trans (one id)

theorem of_connections {before after : Channels}
    (connections : after.connections = before.connections) : SameFixtures before after := by
  intro id
  rw [connection?, connection?, connections]

theorem of_modify (channels : Channels) (id : ConnectionId) {change : Connection → Connection}
    (kept : ∀ connection, channels.connection? id = some connection →
      (change connection).fixture = connection.fixture) :
    SameFixtures channels
      { channels with connections := channels.connections.modify id change } := by
  intro other
  simp only [connection?, Table.get?_modify] at kept ⊢
  split_ifs with same
  · subst same
    cases found : channels.connections.get? other with
    | none => rfl
    | some connection => exact congrArg some (kept connection found)
  · rfl

theorem of_setConnection {channels : Channels} {id : ConnectionId} {before after : Connection}
    (found : channels.connection? id = some before) (kept : after.fixture = before.fixture) :
    SameFixtures channels (channels.setConnection id after) := by
  refine of_modify channels id fun connection found' => ?_
  obtain rfl := Option.some.inj (found.symm.trans found')
  exact kept

end SameFixtures

theorem sameFixtures_retire (channels : Channels) (key : Key) :
    SameFixtures channels (channels.retire key) :=
  .of_connections (connections_retire channels key)

theorem sameFixtures_retireAll (keys : List Key) (channels : Channels) :
    SameFixtures channels (keys.foldl retire channels) := by
  induction keys generalizing channels with
  | nil => exact .refl channels
  | cons key rest ih => exact (sameFixtures_retire channels key).trans (ih (channels.retire key))

theorem sameFixtures_work (channels : Channels) (agenda : List CloseTask) :
    SameFixtures channels (channels.work agenda) := by
  fun_induction work channels agenda with
  | case1 channels => exact .refl channels
  | case2 channels id rest _ ih =>
    have closed : SameFixtures channels (channels.deactivate id) :=
      .of_modify channels id fun _ _ => rfl
    exact closed.trans ih
  | case3 channels id rest _ ih => exact ih
  | case4 channels subscriber id rest told _ ih => exact ih
  | case5 channels subscriber id rest told targets _ ih => exact ih
  | case6 channels subscriber id rest told _ ih => exact (sameFixtures_retireAll _ told).trans ih

theorem sameFixtures_join (channels : Channels) (key : Key) (side : Side) (id : ConnectionId) :
    SameFixtures channels (channels.join key side id).2 := by
  have evicted : SameFixtures channels (channels.afterEviction key side id) := by
    rw [afterEviction]
    split
    case h_1 => exact .of_connections rfl
    case h_2 start former evicts =>
      rw [eviction?_start evicts]
      exact (SameFixtures.of_connections rfl).trans (sameFixtures_work _ _)
  rw [← closeFormer_seat] at evicted
  rw [join]
  split_ifs
  · simp only
    split_ifs
    · exact evicted
    · exact evicted.trans (sameFixtures_retire _ key)
  · exact .refl channels

theorem sameFixtures_send (channels : Channels) (id : ConnectionId) (frame : Frame) :
    SameFixtures channels (channels.send id frame).2 := by
  rw [send]
  cases found : channels.connection? id with
  | none => exact .refl channels
  | some connection =>
    refine .of_setConnection found ?_
    simp only [Connection.send]
    split_ifs <;> rfl

theorem sameFixtures_offer (channels : Channels) (id : ConnectionId) (frame : Frame) :
    SameFixtures channels (channels.offer id frame).2 := by
  rw [offer]
  cases found : channels.connection? id with
  | none => exact .refl channels
  | some connection =>
    refine .of_setConnection found ?_
    simp only [Connection.offer]
    split_ifs <;> rfl

theorem sameFixtures_resume (channels : Channels) (id : ConnectionId) (frame : Frame) :
    SameFixtures channels (channels.perform (.resume id frame)) := by
  rw [perform]
  cases found : channels.connection? id with
  | none => exact .refl channels
  | some connection =>
    refine .of_setConnection found ?_
    simp only [Connection.resume]
    split_ifs <;> rfl

theorem sameFixtures_take (channels : Channels) (id : ConnectionId) :
    SameFixtures channels (channels.receive id).2 := by
  rw [receive]
  cases found : channels.connection? id with
  | none => exact .refl channels
  | some connection =>
    refine .of_setConnection found ?_
    simp only [Connection.receive]
    split <;> rfl

theorem sameFixtures_handOver (channels : Channels) (key : Key) (side : Side) (frame : Frame) :
    SameFixtures channels (channels.handOver key side frame).2 := by
  rw [handOver]
  cases channels.liveOccupant? key side with
  | none => exact .refl channels
  | some id =>
    have offered := sameFixtures_offer channels id frame
    rcases sent : channels.offer id frame with ⟨_ | _, after⟩ <;> rw [sent] at offered <;>
      simpa only [sent] using offered

theorem sameFixtures_sendPad (channels : Channels) (key : Key) (pad : Bytes) :
    SameFixtures channels (channels.sendPad key pad).2 := by
  rw [sendPad]
  split_ifs
  · exact .refl channels
  · exact sameFixtures_handOver channels key .encrypted (.binary pad)

theorem sameFixtures_sendClear (channels : Channels) (key : Key) (frame : Frame) :
    SameFixtures channels (channels.sendClear key frame).2 := by
  rw [sendClear]
  split_ifs
  · exact .refl channels
  · exact sameFixtures_handOver channels key .clear frame

theorem sameFixtures_newPendingPad (channels : Channels) (key : Key) :
    SameFixtures channels (channels.newPendingPad key).2 := by
  simp only [newPendingPad, generatePad, Pad.generate]
  split_ifs <;> exact .of_connections rfl

theorem sameFixtures_issuePad (channels : Channels) (key : Key) (requireAck : Bool) :
    SameFixtures channels (channels.issuePad key requireAck).2 := by
  rw [issuePad]
  have drawing : SameFixtures channels channels.generatePad.2 := .of_connections rfl
  rcases made : channels.generatePad with ⟨_ | pad, drawn⟩ <;> rw [made] at drawing
  · exact drawing
  · have sending := drawing.trans (sameFixtures_sendPad drawn key pad)
    rcases sent : drawn.sendPad key pad with ⟨_ | _ | _, after⟩ <;> rw [sent] at sending <;>
      simp only [sent]
    · exact sending
    · exact sending
    · refine sending.trans ?_
      split_ifs <;> exact .of_connections rfl

/-- Whether a move leaves what stays of every connection: it brings none and drops no receiver. -/
def Move.isLasting : Move → Bool
  | .accept _ _ _ | .dropReceiver _ => false
  | _ => true

theorem sameFixtures_perform (channels : Channels) {move : Move} (lasting : move.isLasting = true) :
    SameFixtures channels (channels.perform move) := by
  cases move with
  | accept _ _ _ | dropReceiver _ => cases lasting
  | close id => exact sameFixtures_work channels _
  | joinClear key id => exact sameFixtures_join channels key .clear id
  | joinEncrypted key id =>
    rw [perform, joinEncrypted]
    split_ifs
    · exact sameFixtures_join channels key .encrypted id
    · exact .refl channels
  | send id frame => exact sameFixtures_send channels id frame
  | offer id frame => exact sameFixtures_offer channels id frame
  | resume id frame => exact sameFixtures_resume channels id frame
  | take id => exact sameFixtures_take channels id
  | sendPad key pad => exact sameFixtures_sendPad channels key pad
  | sendClear key frame => exact sameFixtures_sendClear channels key frame
  | newPendingPad key => exact sameFixtures_newPendingPad channels key
  | issuePad key requireAck => exact sameFixtures_issuePad channels key requireAck
  | subscribe _ | link _ _ | stagePad _ _ | usePad _ _ | activatePad _ | revokePads _
  | activePad _ | pendingPad _ | sweepPads | tell _ _ | elapse _ => exact .of_connections rfl

/-- Only the connection that arrives is another one than before, if it is. -/
theorem connection?_accept_of_ne (channels : Channels) {id other : ConnectionId}
    (differs : other ≠ id) (info : ConnectionInfo) (buffer : Nat) :
    (channels.perform (.accept id info buffer)).connection? other = channels.connection? other := by
  rw [perform]
  split_ifs
  · rfl
  · exact (Table.get?_insert ..).trans (if_neg (Ne.symm differs))

/-- A connection that arrives has room for a frame and someone who receives it. -/
theorem connection?_accept_self {channels : Channels} {id : ConnectionId}
    (absent : channels.connection? id = none) (info : ConnectionInfo) (buffer : Nat) :
    (channels.perform (.accept id info buffer)).connection? id = some (.opened info buffer) := by
  rw [perform, absent]
  exact (Table.get?_insert ..).trans (if_pos rfl)

/-- Only the connection whose receiver is dropped changes. -/
theorem connection?_dropReceiver (channels : Channels) (id other : ConnectionId) :
    (channels.dropReceiver id).connection? other =
      if other = id then (channels.connection? other).map Connection.dropReceiver
      else channels.connection? other := Table.get?_modify ..

/-- Every queue may hold a frame. -/
def Roomy (channels : Channels) : Prop :=
  ∀ id connection, channels.connection? id = some connection → 0 < connection.capacity

theorem Roomy.perform {channels : Channels} (roomy : channels.Roomy) (move : Move) :
    (channels.perform move).Roomy := by
  intro id connection found
  cases lasting : move.isLasting with
  | true =>
    have same := sameFixtures_perform channels lasting id
    rw [found, Option.map_some] at same
    obtain ⟨former, stored, fixture⟩ := Option.map_eq_some_iff.mp same.symm
    have capacity : former.capacity = connection.capacity := congrArg (fun parts => parts.2.1) fixture
    exact capacity ▸ roomy id former stored
  | false =>
    cases move with
    | accept other info buffer =>
      by_cases mine : id = other
      · subst mine
        cases known : channels.connection? id with
        | none =>
          rw [connection?_accept_self known] at found
          obtain rfl := Option.some.inj found
          exact Nat.lt_of_lt_of_le Nat.zero_lt_one (Nat.le_max_right buffer 1)
        | some former =>
          rw [Channels.perform, known] at found
          exact roomy id connection (known.trans (known.symm.trans found))
      · rw [connection?_accept_of_ne channels mine] at found
        exact roomy id connection found
    | dropReceiver other =>
      rw [Channels.perform, connection?_dropReceiver] at found
      split_ifs at found
      · obtain ⟨former, stored, rfl⟩ := Option.map_eq_some_iff.mp found
        exact roomy id former stored
      · exact roomy id connection found
    | _ => cases lasting

end Channels

end Gateway
