import Gateway.Proofs.Channels.Internal
import Gateway.Proofs.Channels.Liveness

/-! # Frames that wait on connections

Frames wait in the queue of one connection. Serving a message and closing connections leave every queue
as it is; a frame that is handed to a side of a pair goes to the end of the queue of the side's active
occupant, if it is taken at all. So a pad that is issued is at the end of one queue, that of the
encrypted side, and it is stored exactly if it is there.
-/

namespace Gateway.Channels

/-- The frames that wait on a connection, oldest first. -/
def queueOf (channels : Channels) (id : ConnectionId) : List Frame :=
  ((channels.connection? id).map Connection.queue).getD []

theorem queueOf_setConnection {channels : Channels} {id : ConnectionId} {before after : Connection}
    (found : channels.connection? id = some before) (other : ConnectionId) :
    (channels.setConnection id after).queueOf other =
      if other = id then after.queue else channels.queueOf other := by
  rw [connection?] at found
  simp only [queueOf, connection?, setConnection, Table.get?_modify]
  split_ifs with same
  · subst same
    rw [found, Option.map_some, Option.map_some, Option.getD_some]
  · rfl

/-- A frame that is sent goes to the end of the queue of its connection, or nowhere. -/
theorem queueOf_send (channels : Channels) (id : ConnectionId) (frame : Frame)
    (other : ConnectionId) :
    (channels.send id frame).2.queueOf other =
      if other = id ∧ (channels.send id frame).1 = .sent then channels.queueOf other ++ [frame]
      else channels.queueOf other := by
  rw [send]
  cases found : channels.connection? id with
  | none => simp only [reduceCtorEq, and_false, ↓reduceIte]
  | some connection =>
    have waiting : channels.queueOf id = connection.queue := by
      rw [queueOf, found, Option.map_some, Option.getD_some]
    simp only [queueOf_setConnection found, Connection.send]
    by_cases same : other = id
    · subst same
      split_ifs <;> simp_all [Connection.enqueue]
    · simp only [same, false_and, ↓reduceIte]

/-- What waits for room is the frame that was to be sent. -/
theorem eq_of_stalled {channels : Channels} {id : ConnectionId} {frame waiting : Frame}
    (stalled : (channels.send id frame).1 = .stalled waiting) : waiting = frame := by
  rw [send] at stalled
  cases found : channels.connection? id with
  | none =>
    rw [found] at stalled
    cases stalled
  | some connection =>
    simp only [found, Connection.send] at stalled
    split_ifs at stalled
    exact (Delivery.stalled.inj stalled).symm

theorem queueOf_offer (channels : Channels) (id : ConnectionId) (frame : Frame)
    (other : ConnectionId) :
    (channels.offer id frame).2.queueOf other =
      if other = id ∧ (channels.offer id frame).1.isOk = true then
        channels.queueOf other ++ [frame]
      else channels.queueOf other := by
  rw [offer]
  cases found : channels.connection? id with
  | none => simp only [Except.isOk, Except.toBool, Bool.false_eq_true, and_false, ↓reduceIte]
  | some connection =>
    have waiting : channels.queueOf id = connection.queue := by
      rw [queueOf, found, Option.map_some, Option.getD_some]
    simp only [queueOf_setConnection found, Connection.offer]
    by_cases same : other = id
    · subst same
      split_ifs <;> simp_all [Connection.enqueue, Except.isOk, Except.toBool]
    · simp only [same, false_and, ↓reduceIte]

/-- Taking a frame from a connection takes the oldest one, if one waits there. -/
theorem receive_eq (channels : Channels) (id : ConnectionId) :
    (channels.receive id).1 = (channels.queueOf id).head? ∧
      ∀ other, (channels.receive id).2.queueOf other =
        if other = id then (channels.queueOf id).tail else channels.queueOf other := by
  rw [receive]
  cases found : channels.connection? id with
  | none =>
    have nothing : channels.queueOf id = [] := by rw [queueOf, found]; rfl
    refine ⟨by rw [nothing]; rfl, fun other => ?_⟩
    split_ifs with same
    · rw [same, nothing]
      rfl
    · rfl
  | some connection =>
    have waiting : channels.queueOf id = connection.queue := by
      rw [queueOf, found, Option.map_some, Option.getD_some]
    simp only [queueOf_setConnection found, waiting, Connection.receive]
    cases waits : connection.queue with
    | nil => exact ⟨rfl, fun other => by simp only [waits]; rfl⟩
    | cons frame rest => exact ⟨rfl, fun other => rfl⟩

/-- A frame that is handed over goes to the end of the queue of the side's active occupant, or nowhere.
-/
theorem queueOf_handOver (channels : Channels) (key : Key) (side : Side) (frame : Frame)
    (other : ConnectionId) :
    (channels.handOver key side frame).2.queueOf other =
      if channels.liveOccupant? key side = some other ∧
        (channels.handOver key side frame).1 = true then channels.queueOf other ++ [frame]
      else channels.queueOf other := by
  rw [handOver]
  cases channels.liveOccupant? key side with
  | none => simp only [reduceCtorEq, false_and, ↓reduceIte]
  | some id =>
    have offered := queueOf_offer channels id frame other
    rcases sent : channels.offer id frame with ⟨error | _, after⟩ <;> rw [sent] at offered
    · simpa only [sent, Bool.false_eq_true, and_false, ↓reduceIte, Except.isOk, Except.toBool]
        using offered
    · simpa only [sent, and_true, Option.some.injEq, eq_comm, Except.isOk, Except.toBool]
        using offered

theorem liveOccupant?_of_taken {channels : Channels} {key : Key} {side : Side} {frame : Frame}
    (taken : (channels.handOver key side frame).1 = true) :
    ∃ id, channels.liveOccupant? key side = some id := by
  rw [handOver] at taken
  cases live : channels.liveOccupant? key side with
  | none =>
    rw [live] at taken
    cases taken
  | some id => exact ⟨id, rfl⟩

/-- Frames wait where they waited before. -/
def SameQueues (before after : Channels) : Prop := ∀ id, after.queueOf id = before.queueOf id

namespace SameQueues

theorem refl (channels : Channels) : SameQueues channels channels := fun _ => rfl

theorem trans {first second third : Channels} (one : SameQueues first second)
    (two : SameQueues second third) : SameQueues first third :=
  fun id => (two id).trans (one id)

theorem of_connections {before after : Channels}
    (connections : after.connections = before.connections) : SameQueues before after := by
  intro id
  rw [queueOf, queueOf, connection?, connection?, connections]

end SameQueues

theorem sameQueues_deactivate (channels : Channels) (id : ConnectionId) :
    SameQueues channels (channels.deactivate id) := by
  intro other
  rw [queueOf, queueOf, connection?_deactivate]
  split_ifs
  · rw [Option.map_map]
    rfl
  · rfl

theorem sameQueues_retire (channels : Channels) (key : Key) :
    SameQueues channels (channels.retire key) := .of_connections (connections_retire channels key)

theorem sameQueues_retireAll (keys : List Key) (channels : Channels) :
    SameQueues channels (keys.foldl retire channels) := by
  induction keys generalizing channels with
  | nil => exact .refl channels
  | cons key rest ih => exact (sameQueues_retire channels key).trans (ih (channels.retire key))

/-- A connection that closes keeps the frames that wait on it. -/
theorem sameQueues_work (channels : Channels) (agenda : List CloseTask) :
    SameQueues channels (channels.work agenda) := by
  have told : ∀ (channels : Channels) notices, SameQueues channels (channels.announce notices) :=
    fun _ _ => .of_connections rfl
  fun_induction work channels agenda with
  | case1 channels => exact .refl channels
  | case2 channels id rest _ ih => exact (sameQueues_deactivate channels id).trans ih
  | case3 channels id rest _ ih => exact ih
  | case4 channels subscriber id rest _ _ ih => exact (told channels _).trans ih
  | case5 channels subscriber id rest _ targets _ ih => exact (told channels _).trans ih
  | case6 channels subscriber id rest _ _ ih =>
    exact (told channels _).trans ((sameQueues_retireAll _ _).trans ih)

theorem sameQueues_join (channels : Channels) (key : Key) (side : Side) (id : ConnectionId) :
    SameQueues channels (channels.join key side id).2 := by
  have evicted : SameQueues channels (channels.afterEviction key side id) := by
    rw [afterEviction]
    split
    case h_1 => exact .of_connections rfl
    case h_2 start former evicts =>
      rw [eviction?_start evicts]
      exact (SameQueues.of_connections rfl).trans (sameQueues_work _ _)
  cases active : channels.isActive id with
  | true =>
    rw [join_of_active key side active]
    simp only
    split_ifs
    · exact evicted
    · exact evicted.trans (sameQueues_retire _ key)
  | false =>
    rw [join, if_neg (by simp [active])]
    exact .refl channels

/-- Services leave all queues alone. -/
theorem sameQueues_perform (channels : Channels) {move : Move} (served : move.isServed = true) :
    SameQueues channels (channels.perform move) := by
  cases move with
  | joinEncrypted key id =>
    rw [perform, joinEncrypted]
    split_ifs
    · exact sameQueues_join channels key .encrypted id
    · exact .refl channels
  | newPendingPad key =>
    simp only [perform, newPendingPad, generatePad, Pad.generate]
    split_ifs <;> exact .of_connections rfl
  | activatePad key => exact .of_connections rfl
  | _ => cases served

theorem ReachesBy.sameQueues {before after : Channels}
    (reaches : before.ReachesBy Move.isServed after) : SameQueues before after := by
  refine reaches.keeps (fun channels move served same => ?_) (.refl before)
  exact same.trans (sameQueues_perform channels served)

/-- Whether a move leaves the frames that wait on a connection alone, whatever it does elsewhere. -/
def Move.spares (id : ConnectionId) : Move → Bool
  | .send other _ | .offer other _ | .resume other _ | .take other | .dropReceiver other => other ≠ id
  | .sendPad _ _ | .sendClear _ _ | .issuePad _ _ => false
  | _ => true

theorem queueOf_of_absent {channels : Channels} {id : ConnectionId}
    (absent : channels.connection? id = none) : channels.queueOf id = [] := by
  rw [queueOf, absent]
  rfl

theorem queueOf_accept (channels : Channels) (id other : ConnectionId) (info : ConnectionInfo)
    (buffer : Nat) :
    (channels.perform (.accept id info buffer)).queueOf other = channels.queueOf other := by
  rw [perform]
  split_ifs with known
  · rfl
  · by_cases same : id = other
    · subst same
      rw [queueOf_of_absent (Option.not_isSome_iff_eq_none.mp known)]
      simp [queueOf, connection?, openConnection, Connection.opened]
    · simp [queueOf, connection?, openConnection, same]

theorem queueOf_resume (channels : Channels) {id other : ConnectionId} (differs : other ≠ id)
    (frame : Frame) :
    (channels.perform (.resume id frame)).queueOf other = channels.queueOf other := by
  rw [perform]
  cases found : channels.connection? id with
  | none => rfl
  | some connection => exact (queueOf_setConnection found other).trans (if_neg differs)

theorem queueOf_dropReceiver (channels : Channels) (id other : ConnectionId) :
    (channels.dropReceiver id).queueOf other =
      if other = id then [] else channels.queueOf other := by
  simp only [queueOf, connection?, dropReceiver, Table.get?_modify]
  split_ifs
  · cases channels.connections.get? other <;> rfl
  · rfl

theorem queueOf_perform_of_spares (channels : Channels) {id : ConnectionId} {move : Move}
    (spares : move.spares id = true) : (channels.perform move).queueOf id = channels.queueOf id := by
  cases move with
  | accept other info buffer => exact queueOf_accept channels other id info buffer
  | close other => exact sameQueues_work channels _ id
  | joinClear key other => exact sameQueues_join channels key .clear other id
  | joinEncrypted _ _ | newPendingPad _ | activatePad _ => exact sameQueues_perform channels rfl id
  | send other frame =>
    have differs : other ≠ id := of_decide_eq_true spares
    exact (queueOf_send channels other frame id).trans (if_neg fun same => differs same.1.symm)
  | offer other frame =>
    have differs : other ≠ id := of_decide_eq_true spares
    exact (queueOf_offer channels other frame id).trans (if_neg fun same => differs same.1.symm)
  | resume other frame =>
    have differs : other ≠ id := of_decide_eq_true spares
    exact queueOf_resume channels differs.symm frame
  | take other =>
    have differs : other ≠ id := of_decide_eq_true spares
    exact ((receive_eq channels other).2 id).trans (if_neg differs.symm)
  | dropReceiver other =>
    have differs : other ≠ id := of_decide_eq_true spares
    exact (queueOf_dropReceiver channels other id).trans (if_neg differs.symm)
  | sendPad _ _ | sendClear _ _ | issuePad _ _ => cases spares
  | subscribe _ | link _ _ | stagePad _ _ | usePad _ _ | revokePads _ | activePad _ | pendingPad _
  | sweepPads | tell _ _ | elapse _ => exact SameQueues.of_connections rfl id

/-- A connection that is there refuses a frame only if it is closed or nobody receives from it. -/
theorem shut_of_refused {channels : Channels} {id : ConnectionId} {frame : Frame} {error : SendError}
    (refused : (channels.send id frame).1 = .refused error) {connection : Connection}
    (found : (channels.send id frame).2.connection? id = some connection) :
    connection.active = false ∨ connection.receiving = false := by
  rw [send] at refused found
  cases there : channels.connection? id with
  | none =>
    rw [there] at found
    exact absurd (there.symm.trans found).symm (Option.some_ne_none _)
  | some former =>
    simp only [there, Connection.send] at refused found
    split_ifs at refused found with shut
    have same : former = connection := by
      simpa [connection?, setConnection, show channels.connections.get? id = some former from there]
        using found
    rw [← same]
    simpa using shut

theorem pads_offer (channels : Channels) (id : ConnectionId) (frame : Frame) :
    (channels.offer id frame).2.pads = channels.pads := by
  rw [offer]
  split <;> rfl

theorem pads_handOver (channels : Channels) (key : Key) (side : Side) (frame : Frame) :
    (channels.handOver key side frame).2.pads = channels.pads := by
  rw [handOver]
  cases channels.liveOccupant? key side with
  | none => rfl
  | some id =>
    have offered := pads_offer channels id frame
    rcases sent : channels.offer id frame with ⟨_ | _, after⟩ <;> rw [sent] at offered <;>
      simpa only [sent] using offered

theorem pads_sendPad (channels : Channels) (key : Key) (pad : Bytes) :
    (channels.sendPad key pad).2.pads = channels.pads := by
  rw [sendPad]
  split_ifs
  · rfl
  · exact pads_handOver channels key .encrypted (.binary pad)

/-- A pad that is sent goes to the end of the queue of the active encrypted side, or nowhere. -/
theorem sendPad_cases (channels : Channels) (key : Key) (pad : Bytes) :
    (∃ occupant, (channels.sendPad key pad).1 = .ok true ∧ pad ≠ [] ∧
      channels.liveOccupant? key .encrypted = some occupant ∧
      ∀ id, (channels.sendPad key pad).2.queueOf id =
        if id = occupant then channels.queueOf id ++ [.binary pad] else channels.queueOf id) ∨
    (channels.sendPad key pad).1 ≠ .ok true ∧
      SameQueues channels (channels.sendPad key pad).2 := by
  by_cases blank : pad.isEmpty = true
  · rw [sendPad, if_pos blank]
    exact .inr ⟨by simp, .refl channels⟩
  · have queues := queueOf_handOver channels key .encrypted (.binary pad)
    rw [sendPad, if_neg blank]
    rcases handed : channels.handOver key .encrypted (.binary pad) with ⟨_ | _, after⟩ <;>
      rw [handed] at queues
    · refine .inr ⟨by simp, fun id => ?_⟩
      simpa only [Bool.false_eq_true, and_false, ↓reduceIte] using queues id
    · obtain ⟨occupant, live⟩ := liveOccupant?_of_taken (congrArg Prod.fst handed)
      refine .inl ⟨occupant, rfl, fun none => blank (List.isEmpty_iff.mpr none), live, fun id => ?_⟩
      have queue := queues id
      rw [live] at queue
      simpa only [Option.some.injEq, and_true, eq_comm] using queue

/-- What issuing a pad comes to when the encrypted side takes it. -/
structure Issues (before : Channels) (key : Key) (requireAck : Bool) (pad : Bytes)
    (occupant : ConnectionId) (after : Channels) : Prop where
  made : before.generatePad.1 = .ok pad
  material : pad ≠ []
  live : before.liveOccupant? key .encrypted = some occupant
  queues : ∀ id, after.queueOf id =
    if id = occupant then before.queueOf id ++ [.binary pad] else before.queueOf id
  pads : after.pads = if requireAck then before.pads.stage before.now key pad
    else before.pads.install before.now key pad

/-- A pad is issued to the encrypted side of the pair, or it is as if none had been made. -/
theorem issuePad_cases (channels : Channels) (key : Key) (requireAck : Bool) :
    (∃ pad occupant, (channels.issuePad key requireAck).1 = .ok true ∧
      channels.Issues key requireAck pad occupant (channels.issuePad key requireAck).2) ∨
    (channels.issuePad key requireAck).1 ≠ .ok true ∧
      SameQueues channels (channels.issuePad key requireAck).2 ∧
      (channels.issuePad key requireAck).2.pads = channels.pads := by
  rw [issuePad]
  rcases made : channels.generatePad with ⟨error | pad, drawn⟩ <;>
    obtain rfl := congrArg Prod.snd made
  · exact .inr ⟨by simp, .of_connections rfl, rfl⟩
  · have pads := pads_sendPad channels.generatePad.2 key pad
    have now := (steady_sendPad channels.generatePad.2 key pad).now
    obtain ⟨occupant, sent, material, live, queues⟩ | ⟨unsent, queues⟩ :=
      sendPad_cases channels.generatePad.2 key pad
    · rcases pushed : channels.generatePad.2.sendPad key pad with ⟨result, after⟩
      rw [pushed] at pads now sent queues
      obtain rfl : result = .ok true := sent
      simp only [pushed]
      refine .inl ⟨pad, occupant, trivial, congrArg Prod.fst made, material, live, fun id => ?_, ?_⟩
      · refine Eq.trans ?_ (queues id)
        split_ifs <;> rfl
      · have stored : after.pads = channels.pads := pads
        have unchanged : after.now = channels.now := now
        split_ifs
        · simp only [noteHandedOut, stagePad, stored, unchanged]
        · simp only [noteHandedOut, usePad, stored, unchanged]
    · rcases pushed : channels.generatePad.2.sendPad key pad with ⟨error | _ | _, after⟩ <;>
        rw [pushed] at pads queues unsent <;> simp only [pushed]
      · exact .inr ⟨by simp, queues, pads⟩
      · exact .inr ⟨by simp, queues, pads⟩
      · exact absurd rfl unsent

end Gateway.Channels
