import Gateway.Proofs.Channels.Move

/-! # What the gateway does by itself

While the gateway serves someone it makes only *internal* moves: no time passes, nobody arrives, and no
socket is touched. Such moves leave the clock, the subscribers, the size of pads and every time to live
as they are; no other move changes the times to live either. Without asking a service the gateway only
makes *routine* moves, and all that it does around a service is to look at a pad and to send a frame.
-/

namespace Gateway.Channels

/-- Whether a move is one that the gateway makes while it serves someone. -/
def Move.isInternal : Move → Bool
  | .accept _ _ _ | .subscribe _ | .link _ _ | .resume _ _ | .take _ | .dropReceiver _ | .elapse _ =>
    false
  | _ => true

/-- Whether a move is one that the gateway makes without asking a service. -/
def Move.isRoutine : Move → Bool
  | .joinClear _ _ | .send _ _ | .activePad _ | .tell _ _ => true
  | _ => false

/-- Whether a move is one that the gateway makes before and after it asks a service. -/
def Move.isReply : Move → Bool
  | .send _ _ | .activePad _ => true
  | _ => false

/-- Whether a move is one that a service makes. -/
def Move.isServed : Move → Bool
  | .joinEncrypted _ _ | .newPendingPad _ | .activatePad _ => true
  | _ => false

theorem Move.isRoutine_of_isReply {move : Move} (reply : move.isReply = true) :
    move.isRoutine = true := by
  cases move <;> first | rfl | cases reply

theorem Move.isInternal_of_isRoutine {move : Move} (routine : move.isRoutine = true) :
    move.isInternal = true := by
  cases move <;> first | rfl | cases routine

theorem Move.isInternal_of_isServed {move : Move} (served : move.isServed = true) :
    move.isInternal = true := by
  cases move <;> first | rfl | cases served

/-- What stays as it is while the gateway serves someone. -/
structure Steady (before after : Channels) : Prop where
  now : after.now = before.now
  subscribers : after.subscribers = before.subscribers
  padSize : after.padSize = before.padSize
  pairs : after.pairs.ttl = before.pairs.ttl
  active : after.pads.active.ttl = before.pads.active.ttl
  pending : after.pads.pending.ttl = before.pads.pending.ttl

namespace Steady

theorem refl (channels : Channels) : Steady channels channels := ⟨rfl, rfl, rfl, rfl, rfl, rfl⟩

theorem trans {first second third : Channels} (one : Steady first second)
    (two : Steady second third) : Steady first third where
  now := two.now.trans one.now
  subscribers := two.subscribers.trans one.subscribers
  padSize := two.padSize.trans one.padSize
  pairs := two.pairs.trans one.pairs
  active := two.active.trans one.active
  pending := two.pending.trans one.pending

end Steady

theorem steady_retire (channels : Channels) (key : Key) : Steady channels (channels.retire key) := by
  obtain ⟨pair, -, -, retired⟩ | ⟨-, same⟩ := retire_cases channels key
  · rw [retired]
    exact ⟨rfl, rfl, rfl, rfl, Registry.ttl_remove .., Registry.ttl_remove ..⟩
  · rw [same]
    exact .refl channels

theorem steady_retireAll (keys : List Key) (channels : Channels) :
    Steady channels (keys.foldl retire channels) := by
  induction keys generalizing channels with
  | nil => exact .refl channels
  | cons key rest ih => exact (steady_retire channels key).trans (ih (channels.retire key))

theorem steady_work (channels : Channels) (agenda : List CloseTask) :
    Steady channels (channels.work agenda) := by
  have told : ∀ (channels : Channels) notices, Steady channels (channels.announce notices) :=
    fun _ _ => ⟨rfl, rfl, rfl, rfl, rfl, rfl⟩
  fun_induction work channels agenda with
  | case1 channels => exact .refl channels
  | case2 channels id rest _ ih =>
    have closed : Steady channels (channels.deactivate id) := ⟨rfl, rfl, rfl, rfl, rfl, rfl⟩
    exact closed.trans ih
  | case3 channels id rest _ ih => exact ih
  | case4 channels subscriber id rest _ _ ih => exact (told channels _).trans ih
  | case5 channels subscriber id rest _ targets _ ih => exact (told channels _).trans ih
  | case6 channels subscriber id rest _ _ ih =>
    exact (told channels _).trans ((steady_retireAll _ _).trans ih)

theorem steady_closeFormer (channels : Channels) (former : Option ConnectionId) (id : ConnectionId) :
    Steady channels (channels.closeFormer former id) := by
  cases former with
  | none => exact .refl channels
  | some former =>
    simp only [closeFormer]
    split_ifs
    · exact steady_work channels [.close former]
    · exact .refl channels

theorem steady_join (channels : Channels) (key : Key) (side : Side) (id : ConnectionId) :
    Steady channels (channels.join key side id).2 := by
  rw [join]
  split_ifs
  · have seated : ∀ pairs : Registry Key Pair, pairs.ttl = channels.pairs.ttl →
        Steady channels { channels with pairs := pairs } := fun _ ttl => ⟨rfl, rfl, rfl, ttl, rfl, rfl⟩
    have settled := (seated _ (Registry.ttl_amend channels.pairs channels.now key Pair.empty
      fun pair => (pair.occupant side, pair.occupy side id))).trans (steady_closeFormer _
        (channels.pairs.amend channels.now key Pair.empty fun pair =>
          (pair.occupant side, pair.occupy side id)).result id)
    simp only
    split_ifs
    · exact settled
    · exact settled.trans (steady_retire _ key)
  · exact .refl channels

theorem steady_offer (channels : Channels) (id : ConnectionId) (frame : Frame) :
    Steady channels (channels.offer id frame).2 := by
  rw [offer]
  split <;> exact ⟨rfl, rfl, rfl, rfl, rfl, rfl⟩

theorem steady_handOver (channels : Channels) (key : Key) (side : Side) (frame : Frame) :
    Steady channels (channels.handOver key side frame).2 := by
  rw [handOver]
  cases channels.liveOccupant? key side with
  | none => exact .refl channels
  | some id =>
    have offered := steady_offer channels id frame
    rcases sent : channels.offer id frame with ⟨_ | _, after⟩ <;> rw [sent] at offered <;>
      simpa only [sent] using offered

theorem steady_sendPad (channels : Channels) (key : Key) (pad : Bytes) :
    Steady channels (channels.sendPad key pad).2 := by
  rw [sendPad]
  split_ifs
  · exact .refl channels
  · exact steady_handOver channels key .encrypted (.binary pad)

theorem steady_issuePad (channels : Channels) (key : Key) (requireAck : Bool) :
    Steady channels (channels.issuePad key requireAck).2 := by
  rw [issuePad]
  have drawing : Steady channels channels.generatePad.2 := ⟨rfl, rfl, rfl, rfl, rfl, rfl⟩
  rcases made : channels.generatePad with ⟨_ | pad, drawn⟩ <;> rw [made] at drawing
  · exact drawing
  · have sending := drawing.trans (steady_sendPad drawn key pad)
    rcases sent : drawn.sendPad key pad with ⟨_ | _ | _, after⟩ <;> rw [sent] at sending <;>
      simp only [sent]
    · exact sending
    · exact sending
    · refine sending.trans ?_
      split_ifs
      · exact ⟨rfl, rfl, rfl, rfl, rfl, rfl⟩
      · exact ⟨rfl, rfl, rfl, rfl, rfl, Registry.ttl_remove ..⟩

theorem steady_perform (channels : Channels) {move : Move} (internal : move.isInternal = true) :
    Steady channels (channels.perform move) := by
  cases move with
  | close id => exact steady_work channels [.close id]
  | joinClear key id => exact steady_join channels key .clear id
  | joinEncrypted key id =>
    rw [perform, joinEncrypted]
    split_ifs
    · exact steady_join channels key .encrypted id
    · exact .refl channels
  | send id frame =>
    rw [perform, send]
    split <;> exact ⟨rfl, rfl, rfl, rfl, rfl, rfl⟩
  | offer id frame => exact steady_offer channels id frame
  | sendPad key pad => exact steady_sendPad channels key pad
  | sendClear key frame =>
    rw [perform, sendClear]
    split_ifs
    · exact .refl channels
    · exact steady_handOver channels key .clear frame
  | usePad key pad => exact ⟨rfl, rfl, rfl, rfl, rfl, Registry.ttl_remove ..⟩
  | activatePad key =>
    simp only [perform, activatePad, PadStore.activate]
    split
    · exact ⟨rfl, rfl, rfl, rfl, rfl, (Registry.ttl_remove ..).trans (Registry.ttl_remove ..)⟩
    · exact ⟨rfl, rfl, rfl, rfl, rfl, Registry.ttl_remove ..⟩
  | revokePads key =>
    exact ⟨rfl, rfl, rfl, rfl, Registry.ttl_remove .., Registry.ttl_remove ..⟩
  | activePad key => exact ⟨rfl, rfl, rfl, rfl, Registry.ttl_get .., rfl⟩
  | pendingPad key => exact ⟨rfl, rfl, rfl, rfl, rfl, Registry.ttl_get ..⟩
  | newPendingPad key =>
    simp only [perform, newPendingPad, generatePad, Pad.generate]
    split_ifs <;> exact ⟨rfl, rfl, rfl, rfl, rfl, rfl⟩
  | issuePad key requireAck => exact steady_issuePad channels key requireAck
  | stagePad _ _ | sweepPads | tell _ _ => exact ⟨rfl, rfl, rfl, rfl, rfl, rfl⟩
  | accept _ _ _ | subscribe _ | link _ _ | resume _ _ | take _ | dropReceiver _ | elapse _ =>
    cases internal

/-- No move makes active pads expire. -/
theorem ttl_active_perform (channels : Channels) (move : Move) :
    (channels.perform move).pads.active.ttl = channels.pads.active.ttl := by
  cases internal : move.isInternal with
  | true => exact (steady_perform channels internal).active
  | false =>
    cases move with
    | accept id info buffer =>
      rw [perform]
      split_ifs <;> rfl
    | resume id frame =>
      rw [perform]
      split <;> rfl
    | take id =>
      rw [perform, receive]
      split <;> rfl
    | subscribe _ | link _ _ | dropReceiver _ | elapse _ => rfl
    | _ => cases internal

/-- No move makes pairs expire. -/
theorem ttl_pairs_perform (channels : Channels) (move : Move) :
    (channels.perform move).pairs.ttl = channels.pairs.ttl := by
  cases quiet : move.isQuiet with
  | true => rw [(quiet_perform channels quiet).pairs]
  | false =>
    have internal : move.isInternal = true := by cases move <;> first | rfl | cases quiet
    exact (steady_perform channels internal).pairs

theorem ttl_pairs_run (channels : Channels) (moves : List Move) :
    (channels.run moves).pairs.ttl = channels.pairs.ttl := by
  induction moves generalizing channels with
  | nil => rfl
  | cons move rest ih => exact (ih (channels.perform move)).trans (ttl_pairs_perform channels move)

/-- Time does not run backwards. -/
theorem now_le_perform (channels : Channels) (move : Move) :
    channels.now ≤ (channels.perform move).now := by
  cases internal : move.isInternal with
  | true => exact Nat.le_of_eq (steady_perform channels internal).now.symm
  | false =>
    cases move with
    | elapse nanoseconds =>
      have later : (channels.perform (.elapse nanoseconds)).now = channels.now + nanoseconds := rfl
      omega
    | accept id info buffer =>
      rw [perform]
      split_ifs <;> exact Nat.le_refl channels.now
    | resume id frame =>
      rw [perform]
      split <;> exact Nat.le_refl channels.now
    | take id =>
      rw [perform, receive]
      split <;> exact Nat.le_refl channels.now
    | subscribe _ | link _ _ | dropReceiver _ => exact Nat.le_refl channels.now
    | _ => cases internal

/-- Moves of one kind lead from the first state to the second one. -/
def ReachesBy (kind : Move → Bool) (before after : Channels) : Prop :=
  ∃ moves : List Move, (∀ move ∈ moves, kind move = true) ∧ after = before.run moves

namespace ReachesBy

variable {kind : Move → Bool}

theorem refl (channels : Channels) : channels.ReachesBy kind channels := ⟨[], nofun, rfl⟩

theorem trans {first second third : Channels} (one : first.ReachesBy kind second)
    (two : second.ReachesBy kind third) : first.ReachesBy kind third := by
  obtain ⟨moves, kinds, rfl⟩ := one
  obtain ⟨others, kinds', rfl⟩ := two
  refine ⟨moves ++ others, ?_, (run_append first moves others).symm⟩
  intro move member
  obtain early | late := List.mem_append.mp member
  · exact kinds move early
  · exact kinds' move late

theorem move (channels : Channels) (move : Move) (kinds : kind move = true) :
    channels.ReachesBy kind (channels.perform move) :=
  ⟨[move], fun _ member => List.mem_singleton.mp member ▸ kinds, rfl⟩

theorem mono {other : Move → Bool} (wider : ∀ move, kind move = true → other move = true)
    {before after : Channels} (reaches : before.ReachesBy kind after) :
    before.ReachesBy other after := by
  obtain ⟨moves, kinds, same⟩ := reaches
  exact ⟨moves, fun move member => wider move (kinds move member), same⟩

/-- What every move of a kind keeps, all of them together keep. -/
theorem keeps {holds : Channels → Prop}
    (kept : ∀ channels move, kind move = true → holds channels → holds (channels.perform move))
    {before after : Channels} (reaches : before.ReachesBy kind after) (held : holds before) :
    holds after := by
  obtain ⟨moves, kinds, rfl⟩ := reaches
  induction moves generalizing before with
  | nil => exact held
  | cons move rest ih =>
    exact ih (kept before move (kinds move List.mem_cons_self) held)
      fun other member => kinds other (List.mem_cons_of_mem _ member)

/-- What a directory tells its listeners is told by moves. -/
theorem tellings (telling : ∀ desk notice, kind (.tell desk notice) = true) (channels : Channels)
    (desk : Desk) (notices : List DirectoryNotice) :
    channels.ReachesBy kind (channels.announce (notices.map (Hub.deskNotice desk))) := by
  induction notices generalizing channels with
  | nil =>
    rw [List.map_nil, announce, List.append_nil]
    exact .refl channels
  | cons notice rest ih =>
    refine (move channels (.tell desk notice) (telling desk notice)).trans ?_
    have told := ih (channels.perform (.tell desk notice))
    rwa [perform, announce, announce, List.append_assoc] at told

end ReachesBy

/-- Internal moves lead from the first state to the second one. -/
def Reaches (before after : Channels) : Prop :=
  ∃ moves : List Move, (∀ move ∈ moves, move.isInternal = true) ∧ after = before.run moves

namespace ReachesBy

variable {before after : Channels}

theorem routine (reaches : before.ReachesBy Move.isReply after) :
    before.ReachesBy Move.isRoutine after := reaches.mono fun _ => Move.isRoutine_of_isReply

theorem internal (reaches : before.ReachesBy Move.isRoutine after) : before.Reaches after :=
  reaches.mono fun _ => Move.isInternal_of_isRoutine

theorem served (reaches : before.ReachesBy Move.isServed after) : before.Reaches after :=
  reaches.mono fun _ => Move.isInternal_of_isServed

end ReachesBy

namespace Reaches

theorem trans {first second third : Channels} (one : first.Reaches second)
    (two : second.Reaches third) : first.Reaches third := ReachesBy.trans one two

theorem steady {before after : Channels} (reaches : before.Reaches after) : Steady before after := by
  obtain ⟨moves, internal, rfl⟩ := reaches
  induction moves generalizing before with
  | nil => exact .refl before
  | cons move rest ih =>
    have step := steady_perform before (internal move List.mem_cons_self)
    exact step.trans (ih fun other member => internal other (List.mem_cons_of_mem _ member))

end Reaches

end Gateway.Channels
