import Gateway.Proofs.Channels.Queue

/-! # Issuing a pad is all or nothing

A pad that is issued is made first, then offered to the encrypted side of its pair, and stored last. The
offer is the only step that can still go wrong once there is material, and it is taken exactly if the
side has a *carrier*: an active occupant that somebody receives from and whose queue has room. So a pad
is stored exactly if it is on its way; where no carrier is found, nobody can tell from the queues or from
the store that a pad was ever made.
-/

namespace Gateway

/-- A connection takes a frame exactly if it is open, somebody receives from it, and there is room. -/
theorem Connection.offer_eq_ok_iff (connection : Connection) (frame : Frame) :
    (connection.offer frame).1 = .ok () ↔
      connection.active = true ∧ connection.receiving = true ∧
        connection.queue.length < connection.capacity := by
  rw [offer]
  split_ifs with shut room
  · have closed : ¬ (connection.active = true ∧ connection.receiving = true) := by
      rintro ⟨active, receiving⟩
      simp [active, receiving] at shut
    exact iff_of_false (by simp) fun taken => closed ⟨taken.1, taken.2.1⟩
  · simp only [Bool.or_eq_true, Bool.not_eq_true', not_or, Bool.not_eq_false] at shut
    exact iff_of_true rfl ⟨shut.1, shut.2, of_decide_eq_true room⟩
  · exact iff_of_false (by simp) fun taken => room (decide_eq_true taken.2.2)

/-- A pad that is made has the size that was asked for. -/
theorem Entropy.length_draw (entropy : Entropy) (count : Nat) :
    (entropy.draw count).1.length = count := by
  rw [draw, List.length_map, List.length_range]

namespace Channels

variable {channels : Channels} {key : Key} {side : Side} {id : ConnectionId}

/-- Whether a connection sits on a side of the pair of a key and takes the next frame. -/
structure Carrier (channels : Channels) (key : Key) (side : Side) (id : ConnectionId) : Prop where
  seated : ∃ pair, channels.pair? key = some pair ∧ pair.occupant side = some id
  ready : ∃ connection, channels.connection? id = some connection ∧ connection.active = true ∧
    connection.receiving = true ∧ connection.queue.length < connection.capacity

/-- A carrier is the active occupant of its side, so a side has one carrier at most. -/
theorem Carrier.liveOccupant? (carrier : channels.Carrier key side id) :
    channels.liveOccupant? key side = some id := by
  obtain ⟨⟨pair, stored, seated⟩, connection, found, active, -⟩ := carrier
  have live : channels.isActive id = true := by rw [isActive, found, Option.any_some, active]
  rw [Channels.liveOccupant?, stored, Option.bind_some, seated]
  exact Option.filter_some_pos live

/-- Where the next frame goes depends on pairs and connections alone. -/
theorem carrier_congr {other : Channels} (connections : other.connections = channels.connections)
    (pairs : other.pairs = channels.pairs) :
    other.Carrier key side id ↔ channels.Carrier key side id := by
  have same : ∀ id, other.connection? id = channels.connection? id := by
    intro id
    rw [connection?, connection?, connections]
  constructor
  · rintro ⟨seated, ready⟩
    exact ⟨by rwa [pair?, pairs] at seated, by rwa [same] at ready⟩
  · rintro ⟨seated, ready⟩
    exact ⟨by rwa [pair?, pairs], by rwa [same]⟩

theorem offer_eq_ok_iff (frame : Frame) :
    (channels.offer id frame).1 = .ok () ↔ ∃ connection, channels.connection? id = some connection ∧
      connection.active = true ∧ connection.receiving = true ∧
        connection.queue.length < connection.capacity := by
  rw [offer]
  cases found : channels.connection? id with
  | none => simp
  | some connection => simpa using connection.offer_eq_ok_iff frame

theorem handOver_of_live (live : channels.liveOccupant? key side = some id) (frame : Frame) :
    (channels.handOver key side frame).1 = true ↔ (channels.offer id frame).1 = .ok () := by
  rw [handOver, live]
  simp only
  split
  case h_1 offered => simp [offered]
  case h_2 offered => simp [offered]

/-- A frame that is handed to a side is taken exactly if the side has a carrier. -/
theorem handOver_eq_true_iff (frame : Frame) :
    (channels.handOver key side frame).1 = true ↔ ∃ id, channels.Carrier key side id := by
  constructor
  · intro taken
    obtain ⟨id, live⟩ := liveOccupant?_of_taken taken
    obtain ⟨occupied, -⟩ := Option.filter_eq_some_iff.mp live
    have offered := (handOver_of_live live frame).mp taken
    exact ⟨id, Option.bind_eq_some_iff.mp occupied, (offer_eq_ok_iff frame).mp offered⟩
  · rintro ⟨id, carrier⟩
    apply (handOver_of_live carrier.liveOccupant? frame).mpr
    exact (offer_eq_ok_iff frame).mpr carrier.ready

theorem sendPad_of_material {pad : Bytes} (material : pad ≠ []) :
    (channels.sendPad key pad).1 = .ok (channels.handOver key .encrypted (.binary pad)).1 := by
  rw [sendPad, if_neg (by rwa [List.isEmpty_iff])]

/-- Making a pad takes randomness and nothing else. -/
theorem generatePad_of_sized (sized : 0 < channels.padSize) :
    channels.generatePad = (.ok (channels.entropy.draw channels.padSize).1,
      { channels with entropy := (channels.entropy.draw channels.padSize).2 }) := by
  simp only [generatePad, Pad.generate, if_neg (Nat.ne_of_gt sized)]

theorem issuePad_of_unsized (unsized : channels.padSize = 0) (key : Key) (requireAck : Bool) :
    (channels.issuePad key requireAck).1 = .error (.pad .empty) := by
  simp only [issuePad, generatePad, Pad.generate, if_pos unsized]

/-- Once there is a pad, issuing it does not fail: the answer is whether there is a carrier. -/
theorem issuePad_of_sized (sized : 0 < channels.padSize) (key : Key) (requireAck : Bool) :
    ∃ taken, (channels.issuePad key requireAck).1 = .ok taken ∧
      (taken = true ↔ ∃ id, channels.Carrier key .encrypted id) := by
  have length := channels.entropy.length_draw channels.padSize
  generalize drawn : channels.entropy.draw channels.padSize = draw at length
  obtain ⟨pad, entropy⟩ := draw
  have material : pad ≠ [] := by
    rintro rfl
    simp only [List.length_nil] at length
    omega
  have made := generatePad_of_sized sized
  rw [drawn] at made
  have carried : ∀ id, ({ channels with entropy := entropy } : Channels).Carrier key .encrypted id ↔
      channels.Carrier key .encrypted id := fun id => carrier_congr rfl rfl
  refine ⟨_, ?_, (handOver_eq_true_iff (.binary pad)).trans (exists_congr carried)⟩
  rw [← sendPad_of_material material, issuePad, made]
  simp only
  split
  case h_1 sent => rw [sent]
  case h_2 => rfl

theorem issuePad_eq_ok_true_iff (channels : Channels) (key : Key) (requireAck : Bool) :
    (channels.issuePad key requireAck).1 = .ok true ↔
      1 ≤ channels.padSize ∧ ∃ id, channels.Carrier key .encrypted id := by
  by_cases sized : 0 < channels.padSize
  · obtain ⟨taken, answer, carried⟩ := issuePad_of_sized sized key requireAck
    rw [answer, Except.ok.injEq, ← carried]
    exact ⟨fun success => ⟨sized, success⟩, fun ready => ready.2⟩
  · rw [issuePad_of_unsized (by omega) key requireAck]
    exact iff_of_false nofun fun ready => sized ready.1

theorem issuePad_eq_error_iff (channels : Channels) (key : Key) (requireAck : Bool)
    (error : PairingError) :
    (channels.issuePad key requireAck).1 = .error error ↔
      channels.padSize = 0 ∧ error = .pad .empty := by
  by_cases sized : 0 < channels.padSize
  · obtain ⟨taken, answer, -⟩ := issuePad_of_sized sized key requireAck
    rw [answer]
    exact iff_of_false nofun fun unsized => by omega
  · have unsized : channels.padSize = 0 := by omega
    rw [issuePad_of_unsized unsized key requireAck, and_iff_right unsized, Except.error.injEq, eq_comm]

/-- What becomes of the frames that wait and of the pads that are stored when a pad is issued. -/
structure IssuedWhole (before : Channels) (key : Key) (requireAck : Bool) (after : Channels)
    (pad : Bytes) (id : ConnectionId) : Prop where
  made : before.generatePad.1 = .ok pad
  size : pad.length = before.padSize
  carrier : before.Carrier key .encrypted id
  /-- One frame more waits, last in the queue of the carrier. -/
  queues : ∀ other, after.queueOf other =
    if other = id then before.queueOf other ++ [.binary pad] else before.queueOf other
  /-- A pad that has to be confirmed waits from now on. -/
  waiting : requireAck = true → after.pads.active = before.pads.active ∧
    ∀ other, after.pads.pending.entries.get? other =
      if key = other then some ⟨pad, before.now⟩ else before.pads.pending.entries.get? other
  /-- Any other pad is in use from now on, and none waits. -/
  inUse : requireAck = false → ∀ other,
    after.pads.active.entries.get? other =
        (if key = other then some ⟨pad, before.now⟩ else before.pads.active.entries.get? other) ∧
      after.pads.pending.entries.get? other =
        if key = other then none else before.pads.pending.entries.get? other

theorem issuedWhole_of_issues {after : Channels} {requireAck : Bool} {pad : Bytes}
    (issues : channels.Issues key requireAck pad id after)
    (carrier : channels.Carrier key .encrypted id) :
    channels.IssuedWhole key requireAck after pad id where
  made := issues.made
  size := by
    have made := issues.made
    have sized : 0 < channels.padSize := by
      rw [Nat.pos_iff_ne_zero]
      intro unsized
      simp [generatePad, Pad.generate, unsized] at made
    rw [generatePad_of_sized sized] at made
    rw [← Except.ok.inj made, Entropy.length_draw]
  carrier := carrier
  queues := issues.queues
  waiting required := by
    rw [issues.pads, if_pos required]
    refine ⟨rfl, fun other => ?_⟩
    rw [PadStore.stage, Registry.put, Registry.get?_store]
  inUse required other := by
    rw [issues.pads, if_neg (by simp [required])]
    constructor
    · rw [PadStore.install, Registry.put, Registry.get?_store]
    · rw [PadStore.install, Registry.get?_remove]

/-- In every state, whatever the size of pads and whether or not a pad has to be confirmed: issuing a pad
for a key succeeds exactly if pads have a size and the encrypted side of the pair has a carrier, and
fails only if pads have no size. When it succeeds, the pad that was made is the last frame that waits on
the carrier and what is stored for the key, and nothing else has changed in queues and store; otherwise
nothing has changed there at all. -/
theorem pads_are_issued_whole_or_not_at_all (channels : Channels) (key : Key) (requireAck : Bool) :
    let issued := channels.issuePad key requireAck
    (issued.1 = .ok true ↔ 1 ≤ channels.padSize ∧ ∃ id, channels.Carrier key .encrypted id) ∧
      (∀ error, issued.1 = .error error ↔ channels.padSize = 0 ∧ error = .pad .empty) ∧
        (issued.1 = .ok true → ∃ pad id, channels.IssuedWhole key requireAck issued.2 pad id) ∧
          (issued.1 ≠ .ok true →
            SameQueues channels issued.2 ∧ issued.2.pads = channels.pads) := by
  intro issued
  have succeeds := issuePad_eq_ok_true_iff channels key requireAck
  refine ⟨succeeds, issuePad_eq_error_iff channels key requireAck, ?_, ?_⟩
  · intro success
    obtain ⟨-, id, carrier⟩ := succeeds.mp success
    obtain ⟨pad, occupant, -, issues⟩ | ⟨unissued, -⟩ := issuePad_cases channels key requireAck
    · obtain rfl := Option.some.inj (issues.live.symm.trans carrier.liveOccupant?)
      exact ⟨pad, occupant, issuedWhole_of_issues issues carrier⟩
    · exact absurd success unissued
  · intro failure
    obtain ⟨_, _, success, -⟩ | ⟨-, unchanged⟩ := issuePad_cases channels key requireAck
    · exact absurd success failure
    · exact unchanged

end Channels

end Gateway
