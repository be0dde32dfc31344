import Gateway.Proofs.Channels.Queue
import Gateway.Proofs.Pad.Exchange

/-! # Pads in the custody of pairs

A pad is stored for the key of a pair, and it goes with that pair: whatever takes a pair out takes the
pads of its key out with it. So pads stay *in custody*, every stored pad with a pair for its key, under
all moves that store none. Of the moves that store a pad, putting the waiting pad of a key to use moves
it within the custody of its pair, and a pad that is issued is kept only if the encrypted side of the
pair took it. A pad that is granted along with a seat is stored without another look at the pair: it is
*stranded* if the pair did not survive the seating, which takes an eviction that closes the newcomer.
-/

namespace Gateway.Channels

/-- Whether a pad is stored for a key, in use or waiting. -/
def hasPad (channels : Channels) (key : Key) : Bool :=
  (channels.pads.active.stored? key).isSome || (channels.pads.pending.stored? key).isSome

/-- Pads are stored for pairs only. -/
def PadsPaired (channels : Channels) : Prop :=
  ∀ key, channels.hasPad key = true → channels.hasPair key = true

/-- How a state comes from another one without new pads: pads go, and they go with their pairs. -/
structure Dwindles (before after : Channels) : Prop where
  active : ∀ key pad, after.pads.active.stored? key = some pad →
    before.pads.active.stored? key = some pad
  pending : ∀ key pad, after.pads.pending.stored? key = some pad →
    before.pads.pending.stored? key = some pad
  paired : ∀ key, after.hasPad key = true → before.hasPair key = true → after.hasPair key = true

namespace Dwindles

variable {first second third before after : Channels}

theorem hasPad (dwindles : Dwindles before after) {key : Key} (held : after.hasPad key = true) :
    before.hasPad key = true := by
  simp only [Channels.hasPad, Bool.or_eq_true, Option.isSome_iff_exists] at held ⊢
  obtain ⟨pad, stored⟩ | ⟨pad, stored⟩ := held
  · exact .inl ⟨pad, dwindles.active key pad stored⟩
  · exact .inr ⟨pad, dwindles.pending key pad stored⟩

/-- Pads stay as they are, and no pair goes. -/
theorem of_pads (pads : after.pads = before.pads)
    (pairs : ∀ key, before.hasPair key = true → after.hasPair key = true) :
    Dwindles before after where
  active key pad stored := by rwa [pads] at stored
  pending key pad stored := by rwa [pads] at stored
  paired key _ := pairs key

theorem refl (channels : Channels) : Dwindles channels channels := of_pads rfl fun _ => id

theorem trans (one : Dwindles first second) (two : Dwindles second third) :
    Dwindles first third where
  active key pad stored := one.active key pad (two.active key pad stored)
  pending key pad stored := one.pending key pad (two.pending key pad stored)
  paired key held paired := two.paired key held (one.paired key (two.hasPad held) paired)

/-- Without new pads, pads stay in custody. -/
theorem padsPaired (dwindles : Dwindles before after) (custody : before.PadsPaired) :
    after.PadsPaired := by
  intro key held
  apply dwindles.paired key held
  apply custody key
  exact dwindles.hasPad held

end Dwindles

/-- A pair goes together with its pads. -/
theorem dwindles_retire (channels : Channels) (key : Key) :
    Dwindles channels (channels.retire key) := by
  obtain ⟨pair, -, -, retired⟩ | ⟨-, same⟩ := retire_cases channels key
  · rw [retired]
    have active : ∀ other, (channels.unpair key).pads.active.stored? other =
        if key = other then none else channels.pads.active.stored? other :=
      fun other => Registry.stored?_remove ..
    have pending : ∀ other, (channels.unpair key).pads.pending.stored? other =
        if key = other then none else channels.pads.pending.stored? other :=
      fun other => Registry.stored?_remove ..
    constructor
    case active =>
      intro other pad stored
      rw [active] at stored
      split_ifs at stored
      exact stored
    case pending =>
      intro other pad stored
      rw [pending] at stored
      split_ifs at stored
      exact stored
    case paired =>
      intro other held paired
      have distinct : key ≠ other := by
        rintro rfl
        rw [hasPad, active, pending, if_pos rfl, if_pos rfl] at held
        cases held
      rwa [hasPair, pair?_unpair, if_neg distinct]
  · rw [same]
    exact .refl channels

theorem dwindles_retireAll (keys : List Key) (channels : Channels) :
    Dwindles channels (keys.foldl retire channels) := by
  induction keys generalizing channels with
  | nil => exact .refl channels
  | cons key rest ih => exact (dwindles_retire channels key).trans (ih (channels.retire key))

theorem dwindles_work (channels : Channels) (agenda : List CloseTask) :
    Dwindles channels (channels.work agenda) := by
  have told : ∀ (channels : Channels) notices, Dwindles channels (channels.announce notices) :=
    fun _ _ => .of_pads rfl fun _ paired => paired
  fun_induction work channels agenda with
  | case1 channels => exact .refl channels
  | case2 channels id rest _ ih =>
    have closed : Dwindles channels (channels.deactivate id) := .of_pads rfl fun _ paired => paired
    exact closed.trans ih
  | case3 channels id rest _ ih => exact ih
  | case4 channels subscriber id rest _ _ ih => exact (told channels _).trans ih
  | case5 channels subscriber id rest _ targets _ ih => exact (told channels _).trans ih
  | case6 channels subscriber id rest _ _ ih =>
    exact (told channels _).trans ((dwindles_retireAll _ _).trans ih)

/-- Seating a connection takes no pair out. -/
theorem hasPair_seat (channels : Channels) (key : Key) (side : Side) (id : ConnectionId) {other : Key}
    (paired : channels.hasPair other = true) :
    (channels.seat key side id).2.hasPair other = true := by
  rw [hasPair, pair?] at paired ⊢
  simp only [seat]
  by_cases same : key = other
  · subst same
    exact channels.pairs.isSome_stored?_amend channels.now key Pair.empty _
  · rwa [Registry.stored?_amend_of_ne _ _ same]

theorem dwindles_join (channels : Channels) (key : Key) (side : Side) (id : ConnectionId) :
    Dwindles channels (channels.join key side id).2 := by
  cases active : channels.isActive id with
  | true =>
    have seated : Dwindles channels (channels.seat key side id).2 :=
      .of_pads rfl fun _ => hasPair_seat channels key side id
    have evicted : Dwindles channels (channels.afterEviction key side id) := by
      refine seated.trans ?_
      rw [← closeFormer_seat, closeFormer.eq_def]
      split
      · exact .refl _
      · split_ifs
        · exact dwindles_work _ _
        · exact .refl _
    rw [join_of_active key side active]
    simp only
    split_ifs
    · exact evicted
    · exact evicted.trans (dwindles_retire _ key)
  | false =>
    rw [join, if_neg (by simp [active])]
    exact .refl channels

/-- Whether a move may store a pad. -/
def Move.storesPad : Move → Bool
  | .stagePad _ _ | .usePad _ _ | .newPendingPad _ | .activatePad _ | .issuePad _ _ => true
  | _ => false

theorem dwindles_perform (channels : Channels) {move : Move} (stores : move.storesPad = false) :
    Dwindles channels (channels.perform move) := by
  have quiet : move.isQuiet = true → (channels.perform move).pads = channels.pads →
      Dwindles channels (channels.perform move) := by
    intro quiet pads
    refine .of_pads pads fun key paired => ?_
    rwa [hasPair, pair?, (quiet_perform channels quiet).pairs]
  cases move with
  | close id => exact dwindles_work channels [.close id]
  | joinClear key id => exact dwindles_join channels key .clear id
  | joinEncrypted key id =>
    rw [perform, joinEncrypted]
    split_ifs
    · exact dwindles_join channels key .encrypted id
    · exact .refl channels
  | revokePads key =>
    constructor
    case active =>
      intro other pad stored
      rw [perform, revokePads, PadStore.revoke, Registry.stored?_remove] at stored
      split_ifs at stored
      exact stored
    case pending =>
      intro other pad stored
      rw [perform, revokePads, PadStore.revoke, Registry.stored?_remove] at stored
      split_ifs at stored
      exact stored
    case paired => exact fun _ _ => id
  | activePad key =>
    refine ⟨fun other pad stored => ?_, fun _ _ => id, fun _ _ => id⟩
    rw [perform, activePad, PadStore.activePad, Registry.stored?_get] at stored
    split_ifs at stored
    exact stored
  | pendingPad key =>
    refine ⟨fun _ _ => id, fun other pad stored => ?_, fun _ _ => id⟩
    rw [perform, pendingPad, PadStore.pendingPad, Registry.stored?_get] at stored
    split_ifs at stored
    exact stored
  | sweepPads =>
    refine ⟨fun _ _ => id, fun other pad stored => ?_, fun _ _ => id⟩
    rw [perform, PadStore.sweep, Registry.stored?_sweep] at stored
    split_ifs at stored
    exact stored
  | sendPad key pad => exact quiet rfl (pads_sendPad channels key pad)
  | offer id frame => exact quiet rfl (pads_offer channels id frame)
  | sendClear key frame =>
    apply quiet rfl
    rw [perform, sendClear]
    split_ifs
    · rfl
    · exact pads_handOver channels key .clear frame
  | accept id info buffer =>
    apply quiet rfl
    rw [perform]
    split_ifs <;> rfl
  | send id frame =>
    apply quiet rfl
    rw [perform, send]
    split <;> rfl
  | resume id frame =>
    apply quiet rfl
    rw [perform]
    split <;> rfl
  | take id =>
    apply quiet rfl
    rw [perform, receive]
    split <;> rfl
  | subscribe _ | link _ _ | dropReceiver _ | tell _ _ | elapse _ => exact quiet rfl rfl
  | stagePad _ _ | usePad _ _ | newPendingPad _ | activatePad _ | issuePad _ _ => cases stores

/-- Whether a move stores a pad without regard to pairs. -/
def Move.storesBare : Move → Bool
  | .stagePad _ _ | .usePad _ _ | .newPendingPad _ => true
  | _ => false

/-- Where a side of a pair is taken, there is a pair. -/
theorem hasPair_of_liveOccupant? {channels : Channels} {key : Key} {side : Side} {id : ConnectionId}
    (live : channels.liveOccupant? key side = some id) : channels.hasPair key = true := by
  obtain ⟨occupied, -⟩ := Option.filter_eq_some_iff.mp live
  obtain ⟨pair, stored, -⟩ := Option.bind_eq_some_iff.mp occupied
  rw [hasPair, stored, Option.isSome_some]

/-- Putting the waiting pad of a key to use leaves none waiting for it. -/
theorem pending_activatePad (channels : Channels) (key other : Key) :
    (channels.activatePad key).2.pads.pending.stored? other =
      if key = other then none else channels.pads.pending.stored? other := by
  simp only [activatePad, PadStore.activate]
  split
  · simp only [PadStore.install, Registry.stored?_remove]
    split_ifs <;> rfl
  · exact Registry.stored?_remove ..

/-- The pad that is put to use is the one that waited. -/
theorem activatePad_cases (channels : Channels) (key : Key) :
    (∃ pad, channels.pads.pending.stored? key = some pad ∧ (channels.activatePad key).1 = true ∧
      ∀ other, (channels.activatePad key).2.pads.active.stored? other =
        if key = other then some pad else channels.pads.active.stored? other) ∨
    (channels.activatePad key).1 = false ∧
      ∀ other, (channels.activatePad key).2.pads.active.stored? other =
        channels.pads.active.stored? other := by
  simp only [activatePad, PadStore.activate]
  cases taken : (channels.pads.pending.remove channels.now key).result with
  | none => exact .inr ⟨rfl, fun _ => rfl⟩
  | some pad =>
    refine .inl ⟨pad, Registry.stored?_of_remove taken, rfl, fun other => ?_⟩
    simp only [PadStore.install, Registry.put, Registry.stored?_store]

namespace PadsPaired

variable {channels : Channels}

/-- A pad may be stored for any key that has a pair. -/
theorem of_stored (custody : channels.PadsPaired) {after : Channels} {key : Key}
    (pairs : after.pairs = channels.pairs) (paired : channels.hasPair key = true)
    (elsewhere : ∀ other, key ≠ other → after.hasPad other = true → channels.hasPad other = true) :
    after.PadsPaired := by
  intro other held
  rw [hasPair, pair?, pairs]
  by_cases same : key = other
  · exact same ▸ paired
  · exact custody other (elsewhere other same held)

theorem stagePad (custody : channels.PadsPaired) {key : Key} (paired : channels.hasPair key = true)
    (pad : Bytes) : (channels.stagePad key pad).PadsPaired := by
  refine custody.of_stored rfl paired fun other distinct held => ?_
  simpa only [hasPad, Channels.stagePad, PadStore.stage, Registry.put, Registry.stored?_store,
    if_neg distinct] using held

theorem newPendingPad (custody : channels.PadsPaired) {key : Key}
    (paired : channels.hasPair key = true) : (channels.newPendingPad key).2.PadsPaired := by
  simp only [Channels.newPendingPad, generatePad, Pad.generate]
  split_ifs
  · exact custody
  · exact stagePad custody paired _

/-- A pad that is put to use has been waiting in the custody of its pair. -/
theorem activatePad (custody : channels.PadsPaired) (key : Key) :
    (channels.activatePad key).2.PadsPaired := by
  intro other held
  apply custody other
  rw [hasPad, pending_activatePad] at held
  obtain ⟨pad, waiting, -, active⟩ | ⟨-, active⟩ := activatePad_cases channels key
  · rw [active] at held
    split_ifs at held with same
    · subst same
      simp only [hasPad, waiting, Option.isSome_some, Bool.or_true]
    · exact held
  · rw [active] at held
    split_ifs at held
    · rw [Option.isSome_none, Bool.or_false] at held
      simp only [hasPad, held, Bool.true_or]
    · exact held

/-- A pad that is issued is stored only if the encrypted side of its pair took it. -/
theorem issuePad (custody : channels.PadsPaired) (key : Key) (requireAck : Bool) :
    (channels.issuePad key requireAck).2.PadsPaired := by
  have pairs := (tweaks_issuePad channels key requireAck).pairs
  obtain ⟨pad, occupant, -, issues⟩ | ⟨-, -, pads⟩ := issuePad_cases channels key requireAck
  · have paired : channels.hasPair key = true := hasPair_of_liveOccupant? issues.live
    refine custody.of_stored pairs paired fun other distinct held => ?_
    rw [hasPad, issues.pads] at held
    split_ifs at held
    · simpa only [hasPad, PadStore.stage, Registry.put, Registry.stored?_store, if_neg distinct]
        using held
    · simpa only [hasPad, PadStore.install, Registry.put, Registry.stored?_store,
        Registry.stored?_remove, if_neg distinct] using held
  · intro other held
    rw [hasPair, pair?, pairs]
    apply custody other
    rwa [hasPad, pads] at held

/-- Whether a move stores a pad that someone brings, whatever becomes of pairs. -/
theorem perform (custody : channels.PadsPaired) {move : Move} (bare : move.storesBare = false) :
    (channels.perform move).PadsPaired := by
  cases stores : move.storesPad with
  | false => exact (dwindles_perform channels stores).padsPaired custody
  | true =>
    cases move with
    | activatePad key => exact custody.activatePad key
    | issuePad key requireAck => exact custody.issuePad key requireAck
    | stagePad _ _ | usePad _ _ | newPendingPad _ => cases bare
    | _ => cases stores

end PadsPaired

/-- Whether a connection that asks for a pad of a pair is seated and leaves the pad without a pair. -/
def strandsPad (channels : Channels) (key : Key) (id : ConnectionId) : Bool :=
  let joined := channels.joinEncrypted key id
  joined.1.isOk && decide (channels.padSize ≠ 0) && !joined.2.hasPair key

/-- Whether a pad waits for a key that has no pair. -/
structure Stranded (channels : Channels) (key : Key) : Prop where
  waiting : (channels.pads.pending.stored? key).isSome = true
  unpaired : channels.hasPair key = false

theorem Stranded.not_padsPaired {channels : Channels} {key : Key} (stranded : channels.Stranded key) :
    ¬ channels.PadsPaired := by
  intro custody
  have held : channels.hasPad key = true := by rw [hasPad, stranded.waiting, Bool.or_true]
  exact Bool.false_ne_true (stranded.unpaired.symm.trans (custody key held))

/-- A new pad waits for the key it is made for. -/
theorem pending_newPendingPad {channels : Channels} (sized : channels.padSize ≠ 0) (key : Key) :
    ((channels.newPendingPad key).2.pads.pending.stored? key).isSome = true := by
  simp only [newPendingPad, generatePad, Pad.generate, if_neg sized, noteHandedOut, stagePad,
    PadStore.stage, Registry.put, Registry.stored?_store, ↓reduceIte, Option.isSome_some]

theorem newPendingPad_of_unsized {channels : Channels} (unsized : channels.padSize = 0) (key : Key) :
    channels.newPendingPad key = (.error .empty, channels) := by
  simp only [newPendingPad, generatePad, Pad.generate, if_pos unsized]

theorem stranded_grantPad {channels : Channels} {key : Key} {id : ConnectionId}
    (strands : channels.strandsPad key id = true) : (channels.grantPad key id).2.Stranded key := by
  have steady : Steady channels (channels.perform (.joinEncrypted key id)) :=
    steady_perform channels rfl
  rw [strandsPad] at strands
  rcases joined : channels.joinEncrypted key id with ⟨error | _, seated⟩
  · rw [joined] at strands
    cases strands
  · rw [perform, joined] at steady
    simp only [joined, Except.isOk, Except.toBool, Bool.true_and, Bool.and_eq_true,
      decide_eq_true_eq, Bool.not_eq_true'] at strands
    obtain ⟨sized, unpaired⟩ := strands
    rw [grantPad_of_seated joined]
    constructor
    case waiting => exact pending_newPendingPad (steady.padSize ▸ sized) key
    case unpaired => rwa [hasPair, pair?, (tweaks_newPendingPad seated key).pairs]

/-- Granting a pad keeps pads in custody exactly if it does not strand the new one. -/
theorem padsPaired_grantPad {channels : Channels} (custody : channels.PadsPaired) (key : Key)
    (id : ConnectionId) :
    (channels.grantPad key id).2.PadsPaired ↔ channels.strandsPad key id = false := by
  constructor
  · intro kept
    rw [Bool.eq_false_iff]
    intro strands
    exact (stranded_grantPad strands).not_padsPaired kept
  · intro keeps
    have joining : (channels.perform (.joinEncrypted key id)).PadsPaired := custody.perform rfl
    have steady : Steady channels (channels.perform (.joinEncrypted key id)) :=
      steady_perform channels rfl
    rw [strandsPad] at keeps
    rw [perform] at joining steady
    rcases joined : channels.joinEncrypted key id with ⟨error | _, seated⟩ <;>
      rw [joined] at joining steady keeps
    · rwa [grantPad_of_refused joined]
    · rw [grantPad_of_seated joined]
      by_cases sized : seated.padSize = 0
      · rwa [newPendingPad_of_unsized sized]
      · have sized' : channels.padSize ≠ 0 := steady.padSize ▸ sized
        have paired : seated.hasPair key = true := by
          simpa only [Except.isOk, Except.toBool, ne_eq, sized', not_false_eq_true, decide_true,
            Bool.and_self, Bool.true_and, Bool.not_eq_false'] using keeps
        exact joining.newPendingPad paired

/-- What stranding a pad takes: a secure, active connection that is no longer paired once it has been
seated. -/
theorem joins_of_strandsPad {channels : Channels} {key : Key} {id : ConnectionId}
    (strands : channels.strandsPad key id = true) :
    channels.isSecure id = true ∧ channels.isActive id = true ∧
      (channels.join key .encrypted id).2.hasPair key = false := by
  rw [strandsPad, joinEncrypted] at strands
  split_ifs at strands with secure
  · have active : channels.isActive id = true := by
      rw [← Bool.not_eq_false]
      intro inactive
      simp only [join, inactive, Bool.false_eq_true, ↓reduceIte, Except.isOk, Except.toBool,
        Bool.false_and] at strands
    simp only [Bool.and_eq_true, Bool.not_eq_true'] at strands
    exact ⟨secure, active, strands.2⟩
  · cases strands

/-- Where pairs live as long as their channels, a pad is stranded only by an eviction that closes the
newcomer along with the former occupant of the encrypted side. -/
theorem eviction_of_strandsPad {channels : Channels} (sound : channels.Sound) {key : Key}
    {id : ConnectionId} (strands : channels.strandsPad key id = true) :
    ∃ former, channels.eviction? key .encrypted id =
        some ((channels.seat key .encrypted id).2, former) ∧
      ((channels.seat key .encrypted id).2.close former).2.isActive id = false := by
  obtain ⟨secure, active, unpaired⟩ := joins_of_strandsPad strands
  have seated := sound.seat key .encrypted active fun _ => secure
  have stored := pair?_seat_self sound.permanent key .encrypted id
  rw [(sound.join key .encrypted active fun _ => secure).1, afterEviction] at unpaired
  cases evicts : channels.eviction? key .encrypted id with
  | none =>
    simp only [evicts, hasPair, stored, Option.isSome_some, Bool.true_eq_false] at unpaired
  | some eviction =>
    obtain ⟨start, former⟩ := eviction
    obtain rfl := eviction?_start evicts
    refine ⟨former, rfl, ?_⟩
    simp only [evicts] at unpaired
    -- The close removes no pair but those that it leaves dead, the newcomer's side included.
    obtain ⟨_, -, removed⟩ := seated.removesDead_close former
    have fate := removed key
    simp only [stored] at fate
    split_ifs at fate with alive
    · rw [hasPair, fate.1, Option.isSome_some] at unpaired
      cases unpaired
    · rw [Pair.isAlive, Bool.or_eq_true, not_or] at alive
      simpa [Pair.isSideActive, Pair.occupant, Pair.occupy] using alive.2

end Gateway.Channels
