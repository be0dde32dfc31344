import Gateway.Proofs.Channels.Move

/-! # Pairs live exactly as long as their channels

Between two closes a key has a pair exactly if that pair has an active side, and whoever occupies an
encrypted side is secure. A close accounts for every pair that goes: a pair goes in the outermost
close that leaves neither of its sides active, and that is told once. Joining a pair closes the former
occupant of the side from a state in which the newcomer is seated already; that eviction is an
outermost close like any other, and by the time it is over the last look at the pair of the newcomer
has nothing left to do.
-/

namespace Gateway.Channels

/-- Pairs are there exactly while they are alive, and their encrypted sides are secure. -/
def PairsLive (channels : Channels) : Prop :=
  (∀ key, channels.hasPair key = channels.isPairActive key) ∧
    ∀ key pair id, channels.pair? key = some pair → pair.encrypted = some id →
      channels.isSecure id = true

/-- Of the pairs of `before`, those that are dead in `after` have gone and were told once each; the
others have stayed, and nothing was told of any other key. -/
def RemovesDead (before after : Channels) : Prop :=
  ∃ told, after.journal = before.journal ++ told ∧ ∀ key,
    match before.pair? key with
    | none => after.pair? key = none ∧ told.count (.pairRemoved key) = 0
    | some pair =>
      if pair.isAlive after.isActive then
        after.pair? key = some pair ∧ told.count (.pairRemoved key) = 0
      else after.pair? key = none ∧ told.count (.pairRemoved key) = 1

/-- No pair has gone, and nothing was told of any. -/
def RemovesNone (before after : Channels) : Prop :=
  ∃ told, after.journal = before.journal ++ told ∧ ∀ key,
    told.count (.pairRemoved key) = 0 ∧ (before.hasPair key = true → after.hasPair key = true)

/-- The former occupant of a side of the pair of a key, and the channels with another one seated. -/
def seat (channels : Channels) (key : Key) (side : Side) (id : ConnectionId) :
    Option ConnectionId × Channels :=
  let swapped := channels.pairs.amend channels.now key Pair.empty fun pair =>
    (pair.occupant side, pair.occupy side id)
  (swapped.result, { channels with pairs := swapped.registry })

/-- The eviction that seating a connection leads to: the state it starts from and who is closed. -/
def eviction? (channels : Channels) (key : Key) (side : Side) (id : ConnectionId) :
    Option (Channels × ConnectionId) :=
  let seated := channels.seat key side id
  (seated.1.filter fun former => former ≠ id ∧ seated.2.isActive former = true).map
    fun former => (seated.2, former)

/-- The outermost close that a move makes: the state it starts from and who is closed. -/
def outermost? (channels : Channels) : Move → Option (Channels × ConnectionId)
  | .close id => some (channels, id)
  | .joinClear key id => if channels.isActive id then channels.eviction? key .clear id else none
  | .joinEncrypted key id =>
    if channels.isSecure id && channels.isActive id then channels.eviction? key .encrypted id else none
  | _ => none

/-- What holds of the channels while nothing is closing. -/
structure Sound (channels : Channels) : Prop where
  permanent : channels.pairs.ttl = none
  watched : channels.WatchesPairs
  alive : ∀ key pair, channels.pair? key = some pair → pair.isAlive channels.isActive = true
  secured : ∀ key pair id, channels.pair? key = some pair → pair.encrypted = some id →
    channels.isSecure id = true

namespace Sound

theorem pairsLive {channels : Channels} (sound : channels.Sound) : channels.PairsLive := by
  refine ⟨fun key => ?_, sound.secured⟩
  rw [hasPair, isPairActive]
  cases stored : channels.pair? key with
  | none => rfl
  | some pair => exact (sound.alive key pair stored).symm

/-- Closing connections keeps the invariant as soon as no look at a pair is owed any more. -/
theorem closing {before after : Channels} (sound : before.Sound) (closing : Closing before after)
    (covered : after.Covered []) : after.Sound where
  permanent := closing.ttl.trans sound.permanent
  watched := by
    obtain ⟨watcher, member, looks⟩ := sound.watched
    exact ⟨watcher, closing.subscribers ▸ member, looks⟩
  alive key pair stored := (covered key pair stored).resolve_right nofun
  secured key pair id stored here := by
    obtain ⟨_, _, fates⟩ := closing.fates
    rw [closing.secure]
    cases fates key with
    | kept same _ => exact sound.secured key pair id (same.symm.trans stored) here
    | retired _ _ _ gone => exact nomatch gone.symm.trans stored

theorem quiet {before after : Channels} (sound : before.Sound) (quiet : Quiet before after) :
    after.Sound where
  permanent := quiet.pairs ▸ sound.permanent
  watched := quiet.watched sound.watched
  alive key pair stored :=
    isAlive_mono quiet.active (sound.alive key pair (by rwa [pair?, quiet.pairs] at stored))
  secured key pair id stored here :=
    quiet.secure id (sound.secured key pair id (by rwa [pair?, quiet.pairs] at stored) here)

variable {channels : Channels}

theorem covered_close (sound : channels.Sound) (id : ConnectionId) :
    (channels.close id).2.Covered [] :=
  covered_work sound.watched fun key pair stored => .inl (sound.alive key pair stored)

theorem close (sound : channels.Sound) (id : ConnectionId) : (channels.close id).2.Sound :=
  sound.closing (closing_work channels _) (sound.covered_close id)

/-- A close takes out the pairs that it leaves dead, and tells each of them once. -/
theorem removesDead_close (sound : channels.Sound) (id : ConnectionId) :
    RemovesDead channels (channels.close id).2 := by
  obtain ⟨told, journal, fates⟩ := (closing_work channels [.close id]).fates
  refine ⟨told, journal, fun key => ?_⟩
  cases fates key with
  | kept same untold =>
    cases stored : channels.pair? key with
    | none => exact ⟨same.trans stored, untold⟩
    | some pair =>
      have alive := (sound.close id).alive key pair (same.trans stored)
      simp only [alive, ↓reduceIte]
      exact ⟨same.trans stored, untold⟩
  | retired pair stored dead gone once =>
    have dead : pair.isAlive (channels.close id).2.isActive = false := dead
    simp only [stored, dead, Bool.false_eq_true, ↓reduceIte]
    exact ⟨gone, once⟩

theorem retire (sound : channels.Sound) (key : Key) : channels.retire key = channels := by
  obtain ⟨pair, stored, dead, -⟩ | ⟨-, same⟩ := retire_cases channels key
  · exact absurd (sound.alive key pair stored) (Bool.eq_false_iff.mp dead)
  · exact same

end Sound

theorem pair?_seat {channels : Channels} (permanent : channels.pairs.ttl = none) (key other : Key)
    (side : Side) (id : ConnectionId) :
    (channels.seat key side id).2.pair? other =
      if key = other then some (((channels.pair? key).getD Pair.empty).occupy side id)
      else channels.pair? other := by
  simp only [seat, pair?, Registry.amend_of_permanent permanent, Registry.stored?_store]

theorem pair?_seat_self {channels : Channels} (permanent : channels.pairs.ttl = none) (key : Key)
    (side : Side) (id : ConnectionId) :
    (channels.seat key side id).2.pair? key =
      some (((channels.pair? key).getD Pair.empty).occupy side id) := by
  rw [pair?_seat permanent, if_pos rfl]

/-- Seating a connection keeps what is stored under other keys and what occupies the other side. -/
theorem Sound.seat {channels : Channels} (sound : channels.Sound) (key : Key) (side : Side)
    {id : ConnectionId} (active : channels.isActive id = true)
    (secure : side = .encrypted → channels.isSecure id = true) :
    (channels.seat key side id).2.Sound where
  permanent := by
    simp only [Channels.seat, Registry.amend_of_permanent sound.permanent, Registry.ttl_store]
    exact sound.permanent
  watched := sound.watched
  alive other pair stored := by
    rw [pair?_seat sound.permanent] at stored
    split_ifs at stored with same
    · obtain rfl := Option.some.inj stored
      change Pair.isAlive channels.isActive _ = true
      cases side <;> simp [Pair.isAlive, Pair.isSideActive, Pair.occupant, Pair.occupy, active]
    · exact sound.alive other pair stored
  secured other pair occupant stored here := by
    change channels.isSecure occupant = true
    rw [pair?_seat sound.permanent] at stored
    split_ifs at stored with same
    · obtain rfl := Option.some.inj stored
      cases side with
      | encrypted => exact Option.some.inj here ▸ secure rfl
      | clear =>
        cases former : channels.pair? key with
        | none => simp [former, Pair.occupy, Pair.empty] at here
        | some pair =>
          refine sound.secured key pair occupant former ?_
          simpa [former, Pair.occupy] using here
    · exact sound.secured other pair occupant stored here

/-- The channels once the former occupant of a side has been evicted, if there is one to evict. -/
def afterEviction (channels : Channels) (key : Key) (side : Side) (id : ConnectionId) : Channels :=
  match channels.eviction? key side id with
  | none => (channels.seat key side id).2
  | some (start, former) => (start.close former).2

theorem closeFormer_seat (channels : Channels) (key : Key) (side : Side) (id : ConnectionId) :
    (channels.seat key side id).2.closeFormer (channels.seat key side id).1 id =
      channels.afterEviction key side id := by
  simp only [afterEviction, eviction?, closeFormer.eq_def]
  obtain ⟨former, seated⟩ := channels.seat key side id
  cases former with
  | none => rfl
  | some former =>
    by_cases evicted : former ≠ id ∧ seated.isActive former = true
    · simp [Option.filter, evicted]
    · simp [Option.filter, evicted]

/-- An eviction starts from the state in which the newcomer is seated. -/
theorem eviction?_start {channels start : Channels} {key : Key} {side : Side}
    {id former : ConnectionId} (evicts : channels.eviction? key side id = some (start, former)) :
    start = (channels.seat key side id).2 := by
  obtain ⟨_, _, same⟩ := Option.map_eq_some_iff.mp evicts
  exact (congrArg Prod.fst same).symm

/-- Joining a pair comes to seating the newcomer, evicting the former occupant and, should the newcomer
have been closed with it, one more look at the pair. -/
theorem join_of_active {channels : Channels} (key : Key) (side : Side) {id : ConnectionId}
    (active : channels.isActive id = true) :
    channels.join key side id = (.ok (),
      if (channels.afterEviction key side id).isActive id then channels.afterEviction key side id
      else (channels.afterEviction key side id).retire key) := by
  rw [join, if_pos active, ← closeFormer_seat]
  rfl

/-- From the state in which the newcomer is seated, joining a pair only closes connections. -/
theorem closing_join {channels : Channels} (key : Key) (side : Side) {id : ConnectionId}
    (active : channels.isActive id = true) :
    Closing (channels.seat key side id).2 (channels.join key side id).2 := by
  have evicting : Closing (channels.seat key side id).2 (channels.afterEviction key side id) := by
    rw [← closeFormer_seat]
    exact closing_closeFormer _ _ id
  rw [join_of_active key side active]
  simp only
  split_ifs
  · exact evicting
  · exact evicting.trans (closing_retire _ key)

/-- Where nothing is closing the last look finds nothing to do. -/
theorem Sound.join {channels : Channels} (sound : channels.Sound) (key : Key) (side : Side)
    {id : ConnectionId} (active : channels.isActive id = true)
    (secure : side = .encrypted → channels.isSecure id = true) :
    (channels.join key side id).2 = channels.afterEviction key side id ∧
      (channels.afterEviction key side id).Sound := by
  have seated := sound.seat key side active secure
  have settled : (channels.afterEviction key side id).Sound := by
    rw [afterEviction]
    cases evicts : channels.eviction? key side id with
    | none => exact seated
    | some eviction =>
      obtain ⟨start, former⟩ := eviction
      exact (eviction?_start evicts ▸ seated).close former
  rw [join_of_active key side active, settled.retire, ite_self]
  exact ⟨rfl, settled⟩

theorem Sound.perform {channels : Channels} (sound : channels.Sound) (move : Move) :
    (channels.perform move).Sound := by
  cases move with
  | close id => exact sound.close id
  | joinClear key id =>
    change (channels.join key .clear id).2.Sound
    cases active : channels.isActive id with
    | true =>
      obtain ⟨joined, settled⟩ := sound.join key .clear active nofun
      exact joined ▸ settled
    | false => simpa [Channels.join, active] using sound
  | joinEncrypted key id =>
    change (channels.joinEncrypted key id).2.Sound
    rw [joinEncrypted]
    split_ifs with secure
    · cases active : channels.isActive id with
      | true =>
        obtain ⟨joined, settled⟩ := sound.join key .encrypted active fun _ => secure
        exact joined ▸ settled
      | false => simpa [Channels.join, active] using sound
    · exact sound
  | _ => exact sound.quiet (quiet_perform channels rfl)

theorem Sound.run {channels : Channels} (sound : channels.Sound) (moves : List Move) :
    (channels.run moves).Sound := by
  induction moves generalizing channels with
  | nil => exact sound
  | cons move rest ih => exact ih (sound.perform move)

theorem RemovesNone.refl (channels : Channels) : RemovesNone channels channels :=
  ⟨[], (List.append_nil _).symm, fun _ => ⟨rfl, id⟩⟩

theorem Quiet.removesNone {before after : Channels} (quiet : Quiet before after) :
    RemovesNone before after := by
  obtain ⟨told, journal, untold⟩ := quiet.untold
  refine ⟨told, journal, ?_⟩
  intro key
  constructor
  · exact untold key
  · intro stored
    rwa [hasPair, pair?, quiet.pairs]

theorem removesNone_seat {channels : Channels} (permanent : channels.pairs.ttl = none) (key : Key)
    (side : Side) (id : ConnectionId) : RemovesNone channels (channels.seat key side id).2 := by
  refine ⟨[], (List.append_nil _).symm, ?_⟩
  intro other
  constructor
  · rfl
  · intro stored
    rw [hasPair, pair?_seat permanent]
    split_ifs
    · rfl
    · exact stored

/-- What is true of a move that makes an outermost close, and of one that makes none. -/
def Accounts (channels : Channels) (move : Move) : Prop :=
  match channels.outermost? move with
  | some (start, id) =>
    start.PairsLive ∧ RemovesNone channels start ∧ channels.perform move = (start.close id).2 ∧
      RemovesDead start (channels.perform move)
  | none => RemovesNone channels (channels.perform move)

theorem Sound.accounts_join {channels : Channels} (sound : channels.Sound) (key : Key) (side : Side)
    {id : ConnectionId} {move : Move} (active : channels.isActive id = true)
    (secure : side = .encrypted → channels.isSecure id = true)
    (joins : channels.perform move = (channels.join key side id).2)
    (outermost : channels.outermost? move = channels.eviction? key side id) :
    channels.Accounts move := by
  have seated := sound.seat key side active secure
  rw [Accounts, outermost, joins, (sound.join key side active secure).1, afterEviction]
  cases evicts : channels.eviction? key side id with
  | none => exact removesNone_seat sound.permanent key side id
  | some eviction =>
    obtain ⟨start, former⟩ := eviction
    obtain rfl := eviction?_start evicts
    exact ⟨seated.pairsLive, removesNone_seat sound.permanent key side id, rfl,
      seated.removesDead_close former⟩

theorem Sound.accounts {channels : Channels} (sound : channels.Sound) (move : Move) :
    channels.Accounts move := by
  cases move with
  | close id =>
    exact ⟨sound.pairsLive, .refl channels, rfl, sound.removesDead_close id⟩
  | joinClear key id =>
    cases active : channels.isActive id with
    | true =>
      exact sound.accounts_join key .clear active nofun rfl (by rw [outermost?, if_pos active])
    | false =>
      have refused : channels.perform (.joinClear key id) = channels := by
        simp [Channels.perform, joinClear, Channels.join, active]
      rw [Accounts, outermost?, if_neg (by simp [active]), refused]
      exact .refl channels
  | joinEncrypted key id =>
    cases secure : channels.isSecure id with
    | true =>
      cases active : channels.isActive id with
      | true =>
        exact sound.accounts_join key .encrypted active (fun _ => secure)
          (by rw [Channels.perform, joinEncrypted, if_pos secure])
          (by rw [outermost?, if_pos (by simp [active, secure])])
      | false =>
        have refused : channels.perform (.joinEncrypted key id) = channels := by
          simp [Channels.perform, joinEncrypted, Channels.join, active, secure]
        rw [Accounts, outermost?, if_neg (by simp [active]), refused]
        exact .refl channels
    | false =>
      have refused : channels.perform (.joinEncrypted key id) = channels := by
        simp [Channels.perform, joinEncrypted, secure]
      rw [Accounts, outermost?, if_neg (by simp [secure]), refused]
      exact .refl channels
  | _ => exact (quiet_perform channels rfl).removesNone

/-- Before anything happened there are no pairs. -/
theorem sound_initial {subscribers : List Subscriber}
    (watched : ∃ subscriber ∈ subscribers, subscriber.reaction = .retirePairs)
    (pendingTtl padSize : Nat) (entropy : Entropy) :
    (Channels.initial subscribers pendingTtl padSize entropy).Sound where
  permanent := rfl
  watched := watched
  alive _ _ stored := nomatch stored
  secured _ _ _ stored := nomatch stored

/-- In every run of channels whose pairs someone looks at, in whatever order the subscribers are told
and whatever else they close: between two moves, and between the seating of a newcomer and the
eviction that follows, a key has a pair exactly if the pair has an active side, and every encrypted
side is secure. The pairs that a move removes are those that its outermost close leaves dead; each of
them is told exactly once, within that close. A move without an outermost close removes nothing. -/
theorem pairs_live_with_their_channels (front back : List Subscriber) (label : String)
    (pendingTtl padSize : Nat) (entropy : Entropy) (moves : List Move) :
    let subscribers := front ++ ⟨label, .retirePairs⟩ :: back
    let channels := (Channels.initial subscribers pendingTtl padSize entropy).run moves
    channels.PairsLive ∧ ∀ move,
      match channels.outermost? move with
      | some (start, id) =>
        start.PairsLive ∧ RemovesNone channels start ∧ channels.perform move = (start.close id).2 ∧
          RemovesDead start (channels.perform move)
      | none => RemovesNone channels (channels.perform move) := by
  intro subscribers channels
  have watched : ∃ subscriber ∈ subscribers, subscriber.reaction = .retirePairs :=
    ⟨⟨label, .retirePairs⟩, List.mem_append_right _ List.mem_cons_self, rfl⟩
  have sound : channels.Sound := (sound_initial watched pendingTtl padSize entropy).run moves
  exact ⟨sound.pairsLive, sound.accounts⟩

end Gateway.Channels
