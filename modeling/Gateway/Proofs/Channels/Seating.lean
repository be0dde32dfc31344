import Gateway.Proofs.Channels.Cascade
import Gateway.Proofs.Channels.Liveness

/-! # Who sits where once a connection has joined a pair

A connection that may join a pair is seated first, and then the former occupant of the side is evicted,
which may take any other connection along: the newcomer, whoever sits across, and channels of other
pairs. When that is over, every pair is the one that there was when the newcomer had just been seated, or
it is gone because neither of its sides outlived the eviction. So the newcomer, if it is still active,
sits where it was seated and is found there, whoever sat across still does, and nobody sits anywhere
else than before.
-/

namespace Gateway

/-- The other side of a pair. -/
def Side.opposite : Side → Side
  | .clear => .encrypted
  | .encrypted => .clear

theorem Pair.occupant_occupy (pair : Pair) (side : Side) (id : ConnectionId) :
    (pair.occupy side id).occupant side = some id := by
  cases side <;> rfl

theorem Pair.occupant_occupy_opposite (pair : Pair) (side : Side) (id : ConnectionId) :
    (pair.occupy side id).occupant side.opposite = pair.occupant side.opposite := by
  cases side <;> rfl

/-- Who sits there already changes nothing by taking the seat again. -/
theorem Pair.occupy_of_occupant {pair : Pair} {side : Side} {id : ConnectionId}
    (here : pair.occupant side = some id) : pair.occupy side id = pair := by
  obtain ⟨clear, encrypted⟩ := pair
  cases side <;> cases here <;> rfl

theorem Pair.isAlive_of_occupant {isActive : ConnectionId → Bool} {pair : Pair} {side : Side}
    {id : ConnectionId} (here : pair.occupant side = some id) (active : isActive id = true) :
    pair.isAlive isActive = true := by
  cases side <;> simp [isAlive, isSideActive, here, active]

namespace Channels

/-- Puts a connection into a side of the pair of a key. -/
def joinSide (channels : Channels) (key : Key) (side : Side) (id : ConnectionId) :
    Except PairingError Unit × Channels :=
  match side with
  | .clear => channels.joinClear key id
  | .encrypted => channels.joinEncrypted key id

/-- Who sits on a side of the pair of a key, active or not. -/
def occupant? (channels : Channels) (key : Key) (side : Side) : Option ConnectionId :=
  (channels.pair? key).bind fun pair => pair.occupant side

variable {channels : Channels} {key : Key} {side : Side} {id : ConnectionId}

/-- A connection is refused the encrypted side if it is not secure, any side if it is not active, and is
put into the pair otherwise. -/
theorem joinSide_cases (channels : Channels) (key : Key) (side : Side) (id : ConnectionId) :
    (side = .encrypted ∧ channels.isSecure id = false ∧
      channels.joinSide key side id = (.error (.notEncrypted id), channels)) ∨
    ((side = .encrypted → channels.isSecure id = true) ∧ channels.isActive id = false ∧
      channels.joinSide key side id = (.error (.inactiveChannel id), channels)) ∨
    ((side = .encrypted → channels.isSecure id = true) ∧ channels.isActive id = true ∧
      channels.joinSide key side id = (.ok (), (channels.join key side id).2)) := by
  have joining : (channels.isActive id = false ∧
        channels.join key side id = (.error (.inactiveChannel id), channels)) ∨
      channels.isActive id = true ∧
        channels.join key side id = (.ok (), (channels.join key side id).2) := by
    cases active : channels.isActive id <;> simp [join, active]
  cases side with
  | clear =>
    have secure : Side.clear = .encrypted → channels.isSecure id = true := by simp
    exact .inr (joining.imp (⟨secure, ·⟩) (⟨secure, ·⟩))
  | encrypted =>
    cases secure : channels.isSecure id with
    | false =>
      refine .inl ⟨rfl, rfl, ?_⟩
      rw [joinSide, joinEncrypted, if_neg (by simp [secure])]
    | true =>
      rw [joinSide, joinEncrypted, if_pos secure]
      exact .inr (joining.imp (⟨fun _ => rfl, ·⟩) (⟨fun _ => rfl, ·⟩))

theorem joinSide_eq_error_iff (channels : Channels) (key : Key) (side : Side) (id : ConnectionId)
    (error : PairingError) :
    (channels.joinSide key side id).1 = .error error ↔
      error = .notEncrypted id ∧ side = .encrypted ∧ channels.isSecure id = false ∨
        error = .inactiveChannel id ∧ channels.isActive id = false ∧
          (side = .encrypted → channels.isSecure id = true) := by
  obtain ⟨encrypted, insecure, refused⟩ | ⟨secure, inactive, refused⟩ | ⟨secure, active, joined⟩ :=
    joinSide_cases channels key side id
  · rw [refused]
    constructor
    · rintro ⟨⟩
      exact .inl ⟨rfl, encrypted, insecure⟩
    · rintro (⟨rfl, -⟩ | ⟨-, -, secure⟩)
      · rfl
      · exact absurd (secure encrypted) (Bool.eq_false_iff.mp insecure)
  · rw [refused]
    constructor
    · rintro ⟨⟩
      exact .inr ⟨rfl, inactive, secure⟩
    · rintro (⟨-, encrypted, insecure⟩ | ⟨rfl, -⟩)
      · exact absurd (secure encrypted) (Bool.eq_false_iff.mp insecure)
      · rfl
  · rw [joined]
    constructor
    · nofun
    · rintro (⟨-, encrypted, insecure⟩ | ⟨-, inactive, -⟩)
      · exact absurd (secure encrypted) (Bool.eq_false_iff.mp insecure)
      · exact absurd active (Bool.eq_false_iff.mp inactive)

theorem occupant_getD_pair? (channels : Channels) (key : Key) (side : Side) :
    ((channels.pair? key).getD Pair.empty).occupant side = channels.occupant? key side := by
  rw [occupant?]
  cases channels.pair? key with
  | none => cases side <;> rfl
  | some pair => rfl

/-- The former occupant is evicted if it is another connection and still active. -/
theorem eviction?_eq (permanent : channels.pairs.ttl = none) (key : Key) (side : Side)
    (id : ConnectionId) :
    channels.eviction? key side id =
      ((channels.occupant? key side).filter fun former =>
        former ≠ id ∧ channels.isActive former = true).map fun former =>
          ((channels.seat key side id).2, former) := by
  have former : (channels.seat key side id).1 = channels.occupant? key side := by
    simp only [seat, Registry.amend_of_permanent permanent]
    exact occupant_getD_pair? channels key side
  rw [← former]
  rfl

namespace Sound

/-- What is left of the pairs, once the former occupant has been evicted, is what is alive of them. -/
theorem pair?_afterEviction (sound : channels.Sound) (active : channels.isActive id = true)
    (secure : side = .encrypted → channels.isSecure id = true) (key other : Key) :
    (channels.afterEviction key side id).pair? other =
      ((channels.seat key side id).2.pair? other).filter
        (Pair.isAlive (channels.afterEviction key side id).isActive) := by
  have seated := sound.seat key side active secure
  rw [afterEviction]
  cases evicts : channels.eviction? key side id with
  | none =>
    cases stored : (channels.seat key side id).2.pair? other with
    | none => rfl
    | some pair => exact (Option.filter_some_pos (seated.alive other pair stored)).symm
  | some eviction =>
    obtain ⟨start, former⟩ := eviction
    obtain rfl := eviction?_start evicts
    obtain ⟨_, -, removed⟩ := seated.removesDead_close former
    have fate := removed other
    cases stored : (channels.seat key side id).2.pair? other with
    | none =>
      rw [stored] at fate
      exact fate.1
    | some pair =>
      simp only [stored] at fate
      split_ifs at fate with alive
      · exact fate.1.trans (Option.filter_some_pos alive).symm
      · exact fate.1.trans (Option.filter_some_neg (Bool.eq_false_iff.mpr alive)).symm

/-- Whoever sat on the side before is active no more, unless it is the newcomer itself. -/
theorem evicted (sound : channels.Sound) {former : ConnectionId}
    (sat : channels.occupant? key side = some former) (distinct : former ≠ id) :
    (channels.afterEviction key side id).isActive former = false := by
  have evicts := eviction?_eq sound.permanent key side id
  rw [afterEviction, evicts, sat]
  cases alive : channels.isActive former with
  | true =>
    rw [Option.filter_some_pos (by simp [distinct, alive]), Option.map_some]
    exact isActive_close (channels.seat key side id).2 former
  | false =>
    rw [Option.filter_some_neg (by simp [alive]), Option.map_none]
    exact alive

end Sound

/-- Where everyone sits once a connection has joined a side of the pair of a key. -/
structure Seats (before : Channels) (key : Key) (side : Side) (id : ConnectionId) (after : Channels) :
    Prop where
  evicted : ∀ former, before.occupant? key side = some former → former ≠ id →
    after.isActive former = false
  /-- If the key still has a pair, the newcomer sits on its side, and whoever sat across still does. -/
  paired : ∀ pair, after.pair? key = some pair → pair.occupant side = some id ∧
    pair.occupant side.opposite = before.occupant? key side.opposite
  /-- The key still has a pair if the newcomer is still active. -/
  seated : after.isActive id = true → after.occupant? key side = some id
  listed : after.isActive id = true →
    ∃ found, after.keyBySide? side id = some found ∧ after.occupant? found side = some id
  /-- Another pair is as it was, or it was alive when the eviction began and dead when it was over. -/
  others : ∀ other, other ≠ key → after.pair? other = before.pair? other ∨
    after.pair? other = none ∧ ∃ pair start former, before.pair? other = some pair ∧
      before.eviction? key side id = some (start, former) ∧ after = (start.close former).2 ∧
        pair.isAlive start.isActive = true ∧ pair.isAlive after.isActive = false

/-- Whoever sits on a side of some pair is found there. -/
theorem exists_keyBySide? (sits : channels.occupant? key side = some id) :
    ∃ found, channels.keyBySide? side id = some found ∧ channels.occupant? found side = some id := by
  obtain ⟨pair, stored, here⟩ := Option.bind_eq_some_iff.mp sits
  obtain ⟨found, pair', first, stored', here'⟩ :=
    Registry.exists_firstKey? Key.le (fun pair => pair.occupant side = some id) stored
      (decide_eq_true here)
  refine ⟨found, first, ?_⟩
  exact Option.bind_eq_some_iff.mpr ⟨pair', stored', of_decide_eq_true here'⟩

/-- A pair of another key is lost only to an eviction: without one, everyone active still is, and so is
some occupant of the pair. -/
theorem Sound.pair?_elsewhere (sound : channels.Sound) {other : Key} (distinct : other ≠ key)
    (active : channels.isActive id = true)
    (secure : side = .encrypted → channels.isSecure id = true) :
    (channels.afterEviction key side id).pair? other = channels.pair? other ∨
      (channels.afterEviction key side id).pair? other = none ∧ ∃ pair start former,
        channels.pair? other = some pair ∧
          channels.eviction? key side id = some (start, former) ∧
            channels.afterEviction key side id = (start.close former).2 ∧
              pair.isAlive start.isActive = true ∧
                pair.isAlive (channels.afterEviction key side id).isActive = false := by
  rw [sound.pair?_afterEviction active secure key other, pair?_seat sound.permanent,
    if_neg distinct.symm]
  cases stored : channels.pair? other with
  | none => exact .inl rfl
  | some pair =>
    cases alive : pair.isAlive (channels.afterEviction key side id).isActive with
    | true => exact .inl (Option.filter_some_pos alive)
    | false =>
      have lived := sound.alive other pair stored
      refine .inr ⟨Option.filter_some_neg alive, pair, ?_⟩
      -- The pair was alive before and is not any more, so someone has been closed in between.
      rw [afterEviction] at alive ⊢
      cases evicts : channels.eviction? key side id with
      | none =>
        rw [evicts] at alive
        exact absurd lived (Bool.eq_false_iff.mp alive)
      | some eviction =>
        obtain ⟨start, former⟩ := eviction
        obtain rfl := eviction?_start evicts
        rw [evicts] at alive
        exact ⟨_, former, rfl, rfl, rfl, lived, alive⟩

theorem Sound.seats (sound : channels.Sound) (key : Key) (active : channels.isActive id = true)
    (secure : side = .encrypted → channels.isSecure id = true) :
    channels.Seats key side id (channels.afterEviction key side id) := by
  have left := sound.pair?_afterEviction active secure key key
  rw [pair?_seat_self sound.permanent] at left
  have seated : (channels.afterEviction key side id).isActive id = true →
      (channels.afterEviction key side id).occupant? key side = some id := by
    intro still
    have here := Pair.occupant_occupy ((channels.pair? key).getD Pair.empty) side id
    rw [occupant?, left, Option.filter_some_pos (Pair.isAlive_of_occupant here still)]
    exact here
  constructor
  case evicted => exact fun former sat distinct => sound.evicted sat distinct
  case paired =>
    intro pair stored
    obtain ⟨same, -⟩ := Option.filter_eq_some_iff.mp (left.symm.trans stored)
    obtain rfl := Option.some.inj same
    rw [Pair.occupant_occupy, Pair.occupant_occupy_opposite, occupant_getD_pair?]
    exact ⟨rfl, rfl⟩
  case seated => exact seated
  case listed => exact fun still => exists_keyBySide? (seated still)
  case others => exact fun other distinct => sound.pair?_elsewhere distinct active secure

/-- In every run of channels whose pairs someone looks at, in whatever order the subscribers are told
and whatever else they close: a connection is refused a side of a pair exactly if the side is the
encrypted one and the connection is not secure, or else if the connection is not active, and then
nothing has changed. Any other connection is seated: the former occupant of the side is closed, the
newcomer sits there and is found unless it was closed along with it, whoever sat across still does if
there still is a pair, and no other pair has changed, except that those are gone which the eviction has
left without an active channel. -/
theorem joining_seats_the_newcomer (front back : List Subscriber) (label : String)
    (pendingTtl padSize : Nat) (entropy : Entropy) (moves : List Move) (key : Key) (side : Side)
    (id : ConnectionId) :
    let subscribers := front ++ ⟨label, .retirePairs⟩ :: back
    let before := (Channels.initial subscribers pendingTtl padSize entropy).run moves
    let joined := before.joinSide key side id
    (∀ error, joined.1 = .error error ↔
        error = .notEncrypted id ∧ side = .encrypted ∧ before.isSecure id = false ∨
          error = .inactiveChannel id ∧ before.isActive id = false ∧
            (side = .encrypted → before.isSecure id = true)) ∧
      (joined.1 ≠ .ok () → joined.2 = before) ∧
        (joined.1 = .ok () → before.Seats key side id joined.2) := by
  intro subscribers before joined
  have watched : ∃ subscriber ∈ subscribers, subscriber.reaction = .retirePairs :=
    ⟨⟨label, .retirePairs⟩, List.mem_append_right _ List.mem_cons_self, rfl⟩
  have sound : before.Sound := (sound_initial watched pendingTtl padSize entropy).run moves
  refine ⟨joinSide_eq_error_iff before key side id, ?_, ?_⟩
  · intro refused
    obtain ⟨-, -, same⟩ | ⟨-, -, same⟩ | ⟨-, -, seated⟩ := joinSide_cases before key side id
    · exact congrArg Prod.snd same
    · exact congrArg Prod.snd same
    · exact absurd (congrArg Prod.fst seated) refused
  · intro answer
    obtain ⟨-, -, refused⟩ | ⟨-, -, refused⟩ | ⟨secure, active, seated⟩ :=
      joinSide_cases before key side id
    · exact nomatch answer.symm.trans (congrArg Prod.fst refused)
    · exact nomatch answer.symm.trans (congrArg Prod.fst refused)
    · have settled : joined.2 = before.afterEviction key side id :=
        (congrArg Prod.snd seated).trans (sound.join key side active secure).1
      rw [settled]
      exact sound.seats key active secure

end Channels

end Gateway
