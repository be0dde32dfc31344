import Gateway.Channels.Pairing
import Gateway.Proofs.Registry

/-! # What closing connections does to pairs

While connections close, activity only fades, and the pair of a key either stays as it is, untold, or
goes for good, told once, when neither of its sides is active any more. `Closing` says so of two
states, is kept by each task of an agenda and composes, so it holds of a whole agenda. That a dead
pair does go is the other half. It is false in the middle of a close, where the activity of a
connection is gone before its pairs are looked at, so `Covered` allows a dead pair as long as the
agenda still holds a delivery, for one of its occupants, to the subscriber that looks at pairs.
-/

namespace Gateway.Channels

open CloseTask

theorem connection?_deactivate (channels : Channels) (id other : ConnectionId) :
    (channels.deactivate id).connection? other =
      if other = id then (channels.connection? other).map Connection.deactivated
      else channels.connection? other :=
  Table.get?_modify ..

theorem isActive_deactivate (channels : Channels) (id other : ConnectionId) :
    (channels.deactivate id).isActive other = (!decide (other = id) && channels.isActive other) := by
  simp only [isActive, connection?_deactivate]
  by_cases same : other = id
  · subst same
    cases channels.connection? other <;> simp
  · simp [same]

/-- A pair that some side keeps alive is alive wherever at least as much is active. -/
theorem isAlive_mono {before after : Channels} {pair : Pair}
    (fades : ∀ id, after.isActive id = true → before.isActive id = true)
    (alive : pair.isAlive after.isActive = true) : pair.isAlive before.isActive = true := by
  obtain ⟨clear, encrypted⟩ := pair
  simp only [Pair.isAlive, Pair.isSideActive, Pair.occupant, Bool.or_eq_true, Option.any_eq_true]
    at alive ⊢
  exact alive.imp (fun ⟨id, here, active⟩ => ⟨id, here, fades id active⟩)
    (fun ⟨id, here, active⟩ => ⟨id, here, fades id active⟩)

/-- A pair dies only with one of its occupants. -/
theorem holds_of_isAlive_deactivate {channels : Channels} {pair : Pair} {id : ConnectionId}
    (alive : pair.isAlive channels.isActive = true)
    (dead : pair.isAlive (channels.deactivate id).isActive = false) : pair.holds id = true := by
  obtain ⟨clear, encrypted⟩ := pair
  simp only [Pair.isAlive, Pair.isSideActive, Pair.occupant, Pair.holds, Bool.or_eq_true,
    Bool.or_eq_false_iff, Option.any_eq_true, Option.any_eq_false, isActive_deactivate,
    decide_eq_true_eq] at alive dead ⊢
  rcases alive with ⟨other, here, active⟩ | ⟨other, here, active⟩
  · have same : other = id := by simpa [active] using dead.1 other here
    exact .inl (same ▸ here)
  · have same : other = id := by simpa [active] using dead.2 other here
    exact .inr (same ▸ here)

/-- What becomes of the pair of a key while connections close, given what was told meanwhile. -/
inductive Fate (before after : Channels) (told : List Notice) (key : Key) : Prop where
  /-- The pair stays, or there was none, and nobody hears of it. -/
  | kept (same : after.pair? key = before.pair? key) (untold : told.count (.pairRemoved key) = 0)
  /-- The pair goes with neither side active, and that is told once. -/
  | retired (pair : Pair) (stored : before.pair? key = some pair)
      (dead : pair.isAlive after.isActive = false) (gone : after.pair? key = none)
      (once : told.count (.pairRemoved key) = 1)

/-- How a state comes from another one by closing connections. -/
structure Closing (before after : Channels) : Prop where
  subscribers : after.subscribers = before.subscribers
  ttl : after.pairs.ttl = before.pairs.ttl
  fades : ∀ id, after.isActive id = true → before.isActive id = true
  known : ∀ id, (after.connection? id).map Connection.info = (before.connection? id).map Connection.info
  fates : ∃ told, after.journal = before.journal ++ told ∧ ∀ key, Fate before after told key

theorem isSecure_eq (channels : Channels) (id : ConnectionId) :
    channels.isSecure id = ((channels.connection? id).map Connection.info).any ConnectionInfo.secure := by
  rw [isSecure, Option.any_map]

namespace Closing

theorem secure {before after : Channels} (closing : Closing before after) (id : ConnectionId) :
    after.isSecure id = before.isSecure id := by
  rw [isSecure_eq, isSecure_eq, closing.known]

/-- A state that differs in its journal alone, where nothing is told of pairs. -/
theorem of_told (channels : Channels) {told : List Notice}
    (untold : ∀ key, told.count (.pairRemoved key) = 0) : Closing channels (channels.announce told) where
  subscribers := rfl
  ttl := rfl
  fades _ active := active
  known _ := rfl
  fates := ⟨told, rfl, fun key => .kept rfl (untold key)⟩

theorem refl (channels : Channels) : Closing channels channels where
  subscribers := rfl
  ttl := rfl
  fades _ active := active
  known _ := rfl
  fates := ⟨[], (List.append_nil _).symm, fun _ => .kept rfl rfl⟩

/-- Fates compose: a pair that has gone stays gone, and what is dead stays dead. -/
theorem trans {first second third : Channels} (one : Closing first second)
    (two : Closing second third) : Closing first third where
  subscribers := two.subscribers.trans one.subscribers
  ttl := two.ttl.trans one.ttl
  fades id active := one.fades id (two.fades id active)
  known id := (two.known id).trans (one.known id)
  fates := by
    obtain ⟨told, journal, fates⟩ := one.fates
    obtain ⟨later, journal', fates'⟩ := two.fates
    refine ⟨told ++ later, by rw [journal', journal, List.append_assoc], ?_⟩
    intro key
    have total : (told ++ later).count (Notice.pairRemoved key) =
        told.count (.pairRemoved key) + later.count (.pairRemoved key) := List.count_append
    cases fates key with
    | kept same untold =>
      cases fates' key with
      | kept same' untold' => exact .kept (same'.trans same) (by omega)
      | retired pair stored dead gone once =>
        exact .retired pair (same.symm.trans stored) dead gone (by omega)
    | retired pair stored dead gone once =>
      cases fates' key with
      | kept same' untold' =>
        have dead' : pair.isAlive third.isActive = false := by
          rw [Bool.eq_false_iff] at dead ⊢
          intro alive
          exact dead (isAlive_mono two.fades alive)
        exact .retired pair stored dead' (same'.trans gone) (by omega)
      | retired other stored' => exact nomatch gone.symm.trans stored'

end Closing

theorem work_ignore {subscriber : Subscriber} (ignores : subscriber.reaction = .ignore)
    (channels : Channels) (id : ConnectionId) (rest : List CloseTask) :
    channels.work (.deliver subscriber id :: rest) =
      (channels.announce [.closed subscriber.label id]).work rest := by
  rw [work]
  split <;> simp_all

theorem work_close {subscriber : Subscriber} {targets : ConnectionId → List ConnectionId}
    (closes : subscriber.reaction = .close targets) (channels : Channels) (id : ConnectionId)
    (rest : List CloseTask) :
    channels.work (.deliver subscriber id :: rest) =
      (channels.announce [.closed subscriber.label id]).work ((targets id).map .close ++ rest) := by
  rw [work]
  split <;> simp_all

theorem work_retirePairs {subscriber : Subscriber} (looks : subscriber.reaction = .retirePairs)
    (channels : Channels) (id : ConnectionId) (rest : List CloseTask) :
    channels.work (.deliver subscriber id :: rest) =
      ((channels.announce [.closed subscriber.label id]).retirePairsOf id).work rest := by
  rw [work]
  split <;> simp_all

theorem closing_deactivate (channels : Channels) (id : ConnectionId) :
    Closing channels (channels.deactivate id) where
  subscribers := rfl
  ttl := rfl
  fades other active := by
    rw [isActive_deactivate, Bool.and_eq_true] at active
    exact active.2
  known other := by
    rw [connection?_deactivate]
    split_ifs
    · rw [Option.map_map]; rfl
    · rfl
  fates := ⟨[], (List.append_nil _).symm, fun _ => .kept rfl rfl⟩

theorem closing_told (channels : Channels) (subscriber : String) (id : ConnectionId) :
    Closing channels (channels.announce [.closed subscriber id]) :=
  .of_told channels fun key => by simp

/-- The channels without the pair of a key and its pads, which has been told. -/
def unpair (channels : Channels) (key : Key) : Channels :=
  { channels with
    pairs := channels.pairs.drop key
    pads := channels.pads.revoke channels.now key }.announce [.pairRemoved key]

@[simp] theorem pair?_unpair (channels : Channels) (key other : Key) :
    (channels.unpair key).pair? other = if key = other then none else channels.pair? other :=
  Registry.stored?_drop ..

/-- Looking at the pair of a key takes it out if it is dead and does nothing otherwise. -/
theorem retire_cases (channels : Channels) (key : Key) :
    (∃ pair, channels.pair? key = some pair ∧ pair.isAlive channels.isActive = false ∧
      channels.retire key = channels.unpair key) ∨
    (∀ pair, channels.pair? key = some pair → pair.isAlive channels.isActive = true) ∧
      channels.retire key = channels := by
  simp only [pair?, retire, Registry.removeWhen]
  cases stored : channels.pairs.stored? key with
  | none => exact .inr ⟨by simp, rfl⟩
  | some pair =>
    cases alive : pair.isAlive channels.isActive with
    | false => exact .inl ⟨pair, rfl, alive, by simp [alive, unpair]⟩
    | true => exact .inr ⟨fun other present => Option.some.inj present ▸ alive, by simp [alive]⟩

theorem closing_retire (channels : Channels) (key : Key) : Closing channels (channels.retire key) := by
  obtain ⟨pair, stored, dead, retired⟩ | ⟨-, same⟩ := retire_cases channels key
  · rw [retired]
    constructor
    case subscribers => rfl
    case ttl => rfl
    case fades => exact fun _ active => active
    case known => exact fun _ => rfl
    case fates =>
      refine ⟨[.pairRemoved key], rfl, ?_⟩
      intro other
      by_cases this : key = other
      · subst this
        exact .retired pair stored dead (by simp) (by simp)
      · exact .kept (by simp [this]) (by simp [this])
  · rw [same]
    exact .refl channels

theorem closing_retireAll (keys : List Key) (channels : Channels) :
    Closing channels (keys.foldl retire channels) := by
  induction keys generalizing channels with
  | nil => exact .refl channels
  | cons key rest ih => exact (closing_retire channels key).trans (ih (channels.retire key))

theorem closing_retirePairsOf (channels : Channels) (id : ConnectionId) :
    Closing channels (channels.retirePairsOf id) := closing_retireAll _ channels

/-- Working off an agenda closes connections and does nothing else. -/
theorem closing_work (channels : Channels) (agenda : List CloseTask) :
    Closing channels (channels.work agenda) := by
  fun_induction work channels agenda with
  | case1 channels => exact .refl channels
  | case2 channels id rest _ ih => exact (closing_deactivate channels id).trans ih
  | case3 channels id rest _ ih => exact ih
  | case4 channels subscriber id rest told _ ih =>
    exact (closing_told channels subscriber.label id).trans ih
  | case5 channels subscriber id rest told targets _ ih =>
    exact (closing_told channels subscriber.label id).trans ih
  | case6 channels subscriber id rest told _ ih =>
    exact (closing_told channels subscriber.label id).trans ((closing_retirePairsOf told id).trans ih)

theorem closing_closeFormer (channels : Channels) (former : Option ConnectionId)
    (id : ConnectionId) : Closing channels (channels.closeFormer former id) := by
  cases former with
  | none => exact .refl channels
  | some former =>
    simp only [closeFormer]
    split_ifs
    · exact closing_work channels [.close former]
    · exact .refl channels

/-- Whoever subscribes looks at pairs. -/
def WatchesPairs (channels : Channels) : Prop :=
  ∃ subscriber ∈ channels.subscribers, subscriber.reaction = .retirePairs

/-- Every pair is alive, or the agenda still holds a look at it. -/
def Covered (channels : Channels) (agenda : List CloseTask) : Prop :=
  ∀ key pair, channels.pair? key = some pair →
    pair.isAlive channels.isActive = true ∨
      ∃ subscriber id, .deliver subscriber id ∈ agenda ∧ subscriber.reaction = .retirePairs ∧
        pair.holds id = true

@[simp] theorem isActive_retireAll (keys : List Key) (channels : Channels) :
    (keys.foldl retire channels).isActive = channels.isActive := by
  induction keys generalizing channels with
  | nil => rfl
  | cons key rest ih =>
    rw [List.foldl_cons, ih]
    funext id
    simp only [isActive, connection?, connections_retire]

/-- After some pairs have been looked at, those of them that are left are alive. -/
theorem isAlive_of_retireAll {keys : List Key} {channels : Channels} {key : Key} {pair : Pair}
    (member : key ∈ keys) (stored : (keys.foldl retire channels).pair? key = some pair) :
    pair.isAlive channels.isActive = true := by
  induction keys generalizing channels with
  | nil => cases member
  | cons first rest ih =>
    rw [List.foldl_cons] at stored
    have active : (channels.retire first).isActive = channels.isActive :=
      isActive_retireAll [first] channels
    by_cases later : key ∈ rest
    · exact active ▸ ih later stored
    · have same : key = first := (List.mem_cons.mp member).resolve_right later
      subst same
      obtain ⟨_, _, fates⟩ := (closing_retireAll rest (channels.retire key)).fates
      cases fates key with
      | kept kept _ =>
        rw [kept] at stored
        obtain ⟨gone, -, -, retired⟩ | ⟨alive, same⟩ := retire_cases channels key
        · rw [retired, pair?_unpair, if_pos rfl] at stored
          cases stored
        · rw [same] at stored
          exact alive pair stored
      | retired _ _ _ gone => exact nomatch gone.symm.trans stored

namespace Covered

variable {channels : Channels} {rest : List CloseTask}

/-- A task that is no look at pairs leaves every pair covered, whatever it asks for. -/
theorem drop {task : CloseTask} (covered : Covered channels (task :: rest))
    (blind : ∀ subscriber id, task = .deliver subscriber id → subscriber.reaction ≠ .retirePairs)
    (told : List Notice) (more : List CloseTask) :
    Covered (channels.announce told) (more ++ rest) := by
  intro key pair stored
  obtain alive | ⟨subscriber, id, member, looks, holds⟩ := covered key pair stored
  · exact .inl alive
  · have later : .deliver subscriber id ∈ rest :=
      (List.mem_cons.mp member).resolve_left fun same => blind subscriber id same.symm looks
    exact .inr ⟨subscriber, id, List.mem_append_right _ later, looks, holds⟩

/-- A pair that dies with a connection is covered by the deliveries that the connection owes. -/
theorem deactivate {id : ConnectionId} (watched : channels.WatchesPairs)
    (covered : Covered channels (.close id :: rest)) :
    Covered (channels.deactivate id) (deliveries channels.subscribers id ++ rest) := by
  intro key pair stored
  cases alive : pair.isAlive (channels.deactivate id).isActive with
  | true => exact .inl rfl
  | false =>
    refine .inr ?_
    obtain before | ⟨subscriber, other, member, looks, holds⟩ := covered key pair stored
    · obtain ⟨subscriber, member, looks⟩ := watched
      exact ⟨subscriber, id, List.mem_append_left _ (List.mem_map_of_mem member), looks,
        holds_of_isAlive_deactivate before alive⟩
    · have later : .deliver subscriber other ∈ rest :=
        (List.mem_cons.mp member).resolve_left nofun
      exact ⟨subscriber, other, List.mem_append_right _ later, looks, holds⟩

/-- Once the pairs of a connection have been looked at, none of them needs that look any more. -/
theorem look {subscriber : Subscriber} {id : ConnectionId}
    (covered : Covered channels (.deliver subscriber id :: rest)) (told : List Notice) :
    Covered ((channels.announce told).retirePairsOf id) rest := by
  intro key pair stored
  rw [retirePairsOf, isActive_retireAll]
  obtain ⟨_, _, fates⟩ := (closing_retirePairsOf (channels.announce told) id).fates
  cases fates key with
  | retired _ _ _ gone => exact nomatch gone.symm.trans stored
  | kept same _ =>
    obtain alive | ⟨other, here, member, looks, holds⟩ := covered key pair (same.symm.trans stored)
    · exact .inl alive
    · obtain now | later := List.mem_cons.mp member
      · cases now
        exact .inl (isAlive_of_retireAll
          (Registry.mem_keysMatching.mpr ⟨pair, same.symm.trans stored, holds⟩) stored)
      · exact .inr ⟨other, here, later, looks, holds⟩

end Covered

/-- Nothing is covered by a look any more once the agenda has been worked off. -/
theorem covered_work {channels : Channels} {agenda : List CloseTask} (watched : channels.WatchesPairs)
    (covered : Covered channels agenda) : Covered (channels.work agenda) [] := by
  fun_induction work channels agenda with
  | case1 channels => exact covered
  | case2 channels id rest _ ih => exact ih watched (covered.deactivate watched)
  | case3 channels id rest _ ih => exact ih watched (covered.drop nofun [] [])
  | case4 channels subscriber id rest told ignores ih =>
    refine ih watched (covered.drop ?_ _ [])
    rintro _ _ ⟨⟩ looks
    exact nomatch ignores.symm.trans looks
  | case5 channels subscriber id rest told targets closes ih =>
    refine ih watched (covered.drop ?_ _ _)
    rintro _ _ ⟨⟩ looks
    exact nomatch closes.symm.trans looks
  | case6 channels subscriber id rest told _ ih =>
    refine ih ?_ (covered.look _)
    obtain ⟨watcher, member, looks⟩ := watched
    exact ⟨watcher, (closing_retirePairsOf told id).subscribers ▸ member, looks⟩

end Gateway.Channels
