import Gateway.Proofs.Registry.Run

/-! # Registries as timed maps

What a registry does with expiry is spread over its operations and its sweeps: an expired entry stays
stored until something evicts it. A *timed map* is what this comes to for whoever asks. It never evicts
or sweeps; an entry counts as absent exactly if it was last touched longer ago than the time to live,
and only what succeeds in storing or finding a value touches it. Main statement: a registry replies as
the timed map of its entries does, wherever sweeps are run.
-/

namespace Gateway

/-- A map whose values are absent once they have gone untouched for longer than the time to live. -/
structure TimedMap (K : Type u) (V : Type v) where
  ttl : Option Nat
  entries : K → Option (Entry V)

namespace TimedMap

variable {K : Type u} {V : Type v} {R : Type w}

/-- The map of the entries of a registry. -/
def ofRegistry [DecidableEq K] (registry : Registry K V) : TimedMap K V :=
  ⟨registry.ttl, registry.entries.get?⟩

/-- Whether an entry was touched within the time to live. -/
def isPresent (map : TimedMap K V) (now : Nat) (entry : Entry V) : Bool :=
  map.ttl.all fun ttl => decide (now - entry.touched ≤ ttl)

/-- The entry of a key that is present. -/
def present? (map : TimedMap K V) (now : Nat) (key : K) : Option (Entry V) :=
  (map.entries key).filter (map.isPresent now)

/-- The value of a key. -/
def value? (map : TimedMap K V) (now : Nat) (key : K) : Option V :=
  (map.present? now key).map Entry.value

variable [DecidableEq K]

/-- The map with a value for a key, touched now. -/
def set (map : TimedMap K V) (now : Nat) (key : K) (value : V) : TimedMap K V :=
  { map with entries := fun other => if key = other then some ⟨value, now⟩ else map.entries other }

/-- The map without a key. -/
def unset (map : TimedMap K V) (key : K) : TimedMap K V :=
  { map with entries := fun other => if key = other then none else map.entries other }

/-- The map with the value of a key, if it has one, touched now. -/
def refresh (map : TimedMap K V) (now : Nat) (key : K) : TimedMap K V :=
  match map.value? now key with
  | some value => map.set now key value
  | none => map

/-- What a factory makes, touching what it reads. -/
def make (now : Nat) : Factory K V → TimedMap K V → V × TimedMap K V
  | .give value, map => (value, map)
  | .read key next, map => make now (next (map.value? now key)) (map.refresh now key)

/-- The reply to an event, and the map after it. -/
def answer (map : TimedMap K V) (now : Nat) :
    Registry.Event K V R → Option (Registry.Reply V R) × TimedMap K V
  | .put key value => (none, map.set now key value)
  | .get key => (some (.value (map.value? now key)), map.refresh now key)
  | .getOrMake key factory =>
    match map.value? now key with
    | some value => (some (.made value false), map.refresh now key)
    | none =>
      let (value, after) := make now factory map
      (some (.made value true), after.set now key value)
  | .amend key initial change =>
    let (result, value) := change ((map.value? now key).getD initial)
    (some (.amended result), map.set now key value)
  | .remove key => (some (.value (map.value? now key)), map.unset key)
  | .removeWhen key accepts =>
    (none, if (map.value? now key).any accepts then map.unset key else map)
  | .contains key => (some (.flag (map.value? now key).isSome), map)
  | .renew key => (some (.flag (map.value? now key).isSome), map.refresh now key)
  | .search _ _ | .sweep | .elapse _ => (none, map)

/-- The replies to the events of a run that have one. -/
def replies (map : TimedMap K V) (now : Nat) :
    List (Registry.Event K V R) → List (Registry.Reply V R)
  | [] => []
  | event :: rest =>
    (map.answer now event).1.toList ++
      (map.answer now event).2.replies (now + event.duration) rest

omit [DecidableEq K] in
theorem isPresent_touched (map : TimedMap K V) (now : Nat) (value : V) :
    map.isPresent now ⟨value, now⟩ = true := by
  rw [isPresent]
  cases map.ttl with
  | none => rfl
  | some ttl => simp

theorem present?_set (map : TimedMap K V) (now : Nat) (key other : K) (value : V) :
    (map.set now key value).present? now other =
      if key = other then some ⟨value, now⟩ else map.present? now other := by
  simp only [present?, set]
  split_ifs
  · exact Option.filter_some_pos (map.isPresent_touched now value)
  · rfl

theorem present?_unset (map : TimedMap K V) (now : Nat) (key other : K) :
    (map.unset key).present? now other = if key = other then none else map.present? now other := by
  simp only [present?, unset]
  split_ifs <;> rfl

end TimedMap

namespace Registry

variable {K : Type u} {V : Type v} {R : Type w} [DecidableEq K]

/-- Whether a registry and a map have the same entries at a time, except for expired ones. -/
structure Shows (now : Nat) (registry : Registry K V) (map : TimedMap K V) : Prop where
  ttl : map.ttl = registry.ttl
  entries : ∀ key, map.present? now key = registry.fresh? now key

omit [DecidableEq K] in
/-- Present is what has not expired. -/
theorem isPresent_eq {registry : Registry K V} {map : TimedMap K V} (ttl : map.ttl = registry.ttl)
    (now : Nat) (entry : Entry V) : map.isPresent now entry = !registry.isStale now entry := by
  rw [TimedMap.isPresent, isStale, ttl]
  cases registry.ttl with
  | none => rfl
  | some ttl =>
    simp only [Option.all_some, Entry.isExpired, ← decide_not, Nat.not_lt]

omit [DecidableEq K] in
/-- What is present in a map with the registry's time to live. -/
theorem present?_eq {registry : Registry K V} {map : TimedMap K V} (ttl : map.ttl = registry.ttl)
    (now : Nat) (key : K) :
    map.present? now key = (map.entries key).filter fun entry => !registry.isStale now entry := by
  rw [TimedMap.present?, funext (isPresent_eq ttl now)]

theorem shows_ofRegistry (registry : Registry K V) (now : Nat) :
    registry.Shows now (.ofRegistry registry) where
  ttl := rfl
  entries key := present?_eq rfl now key

namespace Shows

variable {now : Nat} {registry : Registry K V} {map : TimedMap K V}

theorem value? (shown : registry.Shows now map) (key : K) :
    map.value? now key = (registry.fresh? now key).map Entry.value := by
  rw [TimedMap.value?, shown.entries]

/-! Evictions and sweeps are no business of the map, nor is the time that passes. -/

theorem evict (shown : registry.Shows now map) (key : K) :
    (registry.evict now key).registry.Shows now map where
  ttl := shown.ttl.trans (ttl_evict ..).symm
  entries other := (shown.entries other).trans (fresh?_evict ..).symm

theorem sweep (shown : registry.Shows now map) : (registry.sweep now).registry.Shows now map where
  ttl := shown.ttl
  entries key := (shown.entries key).trans (fresh?_sweep ..).symm

theorem later (shown : registry.Shows now map) (nanoseconds : Nat) :
    registry.Shows (now + nanoseconds) map where
  ttl := shown.ttl
  entries key := by
    have order := Nat.le_add_right now nanoseconds
    rw [present?_eq shown.ttl, fresh?_later registry order, ← shown.entries, present?_eq shown.ttl,
      filter_later registry order]

/-! What is stored, dropped or touched in the registry is set or unset in the map. -/

theorem store (shown : registry.Shows now map) (key : K) (value : V) :
    (registry.store now key value).Shows now (map.set now key value) where
  ttl := shown.ttl
  entries other := by rw [fresh?_store, TimedMap.present?_set, shown.entries]

theorem drop (shown : registry.Shows now map) (key : K) :
    (registry.drop key).Shows now (map.unset key) where
  ttl := shown.ttl
  entries other := by rw [fresh?_drop, TimedMap.present?_unset, shown.entries]

theorem touch (shown : registry.Shows now map) {key : K} {entry : Entry V}
    (fresh : registry.fresh? now key = some entry) :
    (registry.touch now key).Shows now (map.set now key entry.value) where
  ttl := shown.ttl
  entries other := by rw [fresh?_touch fresh, TimedMap.present?_set, shown.entries]

theorem get (shown : registry.Shows now map) (key : K) :
    (registry.get now key).result = map.value? now key ∧
      (registry.get now key).registry.Shows now (map.refresh now key) := by
  refine ⟨(result_get registry now key).trans (shown.value? key).symm, ?_⟩
  have evicted := shown.evict key
  have value := shown.value? key
  have stored := stored?_evict_self registry now key
  have same := fresh?_evict registry now key key
  rw [Registry.get, TimedMap.refresh, value, stored]
  cases fresh : registry.fresh? now key with
  | none => exact evicted
  | some entry => exact evicted.touch (same.trans fresh)

theorem make (shown : registry.Shows now map) (factory : Factory K V) :
    (Registry.make now factory registry).result = (map.make now factory).1 ∧
      (Registry.make now factory registry).registry.Shows now (map.make now factory).2 := by
  induction factory generalizing registry map with
  | give value => exact ⟨rfl, shown⟩
  | read key next ih =>
    obtain ⟨result, looked⟩ := shown.get key
    rw [Registry.make, TimedMap.make, ← result]
    exact ih _ looked

theorem getOrMake (shown : registry.Shows now map) (key : K) (factory : Factory K V) :
    let step := registry.getOrMake now key factory
    let answer := map.answer now (.getOrMake key factory : Event K V R)
    some (.made step.result.1 step.result.2) = answer.1 ∧ step.registry.Shows now answer.2 := by
  intro step answer
  obtain ⟨result, looked⟩ := shown.get key
  cases found : map.value? now key with
  | some value =>
    have same := getOrMake_of_found (result.trans found) factory
    simp only [step, answer, same, TimedMap.answer, found]
    exact ⟨trivial, looked⟩
  | none =>
    obtain ⟨same, -⟩ := getOrMake_of_missed (result.trans found) factory
    have unrefreshed : map.refresh now key = map := by rw [TimedMap.refresh, found]
    rw [unrefreshed] at looked
    obtain ⟨result, made⟩ := looked.make factory
    simp only [step, answer, same, TimedMap.answer, found, result]
    exact ⟨trivial, made.store key _⟩

theorem amend (shown : registry.Shows now map) (key : K) (initial : V) (change : V → R × V) :
    let step := registry.amend now key initial change
    let answer := map.answer now (.amend key initial change : Event K V R)
    some (.amended step.result) = answer.1 ∧ step.registry.Shows now answer.2 := by
  intro step answer
  simp only [step, answer, Registry.amend, TimedMap.answer, stored?_evict_self, shown.value?]
  exact ⟨trivial, (shown.evict key).store key _⟩

theorem remove (shown : registry.Shows now map) (key : K) :
    (registry.remove now key).result = map.value? now key ∧
      (registry.remove now key).registry.Shows now (map.unset key) := by
  refine ⟨(result_remove registry now key).trans (shown.value? key).symm, ?_⟩
  constructor
  case ttl => exact shown.ttl.trans (ttl_remove ..).symm
  case entries =>
    intro other
    rw [fresh?_remove, TimedMap.present?_unset, shown.entries]

theorem removeWhen (shown : registry.Shows now map) (key : K) (accepts : V → Bool) :
    (registry.removeWhen key accepts).registry.Shows now
      (if (map.value? now key).any accepts then map.unset key else map) := by
  have evicted := shown.evict key
  rw [shown.value?, Registry.removeWhen, stored?, fresh?]
  cases found : registry.entries.get? key with
  | none => exact shown
  | some entry =>
    cases stale : registry.isStale now entry with
    | true =>
      -- The map has no value to take out, and what the registry may take out has expired.
      have missing : (some entry).filter (fun entry => !registry.isStale now entry) = none :=
        Option.filter_some_neg (by simp [stale])
      rw [evict_of_stale found stale] at evicted
      simp only [missing, Option.map_some, Option.map_none, Option.any_none, Bool.false_eq_true,
        ↓reduceIte]
      split_ifs
      · exact evicted
      · exact shown
    | false =>
      have present : (some entry).filter (fun entry => !registry.isStale now entry) = some entry :=
        Option.filter_some_pos (by simp [stale])
      simp only [present, Option.map_some, Option.any_some]
      split_ifs
      · exact shown.drop key
      · exact shown

theorem contains (shown : registry.Shows now map) (key : K) :
    (registry.contains now key).result = (map.value? now key).isSome ∧
      (registry.contains now key).registry.Shows now map := by
  refine ⟨?_, shown.evict key⟩
  rw [Registry.contains, stored?_evict_self, shown.value?]

theorem renew (shown : registry.Shows now map) (key : K) :
    (registry.renew now key).result = (map.value? now key).isSome ∧
      (registry.renew now key).registry.Shows now (map.refresh now key) := by
  have evicted := shown.evict key
  have same := fresh?_evict registry now key key
  rw [TimedMap.refresh, shown.value?, Registry.renew]
  split_ifs with stale
  · rw [fresh?_of_evicted stale]
    exact ⟨rfl, evicted⟩
  · rw [stored?_evict_self]
    cases fresh : registry.fresh? now key with
    | none => exact ⟨rfl, evicted⟩
    | some entry => exact ⟨rfl, evicted.touch (same.trans fresh)⟩

end Shows

/-- A registry and its map agree on what an event is replied, and still show the same afterwards. -/
theorem Shows.step {moment : Moment K V} {map : TimedMap K V}
    (shown : moment.registry.Shows moment.now map) (event : Event K V R) :
    (moment.step event).result = (map.answer moment.now event).1 ∧
      (moment.perform event).registry.Shows (moment.perform event).now
        (map.answer moment.now event).2 := by
  cases event with
  | put key value => exact ⟨rfl, shown.store key value⟩
  | get key =>
    obtain ⟨result, looked⟩ := shown.get key
    exact ⟨congrArg (fun found => some (Reply.value found)) result, looked⟩
  | getOrMake key factory => exact shown.getOrMake key factory
  | amend key initial change => exact shown.amend key initial change
  | remove key =>
    obtain ⟨result, removed⟩ := shown.remove key
    exact ⟨congrArg (fun found => some (Reply.value found)) result, removed⟩
  | removeWhen key accepts => exact ⟨rfl, shown.removeWhen key accepts⟩
  | contains key =>
    obtain ⟨result, asked⟩ := shown.contains key
    exact ⟨congrArg (fun holds => some (Reply.flag holds)) result, asked⟩
  | renew key =>
    obtain ⟨result, renewed⟩ := shown.renew key
    exact ⟨congrArg (fun holds => some (Reply.flag holds)) result, renewed⟩
  | search le accepts => exact ⟨rfl, shown⟩
  | sweep => exact ⟨rfl, shown.sweep⟩
  | elapse nanoseconds => exact ⟨rfl, shown.later nanoseconds⟩

/-- A run replies as the map does when nobody sweeps. -/
theorem Shows.replies {moment : Moment K V} {map : TimedMap K V}
    (shown : moment.registry.Shows moment.now map) (events : List (Event K V R)) :
    moment.replies events =
      map.replies moment.now (events.filter fun event => !event.isSweep) := by
  induction events generalizing moment map with
  | nil => rfl
  | cons event rest ih =>
    obtain ⟨result, shown⟩ := shown.step event
    rw [Moment.replies, ih shown]
    cases swept : event.isSweep with
    | true =>
      cases event with
      | sweep => rfl
      | _ => cases swept
    | false =>
      rw [List.filter_cons_of_pos (by rw [swept]; rfl), TimedMap.replies, result]
      rfl

/-- Whatever a registry holds, and wherever a run sweeps it: the run is replied as by the timed map of
the registry's entries on which nobody sweeps. -/
theorem replies_as_timed_map (registry : Registry K V) (now : Nat) (events : List (Event K V R)) :
    Moment.replies ⟨registry, now⟩ events =
      (TimedMap.ofRegistry registry).replies now (events.filter fun event => !event.isSweep) :=
  Shows.replies (shows_ofRegistry registry now) events

/-- An entry is alive at the age of the time to live and no longer, and being asked for does not touch
it. -/
example : (TimedMap.ofRegistry (.empty (some 30) : Registry Nat Nat)).replies 0
    [.put 1 7, .elapse 20, .contains 1, .elapse 10, .renew 1, .elapse 31,
      (.get 1 : Event Nat Nat Unit)] = [.flag true, .flag true, .value none] := by rfl

end Registry

end Gateway
