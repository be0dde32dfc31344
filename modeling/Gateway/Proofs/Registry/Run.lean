import Gateway.Proofs.Registry

/-! # Runs of a registry

Everything that can be done with a registry: values are stored, looked up, made, amended and taken
out, keys are asked for and searched for, what has expired is swept out, and time passes. A run is a
list of such events from any registry at any time.

Almost every event begins by evicting its key, so events are understood through two facts about
eviction: it leaves what is *fresh* as it is, and what is then stored under the key is the fresh entry.
-/

namespace Gateway

namespace Registry

variable {K : Type u} {V : Type v}

/-- What can happen to a registry. Amending a value answers with an `R`. -/
inductive Event (K : Type u) (V : Type v) (R : Type w) where
  | put (key : K) (value : V)
  | get (key : K)
  | getOrMake (key : K) (factory : Factory K V)
  | amend (key : K) (initial : V) (change : V → R × V)
  | remove (key : K)
  | removeWhen (key : K) (accepts : V → Bool)
  | contains (key : K)
  | renew (key : K)
  /-- The keys of the accepted values are listed in an order. -/
  | search (le : K → K → Bool) (accepts : V → Bool)
  | sweep
  | elapse (nanoseconds : Nat)

/-- Whether an event is a sweep. -/
def Event.isSweep : Event K V R → Bool
  | .sweep => true
  | _ => false

/-- How much time an event takes. -/
def Event.duration : Event K V R → Nat
  | .elapse nanoseconds => nanoseconds
  | _ => 0

/-- An answer that depends on fresh entries alone. -/
inductive Reply (V : Type v) (R : Type w) where
  | value (found : Option V)
  /-- The value of a key, and whether a factory ran for it. -/
  | made (value : V) (ran : Bool)
  | amended (result : R)
  | flag (holds : Bool)

/-- The same step with another result. -/
def Step.map (change : R → T) (step : Step K V R) : Step K V T :=
  ⟨change step.result, step.registry, step.removed⟩

/-- A registry and the time. -/
structure Moment (K : Type u) (V : Type v) where
  registry : Registry K V
  now : Nat

namespace Moment

variable [DecidableEq K]

/-- What an event comes to. What expired entries can show in is no reply. -/
def step (moment : Moment K V) : Event K V R → Step K V (Option (Reply V R))
  | .put key value => (moment.registry.put moment.now key value).map fun _ => none
  | .get key => (moment.registry.get moment.now key).map fun found => some (.value found)
  | .getOrMake key factory =>
    (moment.registry.getOrMake moment.now key factory).map fun made => some (.made made.1 made.2)
  | .amend key initial change =>
    (moment.registry.amend moment.now key initial change).map fun result => some (.amended result)
  | .remove key => (moment.registry.remove moment.now key).map fun taken => some (.value taken)
  | .removeWhen key accepts => (moment.registry.removeWhen key accepts).map fun _ => none
  | .contains key => (moment.registry.contains moment.now key).map fun found => some (.flag found)
  | .renew key => (moment.registry.renew moment.now key).map fun renewed => some (.flag renewed)
  | .search _ _ => ⟨none, moment.registry, []⟩
  | .sweep => (moment.registry.sweep moment.now).map fun _ => none
  | .elapse _ => ⟨none, moment.registry, []⟩

/-- The registry and the time after an event. -/
def perform (moment : Moment K V) (event : Event K V R) : Moment K V :=
  ⟨(moment.step event).registry, moment.now + event.duration⟩

/-- The replies to the events of a run that have one. -/
def replies (moment : Moment K V) : List (Event K V R) → List (Reply V R)
  | [] => []
  | event :: rest => (moment.step event).result.toList ++ (moment.perform event).replies rest

end Moment

/-- The entry of a key, unless it has expired. -/
def fresh? [DecidableEq K] (registry : Registry K V) (now : Nat) (key : K) : Option (Entry V) :=
  (registry.entries.get? key).filter fun entry => !registry.isStale now entry

/-- What has just been touched has not expired. -/
theorem isStale_touched (registry : Registry K V) (now : Nat) (value : V) :
    registry.isStale now ⟨value, now⟩ = false := by
  rw [isStale]
  cases registry.ttl with
  | none => rfl
  | some ttl => simp [Entry.isExpired]

theorem isStale_congr {one two : Registry K V} (ttl : two.ttl = one.ttl) (now : Nat)
    (entry : Entry V) : two.isStale now entry = one.isStale now entry := by
  rw [isStale, isStale, ttl]

variable [DecidableEq K]

/-- Eviction does not touch what is fresh. -/
theorem fresh?_evict (registry : Registry K V) (now : Nat) (key other : K) :
    (registry.evict now key).registry.fresh? now other = registry.fresh? now other := by
  have ttl : (registry.evict now key).registry.ttl = registry.ttl := ttl_evict ..
  simp only [fresh?, get?_evict, isStale_congr ttl]
  split_ifs
  · rw [Option.filter_filter]
    simp only [Bool.and_self]
  · rfl

theorem fresh?_store (registry : Registry K V) (now : Nat) (key other : K) (value : V) :
    (registry.store now key value).fresh? now other =
      if key = other then some ⟨value, now⟩ else registry.fresh? now other := by
  have ttl : (registry.store now key value).ttl = registry.ttl := ttl_store ..
  simp only [fresh?, get?_store, isStale_congr ttl]
  split_ifs
  · rw [Option.filter_some_pos (by rw [isStale_touched]; rfl)]
  · rfl

theorem fresh?_drop (registry : Registry K V) (now : Nat) (key other : K) :
    (registry.drop key).fresh? now other = if key = other then none else registry.fresh? now other := by
  have ttl : (registry.drop key).ttl = registry.ttl := ttl_drop ..
  simp only [fresh?, get?_drop, isStale_congr ttl]
  split_ifs <;> rfl

/-- Touching a fresh entry stores its value anew. -/
theorem fresh?_touch {registry : Registry K V} {now : Nat} {key : K} {entry : Entry V}
    (fresh : registry.fresh? now key = some entry) (other : K) :
    (registry.touch now key).fresh? now other =
      if key = other then some ⟨entry.value, now⟩ else registry.fresh? now other := by
  have ttl : (registry.touch now key).ttl = registry.ttl := ttl_touch ..
  obtain ⟨found, -⟩ := Option.filter_eq_some_iff.mp fresh
  simp only [fresh?, get?_touch, isStale_congr ttl]
  by_cases same : key = other
  · subst same
    simp [found, isStale_touched]
  · simp [same, Ne.symm same]

omit [DecidableEq K] in
/-- What has expired by now has expired later. -/
theorem filter_later (registry : Registry K V) {now later : Nat} (order : now ≤ later)
    (stored : Option (Entry V)) :
    (stored.filter fun entry => !registry.isStale now entry).filter
        (fun entry => !registry.isStale later entry) =
      stored.filter fun entry => !registry.isStale later entry := by
  rw [Option.filter_filter]
  congr 1
  funext entry
  cases mortal : registry.ttl with
  | none => simp [isStale_of_permanent mortal]
  | some ttl =>
    cases stale : registry.isStale now entry with
    | false => rfl
    | true =>
      have lapsed : registry.isStale later entry = true := by
        rw [isStale_eq_true_iff mortal] at stale ⊢
        omega
      simp [lapsed]

/-- After its eviction a key has its fresh entry or none. -/
theorem get?_evict_self (registry : Registry K V) (now : Nat) (key : K) :
    (registry.evict now key).registry.entries.get? key = registry.fresh? now key := by
  rw [get?_evict, if_pos rfl, fresh?]

theorem stored?_evict_self (registry : Registry K V) (now : Nat) (key : K) :
    (registry.evict now key).registry.stored? key = (registry.fresh? now key).map Entry.value := by
  rw [stored?, get?_evict_self]

/-- What is evicted has no fresh entry. -/
theorem fresh?_of_evicted {registry : Registry K V} {now : Nat} {key : K}
    (evicted : (registry.evict now key).result = true) : registry.fresh? now key = none := by
  rw [evict_eq] at evicted
  split_ifs at evicted with stale
  obtain ⟨entry, found, stale⟩ := (Option.any_eq_true _ _).mp stale
  simp [fresh?, found, stale, Option.filter]

/-- Whether a look-up finds something depends on fresh entries alone. -/
theorem result_get (registry : Registry K V) (now : Nat) (key : K) :
    (registry.get now key).result = (registry.fresh? now key).map Entry.value := by
  rw [get, ← stored?_evict_self]
  cases (registry.evict now key).registry.stored? key <;> rfl

/-- What is taken out is what was fresh. -/
theorem result_remove (registry : Registry K V) (now : Nat) (key : K) :
    (registry.remove now key).result = (registry.fresh? now key).map Entry.value := by
  rw [remove]
  split_ifs with evicted
  · rw [fresh?_of_evicted evicted, Option.map_none]
  · rw [stored?_evict_self]
    cases registry.fresh? now key <;> rfl

theorem fresh?_remove (registry : Registry K V) (now : Nat) (key other : K) :
    (registry.remove now key).registry.fresh? now other =
      if key = other then none else registry.fresh? now other := by
  simp only [fresh?, get?_remove, isStale_congr (ttl_remove registry now key)]
  split_ifs <;> rfl

/-- A sweep does not touch what is fresh. -/
theorem fresh?_sweep (registry : Registry K V) (now : Nat) (key : K) :
    (registry.sweep now).registry.fresh? now key = registry.fresh? now key := by
  have ttl : (registry.sweep now).registry.ttl = registry.ttl := rfl
  simp only [fresh?, get?_sweep, isStale_congr ttl, Option.filter_filter, Bool.and_self]

/-- What is fresh later is what has not expired by then of what is fresh now. -/
theorem fresh?_later (registry : Registry K V) {now later : Nat} (order : now ≤ later) (key : K) :
    registry.fresh? later key =
      (registry.fresh? now key).filter fun entry => !registry.isStale later entry :=
  (filter_later registry order _).symm

/-- A factory does not make what is missing appear in the registry. -/
theorem get?_make_of_absent (factory : Factory K V) {registry : Registry K V} (now : Nat) {key : K}
    (absent : registry.entries.get? key = none) :
    (make now factory registry).registry.entries.get? key = none := by
  induction factory generalizing registry with
  | give value => exact absent
  | read other next ih =>
    refine ih _ ?_
    rw [get?_get, absent]
    split_ifs <;> rfl

/-- Where a look-up fails nothing is left, and what is to be made is stored. -/
theorem getOrMake_of_missed {registry : Registry K V} {now : Nat} {key : K}
    (missed : (registry.get now key).result = none) (factory : Factory K V) :
    let found := registry.get now key
    let made := make now factory found.registry
    registry.getOrMake now key factory =
        ⟨(made.result, true), made.registry.store now key made.result,
          found.removed ++ made.removed⟩ ∧
      made.registry.entries.get? key = none := by
  intro found made
  have absent : made.registry.entries.get? key = none := by
    apply get?_make_of_absent
    rw [result_get, Option.map_eq_none_iff, fresh?] at missed
    rw [get?_get, if_pos rfl, missed]
    rfl
  have unstored : made.registry.stored? key = none := congrArg (Option.map Entry.value) absent
  refine ⟨?_, absent⟩
  simp only [getOrMake, missed, found, made] at unstored ⊢
  rw [unstored]

theorem getOrMake_of_found {registry : Registry K V} {now : Nat} {key : K} {value : V}
    (found : (registry.get now key).result = some value) (factory : Factory K V) :
    registry.getOrMake now key factory =
      ⟨(value, false), (registry.get now key).registry, (registry.get now key).removed⟩ := by
  simp only [getOrMake, found]

end Registry

end Gateway
