import Gateway.Proofs.Registry.Run
import Mathlib.Data.List.Count

/-! # Notices of a registry

Listeners of a registry are told of every key whose entry leaves it. An entry can leave through six
different operations, some of which evict it and insert another one in its place at once, so the law is
one of conservation: of each key, as many entries were inserted where none was stored as listeners were
told have left, and one more while an entry is stored. It is proved for one event from what the event
does to the entries, and by induction for a run.
-/

namespace Gateway

namespace Registry

variable {K : Type u} {V : Type v} {R : Type w} {T : Type x} [DecidableEq K]

/-- How many entries a key has, one or none. An expired entry counts while it is stored. -/
def occupancy (registry : Registry K V) (key : K) : Nat :=
  if (registry.stored? key).isSome then 1 else 0

/-- The key, if no entry is stored under it. -/
def vacant? (registry : Registry K V) (key : K) : Option K :=
  if (registry.stored? key).isSome then none else some key

/-- The key that an event inserts where no entry is stored, if it does so. -/
def Moment.inserts? (moment : Moment K V) : Event K V R → Option K
  | .put key _ => moment.registry.vacant? key
  | .getOrMake key factory =>
    let found := moment.registry.get moment.now key
    if found.result.isSome then none
    else (make moment.now factory found.registry).registry.vacant? key
  | .amend key _ _ => (moment.registry.evict moment.now key).registry.vacant? key
  | _ => none

theorem occupancy_store (registry : Registry K V) (now : Nat) (key other : K) (value : V) :
    (registry.store now key value).occupancy other =
      registry.occupancy other + if registry.vacant? key = some other then 1 else 0 := by
  simp only [occupancy, vacant?, stored?_store]
  by_cases same : key = other
  · subst same
    by_cases stored : (registry.stored? key).isSome = true <;> simp [stored]
  · by_cases stored : (registry.stored? key).isSome = true <;> simp [stored, same]

theorem occupancy_drop (registry : Registry K V) (key other : K) :
    (registry.drop key).occupancy other = if key = other then 0 else registry.occupancy other := by
  simp only [occupancy, stored?_drop]
  split_ifs <;> simp_all

theorem occupancy_touch (registry : Registry K V) (now : Nat) (key other : K) :
    (registry.touch now key).occupancy other = registry.occupancy other := by
  rw [occupancy, stored?_touch, occupancy]

/-- Whether a step inserts nothing and reports each entry that leaves. -/
def Conserves (registry : Registry K V) (step : Step K V T) : Prop :=
  ∀ key, step.removed.count key + step.registry.occupancy key = registry.occupancy key

theorem conserves_same (registry : Registry K V) (result : T) :
    registry.Conserves ⟨result, registry, []⟩ := fun _ => Nat.zero_add _

/-- A stored entry that is dropped and reported. -/
theorem conserves_drop {registry : Registry K V} {key : K} {value : V}
    (stored : registry.stored? key = some value) (result : T) :
    registry.Conserves ⟨result, registry.drop key, [key]⟩ := by
  intro other
  rw [occupancy_drop]
  by_cases same : key = other
  · subst same
    simp [occupancy, stored]
  · simp [same]

/-- What is not evicted stays as it is. -/
theorem evict_of_kept {registry : Registry K V} {now : Nat} {key : K}
    (kept : ¬ (registry.evict now key).result = true) :
    registry.evict now key = ⟨false, registry, []⟩ := by
  rw [evict_eq] at kept ⊢
  split_ifs at kept ⊢
  · exact absurd rfl kept
  · rfl

theorem conserves_evict (registry : Registry K V) (now : Nat) (key : K) :
    registry.Conserves (registry.evict now key) := by
  rw [evict_eq]
  split_ifs with stale
  · obtain ⟨entry, found, -⟩ := (Option.any_eq_true _ _).mp stale
    exact conserves_drop (congrArg (Option.map Entry.value) found) true
  · exact conserves_same registry false

theorem conserves_get (registry : Registry K V) (now : Nat) (key : K) :
    registry.Conserves (registry.get now key) := by
  intro other
  rw [get]
  cases (registry.evict now key).registry.stored? key with
  | none => exact conserves_evict registry now key other
  | some value =>
    simp only [occupancy_touch]
    exact conserves_evict registry now key other

theorem conserves_make (factory : Factory K V) (registry : Registry K V) (now : Nat) :
    registry.Conserves (make now factory registry) := by
  induction factory generalizing registry with
  | give value => exact conserves_same registry value
  | read key next ih =>
    intro other
    have looked := conserves_get registry now key other
    have made := ih (registry.get now key).result (registry.get now key).registry other
    simp only [make, List.count_append]
    omega

theorem conserves_remove (registry : Registry K V) (now : Nat) (key : K) :
    registry.Conserves (registry.remove now key) := by
  rw [remove]
  split_ifs with evicted
  · exact conserves_evict registry now key
  · rw [evict_of_kept evicted]
    cases stored : registry.stored? key with
    | none => exact conserves_same registry none
    | some value => exact conserves_drop stored (some value)

theorem conserves_removeWhen (registry : Registry K V) (key : K) (accepts : V → Bool) :
    registry.Conserves (registry.removeWhen key accepts) := by
  rw [removeWhen]
  cases stored : registry.stored? key with
  | none => exact conserves_same registry none
  | some value =>
    simp only
    split_ifs
    · exact conserves_drop stored (some value)
    · exact conserves_same registry none

theorem conserves_renew (registry : Registry K V) (now : Nat) (key : K) :
    registry.Conserves (registry.renew now key) := by
  rw [renew]
  split_ifs with evicted
  · exact conserves_evict registry now key
  · rw [evict_of_kept evicted]
    cases registry.stored? key with
    | none => exact conserves_same registry false
    | some value =>
      intro other
      rw [occupancy_touch]
      exact Nat.zero_add _

omit [DecidableEq K] in
theorem nodup_removed_sweep (registry : Registry K V) (now : Nat) :
    (registry.sweep now).removed.Nodup :=
  (registry.entries.filter fun _ entry => registry.isStale now entry).nodup

theorem conserves_sweep (registry : Registry K V) (now : Nat) :
    registry.Conserves (registry.sweep now) := by
  intro key
  rw [(nodup_removed_sweep registry now).count, occupancy, stored?_sweep, occupancy]
  by_cases told : key ∈ (registry.sweep now).removed
  · obtain ⟨entry, found, -⟩ := mem_removed_sweep.mp told
    simp [told, stored?, found]
  · simp [told]

/-- A value that is stored after a step that conserves is inserted, if none was stored. -/
theorem Conserves.store {registry : Registry K V} {step : Step K V T}
    (conserves : registry.Conserves step) (now : Nat) (key : K) (value : V) (other : K) :
    step.removed.count other + (step.registry.store now key value).occupancy other =
      registry.occupancy other + if step.registry.vacant? key = some other then 1 else 0 := by
  have before := conserves other
  rw [occupancy_store]
  omega

theorem Moment.count_step_getOrMake (moment : Moment K V) (key : K) (factory : Factory K V) (other : K) :
    let event : Event K V R := .getOrMake key factory
    (moment.step event).removed.count other + (moment.step event).registry.occupancy other =
      moment.registry.occupancy other + if moment.inserts? event = some other then 1 else 0 := by
  intro event
  have looking := conserves_get moment.registry moment.now key
  cases found : (moment.registry.get moment.now key).result with
  | some value =>
    have same := getOrMake_of_found found factory
    simp only [event, Moment.step, Moment.inserts?, Step.map, same, found]
    exact looking other
  | none =>
    obtain ⟨same, -⟩ := getOrMake_of_missed found factory
    have making : moment.registry.Conserves
        (⟨(), (make moment.now factory (moment.registry.get moment.now key).registry).registry,
          (moment.registry.get moment.now key).removed ++
            (make moment.now factory (moment.registry.get moment.now key).registry).removed⟩ :
          Step K V Unit) := by
      intro other
      have looked := looking other
      have made := conserves_make factory (moment.registry.get moment.now key).registry moment.now
        other
      simp only [List.count_append]
      omega
    simp only [event, Moment.step, Moment.inserts?, Step.map, same, found]
    exact making.store moment.now key _ other

/-- Of each key, what an event reports and leaves is what was there and what it inserts. -/
theorem Moment.count_step (moment : Moment K V) (event : Event K V R) (key : K) :
    (moment.step event).removed.count key + (moment.step event).registry.occupancy key =
      moment.registry.occupancy key + if moment.inserts? event = some key then 1 else 0 := by
  cases event with
  | put other value => exact (conserves_same moment.registry ()).store moment.now other value key
  | get other => exact conserves_get moment.registry moment.now other key
  | getOrMake other factory => exact moment.count_step_getOrMake other factory key
  | amend other initial change =>
    exact (conserves_evict moment.registry moment.now other).store moment.now other _ key
  | remove other => exact conserves_remove moment.registry moment.now other key
  | removeWhen other accepts => exact conserves_removeWhen moment.registry other accepts key
  | contains other => exact conserves_evict moment.registry moment.now other key
  | renew other => exact conserves_renew moment.registry moment.now other key
  | search le accepts => exact conserves_same moment.registry () key
  | sweep => exact conserves_sweep moment.registry moment.now key
  | elapse nanoseconds => exact conserves_same moment.registry () key

end Registry

/-- A registry, the time, the number of its listeners, and what they were told. Listeners are numbered
in the order in which they were registered. -/
structure Watched (K : Type u) (V : Type v) where
  moment : Registry.Moment K V
  listeners : Nat
  /-- Each notice is a listener and a key. -/
  journal : List (Nat × K)

/-- What can happen to a registry that is watched. -/
inductive Watched.Event (K : Type u) (V : Type v) (R : Type w) where
  | registry (event : Registry.Event K V R)
  /-- One more listener is registered. -/
  | listen

namespace Watched

variable {K : Type u} {V : Type v} {R : Type w} [DecidableEq K]

/-- What is watched after an event: every listener was told of each key whose entry left. -/
def perform (watched : Watched K V) : Event K V R → Watched K V
  | .registry event =>
    { watched with
      moment := watched.moment.perform event
      journal :=
        watched.journal ++ tellEach (List.range watched.listeners) (watched.moment.step event).removed }
  | .listen => { watched with listeners := watched.listeners + 1 }

/-- What is watched after a list of events. -/
def run (watched : Watched K V) (events : List (Event K V R)) : Watched K V :=
  events.foldl perform watched

/-- The key that an event inserts where no entry is stored, if it does so. -/
def inserts? (watched : Watched K V) : Event K V R → Option K
  | .registry event => watched.moment.inserts? event
  | .listen => none

/-- How many events of a run insert a key where no entry is stored. -/
def insertions (watched : Watched K V) (key : K) : List (Event K V R) → Nat
  | [] => 0
  | event :: rest =>
    (if watched.inserts? event = some key then 1 else 0) + (watched.perform event).insertions key rest

/-- Each listener is told as often as there is something to tell. -/
theorem count_tellEach {listeners : List Nat} (distinct : listeners.Nodup) {listener : Nat}
    (listens : listener ∈ listeners) (keys : List K) (key : K) :
    (tellEach listeners keys).count (listener, key) = keys.count key := by
  induction keys with
  | nil => rfl
  | cons first rest ih =>
    have told : tellEach listeners (first :: rest) =
        listeners.map (fun listener => (listener, first)) ++ tellEach listeners rest := rfl
    have once : (listeners.map fun listener => (listener, first)).count (listener, key) =
        if first = key then 1 else 0 := by
      split_ifs with same
      · subst same
        have injective : Function.Injective fun listener : Nat => (listener, first) :=
          fun _ _ same => (Prod.mk.inj same).1
        rw [List.count_map_of_injective _ _ injective, distinct.count, if_pos listens]
      · rw [List.count_eq_zero]
        intro member
        obtain ⟨_, -, equal⟩ := List.mem_map.mp member
        exact same (Prod.mk.inj equal).2
    rw [told, List.count_append, ih, once, List.count_cons]
    simp only [beq_iff_eq, Nat.add_comm]

theorem count_perform {watched : Watched K V} {listener : Nat}
    (listens : listener < watched.listeners) (event : Event K V R) (key : K) :
    (watched.perform event).journal.count (listener, key) +
        (watched.perform event).moment.registry.occupancy key =
      watched.journal.count (listener, key) + watched.moment.registry.occupancy key +
        if watched.inserts? event = some key then 1 else 0 := by
  cases event with
  | listen => rfl
  | registry event =>
    have conserved := watched.moment.count_step event key
    have told := count_tellEach List.nodup_range (List.mem_range.mpr listens)
      (watched.moment.step event).removed key
    change (watched.journal ++ tellEach _ _).count (listener, key) + _ = _
    rw [List.count_append, told, Nat.add_assoc, Nat.add_assoc]
    exact congrArg (watched.journal.count (listener, key) + ·) conserved

theorem count_run {watched : Watched K V} {listener : Nat} (listens : listener < watched.listeners)
    (events : List (Event K V R)) (key : K) :
    (watched.run events).journal.count (listener, key) +
        (watched.run events).moment.registry.occupancy key =
      watched.journal.count (listener, key) + watched.moment.registry.occupancy key +
        watched.insertions key events := by
  induction events generalizing watched with
  | nil => rfl
  | cons event rest ih =>
    have listens' : listener < (watched.perform event).listeners := by
      cases event with
      | registry event => exact listens
      | listen => exact Nat.lt_succ_of_lt listens
    have first := count_perform listens event key
    have others := ih listens'
    simp only [run, List.foldl_cons, insertions] at others ⊢
    omega

/-- Amending a value that is stored evicts nothing. -/
theorem removed_amend_of_replaced {registry : Registry K V} {now : Nat} {key : K}
    (replaced : (registry.evict now key).registry.vacant? key = none) (initial : V)
    (change : V → R × V) : (registry.amend now key initial change).removed = [] := by
  have kept : ¬ (registry.evict now key).result = true := by
    intro evicted
    have missing := Registry.fresh?_of_evicted evicted
    simp [Registry.vacant?, Registry.stored?_evict_self, missing] at replaced
  change (registry.evict now key).removed = []
  rw [Registry.evict_of_kept kept]

/-- From a new registry on, and for every listener registered from the start: of each key, as many
entries were inserted where none was stored as it was told have left, and one more if an entry is stored
now. A sweep tells every listener of as many keys as it answers, each once. Storing a value tells
nobody, and neither does amending one that is stored. -/
theorem notices_account_for_entries (ttl : Option Nat) (now listeners : Nat)
    (events : List (Event K V R)) :
    let start : Watched K V := ⟨⟨.empty ttl, now⟩, listeners, []⟩
    let watched := start.run events
    let registry := watched.moment.registry
    (∀ listener < listeners, ∀ key,
      watched.journal.count (listener, key) + registry.occupancy key =
        start.insertions key events) ∧
    (∃ keys : List K, keys.Nodup ∧ keys.length = (registry.sweep watched.moment.now).result ∧
      (watched.perform (.registry .sweep : Event K V R)).journal =
        watched.journal ++ tellEach (List.range watched.listeners) keys) ∧
    (∀ key value,
      (watched.perform (.registry (.put key value) : Event K V R)).journal = watched.journal) ∧
    ∀ key initial change,
      let event : Event K V R := .registry (.amend key initial change)
      watched.inserts? event = none → (watched.perform event).journal = watched.journal := by
  intro start watched registry
  have silent : watched.journal ++ tellEach (List.range watched.listeners) [] = watched.journal :=
    List.append_nil _
  refine ⟨fun listener listens key => ?_, ?_, fun key value => silent, ?_⟩
  · exact (count_run listens events key).trans (Nat.zero_add _)
  · exact ⟨(registry.sweep watched.moment.now).removed,
      Registry.nodup_removed_sweep registry watched.moment.now, rfl, rfl⟩
  · intro key initial change event replaced
    have nothing : (watched.moment.step (.amend key initial change : Registry.Event K V R)).removed =
      [] := removed_amend_of_replaced replaced initial change
    change watched.journal ++ tellEach _ _ = _
    rw [nothing]
    exact silent

/-- A value that expires, is made again in the same call and is then taken out: two insertions, of which
the one listener is told twice. -/
theorem notices_account_for_remade_entry :
    let start : Watched Nat Nat := ⟨⟨.empty (some 30), 0⟩, 1, []⟩
    let events : List (Event Nat Nat Unit) :=
      [.registry (.put 1 7), .registry (.elapse 31), .registry (.getOrMake 1 (.give 8)), .listen,
        .registry (.remove 1)]
    0 < 1 ∧ start.insertions 1 events = 2 ∧
      (start.run events).journal.count (0, 1) + (start.run events).moment.registry.occupancy 1 =
        start.insertions 1 events := by
  intro start events
  exact ⟨by decide, by decide, (notices_account_for_entries (some 30) 0 1 events).1 0 (by decide) 1⟩

end Watched

end Gateway
