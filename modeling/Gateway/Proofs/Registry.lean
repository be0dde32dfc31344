import Gateway.Registry
import Mathlib.Tactic.SplitIfs

/-! # Entries of a registry under its operations

A registry is looked at through `entries.get?`, which shows values with their last touch, and through
`stored?`, which shows values alone. Eviction drops the one stale entry of its key, and every
operation that looks at a key is an eviction followed by a change to that key alone. A registry
without a time to live is *permanent*: nothing in it is ever stale, so its operations never evict.
-/

namespace Gateway.Registry

variable {K : Type u} {V : Type v}

/-- In a permanent registry nothing expires. -/
theorem isStale_of_permanent {registry : Registry K V} (permanent : registry.ttl = none) (now : Nat)
    (entry : Entry V) : registry.isStale now entry = false := by
  simp [isStale, permanent]

/-- An entry is stale once its last touch lies further back than the time to live. -/
theorem isStale_eq_true_iff {registry : Registry K V} {ttl : Nat} (mortal : registry.ttl = some ttl)
    {now : Nat} {entry : Entry V} :
    registry.isStale now entry = true ↔ entry.touched + ttl < now := by
  simp only [isStale, mortal, Entry.isExpired, decide_eq_true_eq]
  omega

variable [DecidableEq K]

@[simp] theorem ttl_store (registry : Registry K V) (now : Nat) (key : K) (value : V) :
    (registry.store now key value).ttl = registry.ttl := rfl

@[simp] theorem ttl_drop (registry : Registry K V) (key : K) :
    (registry.drop key).ttl = registry.ttl := rfl

@[simp] theorem ttl_touch (registry : Registry K V) (now : Nat) (key : K) :
    (registry.touch now key).ttl = registry.ttl := rfl

@[simp] theorem get?_store (registry : Registry K V) (now : Nat) (key other : K) (value : V) :
    (registry.store now key value).entries.get? other =
      if key = other then some ⟨value, now⟩ else registry.entries.get? other :=
  Table.get?_insert ..

@[simp] theorem get?_drop (registry : Registry K V) (key other : K) :
    (registry.drop key).entries.get? other =
      if key = other then none else registry.entries.get? other :=
  Table.get?_erase ..

@[simp] theorem get?_touch (registry : Registry K V) (now : Nat) (key other : K) :
    (registry.touch now key).entries.get? other =
      if other = key then (registry.entries.get? other).map fun entry => { entry with touched := now }
      else registry.entries.get? other :=
  Table.get?_modify ..

@[simp] theorem stored?_store (registry : Registry K V) (now : Nat) (key other : K) (value : V) :
    (registry.store now key value).stored? other =
      if key = other then some value else registry.stored? other := by
  simp only [stored?, get?_store]
  split_ifs <;> rfl

@[simp] theorem stored?_drop (registry : Registry K V) (key other : K) :
    (registry.drop key).stored? other = if key = other then none else registry.stored? other := by
  simp only [stored?, get?_drop]
  split_ifs <;> rfl

@[simp] theorem stored?_touch (registry : Registry K V) (now : Nat) (key other : K) :
    (registry.touch now key).stored? other = registry.stored? other := by
  simp only [stored?, get?_touch]
  split_ifs
  · rw [Option.map_map]; rfl
  · rfl

theorem evict_eq (registry : Registry K V) (now : Nat) (key : K) :
    registry.evict now key =
      if (registry.entries.get? key).any (registry.isStale now) then ⟨true, registry.drop key, [key]⟩
      else ⟨false, registry, []⟩ := by
  rw [evict]
  cases registry.entries.get? key with
  | none => rfl
  | some entry => rfl

@[simp] theorem ttl_evict (registry : Registry K V) (now : Nat) (key : K) :
    (registry.evict now key).registry.ttl = registry.ttl := by
  rw [evict_eq]
  split_ifs <;> rfl

/-- Eviction looks at the entry of its key alone and drops it if it is stale. -/
theorem get?_evict (registry : Registry K V) (now : Nat) (key other : K) :
    (registry.evict now key).registry.entries.get? other =
      if key = other then (registry.entries.get? other).filter fun entry => !registry.isStale now entry
      else registry.entries.get? other := by
  rw [evict_eq]
  by_cases same : key = other
  · subst same
    cases found : registry.entries.get? key with
    | none => simp [found]
    | some entry => cases stale : registry.isStale now entry <;> simp [stale, found, Option.filter]
  · split_ifs <;> simp [same]

theorem evict_of_fresh {registry : Registry K V} {now : Nat} {key : K} {entry : Entry V}
    (found : registry.entries.get? key = some entry) (fresh : registry.isStale now entry = false) :
    registry.evict now key = ⟨false, registry, []⟩ := by
  simp [evict, found, fresh]

theorem evict_of_stale {registry : Registry K V} {now : Nat} {key : K} {entry : Entry V}
    (found : registry.entries.get? key = some entry) (stale : registry.isStale now entry = true) :
    registry.evict now key = ⟨true, registry.drop key, [key]⟩ := by
  simp [evict, found, stale]

theorem evict_of_absent {registry : Registry K V} {key : K}
    (absent : registry.entries.get? key = none) (now : Nat) :
    registry.evict now key = ⟨false, registry, []⟩ := by
  simp [evict, absent]

theorem evict_of_permanent {registry : Registry K V} (permanent : registry.ttl = none) (now : Nat)
    (key : K) : registry.evict now key = ⟨false, registry, []⟩ := by
  cases found : registry.entries.get? key with
  | none => exact evict_of_absent found now
  | some entry => exact evict_of_fresh found (isStale_of_permanent permanent now entry)

theorem stored?_evict_of_ne (registry : Registry K V) (now : Nat) {key other : K} (ne : key ≠ other) :
    (registry.evict now key).registry.stored? other = registry.stored? other := by
  rw [stored?, stored?, get?_evict, if_neg ne]

theorem amend_of_permanent {registry : Registry K V} (permanent : registry.ttl = none) (now : Nat)
    (key : K) (initial : V) (change : V → R × V) :
    registry.amend now key initial change =
      ⟨(change ((registry.stored? key).getD initial)).1,
        registry.store now key (change ((registry.stored? key).getD initial)).2, []⟩ := by
  simp only [amend, evict_of_permanent permanent]

theorem get_of_found {registry : Registry K V} (permanent : registry.ttl = none) (now : Nat)
    {key : K} {value : V} (found : registry.stored? key = some value) :
    registry.get now key = ⟨some value, registry.touch now key, []⟩ := by
  simp only [get, evict_of_permanent permanent, found]

theorem get_of_absent {registry : Registry K V} (permanent : registry.ttl = none) (now : Nat)
    {key : K} (absent : registry.stored? key = none) :
    registry.get now key = ⟨none, registry, []⟩ := by
  simp only [get, evict_of_permanent permanent, absent]

@[simp] theorem ttl_amend (registry : Registry K V) (now : Nat) (key : K) (initial : V)
    (change : V → R × V) : (registry.amend now key initial change).registry.ttl = registry.ttl := by
  rw [amend, ttl_store, ttl_evict]

/-- Amending a key stores something under it and leaves what is stored under the others. -/
theorem stored?_amend_of_ne (registry : Registry K V) (now : Nat) {key other : K} (ne : key ≠ other)
    (initial : V) (change : V → R × V) :
    (registry.amend now key initial change).registry.stored? other = registry.stored? other := by
  rw [amend, stored?_store, if_neg ne, stored?_evict_of_ne registry now ne]

theorem isSome_stored?_amend (registry : Registry K V) (now : Nat) (key : K) (initial : V)
    (change : V → R × V) :
    ((registry.amend now key initial change).registry.stored? key).isSome = true := by
  rw [amend, stored?_store, if_pos rfl, Option.isSome_some]

@[simp] theorem ttl_get (registry : Registry K V) (now : Nat) (key : K) :
    (registry.get now key).registry.ttl = registry.ttl := by
  rw [get]
  cases ((registry.evict now key).registry.stored? key) <;> simp

@[simp] theorem ttl_remove (registry : Registry K V) (now : Nat) (key : K) :
    (registry.remove now key).registry.ttl = registry.ttl := by
  rw [remove]
  split_ifs
  · simp
  · cases ((registry.evict now key).registry.stored? key) <;> simp

/-- Taking a key out takes out its entry, expired or not, and leaves the others. -/
@[simp] theorem get?_remove (registry : Registry K V) (now : Nat) (key other : K) :
    (registry.remove now key).registry.entries.get? other =
      if key = other then none else registry.entries.get? other := by
  cases found : registry.entries.get? key with
  | none =>
    have same : (registry.remove now key).registry = registry := by
      simp [remove, evict_of_absent found, stored?, found]
    rw [same]
    split_ifs with this
    · exact this ▸ found
    · rfl
  | some entry =>
    have dropped : (registry.remove now key).registry = registry.drop key := by
      cases stale : registry.isStale now entry with
      | true => simp [remove, evict_of_stale found stale]
      | false => simp [remove, evict_of_fresh found stale, stored?, found]
    rw [dropped, get?_drop]

@[simp] theorem stored?_remove (registry : Registry K V) (now : Nat) (key other : K) :
    (registry.remove now key).registry.stored? other =
      if key = other then none else registry.stored? other := by
  simp only [stored?, get?_remove]
  split_ifs <;> rfl

/-- What is taken out was stored. -/
theorem stored?_of_remove {registry : Registry K V} {now : Nat} {key : K} {value : V}
    (taken : (registry.remove now key).result = some value) : registry.stored? key = some value := by
  cases found : registry.entries.get? key with
  | none => simp [remove, evict_of_absent found, stored?, found] at taken
  | some entry =>
    cases stale : registry.isStale now entry with
    | true => simp [remove, evict_of_stale found stale] at taken
    | false => simpa [remove, evict_of_fresh found stale, stored?, found] using taken

/-- Whoever listens is told of a key that is taken out exactly if it was stored. -/
theorem removed_remove (registry : Registry K V) (now : Nat) (key : K) :
    (registry.remove now key).removed = if (registry.stored? key).isSome then [key] else [] := by
  cases found : registry.entries.get? key with
  | none => simp [remove, evict_of_absent found, stored?, found]
  | some entry =>
    cases stale : registry.isStale now entry with
    | true => simp [remove, evict_of_stale found stale, stored?, found]
    | false => simp [remove, evict_of_fresh found stale, stored?, found]

/-- Looking a key up drops its entry if it is stale, touches it otherwise, and leaves the others. -/
theorem get?_get (registry : Registry K V) (now : Nat) (key other : K) :
    (registry.get now key).registry.entries.get? other =
      if key = other then
        ((registry.entries.get? other).filter fun entry => !registry.isStale now entry).map
          fun entry => { entry with touched := now }
      else registry.entries.get? other := by
  cases found : registry.entries.get? key with
  | none =>
    have same : (registry.get now key).registry = registry := by
      simp [get, evict_of_absent found, stored?, found]
    rw [same]
    split_ifs with this
    · subst this
      simp [found]
    · rfl
  | some entry =>
    cases stale : registry.isStale now entry with
    | true =>
      have dropped : (registry.get now key).registry = registry.drop key := by
        have absent : (registry.drop key).stored? key = none := by simp
        simp only [get, evict_of_stale found stale, absent]
      rw [dropped, get?_drop]
      split_ifs with this
      · subst this
        simp [found, stale, Option.filter]
      · rfl
    | false =>
      have touched : (registry.get now key).registry = registry.touch now key := by
        simp [get, evict_of_fresh found stale, stored?, found]
      rw [touched, get?_touch]
      by_cases this : key = other
      · subst this
        simp [found, stale, Option.filter]
      · simp [this, Ne.symm this]

/-- Whoever listens is told of a key that is looked up exactly if its entry was stale. -/
theorem removed_get (registry : Registry K V) (now : Nat) (key : K) :
    (registry.get now key).removed =
      if (registry.entries.get? key).any (registry.isStale now) then [key] else [] := by
  have removed : (registry.get now key).removed = (registry.evict now key).removed := by
    rw [get]
    cases (registry.evict now key).registry.stored? key <;> rfl
  rw [removed, evict_eq]
  split_ifs <;> rfl

theorem mem_removed_get {registry : Registry K V} {now : Nat} {key other : K} :
    other ∈ (registry.get now key).removed ↔
      other = key ∧ ∃ entry, registry.entries.get? key = some entry ∧
        registry.isStale now entry = true := by
  rw [removed_get]
  split_ifs with stale
  · simpa [Option.any_eq_true] using fun _ => (Option.any_eq_true _ _).mp stale
  · simp only [List.not_mem_nil, false_iff, not_and]
    exact fun _ lost => stale ((Option.any_eq_true _ _).mpr lost)

/-- What a look-up leaves stored is all but what it reports. -/
theorem stored?_get (registry : Registry K V) (now : Nat) (key other : K) :
    (registry.get now key).registry.stored? other =
      if other ∈ (registry.get now key).removed then none else registry.stored? other := by
  simp only [stored?, get?_get, mem_removed_get]
  by_cases same : key = other
  · subst same
    cases found : registry.entries.get? key with
    | none => simp
    | some entry => cases stale : registry.isStale now entry <;> simp [stale, Option.filter]
  · simp [same, Ne.symm same]

@[simp] theorem ttl_renew (registry : Registry K V) (now : Nat) (key : K) :
    (registry.renew now key).registry.ttl = registry.ttl := by
  rw [renew]
  split_ifs
  · simp
  · cases ((registry.evict now key).registry.stored? key) <;> simp

theorem renew_of_fresh {registry : Registry K V} {now : Nat} {key : K} {entry : Entry V}
    (found : registry.entries.get? key = some entry) (fresh : registry.isStale now entry = false) :
    registry.renew now key = ⟨true, registry.touch now key, []⟩ := by
  simp [renew, evict_of_fresh found fresh, stored?, found]

theorem renew_of_stale {registry : Registry K V} {now : Nat} {key : K} {entry : Entry V}
    (found : registry.entries.get? key = some entry) (stale : registry.isStale now entry = true) :
    registry.renew now key = ⟨false, registry.drop key, [key]⟩ := by
  simp [renew, evict_of_stale found stale]

theorem renew_of_absent {registry : Registry K V} {key : K}
    (absent : registry.entries.get? key = none) (now : Nat) :
    registry.renew now key = ⟨false, registry, []⟩ := by
  simp [renew, evict_of_absent absent, stored?, absent]

/-- A sweep drops the stale entries and leaves the others as they are. -/
theorem get?_sweep (registry : Registry K V) (now : Nat) (key : K) :
    (registry.sweep now).registry.entries.get? key =
      (registry.entries.get? key).filter fun entry => !registry.isStale now entry :=
  Table.get?_filter ..

/-- Whoever listens is told of the keys whose entries were stale. -/
theorem mem_removed_sweep {registry : Registry K V} {now : Nat} {key : K} :
    key ∈ (registry.sweep now).removed ↔
      ∃ entry, registry.entries.get? key = some entry ∧ registry.isStale now entry = true := by
  rw [sweep, ← Table.contains_eq_true_iff, Table.contains, Table.get?_filter]
  cases registry.entries.get? key with
  | none => simp
  | some entry => simp [Option.filter]

/-- What a sweep leaves stored is all but what it reports. -/
theorem stored?_sweep (registry : Registry K V) (now : Nat) (key : K) :
    (registry.sweep now).registry.stored? key =
      if key ∈ (registry.sweep now).removed then none else registry.stored? key := by
  simp only [stored?, get?_sweep, mem_removed_sweep]
  cases found : registry.entries.get? key with
  | none => simp
  | some entry => cases stale : registry.isStale now entry <;> simp [stale, Option.filter]

/-- All that an operation takes out is stale, and it reports that. -/
structure Culls {R : Type w} (registry : Registry K V) (now : Nat) (step : Step K V R) : Prop where
  ttl : step.registry.ttl = registry.ttl
  stale : ∀ key ∈ step.removed, ∃ entry, registry.entries.get? key = some entry ∧
    registry.isStale now entry = true
  kept : ∀ key, step.registry.stored? key =
    if key ∈ step.removed then none else registry.stored? key

theorem culls_get (registry : Registry K V) (now : Nat) (key : K) :
    registry.Culls now (registry.get now key) where
  ttl := registry.ttl_get now key
  stale _ gone := by
    obtain ⟨rfl, lost⟩ := mem_removed_get.mp gone
    exact lost
  kept := registry.stored?_get now key

theorem culls_sweep (registry : Registry K V) (now : Nat) :
    registry.Culls now (registry.sweep now) where
  ttl := rfl
  stale _ gone := mem_removed_sweep.mp gone
  kept := registry.stored?_sweep now

theorem culls_same {R : Type w} (registry : Registry K V) (now : Nat) (result : R) :
    registry.Culls now ⟨result, registry, []⟩ :=
  ⟨rfl, nofun, fun _ => (if_neg List.not_mem_nil).symm⟩

theorem culls_drop {R : Type w} {registry : Registry K V} {now : Nat} {key : K} {entry : Entry V}
    (found : registry.entries.get? key = some entry) (stale : registry.isStale now entry = true)
    (result : R) : registry.Culls now ⟨result, registry.drop key, [key]⟩ where
  ttl := rfl
  stale _ gone := ⟨entry, List.mem_singleton.mp gone ▸ found, stale⟩
  kept other := by simp only [stored?_drop, List.mem_singleton, eq_comm]

theorem culls_evict (registry : Registry K V) (now : Nat) (key : K) :
    registry.Culls now (registry.evict now key) := by
  cases found : registry.entries.get? key with
  | none =>
    rw [evict_of_absent found]
    exact registry.culls_same now false
  | some entry =>
    cases stale : registry.isStale now entry with
    | true =>
      rw [evict_of_stale found stale]
      exact culls_drop found stale true
    | false =>
      rw [evict_of_fresh found stale]
      exact registry.culls_same now false

theorem culls_contains (registry : Registry K V) (now : Nat) (key : K) :
    registry.Culls now (registry.contains now key) := by
  obtain ⟨ttl, stale, kept⟩ := registry.culls_evict now key
  exact ⟨ttl, stale, kept⟩

theorem culls_renew (registry : Registry K V) (now : Nat) (key : K) :
    registry.Culls now (registry.renew now key) := by
  cases found : registry.entries.get? key with
  | none =>
    rw [renew_of_absent found]
    exact registry.culls_same now false
  | some entry =>
    cases stale : registry.isStale now entry with
    | true =>
      rw [renew_of_stale found stale]
      exact culls_drop found stale false
    | false =>
      rw [renew_of_fresh found stale]
      exact ⟨rfl, nofun, fun other => (registry.stored?_touch now key other).trans
        (if_neg List.not_mem_nil).symm⟩

/-- Two registries in which nothing expires and that differ only in when entries were touched. -/
structure Alike (one two : Registry K V) : Prop where
  permanent : one.ttl = none
  permanent' : two.ttl = none
  values : ∀ key, two.stored? key = one.stored? key

namespace Alike

variable {one two three : Registry K V}

theorem refl (permanent : one.ttl = none) : one.Alike one := ⟨permanent, permanent, fun _ => rfl⟩

theorem trans (first : one.Alike two) (second : two.Alike three) : one.Alike three :=
  ⟨first.permanent, second.permanent', fun key => (second.values key).trans (first.values key)⟩

/-- Looking at a key leaves a registry alike. -/
theorem looked (permanent : one.ttl = none) (now : Nat) (key : K) :
    (one.get now key).result = one.stored? key ∧ one.Alike (one.get now key).registry := by
  cases found : one.stored? key with
  | none => rw [get_of_absent permanent now found]; exact ⟨rfl, .refl permanent⟩
  | some value =>
    rw [get_of_found permanent now found]
    exact ⟨rfl, permanent, permanent, fun other => stored?_touch one now key other⟩

theorem put (alike : one.Alike two) (now : Nat) (key : K) (value : V) :
    (one.put now key value).registry.Alike (two.put now key value).registry where
  permanent := alike.permanent
  permanent' := alike.permanent'
  values other := by simp only [Registry.put, stored?_store, alike.values]

theorem remove (alike : one.Alike two) (now : Nat) (key : K) :
    (one.remove now key).registry.Alike (two.remove now key).registry where
  permanent := (ttl_remove ..).trans alike.permanent
  permanent' := (ttl_remove ..).trans alike.permanent'
  values other := by simp only [stored?_remove, alike.values]

end Alike

theorem mem_keysMatching {registry : Registry K V} {le : K → K → Bool} {accepts : V → Bool}
    {key : K} :
    key ∈ registry.keysMatching le accepts ↔
      ∃ value, registry.stored? key = some value ∧ accepts value = true := by
  rw [keysMatching, List.mem_mergeSort, ← Table.contains_eq_true_iff, Table.contains,
    Table.get?_filter, stored?]
  cases registry.entries.get? key with
  | none => simp
  | some entry => simp [Option.filter]

/-- A value that is accepted is found, be it under another key. -/
theorem exists_firstKey? {registry : Registry K V} (le : K → K → Bool) (accepts : V → Bool) {key : K}
    {value : V} (stored : registry.stored? key = some value) (accepted : accepts value = true) :
    ∃ first found, registry.firstKey? le accepts = some first ∧ registry.stored? first = some found ∧
      accepts found = true := by
  have member : key ∈ registry.keysMatching le accepts := mem_keysMatching.mpr ⟨value, stored, accepted⟩
  rw [firstKey?]
  cases keys : registry.keysMatching le accepts with
  | nil =>
    rw [keys] at member
    cases member
  | cons first rest =>
    have matching : first ∈ registry.keysMatching le accepts := keys ▸ List.mem_cons_self
    obtain ⟨found, stored, accepted⟩ := mem_keysMatching.mp matching
    exact ⟨first, found, rfl, stored, accepted⟩

end Gateway.Registry
