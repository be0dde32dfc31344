import Gateway.Proofs.Registry.Run

/-! # Values that outlive their time

An entry that has expired stays stored until something evicts it; until then it has *lapsed*. Most
operations on a key begin by evicting what has lapsed under it, so for them nothing is there. Storing a
value and taking one out on a condition do not look at expiry: they answer with the value of a lapsed
entry as with that of a fresh one. Main statement: these two differ from a look-up exactly where
something has lapsed, and whatever else is done with the key leaves nothing that has.
-/

namespace Gateway.Registry

variable {K : Type u} {V : Type v} {R : Type w} [DecidableEq K]

/-- The entry of a key that has expired and is still stored. -/
def lapsed? (registry : Registry K V) (now : Nat) (key : K) : Option (Entry V) :=
  (registry.entries.get? key).filter (registry.isStale now)

section

variable {registry : Registry K V} {now : Nat} {key : K} {entry : Entry V}

/-- An entry has lapsed once its last touch lies further back than the time to live. -/
theorem lapsed?_eq_some_iff :
    registry.lapsed? now key = some entry ↔
      registry.entries.get? key = some entry ∧
        ∃ ttl, registry.ttl = some ttl ∧ entry.touched + ttl < now := by
  rw [lapsed?, Option.filter_eq_some_iff]
  refine and_congr_right fun _ => ?_
  cases mortal : registry.ttl with
  | none => simp [isStale_of_permanent mortal]
  | some ttl => simp [isStale_eq_true_iff mortal]

/-- Where something has lapsed nothing is fresh. -/
theorem fresh?_of_lapsed (lapsed : registry.lapsed? now key = some entry) :
    registry.fresh? now key = none := by
  obtain ⟨found, stale⟩ := Option.filter_eq_some_iff.mp lapsed
  rw [fresh?, found, Option.filter_some_neg (by simp [stale])]

/-- What is stored is fresh or has lapsed. -/
theorem stored?_eq_or (registry : Registry K V) (now : Nat) (key : K) :
    registry.stored? key =
      ((registry.fresh? now key).or (registry.lapsed? now key)).map Entry.value := by
  rw [stored?, fresh?, lapsed?]
  cases registry.entries.get? key with
  | none => rfl
  | some entry => cases stale : registry.isStale now entry <;> simp [stale, Option.filter]

/-- A key with a fresh entry or none has no lapsed one. -/
theorem lapsed?_of_filtered {stored : Option (Entry V)}
    (found : registry.entries.get? key = stored.filter fun entry => !registry.isStale now entry) :
    registry.lapsed? now key = none := by
  rw [lapsed?, found, Option.filter_filter]
  simp

end

theorem result_put (registry : Registry K V) (now : Nat) (key : K) (value : V) :
    (registry.put now key value).result =
      (registry.get now key).result.or ((registry.lapsed? now key).map Entry.value) := by
  rw [put, stored?_eq_or registry now, result_get, Option.map_or]

theorem result_removeWhen (registry : Registry K V) (now : Nat) (key : K) (accepts : V → Bool) :
    (registry.removeWhen key accepts).result =
      ((registry.get now key).result.or ((registry.lapsed? now key).map Entry.value)).filter
        accepts := by
  rw [result_get, ← Option.map_or, ← stored?_eq_or, removeWhen]
  cases registry.stored? key with
  | none => rfl
  | some value => cases accepted : accepts value <;> simp [accepted, Option.filter]

/-- A look-up does not find what has lapsed. -/
theorem result_get_of_lapsed {registry : Registry K V} {now : Nat} {key : K} {entry : Entry V}
    (lapsed : registry.lapsed? now key = some entry) : (registry.get now key).result = none := by
  rw [result_get, fresh?_of_lapsed lapsed, Option.map_none]

theorem result_put_eq_get_iff {registry : Registry K V} {now : Nat} {key : K} {value : V} :
    (registry.put now key value).result = (registry.get now key).result ↔
      registry.lapsed? now key = none := by
  rw [result_put]
  cases lapsed : registry.lapsed? now key with
  | none => simp
  | some entry => simp [result_get_of_lapsed lapsed]

theorem result_removeWhen_eq_filter_iff {registry : Registry K V} {now : Nat} {key : K}
    {accepts : V → Bool} :
    (registry.removeWhen key accepts).result = (registry.get now key).result.filter accepts ↔
      ∀ entry, registry.lapsed? now key = some entry → accepts entry.value = false := by
  rw [result_removeWhen registry now]
  cases lapsed : registry.lapsed? now key with
  | none => simp
  | some entry => simp [result_get_of_lapsed lapsed, Option.filter]

theorem result_removeWhen_eq_remove_iff {registry : Registry K V} {now : Nat} {key : K} :
    (registry.removeWhen key fun _ => true).result = (registry.remove now key).result ↔
      registry.lapsed? now key = none := by
  have taken : (registry.remove now key).result =
      (registry.get now key).result.filter fun _ => true := by
    rw [result_remove, result_get]
    cases registry.fresh? now key <;> rfl
  rw [taken, result_removeWhen_eq_filter_iff, Option.eq_none_iff_forall_ne_some]
  simp

/-- Whether an event looks at the expiry of a key's entry or touches it. -/
def Event.Settles (key : K) : Event K V R → Prop
  | .put other _ | .get other | .getOrMake other _ | .amend other _ _ | .remove other
  | .contains other | .renew other => other = key
  | .sweep => True
  | .removeWhen _ _ | .search _ _ | .elapse _ => False

theorem lapsed?_evict (registry : Registry K V) (now : Nat) (key : K) :
    (registry.evict now key).registry.lapsed? now key = none := by
  have stale := isStale_congr (ttl_evict registry now key)
  rw [lapsed?, get?_evict_self, fresh?, Option.filter_filter]
  simp [stale]

theorem lapsed?_store (registry : Registry K V) (now : Nat) (key : K) (value : V) :
    (registry.store now key value).lapsed? now key = none := by
  have fresh : (registry.store now key value).isStale now ⟨value, now⟩ = false := isStale_touched ..
  rw [lapsed?, get?_store, if_pos rfl, Option.filter_some_neg (by simp [fresh])]

theorem lapsed?_touch (registry : Registry K V) (now : Nat) (key : K) :
    (registry.touch now key).lapsed? now key = none := by
  rw [lapsed?, get?_touch, if_pos rfl]
  cases registry.entries.get? key with
  | none => rfl
  | some entry => simp [isStale_touched]

theorem lapsed?_get (registry : Registry K V) (now : Nat) (key : K) :
    (registry.get now key).registry.lapsed? now key = none := by
  rw [get]
  cases (registry.evict now key).registry.stored? key with
  | none => exact registry.lapsed?_evict now key
  | some value => exact lapsed?_touch ..

theorem lapsed?_renew (registry : Registry K V) (now : Nat) (key : K) :
    (registry.renew now key).registry.lapsed? now key = none := by
  have evicted := registry.lapsed?_evict now key
  rw [renew]
  split_ifs
  · exact evicted
  · cases (registry.evict now key).registry.stored? key with
    | none => exact evicted
    | some value => exact lapsed?_touch ..

theorem lapsed?_getOrMake (registry : Registry K V) (now : Nat) (key : K) (factory : Factory K V) :
    (registry.getOrMake now key factory).registry.lapsed? now key = none := by
  cases found : (registry.get now key).result with
  | some value =>
    rw [getOrMake_of_found found]
    exact registry.lapsed?_get now key
  | none =>
    rw [(getOrMake_of_missed found factory).1]
    exact lapsed?_store ..

/-- Whatever settles a key leaves no lapsed entry under it. -/
theorem lapsed?_of_settles (registry : Registry K V) (now : Nat) {key : K} {event : Event K V R}
    (settles : event.Settles key) :
    (Moment.perform ⟨registry, now⟩ event).registry.lapsed? now key = none := by
  cases event with
  | put other value => exact settles ▸ registry.lapsed?_store now other value
  | get other => exact settles ▸ registry.lapsed?_get now other
  | getOrMake other factory => exact settles ▸ registry.lapsed?_getOrMake now other factory
  | amend other initial change => exact settles ▸ lapsed?_store _ now other _
  | remove other =>
    have gone : (registry.remove now other).registry.entries.get? other = none := by
      rw [get?_remove, if_pos rfl]
    exact settles ▸ congrArg (Option.filter _) gone
  | contains other => exact settles ▸ registry.lapsed?_evict now other
  | renew other => exact settles ▸ registry.lapsed?_renew now other
  | sweep => exact lapsed?_of_filtered (registry.get?_sweep now key)
  | removeWhen _ _ | search _ _ | elapse _ => cases settles

/-- Storing a value and taking one out on a condition answer with what a look-up finds exactly where
nothing has lapsed, or nothing that the condition accepts; where something has, they answer with it and
a look-up finds nothing. An entry has lapsed from the moment its time to live is over until anything
else is done with its key, or a sweep. -/
theorem lapsed_values_answer_put_and_removeWhen (registry : Registry K V) (now : Nat) (key : K) :
    let live := (registry.get now key).result
    (∀ value, (registry.put now key value).result = live ↔ registry.lapsed? now key = none) ∧
    (∀ accepts, (registry.removeWhen key accepts).result = live.filter accepts ↔
      ∀ entry, registry.lapsed? now key = some entry → accepts entry.value = false) ∧
    ((registry.removeWhen key fun _ => true).result = (registry.remove now key).result ↔
      registry.lapsed? now key = none) ∧
    (∀ entry, registry.lapsed? now key = some entry → live = none ∧
      (∀ value, (registry.put now key value).result = some entry.value) ∧
      ∀ accepts, (registry.removeWhen key accepts).result = (some entry.value).filter accepts) ∧
    (∀ entry, registry.lapsed? now key = some entry ↔
      registry.entries.get? key = some entry ∧
        ∃ ttl, registry.ttl = some ttl ∧ entry.touched + ttl < now) ∧
    ∀ event : Event K V R, event.Settles key →
      (Moment.perform ⟨registry, now⟩ event).registry.lapsed? now key = none := by
  intro live
  refine ⟨fun value => result_put_eq_get_iff, fun accepts => result_removeWhen_eq_filter_iff,
    result_removeWhen_eq_remove_iff, fun entry lapsed => ?_, fun entry => lapsed?_eq_some_iff,
    fun event settles => registry.lapsed?_of_settles now settles⟩
  have missed : live = none := result_get_of_lapsed lapsed
  refine ⟨missed, fun value => ?_, fun accepts => ?_⟩
  · rw [result_put, lapsed, result_get_of_lapsed lapsed]
    rfl
  · rw [result_removeWhen registry now, lapsed, result_get_of_lapsed lapsed]
    rfl

/-- A value that was stored at 0 for 30 is what all four see at 30. At 31 only two of them do, until
someone has asked for the key. -/
theorem lapsed_values_answer_put_and_removeWhen_at_31 :
    let registry : Registry Nat Nat := (Registry.empty (some 30)).store 0 1 7
    let asked := (Moment.perform ⟨registry, 31⟩ (.contains 1 : Event Nat Nat Unit)).registry
    registry.lapsed? 30 1 = none ∧ registry.lapsed? 31 1 = some ⟨7, 0⟩ ∧
      asked.lapsed? 31 1 = none ∧
      (registry.put 30 1 8).result = (registry.get 30 1).result ∧
      (registry.put 31 1 8).result = some 7 ∧
      (asked.put 31 1 8).result = (asked.get 31 1).result := by
  intro registry asked
  have alive := lapsed_values_answer_put_and_removeWhen (R := Unit) registry 30 1
  have dead := lapsed_values_answer_put_and_removeWhen (R := Unit) registry 31 1
  have settled := lapsed_values_answer_put_and_removeWhen (R := Unit) asked 31 1
  have lapsed : registry.lapsed? 31 1 = some ⟨7, 0⟩ := by rfl
  have gone : asked.lapsed? 31 1 = none := dead.2.2.2.2.2 (.contains 1) rfl
  exact ⟨by rfl, lapsed, gone, (alive.1 8).mpr rfl, (dead.2.2.2.1 _ lapsed).2.1 8,
    (settled.1 8).mpr gone⟩

/-- A value is handed back by the two operations after it has expired, while a look-up and a removal
find nothing. -/
theorem expired_value_handed_back :
    let registry : Registry Nat Nat := (Registry.empty (some 30)).store 0 1 7
    (registry.get 31 1).result = none ∧ (registry.put 31 1 8).result = some 7 ∧
      (registry.remove 31 1).result = none ∧
      (registry.removeWhen 1 fun _ => true).result = some 7 := by
  decide

end Gateway.Registry
