import Gateway.Pad.Store
import Gateway.Proofs.Registry.Run

/-! # Which pad an activation puts to use

Two registries make up a store of pads, one in which nothing expires and one in which pads that wait do,
and an activation takes a pad out of the second and puts it into the first. What it comes to is best told
by a *log* of what has been done to a key: pads staged for it, pads installed, activations that
succeeded, revocations. An activation succeeds exactly if the latest deed was to stage a pad that has not
expired since, and puts that pad to use; the pad in use is the latest one that was installed or
activated, unless it was revoked after that. Reads, sweeps and the passing of time are no deeds: when an
expired pad leaves the store shows nowhere.
-/

namespace Gateway.PadStore

/-- What can happen to a store. -/
inductive Event where
  | stage (key : Key) (pad : Bytes)
  | install (key : Key) (pad : Bytes)
  | activate (key : Key)
  | revoke (key : Key)
  /-- Someone looks at the pad in use. -/
  | look (key : Key)
  | sweep
  | elapse (nanoseconds : Nat)

/-- What has been done to a key. -/
inductive Deed where
  /-- A pad began to wait. -/
  | staged (pad : Bytes) (since : Nat)
  | installed (pad : Bytes)
  /-- The pad that waited was put to use. -/
  | activated
  | revoked
deriving DecidableEq

/-- A store and the time. -/
structure Moment where
  store : PadStore
  now : Nat

namespace Moment

/-- The store and the time after an event. -/
def perform (moment : Moment) : Event → Moment
  | .stage key pad => { moment with store := moment.store.stage moment.now key pad }
  | .install key pad => { moment with store := moment.store.install moment.now key pad }
  | .activate key => { moment with store := (moment.store.activate moment.now key).2 }
  | .revoke key => { moment with store := moment.store.revoke moment.now key }
  | .look key => { moment with store := (moment.store.activePad moment.now key).2 }
  | .sweep => { moment with store := moment.store.sweep moment.now }
  | .elapse nanoseconds => { moment with now := moment.now + nanoseconds }

/-- The store and the time after a list of events. -/
def run (moment : Moment) (events : List Event) : Moment := events.foldl perform moment

/-- What an event does to a key. An activation that does not succeed does nothing. -/
def deed? (moment : Moment) (key : Key) : Event → Option Deed
  | .stage other pad => if other = key then some (.staged pad moment.now) else none
  | .install other pad => if other = key then some (.installed pad) else none
  | .activate other =>
    if other = key ∧ (moment.store.activate moment.now other).1 = true then some .activated else none
  | .revoke other => if other = key then some .revoked else none
  | .look _ | .sweep | .elapse _ => none

/-- What a list of events does to a key, the latest deed first. -/
def deeds (moment : Moment) (key : Key) : List Event → List Deed
  | [] => []
  | event :: rest => (moment.perform event).deeds key rest ++ (moment.deed? key event).toList

end Moment

/-- The pad that the deeds on a key put to use, the latest deed first. -/
def inUse : List Deed → Option Bytes
  | .installed pad :: _ => some pad
  | .activated :: .staged pad _ :: _ => some pad
  | .staged _ _ :: earlier => inUse earlier
  | _ => none

/-- The pad that waits after the deeds on a key, and since when, unless it has expired. -/
def waiting (pendingTtl now : Nat) : List Deed → Option (Entry Bytes)
  | .staged pad since :: _ => if now ≤ since + pendingTtl then some ⟨pad, since⟩ else none
  | _ => none

theorem waiting_eq_some_iff {pendingTtl now : Nat} {deeds : List Deed} {entry : Entry Bytes} :
    waiting pendingTtl now deeds = some entry ↔
      ∃ earlier, deeds = .staged entry.value entry.touched :: earlier ∧
        now ≤ entry.touched + pendingTtl := by
  constructor
  · intro waits
    fun_cases waiting pendingTtl now deeds with
    | case1 pad since earlier inTime =>
      simp only [waiting, if_pos inTime, Option.some.injEq] at waits
      subst waits
      exact ⟨earlier, rfl, inTime⟩
    | case2 pad since earlier late => simp only [waiting, if_neg late, reduceCtorEq] at waits
    | case3 => simp only [waiting, reduceCtorEq] at waits
  · rintro ⟨earlier, rfl, inTime⟩
    exact if_pos inTime

section

variable {store : PadStore} {now : Nat} {key : Key}

theorem activate_of_fresh {entry : Entry Bytes} (fresh : store.pending.fresh? now key = some entry) :
    store.activate now key =
      (true, ({ store with pending := (store.pending.remove now key).registry } : PadStore).install
        now key entry.value) := by
  simp only [activate, Registry.result_remove, fresh, Option.map_some]

theorem activate_of_missing (missing : store.pending.fresh? now key = none) :
    store.activate now key =
      (false, { store with pending := (store.pending.remove now key).registry }) := by
  simp only [activate, Registry.result_remove, missing, Option.map_none]

/-- An activation succeeds exactly if a pad waits that has not expired. -/
theorem activate_eq_true_iff :
    (store.activate now key).1 = true ↔ ∃ entry, store.pending.fresh? now key = some entry := by
  cases fresh : store.pending.fresh? now key with
  | none => simp [activate_of_missing fresh]
  | some entry => simp [activate_of_fresh fresh]

end

/-- How a log of the deeds on a key tells what a store holds for it. -/
structure Told (pendingTtl : Nat) (key : Key) (moment : Moment) (deeds : List Deed) : Prop where
  lasting : moment.store.active.ttl = none
  mortal : moment.store.pending.ttl = some pendingTtl
  active : moment.store.active.stored? key = inUse deeds
  pending : moment.store.pending.fresh? moment.now key = waiting pendingTtl moment.now deeds

namespace Told

variable {pendingTtl : Nat} {key : Key} {moment : Moment} {deeds : List Deed}

theorem empty (pendingTtl start : Nat) (key : Key) : Told pendingTtl key ⟨.empty pendingTtl, start⟩ [] :=
  ⟨rfl, rfl, rfl, rfl⟩

theorem stage (told : Told pendingTtl key moment deeds) (other : Key) (pad : Bytes) :
    Told pendingTtl key (moment.perform (.stage other pad))
      ((moment.deed? key (.stage other pad)).toList ++ deeds) where
  lasting := told.lasting
  mortal := told.mortal
  active := by
    rw [Moment.deed?]
    split_ifs <;> exact told.active
  pending := by
    simp only [Moment.perform, PadStore.stage, Registry.put, Registry.fresh?_store, Moment.deed?]
    split_ifs
    · exact (if_pos (by omega)).symm
    · exact told.pending

theorem install (told : Told pendingTtl key moment deeds) (other : Key) (pad : Bytes) :
    Told pendingTtl key (moment.perform (.install other pad))
      ((moment.deed? key (.install other pad)).toList ++ deeds) where
  lasting := told.lasting
  mortal := (Registry.ttl_remove ..).trans told.mortal
  active := by
    simp only [Moment.perform, PadStore.install, Registry.put, Registry.stored?_store, Moment.deed?]
    split_ifs
    · rfl
    · exact told.active
  pending := by
    simp only [Moment.perform, PadStore.install, Registry.fresh?_remove, Moment.deed?]
    split_ifs
    · rfl
    · exact told.pending

theorem revoke (told : Told pendingTtl key moment deeds) (other : Key) :
    Told pendingTtl key (moment.perform (.revoke other))
      ((moment.deed? key (.revoke other)).toList ++ deeds) where
  lasting := (Registry.ttl_remove ..).trans told.lasting
  mortal := (Registry.ttl_remove ..).trans told.mortal
  active := by
    simp only [Moment.perform, PadStore.revoke, Registry.stored?_remove, Moment.deed?]
    split_ifs
    · rfl
    · exact told.active
  pending := by
    simp only [Moment.perform, PadStore.revoke, Registry.fresh?_remove, Moment.deed?]
    split_ifs
    · rfl
    · exact told.pending

/-- An activation that fails takes out nothing that could still be put to use. -/
theorem fail (told : Told pendingTtl key moment deeds) {other : Key}
    (missing : moment.store.pending.fresh? moment.now other = none) :
    Told pendingTtl key (moment.perform (.activate other)) deeds := by
  rw [Moment.perform, activate_of_missing missing]
  refine ⟨told.lasting, (Registry.ttl_remove ..).trans told.mortal, told.active, ?_⟩
  simp only [Registry.fresh?_remove, ← told.pending]
  -- Only an expired pad can have been taken out, and of those the log knows nothing.
  split_ifs with same
  · rw [← same, missing]
  · rfl

/-- An activation that succeeds puts the pad of the latest deed to use. -/
theorem succeed (told : Told pendingTtl key moment deeds) {entry : Entry Bytes}
    (fresh : moment.store.pending.fresh? moment.now key = some entry) :
    Told pendingTtl key (moment.perform (.activate key)) (.activated :: deeds) := by
  -- The log says where the pad comes from: it was staged, and nothing has happened to the key since.
  obtain ⟨earlier, rfl, -⟩ := waiting_eq_some_iff.mp (told.pending.symm.trans fresh)
  rw [Moment.perform, activate_of_fresh fresh]
  constructor
  case lasting => exact told.lasting
  case mortal => exact (Registry.ttl_remove ..).trans ((Registry.ttl_remove ..).trans told.mortal)
  case active =>
    simp only [PadStore.install, Registry.put, Registry.stored?_store, ↓reduceIte, inUse]
  case pending =>
    simp only [PadStore.install, Registry.fresh?_remove, ↓reduceIte, waiting]

/-- An activation of one key is no business of the others. -/
theorem elsewhere (told : Told pendingTtl key moment deeds) {other : Key} (distinct : other ≠ key)
    {entry : Entry Bytes} (fresh : moment.store.pending.fresh? moment.now other = some entry) :
    Told pendingTtl key (moment.perform (.activate other)) deeds := by
  rw [Moment.perform, activate_of_fresh fresh]
  constructor
  case lasting => exact told.lasting
  case mortal => exact (Registry.ttl_remove ..).trans ((Registry.ttl_remove ..).trans told.mortal)
  case active =>
    simp only [PadStore.install, Registry.put, Registry.stored?_store, if_neg distinct]
    exact told.active
  case pending =>
    simp only [PadStore.install, Registry.fresh?_remove, if_neg distinct]
    exact told.pending

theorem activate (told : Told pendingTtl key moment deeds) (other : Key) :
    Told pendingTtl key (moment.perform (.activate other))
      ((moment.deed? key (.activate other)).toList ++ deeds) := by
  rw [Moment.deed?]
  cases fresh : moment.store.pending.fresh? moment.now other with
  | none =>
    rw [if_neg (by simp [activate_of_missing fresh])]
    exact told.fail fresh
  | some entry =>
    by_cases same : other = key
    · subst same
      rw [if_pos (by simp [activate_of_fresh fresh])]
      exact told.succeed fresh
    · rw [if_neg fun both => same both.1]
      exact told.elsewhere same fresh

theorem look (told : Told pendingTtl key moment deeds) (other : Key) :
    Told pendingTtl key (moment.perform (.look other)) deeds := by
  have alike := (Registry.Alike.looked told.lasting moment.now other).2
  exact ⟨alike.permanent', told.mortal, (alike.values key).trans told.active, told.pending⟩

theorem sweep (told : Told pendingTtl key moment deeds) :
    Told pendingTtl key (moment.perform .sweep) deeds :=
  ⟨told.lasting, told.mortal, told.active, (Registry.fresh?_sweep ..).trans told.pending⟩

/-- As time passes, the log tells when a pad that waits expires. -/
theorem elapse (told : Told pendingTtl key moment deeds) (nanoseconds : Nat) :
    Told pendingTtl key (moment.perform (.elapse nanoseconds)) deeds := by
  refine ⟨told.lasting, told.mortal, told.active, ?_⟩
  have order : moment.now ≤ moment.now + nanoseconds := Nat.le_add_right ..
  apply Option.ext
  intro entry
  have stale : moment.store.pending.isStale (moment.now + nanoseconds) entry = true ↔
      entry.touched + pendingTtl < moment.now + nanoseconds := Registry.isStale_eq_true_iff told.mortal
  simp only [Moment.perform]
  rw [Registry.fresh?_later _ order, told.pending, Option.filter_eq_some_iff, waiting_eq_some_iff,
    waiting_eq_some_iff, Bool.not_eq_true', Bool.eq_false_iff, ne_eq, stale]
  constructor
  · rintro ⟨⟨earlier, same, -⟩, inTime⟩
    exact ⟨earlier, same, by omega⟩
  · rintro ⟨earlier, same, inTime⟩
    exact ⟨⟨earlier, same, by omega⟩, by omega⟩

/-- Whatever happens to a store, the log of a key with the deed added tells what is stored after it. -/
theorem perform (told : Told pendingTtl key moment deeds) (event : Event) :
    Told pendingTtl key (moment.perform event) ((moment.deed? key event).toList ++ deeds) := by
  cases event with
  | stage other pad => exact told.stage other pad
  | install other pad => exact told.install other pad
  | activate other => exact told.activate other
  | revoke other => exact told.revoke other
  | look other => exact told.look other
  | sweep => exact told.sweep
  | elapse nanoseconds => exact told.elapse nanoseconds

theorem run (told : Told pendingTtl key moment deeds) (events : List Event) :
    Told pendingTtl key (moment.run events) (moment.deeds key events ++ deeds) := by
  induction events generalizing moment deeds with
  | nil => exact told
  | cons event rest ih =>
    have later := ih (told.perform event)
    rwa [← List.append_assoc] at later

end Told

/-- Whatever has happened to a store of pads since it was empty, and whatever is looked at or swept in
between. An activation of a key succeeds exactly if the latest deed on that key was to stage a pad, at
most the time to live ago; then that pad is in use and none waits, and otherwise the pads in use are as
they were. What is seen in use at any time is the latest pad that was installed or activated for the key
and not revoked since. -/
theorem activation_takes_what_was_staged_last (pendingTtl start : Nat) (events : List Event) (key : Key) :
    let vacant : Moment := ⟨.empty pendingTtl, start⟩
    let moment := vacant.run events
    let deeds := vacant.deeds key events
    let activated := moment.store.activate moment.now key
    (activated.1 = true ↔ ∃ pad since earlier, deeds = .staged pad since :: earlier ∧
        moment.now ≤ since + pendingTtl) ∧
      (activated.1 = true → ∀ pad since earlier, deeds = .staged pad since :: earlier →
        (activated.2.activePad moment.now key).1 = some pad ∧
          activated.2.pending.stored? key = none) ∧
      (activated.1 = false → activated.2.active = moment.store.active) ∧
      (moment.store.activePad moment.now key).1 = inUse deeds := by
  intro vacant moment deeds activated
  have told : Told pendingTtl key moment deeds := by
    have run := (Told.empty pendingTtl start key).run events
    rwa [List.append_nil] at run
  have waits : ∀ entry, moment.store.pending.fresh? moment.now key = some entry ↔
      ∃ earlier, deeds = .staged entry.value entry.touched :: earlier ∧
        moment.now ≤ entry.touched + pendingTtl := by
    intro entry
    rw [told.pending, waiting_eq_some_iff]
  refine ⟨?_, ?_, ?_, ?_⟩
  · rw [activate_eq_true_iff]
    constructor
    · rintro ⟨entry, fresh⟩
      exact ⟨entry.value, entry.touched, (waits entry).mp fresh⟩
    · rintro ⟨pad, since, staged⟩
      exact ⟨⟨pad, since⟩, (waits ⟨pad, since⟩).mpr staged⟩
  · intro success pad since earlier latest
    obtain ⟨entry, fresh⟩ := activate_eq_true_iff.mp success
    have after := told.succeed fresh
    constructor
    · refine (Registry.Alike.looked after.lasting moment.now key).1.trans ?_
      rw [after.active, latest, inUse]
    · simp only [activated, activate_of_fresh fresh, PadStore.install, Registry.stored?_remove,
        ↓reduceIte]
  · intro failure
    cases fresh : moment.store.pending.fresh? moment.now key with
    | none => rw [show activated = _ from activate_of_missing fresh]
    | some entry =>
      have success : activated.1 = true := activate_eq_true_iff.mpr ⟨entry, fresh⟩
      exact absurd (success.symm.trans failure) (by decide)
  · exact (Registry.Alike.looked told.lasting moment.now key).1.trans told.active

/-- A pad may be put to use at the age of the time to live and no later. -/
example :
    let staged : Moment := Moment.run ⟨.empty 30, 0⟩ [.stage (.name "pair") [7]]
    let first := staged.run [.elapse 30, .sweep]
    let second := staged.run [.elapse 31]
    (first.store.activate first.now (.name "pair")).1 = true ∧
      (second.store.activate second.now (.name "pair")).1 = false := by decide

end Gateway.PadStore
