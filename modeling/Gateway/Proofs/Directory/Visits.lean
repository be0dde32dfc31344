import Gateway.Proofs.Directory.Lease

/-! # Visits on record

What a connection does at a desk are *visits*: it arrives, it is answered with a response that names
some keys, and it leaves. A directory in which handles do not expire is a record of the visits so far.
A connection has an identity if it arrived or was answered and has not left since; an alias reaches
the connection that was last answered with it, if that one has not left since. What a visit adds to
the record and what it strikes out is read off the directory before and after, one kind of visit at a
time; the history grows at its end, so a run follows by appending.
-/

namespace Gateway

/-- Whether something happened in a history that nothing has undone since. -/
def Since (happened undone : ε → Prop) (history : List ε) : Prop :=
  ∃ earlier event later, history = earlier ++ event :: later ∧ happened event ∧
    ∀ other ∈ later, ¬ undone other

theorem not_since_nil {happened undone : ε → Prop} : ¬ Since happened undone [] := by
  rintro ⟨earlier, event, later, split, -, -⟩
  simp at split

theorem since_append_singleton {happened undone : ε → Prop} {history : List ε} {event : ε} :
    Since happened undone (history ++ [event]) ↔
      happened event ∨ Since happened undone history ∧ ¬ undone event := by
  constructor
  · rintro ⟨earlier, first, later, split, holds, kept⟩
    obtain rfl | ⟨rest, last, rfl⟩ := later.eq_nil_or_concat
    · obtain ⟨rfl, same⟩ := List.append_inj' split rfl
      obtain rfl := List.singleton_inj.mp same
      exact .inl holds
    · rw [List.concat_eq_append, ← List.cons_append, ← List.append_assoc] at split
      obtain ⟨rfl, same⟩ := List.append_inj' split rfl
      obtain rfl := List.singleton_inj.mp same
      simp only [List.concat_eq_append, List.mem_append, List.mem_singleton] at kept
      exact .inr ⟨⟨earlier, first, rest, rfl, holds, fun other member => kept other (.inl member)⟩,
        kept event (.inr rfl)⟩
  · rintro (holds | ⟨⟨earlier, first, later, rfl, holds, kept⟩, last⟩)
    · exact ⟨history, event, [], rfl, holds, nofun⟩
    · refine ⟨earlier, first, later ++ [event], by simp, holds, fun other member => ?_⟩
      obtain old | new := List.mem_append.mp member
      · exact kept other old
      · rwa [List.mem_singleton.mp new]

/-- What a connection does at a desk. -/
inductive Visit (C : Type u) where
  | arrived (id : C)
  /-- A connection is answered with a response that names some keys. -/
  | answered (id : C) (keys : List Key)
  | left (id : C)

namespace Visit

variable {C : Type u}

/-- Whether a connection arrives or is answered. -/
def Brings (id : C) : Visit C → Prop
  | .arrived other => other = id
  | .answered other _ => other = id
  | .left _ => False

/-- Whether a connection leaves. -/
def Takes (id : C) : Visit C → Prop
  | .left other => other = id
  | _ => False

/-- Whether a connection is answered with a key. -/
def Gives (key : Key) (id : C) : Visit C → Prop
  | .answered other keys => other = id ∧ key ∈ keys
  | _ => False

/-- Whether a key ceases to reach a connection, or to reach it for the reason that it did: someone is
answered with the key, or the connection leaves. -/
def Ends (key : Key) (id : C) : Visit C → Prop
  | .arrived _ => False
  | .answered _ keys => key ∈ keys
  | .left other => other = id

/-- A visit as an event of the reception. -/
def event : Visit C → Reception.Event C C
  | .arrived id => .connect id id
  | .answered id keys => .message id id keys
  | .left id => .disconnect id id

/-- Whether a connection is there after some visits. -/
def Present (visits : List (Visit C)) (id : C) : Prop := Since (Brings id) (Takes id) visits

/-- Whether a key was given to a connection last, and the connection is still there. -/
def Holds (visits : List (Visit C)) (key : Key) (id : C) : Prop :=
  Since (Gives key id) (Ends key id) visits

end Visit

namespace Reception

variable {C : Type u} [DecidableEq C]

/-- What a reception in which handles do not expire has on record after some visits. -/
structure Records (reception : Reception C C) (visits : List (Visit C)) : Prop where
  permanent : reception.directory.handles.ttl = none
  remembers : reception.directory.forgetful = false
  present : ∀ id, (reception.directory.identity? id).isSome ↔ Visit.Present visits id
  held : ∀ key id, key.IsAlias →
    (reception.directory.handles.stored? key = some id ↔ Visit.Holds visits key id)

/-- Whether an event is nobody's visit. -/
def Event.IsIdle : Event C C → Prop
  | .find _ | .sweep | .elsewhere _ _ => True
  | _ => False

namespace Records

variable {reception after : Reception C C} {visits : List (Visit C)}

/-- What is written down about a visit. -/
theorem append (records : reception.Records visits) {visit : Visit C}
    (permanent : after.directory.handles.ttl = none) (remembers : after.directory.forgetful = false)
    (present : ∀ id, (after.directory.identity? id).isSome ↔
      visit.Brings id ∨ (reception.directory.identity? id).isSome ∧ ¬ visit.Takes id)
    (held : ∀ key id, key.IsAlias → (after.directory.handles.stored? key = some id ↔
      visit.Gives key id ∨ reception.directory.handles.stored? key = some id ∧
        ¬ visit.Ends key id)) :
    after.Records (visits ++ [visit]) where
  permanent := permanent
  remembers := remembers
  present id := by
    rw [Visit.Present, since_append_singleton, present, records.present]
    rfl
  held key id named := by
    rw [Visit.Holds, since_append_singleton, held key id named, records.held key id named]
    rfl

theorem arrived (records : reception.Records visits) (id : C) :
    (reception.perform (.connect id id)).Records (visits ++ [.arrived id]) := by
  obtain ⟨identities, stored⟩ := Directory.connect_of_permanent records.permanent reception.mint
    reception.now id id
  refine records.append ((Directory.ttl_connect ..).trans records.permanent)
    ((Directory.forgetful_connect ..).trans records.remembers) (fun other => ?_)
    fun key other named => ?_
  · rw [perform, connect, identities]
    simp only [Visit.Brings, Visit.Takes, not_false_eq_true, and_true]
    split_ifs with same
    · simp [same]
    · simp [same]
  · rw [perform, connect, stored, if_neg (Ne.symm (named _))]
    simp [Visit.Gives, Visit.Ends]

/-- Whoever sends a message is there by the time it is answered, and has the aliases that it had. -/
theorem identified (records : reception.Records visits) (id : C) :
    let arrived := (reception.identify id id).2
    arrived.directory.handles.ttl = none ∧ arrived.directory.forgetful = false ∧
      (∀ other, (arrived.directory.identity? other).isSome ↔
        id = other ∨ (reception.directory.identity? other).isSome) ∧
      ∀ key, key.IsAlias →
        arrived.directory.handles.stored? key = reception.directory.handles.stored? key := by
  intro arrived
  cases known : reception.directory.identity? id with
  | some identity =>
    have same : arrived = reception := congrArg Prod.snd (identify_of_known known id)
    rw [same]
    refine ⟨records.permanent, records.remembers, fun other => ?_, fun key _ => rfl⟩
    constructor
    · exact Or.inr
    · rintro (rfl | there)
      · simp [known]
      · exact there
  | none =>
    have same : arrived = (reception.connect id id).2 :=
      congrArg Prod.snd (identify_of_unknown known id)
    obtain ⟨identities, stored⟩ := Directory.connect_of_permanent records.permanent reception.mint
      reception.now id id
    rw [same]
    refine ⟨(Directory.ttl_connect ..).trans records.permanent,
      (Directory.forgetful_connect ..).trans records.remembers, fun other => ?_, fun key named => ?_⟩
    · rw [connect, identities]
      split_ifs with self
      · simp [self]
      · simp [self]
    · rw [connect, stored, if_neg (Ne.symm (named _))]

theorem answered (records : reception.Records visits) (id : C) (keys : List Key) :
    (reception.perform (.message id id keys)).Records (visits ++ [.answered id keys]) := by
  obtain ⟨permanent, remembers, present, held⟩ := records.identified id
  refine records.append ((Directory.ttl_registerAll ..).trans permanent)
    ((Directory.forgetful_registerAll ..).trans remembers) (fun other => ?_)
    fun key other named => ?_
  · rw [perform, Directory.identity?, Directory.roster_registerAll]
    refine (present other).trans ?_
    simp only [Visit.Brings, Visit.Takes, not_false_eq_true, and_true]
  · rw [perform, Directory.stored?_registerAll, held key named]
    simp only [Visit.Gives, Visit.Ends]
    split_ifs with given
    · simp [given]
    · simp [given]

theorem left (records : reception.Records visits) (id : C) :
    (reception.perform (.disconnect id id)).Records (visits ++ [.left id]) := by
  refine records.append ?_ ?_ (fun other => ?_) fun key other named => ?_
  · exact (Directory.ttl_releaseAll ..).trans records.permanent
  · exact (Directory.forgetful_releaseAll ..).trans records.remembers
  · rw [perform, Directory.identity?_disconnect records.remembers]
    simp only [Visit.Brings, Visit.Takes, false_or]
    split_ifs with same
    · simp [same]
    · simp [same]
  · have own : key ∈ reception.directory.keysOf id id ↔
        reception.directory.handles.stored? key = some id := by
      rw [Directory.mem_keysOf]
      refine or_iff_left ?_
      rintro ⟨identity, -, same⟩
      exact named identity same
    rw [perform, Directory.stored?_disconnect]
    simp only [own, Visit.Gives, Visit.Ends, false_or]
    split_ifs with mine
    · simp [mine]
    · refine ⟨fun found => ⟨found, ?_⟩, And.left⟩
      rintro rfl
      exact mine found

/-- Every visit is recorded. -/
theorem visit (records : reception.Records visits) (visit : Visit C) :
    (reception.perform visit.event).Records (visits ++ [visit]) := by
  cases visit with
  | arrived id => exact records.arrived id
  | answered id keys => exact records.answered id keys
  | left id => exact records.left id

/-- Whatever is nobody's visit changes nothing that is held. -/
theorem held_of_idle (records : reception.Records visits) {event : Event C C} (idle : event.IsIdle) :
    (reception.perform event).directory.handles.ttl = none ∧
      (reception.perform event).directory.forgetful = reception.directory.forgetful ∧
      (reception.perform event).directory.roster = reception.directory.roster ∧
      ∀ key, (reception.perform event).directory.handles.stored? key =
        reception.directory.handles.stored? key := by
  have permanent := records.permanent
  cases event with
  | find key =>
    have removed : (reception.directory.handles.get reception.now key).removed = [] := by
      refine List.eq_nil_iff_forall_not_mem.mpr fun other gone => ?_
      obtain ⟨-, entry, -, stale⟩ := Registry.mem_removed_get.mp gone
      rw [Registry.isStale_of_permanent permanent] at stale
      cases stale
    rw [perform, Directory.find, removed]
    refine ⟨(Registry.ttl_get ..).trans permanent, rfl, rfl, fun other => ?_⟩
    exact (Registry.stored?_get ..).trans (if_neg (removed ▸ List.not_mem_nil))
  | sweep =>
    have removed : (reception.directory.handles.sweep reception.now).removed = [] := by
      refine List.eq_nil_iff_forall_not_mem.mpr fun key gone => ?_
      obtain ⟨entry, -, stale⟩ := Registry.mem_removed_sweep.mp gone
      rw [Registry.isStale_of_permanent permanent] at stale
      cases stale
    rw [perform, Directory.sweep, removed]
    refine ⟨permanent, rfl, rfl, fun other => ?_⟩
    exact (Registry.stored?_sweep ..).trans (if_neg (removed ▸ List.not_mem_nil))
  | elsewhere mints nanoseconds => exact ⟨permanent, rfl, rfl, fun _ => rfl⟩
  | connect _ _ | message _ _ _ | disconnect _ _ => cases idle

/-- So it leaves the record as it is. -/
theorem idle (records : reception.Records visits) {event : Event C C} (idle : event.IsIdle) :
    (reception.perform event).Records visits := by
  obtain ⟨permanent, forgetful, roster, stored⟩ := records.held_of_idle idle
  refine ⟨permanent, forgetful.trans records.remembers, fun id => ?_, fun key id named => ?_⟩
  · rw [Directory.identity?, roster]
    exact records.present id
  · rw [stored]
    exact records.held key id named

/-- Nothing is on record before the first visit. -/
theorem initial (mint : Mint) (now : Nat) :
    (⟨.empty none false, mint, now⟩ : Reception C C).Records [] where
  permanent := rfl
  remembers := rfl
  present id := iff_of_false (by simp [Directory.identity?, Directory.empty]) not_since_nil
  held key id _ := iff_of_false nofun not_since_nil

section

variable {start : UInt64} {count : Nat}

/-- A key reaches a connection as its identity or as an alias that the connection holds. -/
theorem stored?_eq_some_iff (records : reception.Records visits)
    (consistent : reception.Consistent (fun id => id) start count) {key : Key} {id : C} :
    reception.directory.handles.stored? key = some id ↔
      (∃ identity, reception.directory.identity? id = some identity ∧ key = .system identity) ∨
        key.IsAlias ∧ Visit.Holds visits key id := by
  by_cases named : key.IsAlias
  · rw [records.held key id named, and_iff_right named]
    refine (or_iff_right ?_).symm
    rintro ⟨identity, -, same⟩
    exact named identity same
  · rw [or_iff_left fun both => named both.1]
    obtain ⟨identity, rfl⟩ : ∃ identity, key = .system identity := by
      simpa [Key.IsAlias] using named
    have reached := consistent.reached id identity
    simp only [exists_eq_right] at reached
    simp only [Key.system.injEq, exists_eq_right', reached]

end

end Records

/-- A connection that leaves takes nothing with it that reaches another one. -/
theorem Consistent.stored?_disconnect_of_other {reception : Reception C C} {start : UInt64}
    {count : Nat} (consistent : reception.Consistent (fun id => id) start count) {id other : C}
    (differs : other ≠ id) {key : Key}
    (found : reception.directory.handles.stored? key = some other) (now : Nat) :
    (reception.directory.disconnect now id id).1.handles.stored? key = some other := by
  have kept : key ∉ reception.directory.keysOf id id := by
    rw [Directory.mem_keysOf, found]
    rintro (same | ⟨identity, known, rfl⟩)
    · exact differs (Option.some.inj same)
    · have theirs := (consistent.reached other identity).mpr ⟨other, found, rfl⟩
      exact differs (consistent.injective theirs known)
  rw [Directory.stored?_disconnect, if_neg kept, found]

end Reception

end Gateway
