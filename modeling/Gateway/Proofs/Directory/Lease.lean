import Gateway.Proofs.Directory.Reception

/-! # Leases

What a session holds in a directory is a *lease*: its identity, and when the handle under it was last
touched. A session that connects gets a lease from now on, with its old identity unless that lease is
over. A message of a session that has a lease leaves it as it is, even when it is over. Of what happens
to others, only a sweep ends a lease.
-/

namespace Gateway

/-- An identity and when it was last renewed. -/
structure Lease where
  id : Identity
  since : Nat

/-- Whether a lease was renewed longer ago than the time to live. -/
def Lease.isOver (ttl now : Nat) (lease : Lease) : Bool := lease.since + ttl < now

/-- A lease is over when the handle under it has expired. -/
theorem Lease.isOver_eq {K : Type u} {V : Type v} {registry : Registry K V} {ttl : Nat}
    (mortal : registry.ttl = some ttl) (now : Nat) (value : V) (lease : Lease) :
    registry.isStale now ⟨value, lease.since⟩ = lease.isOver ttl now := by
  rw [Bool.eq_iff_iff, Registry.isStale_eq_true_iff mortal, isOver, decide_eq_true_eq]

namespace Directory

variable {S : Type u} {H : Type v} [DecidableEq S]

/-- The lease of a session. -/
def lease? (directory : Directory S H) (session : S) : Option Lease :=
  (directory.identity? session).bind fun id =>
    (directory.entryAt? (.system id)).map fun entry => ⟨id, entry.touched⟩

variable {directory other : Directory S H} {session : S}

theorem lease?_eq_some_iff {lease : Lease} :
    directory.lease? session = some lease ↔
      directory.identity? session = some lease.id ∧
        ∃ handle, directory.entryAt? (.system lease.id) = some ⟨handle, lease.since⟩ := by
  rw [lease?, Option.bind_eq_some_iff]
  constructor
  · rintro ⟨id, known, held⟩
    obtain ⟨⟨handle, since⟩, found, rfl⟩ := Option.map_eq_some_iff.mp held
    exact ⟨known, handle, found⟩
  · rintro ⟨known, handle, found⟩
    exact ⟨lease.id, known, Option.map_eq_some_iff.mpr ⟨_, found, rfl⟩⟩

/-- Directories in which a session has one identity, touched at one time, have one lease for it. -/
theorem lease?_congr (identity : other.identity? session = directory.identity? session)
    (entries : ∀ id, directory.identity? session = some id →
      other.entryAt? (.system id) = directory.entryAt? (.system id)) :
    other.lease? session = directory.lease? session := by
  rw [lease?, lease?, identity]
  cases known : directory.identity? session with
  | none => rfl
  | some id => rw [Option.bind_some, Option.bind_some, entries id known]

/-- What may lose its value but does not is as it was. -/
theorem eq_of_spared {before after : Option Identity} {lost : Identity → Prop}
    (kept : ∀ id, after = some id ↔ before = some id ∧ ¬ lost id)
    (spared : ∀ id, before = some id → ¬ lost id) : after = before := by
  refine Option.ext fun id => ?_
  rw [kept]
  constructor
  · exact And.left
  · intro known
    exact ⟨known, spared id known⟩

end Directory

namespace Reception

variable {S : Type u} {H : Type v} [DecidableEq S] {reception : Reception S H} {session : S}

/-- The lease of a session at a reception. -/
def lease? (reception : Reception S H) (session : S) : Option Lease :=
  reception.directory.lease? session

theorem identify_of_known {id : Identity} (known : reception.directory.identity? session = some id)
    (handle : H) : reception.identify session handle = (id, reception) := by
  rw [identify, known]

theorem identify_of_unknown (unknown : reception.directory.identity? session = none) (handle : H) :
    reception.identify session handle = reception.connect session handle := by
  rw [identify, unknown]

/-- Whoever has no identity gets the next one. -/
theorem identity_connect_of_unknown (unknown : reception.directory.identity? session = none)
    (handle : H) : (reception.connect session handle).1 = reception.mint.issue.1 := by
  rw [connect, Directory.connect_of_unknown unknown]

/-- Whoever has a lease keeps its identity, unless the lease is over. -/
theorem identity_connect_of_lease {ttl : Nat} (mortal : reception.directory.handles.ttl = some ttl)
    {lease : Lease} (held : reception.lease? session = some lease) (handle : H) :
    (reception.connect session handle).1 =
      if lease.isOver ttl reception.now then reception.mint.issue.1 else lease.id := by
  obtain ⟨known, other, found⟩ := Directory.lease?_eq_some_iff.mp held
  have ended := Lease.isOver_eq mortal reception.now other lease
  rw [connect]
  cases stale : lease.isOver ttl reception.now with
  | false =>
    rw [Directory.connect_of_live known found (ended.trans stale), if_neg Bool.false_ne_true]
  | true => rw [Directory.connect_of_expired known found (ended.trans stale), if_pos rfl]

/-- Whoever connects has a lease from now on. -/
theorem lease?_connect (reception : Reception S H) (session : S) (handle : H) :
    (reception.connect session handle).2.lease? session =
      some ⟨(reception.connect session handle).1, reception.now⟩ := by
  rw [lease?, Directory.lease?_eq_some_iff, connect]
  cases known : reception.directory.identity? session with
  | none =>
    rw [Directory.connect_of_unknown known]
    exact ⟨(Roster.get?_insert ..).trans (if_pos rfl), handle,
      (Registry.get?_store ..).trans (if_pos rfl)⟩
  | some id =>
    cases found : reception.directory.entryAt? (.system id) with
    | none =>
      rw [Directory.connect_of_lost known found]
      exact ⟨(Roster.get?_insert ..).trans (if_pos rfl), handle,
        (Registry.get?_store ..).trans (if_pos rfl)⟩
    | some entry =>
      cases stale : reception.directory.handles.isStale reception.now entry with
      | false =>
        rw [Directory.connect_of_live known found stale]
        exact ⟨known, handle, (Registry.get?_store ..).trans (if_pos rfl)⟩
      | true =>
        rw [Directory.connect_of_expired known found stale]
        exact ⟨(Roster.get?_insert ..).trans (if_pos rfl), handle,
          (Registry.get?_store ..).trans (if_pos rfl)⟩

/-- An event that is no business of a session, nor a look-up of its identity. -/
def Event.Spares (session : S) (id : Identity) : Event S H → Prop
  | .connect other _ | .message other _ _ | .disconnect other _ => other ≠ session
  | .find key => key ≠ .system id
  | .sweep | .elsewhere _ _ => True

/-- Whether an event at a time ends a lease of a session that it spares. -/
def Event.ends (ttl now : Nat) (lease : Lease) : Event S H → Bool
  | .sweep => lease.isOver ttl now
  | _ => false

namespace Consistent

variable {owner : H → S} {start : UInt64} {count : Nat}

/-- Whoever has an identity has a lease. -/
theorem lease (consistent : Consistent owner start count reception) {id : Identity}
    (known : reception.directory.identity? session = some id) :
    ∃ since, reception.lease? session = some ⟨id, since⟩ := by
  obtain ⟨⟨handle, since⟩, found, -⟩ := consistent.entry known
  exact ⟨since, Directory.lease?_eq_some_iff.mpr ⟨known, handle, found⟩⟩

/-- Whoever has no lease has no identity. -/
theorem unknown (consistent : Consistent owner start count reception)
    (nothing : reception.lease? session = none) :
    reception.directory.identity? session = none := by
  rw [Option.eq_none_iff_forall_ne_some]
  intro id known
  obtain ⟨since, held⟩ := consistent.lease known
  rw [nothing] at held
  cases held

/-- The identity of one session is not the next one to be minted. -/
theorem ne_issue (consistent : Consistent owner start count reception) (few : count < 2 ^ 64)
    {id : Identity} (known : reception.directory.identity? session = some id) :
    reception.mint.issue.1 ≠ id := by
  rintro rfl
  exact Identity.not_issued_issue consistent.minted few (consistent.issued session _ known)

/-- Nobody else's connecting changes a lease. -/
theorem lease?_connect_other (consistent : Consistent owner start count reception)
    (few : count < 2 ^ 64) {other : S} (differs : other ≠ session) (handle : H) :
    (reception.connect other handle).2.lease? session = reception.lease? session := by
  rw [Reception.connect]
  cases known : reception.directory.identity? other with
  | none =>
    rw [Directory.connect_of_unknown known]
    apply Directory.lease?_congr
    · exact (Roster.get?_insert ..).trans (if_neg differs)
    · intro id mine
      have fresh : Key.system reception.mint.issue.1 ≠ .system id :=
        fun same => consistent.ne_issue few mine (Key.system.inj same)
      exact (Registry.get?_store ..).trans (if_neg fresh)
  | some theirs =>
    have apart : ∀ id, reception.directory.identity? session = some id →
        Key.system theirs ≠ .system id := by
      rintro id mine ⟨⟩
      exact differs (consistent.injective known mine)
    obtain ⟨entry, found, -⟩ := consistent.entry known
    cases stale : reception.directory.handles.isStale reception.now entry with
    | false =>
      rw [Directory.connect_of_live known found stale]
      apply Directory.lease?_congr
      · rfl
      · intro id mine
        have other := apart id mine
        simp only [Directory.entryAt?, Registry.get?_store, Registry.get?_touch, other, other.symm,
          ↓reduceIte]
    | true =>
      rw [Directory.connect_of_expired known found stale]
      have kept : (Directory.forgetKey reception.directory.forgetful reception.directory.roster
          (.system theirs)).get? session = reception.directory.identity? session := by
        apply Directory.eq_of_spared fun id => Directory.get?_forgetKey_eq_some_iff
        rintro id mine ⟨-, lost⟩
        exact apart id mine lost
      apply Directory.lease?_congr
      · exact (Roster.get?_insert ..).trans ((if_neg differs).trans kept)
      · intro id mine
        have other := apart id mine
        have fresh := consistent.ne_issue few mine
        simp only [Directory.entryAt?, Registry.get?_store, Registry.get?_drop, Key.system.injEq,
          fresh, other, ↓reduceIte]

/-- Nor does their sending messages. -/
theorem lease?_identify_other (consistent : Consistent owner start count reception)
    (few : count < 2 ^ 64) {other : S} (differs : other ≠ session) (handle : H) :
    (reception.identify other handle).2.lease? session = reception.lease? session := by
  cases known : reception.directory.identity? other with
  | none =>
    rw [identify_of_unknown known]
    exact consistent.lease?_connect_other few differs handle
  | some id => rw [identify_of_known known]

end Consistent

/-- Aliases do not touch leases. -/
theorem lease?_registerAll (directory : Directory S H) {keys : List Key}
    (aliases : ∀ key ∈ keys, key.IsAlias) (now : Nat) (handle : H) (session : S) :
    (directory.registerAll now keys handle).lease? session = directory.lease? session := by
  apply Directory.lease?_congr
  · rw [Directory.identity?, Directory.roster_registerAll]
    rfl
  · intro id _
    have other : .system id ∉ keys := fun member => aliases _ member id rfl
    rw [Directory.entryAt?_registerAll, if_neg other]

namespace Consistent

variable {owner : H → S} {start : UInt64} {count : Nat}

/-- Nobody else's leaving changes a lease. -/
theorem lease?_disconnect_other [BEq H] [LawfulBEq H]
    (consistent : Consistent owner start count reception) {other : S} {handle : H}
    (proper : owner handle = other) (differs : other ≠ session) (now : Nat) :
    (reception.directory.disconnect now other handle).1.lease? session =
      reception.lease? session := by
  have given : ∀ id, reception.directory.identity? session = some id →
      Key.system id ∉ reception.directory.keysOf other handle := by
    intro id mine member
    exact differs (consistent.injective ((consistent.mem_keysOf proper).mp member) mine)
  have roster : ({ reception.directory with
      roster := reception.directory.roster.remove other } : Directory S H).identity? session =
        reception.directory.identity? session := (Roster.get?_remove ..).trans (if_neg differs)
  rw [Directory.disconnect]
  apply Directory.lease?_congr
  · rw [← roster]
    apply Directory.eq_of_spared fun id => Directory.identity?_releaseAll_eq_some_iff
    rintro id mine ⟨-, member, -⟩
    exact given id (roster ▸ mine) member
  · intro id mine
    rw [Directory.entryAt?_releaseAll, if_neg (given id mine)]
    rfl

end Consistent

/-- Looking up a key leaves all leases but the one of its identity as they are. -/
theorem lease?_find (directory : Directory S H) (now : Nat) {key : Key} {session : S}
    (spared : ∀ id, directory.identity? session = some id → key ≠ .system id) :
    (directory.find now key).2.1.lease? session = directory.lease? session := by
  apply Directory.lease?_congr
  · apply Directory.eq_of_spared fun id => Directory.identity?_adopt_eq_some_iff
    rintro id mine ⟨-, lost⟩
    exact spared id mine (Registry.mem_removed_get.mp lost).1.symm
  · intro id mine
    exact (Registry.get?_get ..).trans (if_neg (spared id mine))

/-- A sweep ends the leases that are over. -/
theorem lease?_sweep {directory : Directory S H} {ttl : Nat}
    (mortal : directory.handles.ttl = some ttl) (now : Nat) (session : S) :
    (directory.sweep now).2.1.lease? session =
      (directory.lease? session).filter fun lease => !lease.isOver ttl now := by
  have entries : ∀ key, (directory.sweep now).2.1.entryAt? key =
      (directory.entryAt? key).filter fun entry => !directory.handles.isStale now entry :=
    fun key => Registry.get?_sweep directory.handles now key
  refine Option.ext fun lease => ?_
  rw [Option.filter_eq_some_iff, Directory.lease?_eq_some_iff, Directory.lease?_eq_some_iff,
    entries, Directory.sweep, Directory.identity?_adopt_eq_some_iff]
  simp only [Option.filter_eq_some_iff, Lease.isOver_eq mortal]
  constructor
  · rintro ⟨⟨known, -⟩, handle, found, fresh⟩
    exact ⟨⟨known, handle, found⟩, fresh⟩
  · rintro ⟨⟨known, handle, found⟩, fresh⟩
    refine ⟨⟨known, ?_⟩, handle, found, fresh⟩
    rintro ⟨-, lost⟩
    obtain ⟨entry, found', stale⟩ := Registry.mem_removed_sweep.mp lost
    obtain rfl := Option.some.inj (found.symm.trans found')
    rw [Lease.isOver_eq mortal] at stale
    simp [stale] at fresh

variable [BEq H]

/-- No event changes the time to live. -/
theorem ttl_perform (reception : Reception S H) (event : Event S H) :
    (reception.perform event).directory.handles.ttl = reception.directory.handles.ttl := by
  cases event with
  | connect session handle => exact Directory.ttl_connect ..
  | message session handle keys =>
    refine (Directory.ttl_registerAll ..).trans ?_
    rw [identify]
    split
    · rfl
    · exact Directory.ttl_connect ..
  | disconnect session handle => exact Directory.ttl_releaseAll ..
  | find key => exact Registry.ttl_get ..
  | sweep => rfl
  | elsewhere mints nanoseconds => rfl

namespace Consistent

variable {owner : H → S} {start : UInt64} {count : Nat} [LawfulBEq H]

/-- An event that spares a session leaves it its lease, unless it ends it. -/
theorem lease?_perform (consistent : Consistent owner start count reception)
    (few : count < 2 ^ 64) {ttl : Nat} (mortal : reception.directory.handles.ttl = some ttl)
    {event : Event S H} (proper : event.Proper owner) {id : Identity}
    (held : ∀ lease, reception.lease? session = some lease → lease.id = id)
    (spared : event.Spares session id) :
    (reception.perform event).lease? session =
      (reception.lease? session).filter fun lease => !event.ends ttl reception.now lease := by
  have untouched : ∀ lease : Option Lease, lease = lease.filter fun _ => !false := by
    intro lease
    cases lease <;> rfl
  cases event with
  | connect other handle =>
    exact (consistent.lease?_connect_other few spared handle).trans (untouched _)
  | message other handle keys =>
    refine (lease?_registerAll _ proper.2 _ handle session).trans ?_
    exact (consistent.lease?_identify_other few spared handle).trans (untouched _)
  | disconnect other handle =>
    exact (consistent.lease?_disconnect_other proper spared _).trans (untouched _)
  | find key =>
    refine (lease?_find reception.directory reception.now fun other known => ?_).trans (untouched _)
    obtain ⟨since, lease⟩ := consistent.lease known
    obtain rfl := held _ lease
    exact spared
  | sweep => exact lease?_sweep mortal reception.now session
  | elsewhere mints nanoseconds => exact untouched _

end Consistent

end Reception

end Gateway
