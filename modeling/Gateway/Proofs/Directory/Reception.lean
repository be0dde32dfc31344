import Gateway.Proofs.Directory
import Mathlib.Algebra.Group.Nat.Defs

/-! # Receptions

A *reception* is a directory with the mint that it draws on and the time. What happens at it is one of
six events: a session connects, sends a message whose answer names some keys, or leaves, a key is
looked up, what has expired is swept out, or something happens elsewhere, where time may pass and an
identity may be taken from the same mint.

In a directory that forgets the identities of expired handles, or in which no handle expires, the
roster and the handles agree at all times: a session has an identity exactly if the handle under that
identity is stored and reaches the session. Identities are those that were minted, so the agreement
needs the mint not to come round to its first identity.
-/

namespace Gateway

/-- Whether an identity is among the first `count` that a mint hands out from `start` on. -/
def Identity.Issued (start : UInt64) (count : Nat) (id : Identity) : Prop :=
  (id.value - start).toNat < count

/-- How many identities were taken from a mint that went from one state to another by at most one. -/
def Mint.steps (before after : Mint) : Nat := if after = before then 0 else 1

namespace Mint

theorem issue_ne (mint : Mint) : mint.issue.2 ≠ mint := by
  intro same
  have next : mint.next + 1 = mint.next := congrArg Mint.next same
  have differs : (mint.next + 1).toNat = mint.next.toNat := congrArg UInt64.toNat next
  rw [UInt64.toNat_add] at differs
  have small := mint.next.toNat_lt
  simp only [UInt64.toNat_one] at differs
  omega

@[simp] theorem steps_self (mint : Mint) : mint.steps mint = 0 := if_pos rfl

@[simp] theorem steps_issue (mint : Mint) : mint.steps mint.issue.2 = 1 := if_neg mint.issue_ne

end Mint

namespace Identity

theorem Issued.mono {start : UInt64} {count more : Nat} {id : Identity}
    (issued : id.Issued start count) (le : count ≤ more) : id.Issued start more :=
  Nat.lt_of_lt_of_le issued le

variable {start : UInt64} {count : Nat} {mint : Mint}

/-- After `count` identities have been minted, the next one is number `count`. -/
theorem number_issue (minted : mint.next = start + UInt64.ofNat count) (few : count < 2 ^ 64) :
    (mint.issue.1.value - start).toNat = count := by
  have number : mint.issue.1.value - start = UInt64.ofNat count := by
    rw [Mint.issue, minted, UInt64.add_comm, UInt64.add_sub_cancel]
  rw [number, UInt64.toNat_ofNat', Nat.mod_eq_of_lt few]

theorem issued_issue (minted : mint.next = start + UInt64.ofNat count) (few : count < 2 ^ 64) :
    mint.issue.1.Issued start (count + 1) := by
  rw [Issued, number_issue minted few]
  omega

theorem not_issued_issue (minted : mint.next = start + UInt64.ofNat count) (few : count < 2 ^ 64) :
    ¬ mint.issue.1.Issued start count := by
  rw [Issued, number_issue minted few]
  omega

theorem minted_issue (minted : mint.next = start + UInt64.ofNat count) :
    mint.issue.2.next = start + UInt64.ofNat (count + 1) := by
  rw [Mint.issue, minted, UInt64.add_assoc, UInt64.ofNat_add]
  rfl

end Identity

/-- A directory, the mint that it draws on, and the time. -/
structure Reception (S : Type u) (H : Type v) where
  directory : Directory S H
  mint : Mint
  now : Nat

/-- What can happen at a reception. -/
inductive Reception.Event (S : Type u) (H : Type v) where
  | connect (session : S) (handle : H)
  /-- A message, and the keys that its answer names. -/
  | message (session : S) (handle : H) (keys : List Key)
  | disconnect (session : S) (handle : H)
  | find (key : Key)
  | sweep
  /-- Time passes elsewhere, and an identity may be taken. -/
  | elsewhere (mints : Bool) (nanoseconds : Nat)

namespace Reception

variable {S : Type u} {H : Type v} [DecidableEq S] [BEq H]

/-- The identity of a session that connects. -/
def connect (reception : Reception S H) (session : S) (handle : H) : Identity × Reception S H :=
  let connected := reception.directory.connect reception.mint reception.now session handle
  (connected.id, { reception with directory := connected.directory, mint := connected.mint })

/-- The identity of a session that sends a message, which connects it if it is unknown. -/
def identify (reception : Reception S H) (session : S) (handle : H) : Identity × Reception S H :=
  match reception.directory.identity? session with
  | some id => (id, reception)
  | none => reception.connect session handle

omit [BEq H] in
theorem now_identify (reception : Reception S H) (session : S) (handle : H) :
    (reception.identify session handle).2.now = reception.now := by
  rw [identify]
  split <;> rfl

/-- The reception after an event. -/
def perform (reception : Reception S H) : Event S H → Reception S H
  | .connect session handle => (reception.connect session handle).2
  | .message session handle keys =>
    let arrived := (reception.identify session handle).2
    { arrived with directory := arrived.directory.registerAll arrived.now keys handle }
  | .disconnect session handle =>
    { reception with
      directory := (reception.directory.disconnect reception.now session handle).1 }
  | .find key =>
    { reception with directory := (reception.directory.find reception.now key).2.1 }
  | .sweep => { reception with directory := (reception.directory.sweep reception.now).2.1 }
  | .elsewhere mints nanoseconds =>
    { reception with
      mint := if mints then reception.mint.issue.2 else reception.mint
      now := reception.now + nanoseconds }

/-- An event whose handles reach their sessions and whose answers name aliases only. -/
def Event.Proper (owner : H → S) : Event S H → Prop
  | .connect session handle => owner handle = session
  | .message session handle keys => owner handle = session ∧ ∀ key ∈ keys, key.IsAlias
  | .disconnect session handle => owner handle = session
  | _ => True

/-- What holds at a reception between two events: of the mint, `count` identities were taken. -/
structure Consistent (owner : H → S) (start : UInt64) (count : Nat) (reception : Reception S H) :
    Prop where
  settled : reception.directory.forgetful = true ∨ reception.directory.handles.ttl = none
  minted : reception.mint.next = start + UInt64.ofNat count
  issued : ∀ session id, reception.directory.identity? session = some id → id.Issued start count
  reached : ∀ session id, reception.directory.identity? session = some id ↔
    ∃ handle, reception.directory.handles.stored? (.system id) = some handle ∧
      owner handle = session

namespace Consistent

variable {owner : H → S} {start : UInt64} {count : Nat} {reception : Reception S H}

omit [BEq H]

/-- No two sessions have one identity. -/
theorem injective (consistent : Consistent owner start count reception) {one two : S}
    {id : Identity} (first : reception.directory.identity? one = some id)
    (second : reception.directory.identity? two = some id) : one = two := by
  obtain ⟨handle, stored, reaches⟩ := (consistent.reached one id).mp first
  obtain ⟨handle', stored', reaches'⟩ := (consistent.reached two id).mp second
  obtain rfl := Option.some.inj (stored.symm.trans stored')
  exact reaches.symm.trans reaches'

/-- The entry under the identity of a session. -/
theorem entry (consistent : Consistent owner start count reception) {session : S} {id : Identity}
    (known : reception.directory.identity? session = some id) :
    ∃ entry, reception.directory.entryAt? (.system id) = some entry ∧ owner entry.value = session := by
  obtain ⟨handle, stored, reaches⟩ := (consistent.reached session id).mp known
  obtain ⟨entry, found, rfl⟩ := Option.map_eq_some_iff.mp stored
  exact ⟨entry, found, reaches⟩

/-- Handles are lost to expiry only where the identities under them are forgotten. -/
theorem forgetful_of_stale (consistent : Consistent owner start count reception) {now : Nat}
    {entry : Entry H} (stale : reception.directory.handles.isStale now entry = true) :
    reception.directory.forgetful = true := by
  obtain forgetful | permanent := consistent.settled
  · exact forgetful
  · rw [Registry.isStale_of_permanent permanent] at stale
    cases stale

/-- Entries may be lost to expiry, if the directory takes notice. -/
theorem adopt (consistent : Consistent owner start count reception) (handles : Registry Key H)
    (removed : List Key) (ttl : handles.ttl = reception.directory.handles.ttl)
    (kept : ∀ key, handles.stored? key =
      if key ∈ removed then none else reception.directory.handles.stored? key)
    (forgetful : ∀ key ∈ removed, reception.directory.forgetful = true) :
    Consistent owner start count
      { reception with directory := reception.directory.adopt handles removed } where
  settled := consistent.settled.imp_right ttl.trans
  minted := consistent.minted
  issued session id known :=
    consistent.issued session id (Directory.identity?_adopt_eq_some_iff.mp known).1
  reached session id := by
    rw [Directory.identity?_adopt_eq_some_iff, consistent.reached]
    change _ ↔ ∃ handle, handles.stored? (.system id) = some handle ∧ owner handle = session
    rw [kept]
    by_cases gone : .system id ∈ removed
    · simp [gone, forgetful _ gone]
    · simp [gone]

/-- An unknown session is welcomed under the next identity. -/
theorem welcome (consistent : Consistent owner start count reception) (few : count < 2 ^ 64)
    {session : S} {handle : H} (proper : owner handle = session)
    (unknown : reception.directory.identity? session = none) :
    Consistent owner start (count + 1)
      { reception with
        directory :=
          { reception.directory with
            roster := reception.directory.roster.insert session reception.mint.issue.1
            handles := reception.directory.handles.store reception.now
              (.system reception.mint.issue.1) handle }
        mint := reception.mint.issue.2 } where
  settled := consistent.settled
  minted := Identity.minted_issue consistent.minted
  issued other id known := by
    rw [Directory.identity?, Roster.get?_insert] at known
    split_ifs at known with same
    · obtain rfl := Option.some.inj known
      exact Identity.issued_issue consistent.minted few
    · exact (consistent.issued other id known).mono (Nat.le_succ count)
  reached other id := by
    have fresh := Identity.not_issued_issue consistent.minted few
    have before := consistent.reached other id
    simp only [Directory.identity?, Roster.get?_insert, Registry.stored?_store, Key.system.injEq]
    by_cases newcomer : reception.mint.issue.1 = id
    · subst newcomer
      have missing : reception.directory.identity? other ≠ some reception.mint.issue.1 :=
        fun known => fresh (consistent.issued other _ known)
      rw [Directory.identity?] at missing
      simp only [↓reduceIte, Option.some.injEq, exists_eq_left', proper]
      split_ifs with same
      · simp [same]
      · simp [same, missing]
    · simp only [newcomer, ↓reduceIte]
      split_ifs with same
      · subst same
        rw [unknown] at before
        simp only [Option.some.injEq, newcomer, false_iff]
        simpa using before
      · exact before

/-- A known session gets another handle under its identity. -/
theorem restore (consistent : Consistent owner start count reception) {session : S} {handle : H}
    (proper : owner handle = session) {id : Identity}
    (known : reception.directory.identity? session = some id) {handles : Registry Key H}
    (ttl : handles.ttl = reception.directory.handles.ttl)
    (kept : ∀ key, handles.stored? key =
      if key = .system id then some handle else reception.directory.handles.stored? key) :
    Consistent owner start count
      { reception with directory := { reception.directory with handles := handles } } where
  settled := consistent.settled.imp_right ttl.trans
  minted := consistent.minted
  issued := consistent.issued
  reached other id' := by
    have before := consistent.reached other id'
    simp only [kept, Key.system.injEq]
    split_ifs with same
    · subst same
      simp only [Option.some.injEq, exists_eq_left', proper]
      constructor
      · exact consistent.injective known
      · rintro rfl
        exact known
    · exact before

theorem connect (consistent : Consistent owner start count reception) (few : count < 2 ^ 64)
    {session : S} {handle : H} (proper : owner handle = session) :
    Consistent owner start
      (count + reception.mint.steps (reception.connect session handle).2.mint)
      (reception.connect session handle).2 := by
  rw [Reception.connect]
  cases known : reception.directory.identity? session with
  | none =>
    rw [Directory.connect_of_unknown known, Mint.steps_issue]
    exact consistent.welcome few proper known
  | some id =>
    obtain ⟨entry, found, -⟩ := consistent.entry known
    cases stale : reception.directory.handles.isStale reception.now entry with
    | false =>
      rw [Directory.connect_of_live known found stale, Mint.steps_self]
      refine consistent.restore proper known rfl fun key => ?_
      rw [Registry.stored?_store, Registry.stored?_touch]
      simp only [eq_comm]
    | true =>
      rw [Directory.connect_of_expired known found stale, Mint.steps_issue]
      have forgetful := consistent.forgetful_of_stale stale
      have evicted := consistent.adopt (reception.directory.handles.drop (.system id))
        [.system id] rfl
        (fun key => by simp only [Registry.stored?_drop, List.mem_singleton, eq_comm])
        (fun _ _ => forgetful)
      refine evicted.welcome few proper ?_
      rw [Option.eq_none_iff_forall_ne_some]
      intro other left
      obtain ⟨before, kept⟩ := Directory.identity?_adopt_eq_some_iff.mp left
      obtain rfl := Option.some.inj (known.symm.trans before)
      exact kept ⟨forgetful, List.mem_singleton_self _⟩

theorem identify (consistent : Consistent owner start count reception) (few : count < 2 ^ 64)
    {session : S} {handle : H} (proper : owner handle = session) :
    Consistent owner start
      (count + reception.mint.steps (reception.identify session handle).2.mint)
      (reception.identify session handle).2 := by
  rw [Reception.identify]
  cases known : reception.directory.identity? session with
  | none => exact consistent.connect few proper
  | some id =>
    rw [Mint.steps_self]
    exact consistent

/-- Aliases do not touch what is held for identities. -/
theorem registerAll (consistent : Consistent owner start count reception) {keys : List Key}
    (aliases : ∀ key ∈ keys, key.IsAlias) (now : Nat) (handle : H) :
    Consistent owner start count
      { reception with directory := reception.directory.registerAll now keys handle } where
  settled := by
    rw [Directory.forgetful_registerAll, Directory.ttl_registerAll]
    exact consistent.settled
  minted := consistent.minted
  issued session id known := by
    rw [Directory.identity?, Directory.roster_registerAll] at known
    exact consistent.issued session id known
  reached session id := by
    have other : .system id ∉ keys := fun member => aliases _ member id rfl
    rw [Directory.identity?, Directory.roster_registerAll]
    simp only [Directory.stored?_registerAll, if_neg other]
    exact consistent.reached session id

/-- The identity that a session gives up is its own one. -/
theorem mem_keysOf [BEq H] [LawfulBEq H] (consistent : Consistent owner start count reception)
    {session : S} {handle : H} (proper : owner handle = session) {id : Identity} :
    Key.system id ∈ reception.directory.keysOf session handle ↔
      reception.directory.identity? session = some id := by
  rw [Directory.mem_keysOf]
  constructor
  · rintro (stored | ⟨_, known, ⟨⟩⟩)
    · exact (consistent.reached session id).mpr ⟨handle, stored, proper⟩
    · exact known
  · exact fun known => .inr ⟨id, known, rfl⟩

/-- What a session gives up holds for no other session, so nothing is lost to the others. -/
theorem disconnect [BEq H] [LawfulBEq H] (consistent : Consistent owner start count reception)
    {session : S} {handle : H} (proper : owner handle = session) (now : Nat) :
    Consistent owner start count
      { reception with directory := (reception.directory.disconnect now session handle).1 } where
  settled := by
    rw [Directory.disconnect, Directory.forgetful_releaseAll, Directory.ttl_releaseAll]
    exact consistent.settled
  minted := consistent.minted
  issued other id known := by
    obtain ⟨left, -⟩ := Directory.identity?_releaseAll_eq_some_iff.mp known
    rw [Directory.identity?, Roster.get?_remove] at left
    split_ifs at left
    exact consistent.issued other id left
  reached other id := by
    have given : Key.system id ∈ reception.directory.keysOf session handle ↔
        reception.directory.identity? session = some id := consistent.mem_keysOf proper
    have before := consistent.reached other id
    simp only [Directory.stored?_disconnect, given]
    rw [Directory.disconnect, Directory.identity?_releaseAll_eq_some_iff, given]
    simp only [Directory.identity?, Roster.get?_remove] at before ⊢
    by_cases mine : reception.directory.roster.get? session = some id
    · simp only [mine, ↓reduceIte, reduceCtorEq, false_and, exists_false, iff_false]
      rintro ⟨left, -⟩
      split_ifs at left with same
      exact same (consistent.injective mine left)
    · simp only [mine, ↓reduceIte, false_and, and_false, not_false_eq_true, and_true]
      rw [← before]
      split_ifs with same
      · subst same
        simp [mine]
      · rfl

/-- So does whatever only evicts. -/
theorem cull {R : Type w} (consistent : Consistent owner start count reception) {now : Nat}
    {step : Registry.Step Key H R} (culls : reception.directory.handles.Culls now step) :
    Consistent owner start count
      { reception with directory := reception.directory.adopt step.registry step.removed } := by
  refine consistent.adopt _ _ culls.ttl culls.kept fun key gone => ?_
  obtain ⟨entry, -, stale⟩ := culls.stale key gone
  exact consistent.forgetful_of_stale stale

theorem find (consistent : Consistent owner start count reception) (now : Nat) (key : Key) :
    Consistent owner start count
      { reception with directory := (reception.directory.find now key).2.1 } :=
  consistent.cull (Registry.culls_get _ now key)

theorem sweep (consistent : Consistent owner start count reception) (now : Nat) :
    Consistent owner start count
      { reception with directory := (reception.directory.sweep now).2.1 } :=
  consistent.cull (Registry.culls_sweep _ now)

/-- The agreement holds before anything happened. -/
theorem initial (owner : H → S) (start : UInt64) (ttl : Option Nat) (forgetful : Bool) (now : Nat)
    (settled : forgetful = true ∨ ttl = none) :
    Consistent owner start 0 ⟨.empty ttl forgetful, ⟨start⟩, now⟩ where
  settled := settled
  minted := (UInt64.add_zero start).symm
  issued session id known := nomatch known
  reached session id := by
    constructor
    · intro known
      cases known
    · rintro ⟨handle, stored, -⟩
      cases stored

/-- The agreement is kept by every proper event, as long as the mint has not come round. -/
theorem perform [BEq H] [LawfulBEq H] (consistent : Consistent owner start count reception)
    (few : count < 2 ^ 64) {event : Event S H} (proper : event.Proper owner) :
    Consistent owner start (count + reception.mint.steps (reception.perform event).mint)
      (reception.perform event) := by
  cases event with
  | connect session handle => exact consistent.connect few proper
  | message session handle keys =>
    exact (consistent.identify few proper.1).registerAll proper.2 _ handle
  | disconnect session handle =>
    rw [Reception.perform, Mint.steps_self]
    exact consistent.disconnect proper reception.now
  | find key =>
    rw [Reception.perform, Mint.steps_self]
    exact consistent.find reception.now key
  | sweep =>
    rw [Reception.perform, Mint.steps_self]
    exact consistent.sweep reception.now
  | elsewhere mints nanoseconds =>
    rw [Reception.perform]
    cases mints with
    | false =>
      rw [if_neg Bool.false_ne_true, Mint.steps_self]
      exact ⟨consistent.settled, consistent.minted, consistent.issued, consistent.reached⟩
    | true =>
      rw [if_pos rfl, Mint.steps_issue]
      exact ⟨consistent.settled, Identity.minted_issue consistent.minted,
        fun session id known => (consistent.issued session id known).mono (Nat.le_succ count),
        consistent.reached⟩

end Consistent

end Reception

end Gateway
