import Gateway.Directory
import Gateway.Proofs.Registry

/-! # What a directory holds after its operations

Directories are looked at through the identity of a session in the roster and the entry of a key
among the handles. Connecting has four outcomes, by whether the session has an identity and whether
the handle under it is live, has expired or is gone. Releasing keys takes their entries out and, in a
forgetful directory, the identities among those that were stored. Keys other than identities are
*aliases*: registering under aliases leaves everything that is held for identities alone.
-/

namespace Gateway

/-- Whether a key is a name or a number that a handler chose. -/
def Key.IsAlias (key : Key) : Prop := ∀ id, key ≠ .system id

namespace Roster

variable {S : Type u}

theorem get?_forget_eq_some_iff [DecidableEq S] {roster : Roster S} {id other : Identity}
    {session : S} :
    (roster.forget id).get? session = some other ↔ roster.get? session = some other ∧ other ≠ id := by
  rw [forget, get?, Table.get?_filter, Option.filter_eq_some_iff]
  simp [get?]

variable [DecidableEq S]

@[simp] theorem get?_empty (session : S) : (empty : Roster S).get? session = none := rfl

@[simp] theorem get?_insert (roster : Roster S) (session other : S) (id : Identity) :
    (roster.insert session id).get? other = if session = other then some id else roster.get? other :=
  Table.get?_insert ..

@[simp] theorem get?_remove (roster : Roster S) (session other : S) :
    (roster.remove session).get? other = if session = other then none else roster.get? other :=
  Table.get?_erase ..

end Roster

namespace Directory

variable {S : Type u} {H : Type v}

/-- The entry under a key, expired or not. -/
def entryAt? (directory : Directory S H) (key : Key) : Option (Entry H) :=
  directory.handles.entries.get? key

/-- The handle under a key is that of its entry. -/
theorem stored?_eq (directory : Directory S H) (key : Key) :
    directory.handles.stored? key = (directory.entryAt? key).map Entry.value := rfl

theorem entryAt?_registerAll (directory : Directory S H) (now : Nat) (keys : List Key) (handle : H)
    (key : Key) :
    (directory.registerAll now keys handle).entryAt? key =
      if key ∈ keys then some ⟨handle, now⟩ else directory.entryAt? key := by
  induction keys generalizing directory with
  | nil => simp [registerAll]
  | cons first rest ih =>
    have step : (directory.registerAll now (first :: rest) handle).entryAt? key =
        ((directory.register now first handle).registerAll now rest handle).entryAt? key := rfl
    rw [step, ih]
    by_cases later : key ∈ rest
    · simp [later]
    · have registered : (directory.register now first handle).entryAt? key =
          if first = key then some ⟨handle, now⟩ else directory.entryAt? key :=
        Registry.get?_store ..
      rw [registered]
      by_cases same : first = key
      · simp [same]
      · simp [same, later, Ne.symm same]

theorem stored?_registerAll (directory : Directory S H) (now : Nat) (keys : List Key) (handle : H)
    (key : Key) :
    (directory.registerAll now keys handle).handles.stored? key =
      if key ∈ keys then some handle else directory.handles.stored? key := by
  rw [stored?_eq, entryAt?_registerAll]
  split_ifs <;> rfl

theorem roster_registerAll (directory : Directory S H) (now : Nat) (keys : List Key) (handle : H) :
    (directory.registerAll now keys handle).roster = directory.roster := by
  induction keys generalizing directory with
  | nil => rfl
  | cons first rest ih => exact ih (directory.register now first handle)

theorem forgetful_registerAll (directory : Directory S H) (now : Nat) (keys : List Key)
    (handle : H) :
    (directory.registerAll now keys handle).forgetful = directory.forgetful := by
  induction keys generalizing directory with
  | nil => rfl
  | cons first rest ih => exact ih (directory.register now first handle)

theorem ttl_registerAll (directory : Directory S H) (now : Nat) (keys : List Key) (handle : H) :
    (directory.registerAll now keys handle).handles.ttl = directory.handles.ttl := by
  induction keys generalizing directory with
  | nil => rfl
  | cons first rest ih => exact ih (directory.register now first handle)

variable [DecidableEq S]

/-- The identity of a session. -/
def identity? (directory : Directory S H) (session : S) : Option Identity :=
  directory.roster.get? session

/-- Sessions keep their identity unless the directory forgets it with the key that is gone. -/
theorem get?_forgetKey_eq_some_iff {forgetful : Bool} {roster : Roster S} {key : Key} {session : S}
    {id : Identity} :
    (forgetKey forgetful roster key).get? session = some id ↔
      roster.get? session = some id ∧ ¬ (forgetful = true ∧ key = .system id) := by
  cases forgetful with
  | false => cases key <;> simp [forgetKey]
  | true =>
    cases key with
    | system other =>
      rw [forgetKey, Roster.get?_forget_eq_some_iff]
      simp [eq_comm]
    | name text => simp [forgetKey]
    | number value => simp [forgetKey]

theorem get?_forgetKeys_eq_some_iff {forgetful : Bool} {removed : List Key} {roster : Roster S}
    {session : S} {id : Identity} :
    (removed.foldl (forgetKey forgetful) roster).get? session = some id ↔
      roster.get? session = some id ∧ ¬ (forgetful = true ∧ .system id ∈ removed) := by
  induction removed generalizing roster with
  | nil => simp
  | cons key rest ih =>
    rw [List.foldl_cons, ih, get?_forgetKey_eq_some_iff, List.mem_cons, and_assoc, ← not_or,
      ← and_or_left, @eq_comm Key key]

theorem identity?_adopt_eq_some_iff {directory : Directory S H} {handles : Registry Key H}
    {removed : List Key} {session : S} {id : Identity} :
    (directory.adopt handles removed).identity? session = some id ↔
      directory.identity? session = some id ∧
        ¬ (directory.forgetful = true ∧ .system id ∈ removed) :=
  get?_forgetKeys_eq_some_iff

section Connecting

variable {directory : Directory S H} {session : S} {id : Identity} {entry : Entry H} {now : Nat}

/-- A session without an identity gets the next one. -/
theorem connect_of_unknown (unknown : directory.identity? session = none) (mint : Mint) (now : Nat)
    (handle : H) :
    directory.connect mint now session handle =
      { id := mint.issue.1
        directory :=
          { directory with
            roster := directory.roster.insert session mint.issue.1
            handles := directory.handles.store now (.system mint.issue.1) handle }
        mint := mint.issue.2
        removed := [] } := by
  have granted : directory.roster.getOrMint session mint =
      directory.roster.grantFresh session mint := by
    rw [identity?] at unknown
    rw [Roster.getOrMint, unknown]
  rw [connect, granted]
  rfl

/-- A session whose handle is live keeps its identity. -/
theorem connect_of_live (known : directory.identity? session = some id)
    (found : directory.entryAt? (.system id) = some entry)
    (fresh : directory.handles.isStale now entry = false) (mint : Mint) (handle : H) :
    directory.connect mint now session handle =
      { id := id
        directory :=
          { directory with
            handles := (directory.handles.touch now (.system id)).store now (.system id) handle }
        mint := mint
        removed := [] } := by
  have granted : directory.roster.getOrMint session mint = ⟨id, false, directory.roster, mint⟩ := by
    rw [identity?] at known
    rw [Roster.getOrMint, known]
  simp only [connect, granted, Registry.renew_of_fresh found fresh]
  rfl

/-- A session whose handle has expired gets the next identity in place of its old one. -/
theorem connect_of_expired (known : directory.identity? session = some id)
    (found : directory.entryAt? (.system id) = some entry)
    (stale : directory.handles.isStale now entry = true) (mint : Mint) (handle : H) :
    directory.connect mint now session handle =
      { id := mint.issue.1
        directory :=
          { directory with
            roster := (forgetKey directory.forgetful directory.roster (.system id)).insert session
              mint.issue.1
            handles := (directory.handles.drop (.system id)).store now (.system mint.issue.1)
              handle }
        mint := mint.issue.2
        removed := [.system id] } := by
  have granted : directory.roster.getOrMint session mint = ⟨id, false, directory.roster, mint⟩ := by
    rw [identity?] at known
    rw [Roster.getOrMint, known]
  have regranted : (forgetKey directory.forgetful directory.roster (.system id)).remint session id
      mint = (forgetKey directory.forgetful directory.roster (.system id)).grantFresh session
        mint := by
    rw [Roster.remint]
    cases left : (forgetKey directory.forgetful directory.roster (.system id)).get? session with
    | none => rfl
    | some other =>
      have same : other = id :=
        Option.some.inj ((get?_forgetKey_eq_some_iff.mp left).1.symm.trans known)
      simp [same]
  simp only [connect, granted, Registry.renew_of_stale found stale, adopt, List.foldl_cons,
    List.foldl_nil, regranted]
  rfl

/-- So does a session whose handle is gone. -/
theorem connect_of_lost (known : directory.identity? session = some id)
    (absent : directory.entryAt? (.system id) = none) (mint : Mint) (now : Nat) (handle : H) :
    directory.connect mint now session handle =
      { id := mint.issue.1
        directory :=
          { directory with
            roster := directory.roster.insert session mint.issue.1
            handles := directory.handles.store now (.system mint.issue.1) handle }
        mint := mint.issue.2
        removed := [] } := by
  have granted : directory.roster.getOrMint session mint = ⟨id, false, directory.roster, mint⟩ := by
    rw [identity?] at known
    rw [Roster.getOrMint, known]
  have regranted : directory.roster.remint session id mint =
      directory.roster.grantFresh session mint := by
    rw [identity?] at known
    rw [Roster.remint, known]
    simp
  simp only [connect, granted, Registry.renew_of_absent absent, adopt, List.foldl_nil, regranted]
  rfl

/-- Whoever has no handle under an identity gets the next one. -/
theorem connect_of_unreached
    (unreached : ∀ id, directory.identity? session = some id →
      directory.entryAt? (.system id) = none) (mint : Mint) (now : Nat) (handle : H) :
    directory.connect mint now session handle =
      { id := mint.issue.1
        directory :=
          { directory with
            roster := directory.roster.insert session mint.issue.1
            handles := directory.handles.store now (.system mint.issue.1) handle }
        mint := mint.issue.2
        removed := [] } := by
  cases known : directory.identity? session with
  | none => exact connect_of_unknown known mint now handle
  | some id => exact connect_of_lost known (unreached id known) mint now handle

/-- Connecting takes at most one identity from the mint. -/
theorem mint_connect (directory : Directory S H) (mint : Mint) (now : Nat) (session : S)
    (handle : H) :
    (directory.connect mint now session handle).mint = mint ∨
      (directory.connect mint now session handle).mint = mint.issue.2 := by
  cases known : directory.identity? session with
  | none =>
    rw [connect_of_unknown known]
    exact .inr rfl
  | some id =>
    cases found : directory.entryAt? (.system id) with
    | none =>
      rw [connect_of_lost known found]
      exact .inr rfl
    | some entry =>
      cases stale : directory.handles.isStale now entry with
      | false =>
        rw [connect_of_live known found stale]
        exact .inl rfl
      | true =>
        rw [connect_of_expired known found stale]
        exact .inr rfl

theorem ttl_connect (directory : Directory S H) (mint : Mint) (now : Nat) (session : S)
    (handle : H) :
    (directory.connect mint now session handle).directory.handles.ttl = directory.handles.ttl := by
  simp only [connect]
  split_ifs with minted live
  · rfl
  · exact Registry.ttl_renew ..
  · exact Registry.ttl_renew ..

theorem forgetful_connect (directory : Directory S H) (mint : Mint) (now : Nat) (session : S)
    (handle : H) :
    (directory.connect mint now session handle).directory.forgetful = directory.forgetful := by
  simp only [connect]
  split_ifs <;> rfl

/-- Whoever connects keeps its identity or is given the next one of the mint. -/
theorem connect_cases (directory : Directory S H) (mint : Mint) (now : Nat) (session : S)
    (handle : H) :
    let connected := directory.connect mint now session handle
    (directory.identity? session = some connected.id ∧
        connected.directory.roster = directory.roster) ∨
      connected.mint = mint.issue.2 ∧ connected.id = mint.issue.1 ∧
        ∃ roster : Roster S, connected.directory.roster = roster.insert session mint.issue.1 ∧
          ∀ other id, roster.get? other = some id → directory.identity? other = some id := by
  intro connected
  cases known : directory.identity? session with
  | none =>
    have same : connected = _ := connect_of_unknown known mint now handle
    rw [same]
    exact .inr ⟨rfl, rfl, directory.roster, rfl, fun _ _ left => left⟩
  | some id =>
    cases found : directory.entryAt? (.system id) with
    | none =>
      have same : connected = _ := connect_of_lost known found mint now handle
      rw [same]
      exact .inr ⟨rfl, rfl, directory.roster, rfl, fun _ _ left => left⟩
    | some entry =>
      cases stale : directory.handles.isStale now entry with
      | false =>
        have same : connected = _ := connect_of_live known found stale mint handle
        rw [same]
        exact .inl ⟨rfl, rfl⟩
      | true =>
        have same : connected = _ := connect_of_expired known found stale mint handle
        rw [same]
        refine .inr ⟨rfl, rfl, _, rfl, fun other id left => ?_⟩
        exact (get?_forgetKey_eq_some_iff.mp left).1

/-- Whoever connects is known from then on. -/
theorem identity?_connect (directory : Directory S H) (mint : Mint) (now : Nat) (session : S)
    (handle : H) :
    (directory.connect mint now session handle).directory.identity? session =
      some (directory.connect mint now session handle).id := by
  obtain ⟨known, same⟩ | ⟨-, given, roster, inserted, -⟩ :=
    directory.connect_cases mint now session handle
  · rw [← known, identity?, identity?, same]
  · rw [identity?, inserted, Roster.get?_insert, if_pos rfl, given]

/-- Where handles do not expire, whoever connects is known and reached from then on, and nothing else
changes. -/
theorem connect_of_permanent (permanent : directory.handles.ttl = none) (mint : Mint) (now : Nat)
    (session : S) (handle : H) :
    let connected := directory.connect mint now session handle
    (∀ other, connected.directory.identity? other =
        if session = other then some connected.id else directory.identity? other) ∧
      ∀ key, connected.directory.handles.stored? key =
        if .system connected.id = key then some handle else directory.handles.stored? key := by
  intro connected
  cases reached : (directory.identity? session).bind fun id => directory.entryAt? (.system id) with
  | none =>
    have same : connected = _ :=
      connect_of_unreached (Option.bind_eq_none_iff.mp reached) mint now handle
    rw [same]
    exact ⟨fun other => Roster.get?_insert .., fun key => Registry.stored?_store ..⟩
  | some entry =>
    obtain ⟨id, known, found⟩ := Option.bind_eq_some_iff.mp reached
    have fresh := Registry.isStale_of_permanent permanent now entry
    have same : connected = _ := connect_of_live known found fresh mint handle
    rw [same]
    refine ⟨fun other => ?_, fun key => ?_⟩
    · split_ifs with self
      · exact self ▸ known
      · rfl
    · rw [Registry.stored?_store, Registry.stored?_touch]

end Connecting

omit [DecidableEq S] in
theorem entryAt?_release (directory : Directory S H) (now : Nat) (key other : Key) :
    (directory.release now key).1.entryAt? other =
      if key = other then none else directory.entryAt? other :=
  Registry.get?_remove ..

theorem identity?_release_eq_some_iff {directory : Directory S H} {now : Nat} {key : Key}
    {session : S} {id : Identity} :
    (directory.release now key).1.identity? session = some id ↔
      directory.identity? session = some id ∧
        ¬ (directory.forgetful = true ∧ key = .system id ∧ (directory.entryAt? key).isSome) := by
  have stored : (directory.handles.stored? key).isSome = (directory.entryAt? key).isSome :=
    Option.isSome_map
  rw [release, identity?_adopt_eq_some_iff, Registry.removed_remove, stored, @eq_comm Key key]
  cases (directory.entryAt? key).isSome <;> simp

omit [DecidableEq S] in
theorem entryAt?_releaseAll (directory : Directory S H) (now : Nat) (keys : List Key) (key : Key) :
    (directory.releaseAll now keys).1.entryAt? key =
      if key ∈ keys then none else directory.entryAt? key := by
  induction keys generalizing directory with
  | nil => simp [releaseAll]
  | cons first rest ih =>
    have step : (directory.releaseAll now (first :: rest)).1 =
        ((directory.release now first).1.releaseAll now rest).1 := rfl
    rw [step, ih, entryAt?_release]
    by_cases same : first = key
    · simp [same]
    · simp [same, Ne.symm same]

/-- Releasing keys leaves a session its identity, unless that was stored among them and the directory
forgets. -/
theorem identity?_releaseAll_eq_some_iff {directory : Directory S H} {now : Nat} {keys : List Key}
    {session : S} {id : Identity} :
    (directory.releaseAll now keys).1.identity? session = some id ↔
      directory.identity? session = some id ∧
        ¬ (directory.forgetful = true ∧ .system id ∈ keys ∧
          (directory.entryAt? (.system id)).isSome) := by
  induction keys generalizing directory with
  | nil => simp [releaseAll]
  | cons first rest ih =>
    have step : (directory.releaseAll now (first :: rest)).1 =
        ((directory.release now first).1.releaseAll now rest).1 := rfl
    have forgetful : (directory.release now first).1.forgetful = directory.forgetful := rfl
    rw [step, ih, forgetful, identity?_release_eq_some_iff, entryAt?_release]
    by_cases same : first = .system id
    · subst same
      simp
    · simp [same, Ne.symm same]

omit [DecidableEq S] in
theorem forgetful_releaseAll (directory : Directory S H) (now : Nat) (keys : List Key) :
    (directory.releaseAll now keys).1.forgetful = directory.forgetful := by
  induction keys generalizing directory with
  | nil => rfl
  | cons first rest ih => exact ih (directory.release now first).1

omit [DecidableEq S] in
theorem ttl_releaseAll (directory : Directory S H) (now : Nat) (keys : List Key) :
    (directory.releaseAll now keys).1.handles.ttl = directory.handles.ttl := by
  induction keys generalizing directory with
  | nil => rfl
  | cons first rest ih => exact (ih (directory.release now first).1).trans (Registry.ttl_remove ..)

/-- A session gives up the keys of its handle and its identity. -/
theorem mem_keysOf [BEq H] [LawfulBEq H] {directory : Directory S H} {session : S} {handle : H}
    {key : Key} :
    key ∈ directory.keysOf session handle ↔
      directory.handles.stored? key = some handle ∨
        ∃ id, directory.identity? session = some id ∧ key = .system id := by
  have holding : ∀ key, key ∈ directory.handles.keysHolding Key.le handle ↔
      directory.handles.stored? key = some handle := by
    intro key
    rw [Registry.keysHolding, Registry.mem_keysMatching]
    simp
  rw [keysOf, identity?]
  cases directory.roster.get? session with
  | none => simp [holding]
  | some id =>
    simp only [Option.some.injEq, exists_eq_left']
    split_ifs with already
    · rw [holding] at already ⊢
      constructor
      · exact Or.inl
      · rintro (stored | rfl)
        · exact stored
        · exact already
    · rw [List.mem_append, holding, List.mem_singleton]

/-- A directory that does not forget loses a session's identity only with the session. -/
theorem identity?_disconnect [BEq H] {directory : Directory S H}
    (remembers : directory.forgetful = false) (now : Nat) (session other : S) (handle : H) :
    (directory.disconnect now session handle).1.identity? other =
      if session = other then none else directory.identity? other := by
  refine Option.ext fun id => ?_
  rw [disconnect, identity?_releaseAll_eq_some_iff, remembers, identity?, Roster.get?_remove]
  simp [identity?]

/-- The keys that a session gives up are gone. -/
theorem stored?_disconnect [BEq H] (directory : Directory S H) (now : Nat) (session : S) (handle : H)
    (key : Key) :
    (directory.disconnect now session handle).1.handles.stored? key =
      if key ∈ directory.keysOf session handle then none else directory.handles.stored? key := by
  rw [disconnect, stored?_eq, entryAt?_releaseAll]
  split_ifs <;> rfl

end Directory

end Gateway
