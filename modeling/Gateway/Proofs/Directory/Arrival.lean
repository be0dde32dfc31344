import Gateway.Proofs.Directory.Lease
import Gateway.Proofs.Directory.Tenancy
import Gateway.Proofs.Registry.Lapse
import Gateway.Proofs.Registry.Notices

/-! # Arrivals

A session that connects comes with an identity whose handle is live, with one whose handle has lapsed,
with one whose handle is gone, or with none. In the first case it keeps its identity, in the others it
is given the next one of the mint; where the handle has lapsed, it is evicted before, and that may make
the roster forget the identity already. All four end alike: the session has one identity, which reaches
the new handle from now on, and nobody else notices. For this last part no other session may have the
identity that lapsed, which is so in every run that takes fewer identities than there are.
-/

namespace Gateway

namespace Directory

variable {S : Type u} {H : Type v} [DecidableEq S]

/-- The identity of a session whose handle is live. -/
def liveIdentity? (directory : Directory S H) (now : Nat) (session : S) : Option Identity :=
  (directory.identity? session).filter fun id => (directory.handles.fresh? now (.system id)).isSome

/-- The identity of a session whose handle has expired and is still stored. -/
def lapsedIdentity? (directory : Directory S H) (now : Nat) (session : S) : Option Identity :=
  (directory.identity? session).filter fun id => (directory.handles.lapsed? now (.system id)).isSome

/-- What connecting a session under a handle comes to. -/
structure Welcomes (directory : Directory S H) (mint : Mint) (now : Nat) (session : S) (handle : H)
    (connected : Connected S H) : Prop where
  id : connected.id = (directory.liveIdentity? now session).getD mint.issue.1
  mint : connected.mint =
    if (directory.liveIdentity? now session).isSome then mint else mint.issue.2
  known : connected.directory.identity? session = some connected.id
  reached : connected.directory.entryAt? (.system connected.id) = some ⟨handle, now⟩
  /-- What is live under another key stays as it is, and nothing else becomes live. -/
  kept : ∀ key, key ≠ .system connected.id →
    connected.directory.handles.fresh? now key = directory.handles.fresh? now key
  removed : connected.removed = ((directory.lapsedIdentity? now session).map Key.system).toList
  /-- Others keep their identity, unless it is the one that lapsed and the directory forgets. -/
  others : ∀ other, other ≠ session → ∀ id, connected.directory.identity? other = some id ↔
    directory.identity? other = some id ∧
      ¬ (directory.forgetful = true ∧ directory.lapsedIdentity? now session = some id)

section

variable {directory : Directory S H} {session : S} {id : Identity} {entry : Entry H} {now : Nat}

theorem liveIdentity?_of_fresh (known : directory.identity? session = some id)
    (fresh : directory.handles.fresh? now (.system id) = some entry) :
    directory.liveIdentity? now session = some id := by
  rw [liveIdentity?, known, Option.filter_some_pos (by rw [fresh]; rfl)]

theorem lapsedIdentity?_of_lapsed (known : directory.identity? session = some id)
    (lapsed : directory.handles.lapsed? now (.system id) = some entry) :
    directory.lapsedIdentity? now session = some id := by
  rw [lapsedIdentity?, known, Option.filter_some_pos (by rw [lapsed]; rfl)]

theorem liveIdentity?_of_not_fresh
    (fresh : ∀ id, directory.identity? session = some id →
      directory.handles.fresh? now (.system id) = none) :
    directory.liveIdentity? now session = none := by
  rw [liveIdentity?, Option.filter_eq_none_iff]
  intro id known
  simp [fresh id known]

theorem lapsedIdentity?_of_not_lapsed
    (lapsed : ∀ id, directory.identity? session = some id →
      directory.handles.lapsed? now (.system id) = none) :
    directory.lapsedIdentity? now session = none := by
  rw [lapsedIdentity?, Option.filter_eq_none_iff]
  intro id known
  simp [lapsed id known]

/-- A session without a handle is given a new identity. -/
theorem welcomes_of_unreached
    (unreached : ∀ id, directory.identity? session = some id →
      directory.entryAt? (.system id) = none) (mint : Mint) (now : Nat) (handle : H) :
    directory.Welcomes mint now session handle (directory.connect mint now session handle) := by
  have live : directory.liveIdentity? now session = none :=
    liveIdentity?_of_not_fresh fun id known => congrArg (Option.filter _) (unreached id known)
  have lapsed : directory.lapsedIdentity? now session = none :=
    lapsedIdentity?_of_not_lapsed fun id known => congrArg (Option.filter _) (unreached id known)
  rw [connect_of_unreached unreached]
  constructor
  case id => rw [live]; rfl
  case mint => rw [live]; rfl
  case known => exact (Roster.get?_insert ..).trans (if_pos rfl)
  case reached => exact (Registry.get?_store ..).trans (if_pos rfl)
  case kept =>
    intro key differs
    exact (Registry.fresh?_store ..).trans (if_neg differs.symm)
  case removed => rw [lapsed]; rfl
  case others =>
    intro other differs id
    rw [lapsed, identity?, Roster.get?_insert, if_neg differs.symm]
    simp [identity?]

/-- A session with a live handle keeps its identity. -/
theorem welcomes_of_fresh (known : directory.identity? session = some id)
    (fresh : directory.handles.fresh? now (.system id) = some entry) (mint : Mint) (handle : H) :
    directory.Welcomes mint now session handle (directory.connect mint now session handle) := by
  have live := liveIdentity?_of_fresh known fresh
  obtain ⟨found, alive⟩ := Option.filter_eq_some_iff.mp fresh
  have lapsed : directory.lapsedIdentity? now session = none := by
    apply lapsedIdentity?_of_not_lapsed
    intro other same
    obtain rfl := Option.some.inj (known.symm.trans same)
    rw [Registry.lapsed?, found, Option.filter_some_neg (by simpa using alive)]
  rw [connect_of_live known found (by simpa using alive)]
  constructor
  case id => rw [live]; rfl
  case mint => rw [live]; rfl
  case known => exact known
  case reached => exact (Registry.get?_store ..).trans (if_pos rfl)
  case kept =>
    intro key differs
    simp only [Registry.fresh?_store, Registry.fresh?_touch fresh, if_neg differs.symm]
  case removed => rw [lapsed]; rfl
  case others =>
    intro other differs id
    rw [lapsed]
    simp [identity?]

/-- A session whose handle has lapsed is given a new identity, and listeners are told. -/
theorem welcomes_of_lapsed (known : directory.identity? session = some id)
    (lapsed : directory.handles.lapsed? now (.system id) = some entry) (mint : Mint) (handle : H) :
    directory.Welcomes mint now session handle (directory.connect mint now session handle) := by
  have ended := lapsedIdentity?_of_lapsed known lapsed
  obtain ⟨found, stale⟩ := Option.filter_eq_some_iff.mp lapsed
  have dead := Registry.fresh?_of_lapsed lapsed
  have live : directory.liveIdentity? now session = none := by
    apply liveIdentity?_of_not_fresh
    intro other same
    obtain rfl := Option.some.inj (known.symm.trans same)
    exact dead
  rw [connect_of_expired known found stale]
  constructor
  case id => rw [live]; rfl
  case mint => rw [live]; rfl
  case known => exact (Roster.get?_insert ..).trans (if_pos rfl)
  case reached => exact (Registry.get?_store ..).trans (if_pos rfl)
  case kept =>
    intro key differs
    simp only [Registry.fresh?_store, Registry.fresh?_drop, if_neg differs.symm]
    split_ifs with same
    · rw [← same, dead]
    · rfl
  case removed => rw [ended]; rfl
  case others =>
    intro other differs later
    rw [ended, identity?, Roster.get?_insert, if_neg differs.symm, get?_forgetKey_eq_some_iff]
    simp [identity?]

end

/-- However it stands with the identity of a session that connects, connecting ends alike. -/
theorem welcomes_connect (directory : Directory S H) (mint : Mint) (now : Nat) (session : S)
    (handle : H) :
    directory.Welcomes mint now session handle (directory.connect mint now session handle) := by
  cases reached : (directory.identity? session).bind fun id => directory.entryAt? (.system id) with
  | none => exact welcomes_of_unreached (Option.bind_eq_none_iff.mp reached) mint now handle
  | some entry =>
    obtain ⟨id, known, found⟩ := Option.bind_eq_some_iff.mp reached
    have stored : directory.handles.entries.get? (.system id) = some entry := found
    cases stale : directory.handles.isStale now entry with
    | true =>
      have lapsed : directory.handles.lapsed? now (.system id) = some entry := by
        rw [Registry.lapsed?, stored, Option.filter_some_pos stale]
      exact welcomes_of_lapsed known lapsed mint handle
    | false =>
      have fresh : directory.handles.fresh? now (.system id) = some entry := by
        rw [Registry.fresh?, stored, Option.filter_some_pos (by rw [stale]; rfl)]
      exact welcomes_of_fresh known fresh mint handle

/-- Where no two sessions have one identity, nobody else's is changed. -/
theorem Welcomes.identity?_other {directory : Directory S H} {mint : Mint} {now : Nat} {session : S}
    {handle : H} {connected : Connected S H}
    (welcomes : directory.Welcomes mint now session handle connected)
    (injective : ∀ one two id, directory.identity? one = some id →
      directory.identity? two = some id → one = two) {other : S} (differs : other ≠ session) :
    connected.directory.identity? other = directory.identity? other := by
  apply eq_of_spared (welcomes.others other differs)
  rintro id theirs ⟨-, ended⟩
  obtain ⟨mine, -⟩ := Option.filter_eq_some_iff.mp ended
  exact differs (injective other session id theirs mine)

end Directory

section

variable {T G P : Type} [DecidableEq T] [DecidableEq G] {S : T → Type} {H : G → Type}
  [∀ roster, DecidableEq (S roster)] [∀ registry, BEq (H registry)]

/-- In a run that takes fewer identities than there are, the sessions of a reception have different
ones at every moment. -/
theorem Wiring.identity?_injective (wiring : Wiring T G P) (ttl : G → Option Nat)
    (events : List (wiring.Event S H))
    (few : wiring.tenancy.taken (.vacant ttl) events < 2 ^ 64) (reception : P)
    (one two : S (wiring.roster reception)) (id : Identity) :
    let directory := (wiring.reception (wiring.tenancy.run (.vacant ttl) events) reception).directory
    directory.identity? one = some id → directory.identity? two = some id → one = two := by
  intro directory first second
  have never : wiring.tenancy.NeverReused (.vacant ttl) events :=
    Tenancy.neverReused rfl (fun _ => rfl) events few
  have whole : events <+: events := List.prefix_rfl
  have same := never.apart events events whole whole ⟨wiring.roster reception, one⟩
    ⟨wiring.roster reception, two⟩ id first second
  exact eq_of_heq (Sigma.mk.inj same).2

/-- Whoever connects at a reception, whatever happened there and elsewhere before: it keeps its identity
if the handle under it is live, and the mint stays as it is; otherwise it is given the next identity of
the mint, and no more than that is taken. From now on the session has that identity, and the identity
reaches the handle and has just been touched. Under other keys nothing live is lost, changed or added.
Listeners are told of the identity that the session had if its handle had expired and was still stored,
each once, and of nothing else. Nobody else's identity is changed, unless it is that one and the
directory forgets it; as long as fewer identities were taken than there are, it never is. -/
theorem connecting_restores_or_mints_once (wiring : Wiring T G P) (ttl : G → Option Nat)
    (events : List (wiring.Event S H)) (reception : P) (session : S (wiring.roster reception))
    (handle : H (wiring.handles reception)) (listeners : Nat) :
    let before := wiring.reception (wiring.tenancy.run (.vacant ttl) events) reception
    let live := before.directory.liveIdentity? before.now session
    let lapsed := before.directory.lapsedIdentity? before.now session
    let connected := before.directory.connect before.mint before.now session handle
    let after := connected.directory
    connected.id = live.getD before.mint.issue.1 ∧
    connected.mint = (if live.isSome then before.mint else before.mint.issue.2) ∧
    after.identity? session = some connected.id ∧
    after.entryAt? (.system connected.id) = some ⟨handle, before.now⟩ ∧
    (∀ key, key ≠ .system connected.id →
      after.handles.fresh? before.now key = before.directory.handles.fresh? before.now key) ∧
    (∀ listener < listeners, ∀ key,
      (tellEach (List.range listeners) connected.removed).count (listener, key) =
        if lapsed.map Key.system = some key then 1 else 0) ∧
    (∀ other, other ≠ session → ∀ id, after.identity? other = some id ↔
      before.directory.identity? other = some id ∧
        ¬ (before.directory.forgetful = true ∧ lapsed = some id)) ∧
    (wiring.tenancy.taken (.vacant ttl) events < 2 ^ 64 → ∀ other, other ≠ session →
      after.identity? other = before.directory.identity? other) := by
  intro before live lapsed connected after
  have welcomes := before.directory.welcomes_connect before.mint before.now session handle
  refine ⟨welcomes.id, welcomes.mint, welcomes.known, welcomes.reached, welcomes.kept,
    fun listener listens key => ?_, welcomes.others, fun few other differs => ?_⟩
  · have told : connected.removed = (lapsed.map Key.system).toList := welcomes.removed
    rw [told, Watched.count_tellEach List.nodup_range (List.mem_range.mpr listens)]
    cases lapsed with
    | none => rfl
    | some id => simp [List.count_singleton]
  · exact welcomes.identity?_other (wiring.identity?_injective ttl events few reception) differs

/-- Of two sessions that both stayed away too long, one connects: it is given the third identity, both
listeners are told of its first one, and the other session keeps the second. -/
theorem connecting_restores_or_mints_once_after_lapse :
    let wiring : Wiring Unit Unit Unit := ⟨fun _ => (), fun _ => (), fun _ => true⟩
    let events : List (wiring.Event (fun _ => Nat) fun _ => Nat) :=
      [.visit () (.connect 1 7), .visit () (.connect 2 8), .visit () (.elsewhere false 31)]
    let before := wiring.reception (wiring.tenancy.run (.vacant fun _ => some 30) events) ()
    let connected := before.directory.connect before.mint before.now 1 9
    wiring.tenancy.taken (.vacant fun _ => some 30) events < 2 ^ 64 ∧
      before.directory.liveIdentity? before.now 1 = none ∧
      before.directory.lapsedIdentity? before.now 1 = some ⟨1⟩ ∧ connected.id = ⟨3⟩ ∧
      (tellEach (List.range 2) connected.removed).count (1, .system ⟨1⟩) = 1 ∧
      connected.directory.identity? 2 = some ⟨2⟩ := by
  intro wiring events before connected
  have few : wiring.tenancy.taken (.vacant fun _ => some 30) events < 2 ^ 64 := by decide
  have live : before.directory.liveIdentity? before.now 1 = none := by decide
  have lapsed : before.directory.lapsedIdentity? before.now 1 = some ⟨1⟩ := by decide
  obtain ⟨given, -, -, -, -, told, -, others⟩ :=
    connecting_restores_or_mints_once wiring (fun _ => some 30) events () 1 9 2
  refine ⟨few, live, lapsed, ?_, ?_, ?_⟩
  · rw [given]; decide
  · rw [told 1 (by decide)]; decide
  · rw [others few 2 (by decide)]; decide

end

end Gateway
