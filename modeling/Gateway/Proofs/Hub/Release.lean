import Gateway.Proofs.Hub.Tenancy

/-! # What a web session leaves behind

A web session that ends gives up its identity and the keys under which its handle is stored. The
handle carries the addresses of the request, so a request of the same cookie from another address has
another handle: an alias stored with such a handle outlives the session. Everything else of the session
goes, and nothing of other sessions does.
-/

namespace Gateway

namespace Hub

variable {α : Type}

/-- What is stored after a web session has ended was stored before, with another handle and not under
the session's identity. -/
theorem entryAt?_disconnectWeb_eq_some_iff {hub : Hub α} {session : WebSession} {key : Key}
    {entry : Entry WebSession} :
    (hub.disconnectWeb session).web.entryAt? key = some entry ↔
      hub.web.entryAt? key = some entry ∧ entry.value ≠ session ∧
        ∀ id, hub.web.identity? session.id = some id → key ≠ .system id := by
  have released : (hub.disconnectWeb session).web.entryAt? key =
      if key ∈ hub.web.keysOf session.id session then none else hub.web.entryAt? key :=
    Directory.entryAt?_releaseAll ..
  have stored : hub.web.handles.stored? key = (hub.web.entryAt? key).map Entry.value := rfl
  rw [released]
  split_ifs with given
  · simp only [false_iff, not_and]
    rintro found other
    rw [Directory.mem_keysOf, stored, found] at given
    obtain handle | ⟨id, known, rfl⟩ := given
    · exact absurd (Option.some.inj handle) other
    · exact fun unknown => unknown id known rfl
  · rw [Directory.mem_keysOf, not_or, stored] at given
    constructor
    · intro found
      refine ⟨found, ?_, fun id known same => given.2 ⟨id, known, same⟩⟩
      rintro rfl
      exact given.1 (congrArg (Option.map Entry.value) found)
    · exact And.left

/-- An ended session has no identity. -/
theorem identity?_disconnectWeb (hub : Hub α) (session : WebSession) :
    (hub.disconnectWeb session).web.identity? session.id = none := by
  rw [Option.eq_none_iff_forall_ne_some]
  intro id known
  obtain ⟨left, -⟩ := Directory.identity?_releaseAll_eq_some_iff.mp known
  rw [Directory.identity?, Roster.get?_remove, if_pos rfl] at left
  cases left

section

variable {start : UInt64} {count : Nat} {hub : Hub α}

/-- The identities under which handles of a session are stored are its own one. -/
theorem WebConsistent.own_identity (consistent : hub.WebConsistent start count) {id : Identity}
    {entry : Entry WebSession} (found : hub.web.entryAt? (.system id) = some entry) :
    hub.web.identity? entry.value.id = some id :=
  (consistent.reached _ id).mpr ⟨entry.value, congrArg (Option.map Entry.value) found, rfl⟩

/-- What is left of an ended session are the aliases stored with another handle. -/
theorem WebConsistent.left_iff (consistent : hub.WebConsistent start count) (session : WebSession)
    {key : Key} {entry : Entry WebSession} (own : entry.value.id = session.id) :
    (hub.disconnectWeb session).web.entryAt? key = some entry ↔
      hub.web.entryAt? key = some entry ∧ key.IsAlias ∧ entry.value ≠ session := by
  rw [entryAt?_disconnectWeb_eq_some_iff]
  constructor
  · rintro ⟨found, other, unknown⟩
    refine ⟨found, ?_, other⟩
    rintro id rfl
    have known := consistent.own_identity found
    rw [own] at known
    exact unknown id known rfl
  · rintro ⟨found, named, other⟩
    exact ⟨found, other, fun id _ => named id⟩

/-- Nothing of another session goes. -/
theorem WebConsistent.others_kept (consistent : hub.WebConsistent start count)
    (session : WebSession) {key : Key} {entry : Entry WebSession}
    (other : entry.value.id ≠ session.id) :
    (hub.disconnectWeb session).web.entryAt? key = some entry ↔
      hub.web.entryAt? key = some entry := by
  rw [entryAt?_disconnectWeb_eq_some_iff]
  constructor
  · exact And.left
  · intro found
    refine ⟨found, fun same => other (congrArg WebSession.id same), ?_⟩
    rintro id known rfl
    obtain ⟨entry', found', owned⟩ := consistent.entry known
    obtain rfl := Option.some.inj (found.symm.trans found')
    exact other owned

end

/-- In every run whose handlers name aliases only: a web session that ends has no identity, and nothing
stored for another session is touched. No key of the session stays exactly if every alias of the
session is stored with the handle that it ends with. -/
theorem web_session_leaves_aliases_of_other_handles (settings : HubSettings)
    (subscribers : List Subscriber) (mint : Mint) (entropy : Entropy) (own : α)
    (application : Application α) (aliases : application.NamesAliases) (actions : List Action)
    (few : (Hub.initial settings subscribers mint entropy own).mints application actions < 2 ^ 64)
    (session : WebSession) :
    let hub := (Hub.initial settings subscribers mint entropy own).run application actions
    let after := hub.disconnectWeb session
    after.web.identity? session.id = none ∧
      ((∀ key entry, after.web.entryAt? key = some entry → entry.value.id ≠ session.id) ↔
        ∀ key entry, hub.web.entryAt? key = some entry → entry.value.id = session.id →
          key.IsAlias → entry.value = session) ∧
      ∀ key entry, entry.value.id ≠ session.id →
        (after.web.entryAt? key = some entry ↔ hub.web.entryAt? key = some entry) := by
  intro hub after
  have consistent : hub.WebConsistent mint.next
      (0 + (Hub.initial settings subscribers mint entropy own).mints application actions) :=
    (webConsistent_initial settings subscribers mint entropy own).run aliases actions (by omega)
  refine ⟨hub.identity?_disconnectWeb session, ?_,
    fun _ _ other => consistent.others_kept session other⟩
  constructor
  · intro gone key entry found owned named
    refine Decidable.byContradiction fun other => ?_
    exact gone key entry ((consistent.left_iff session owned).mpr ⟨found, named, other⟩) owned
  · intro handles key entry left owned
    obtain ⟨found, named, other⟩ := (consistent.left_iff session owned).mp left
    exact other (handles key entry found owned named)

namespace Roaming

/-- A session at the address where it logs in. -/
def home : WebSession := ⟨"cookie", ⟨none, some "addr:1"⟩⟩

/-- The same session at another address. -/
def away : WebSession := ⟨"cookie", ⟨none, some "addr:2"⟩⟩

/-- The session logs in as Alice. -/
def login : List Action :=
  [.greet (.web home),
    .receive (.text "\x7b\"type\":\"LOGIN\",\"id\":1,\"user\":\"alice\"\x7d") (.web home)]

/-- The gateway when the session has logged in. -/
def loggedIn : Hub Unit := Lobby.fresh.run Lobby.onWeb login

/-- Alice is known under her name. -/
theorem entryAt?_loggedIn : loggedIn.web.entryAt? (.name "alice") = some ⟨home, 0⟩ := by rfl

/-- Everything that is stored is stored for the session at home. -/
theorem value_eq_home {key : Key} {entry : Entry WebSession}
    (found : loggedIn.web.entryAt? key = some entry) : entry.value = home := by
  have all : ∀ item ∈ loggedIn.web.handles.entries.entries, item.2.value = home := by decide +kernel
  exact all _ (Table.get?_eq_some_iff.mp found)

end Roaming

/-- A session that leaves where it logged in leaves nothing behind. -/
theorem web_session_leaves_nothing_at_home :
    Lobby.onWeb.NamesAliases ∧ Lobby.fresh.mints Lobby.onWeb Roaming.login < 2 ^ 64 ∧
      Roaming.loggedIn.web.entryAt? (.name "alice") = some ⟨Roaming.home, 0⟩ ∧
      (Roaming.loggedIn.disconnectWeb Roaming.home).web.identity? "cookie" = none ∧
      ∀ key entry, (Roaming.loggedIn.disconnectWeb Roaming.home).web.entryAt? key = some entry →
        entry.value.id ≠ "cookie" := by
  have few : Lobby.fresh.mints Lobby.onWeb Roaming.login < 2 ^ 64 := by decide +kernel
  obtain ⟨unknown, nothing, -⟩ := web_session_leaves_aliases_of_other_handles Lobby.settings []
    .initial ⟨fun _ => 0, 0⟩ () Lobby.onWeb Lobby.namesAliases_onWeb Roaming.login few Roaming.home
  exact ⟨Lobby.namesAliases_onWeb, few, Roaming.entryAt?_loggedIn, unknown,
    nothing.mpr fun _ _ found _ _ => Roaming.value_eq_home found⟩

/-- A session that leaves from another address leaves its login behind. -/
theorem login_left_behind_away_from_home :
    ∃ key entry, (Roaming.loggedIn.disconnectWeb Roaming.away).web.entryAt? key = some entry ∧
      entry.value.id = "cookie" := by
  have left := entryAt?_disconnectWeb_eq_some_iff.mpr
    ⟨Roaming.entryAt?_loggedIn, (by decide : Roaming.home ≠ Roaming.away), fun _ _ => nofun⟩
  exact ⟨.name "alice", ⟨Roaming.home, 0⟩, left, rfl⟩

end Hub

end Gateway
