import Gateway.Proofs.Hub.Tenancy

/-! # Sessions of the web and their handles

The directory of web sessions keeps two tables: the roster, which says which identity a session has,
and the handles, where the session itself is stored under its identity. The handles also lose entries
by themselves, to whoever looks at them after they have expired. A session is in the one table exactly
if it is in the other, whatever happens at the gateway and however the handles are looked at.
-/

namespace Gateway.Hub

variable {α : Type}

/-- What can happen to the directory of web sessions. -/
inductive WebStep where
  | act (action : Action)
  /-- Someone asks whether a key has a live handle. -/
  | contains (key : Key)
  /-- Someone restarts the expiry of the handle under a key. -/
  | renew (key : Key)

/-- The hub after an operation on the handles of web sessions. -/
def adoptWeb {R : Type} (hub : Hub α) (step : Registry.Step Key WebSession R) : Hub α :=
  { hub with web := hub.web.adopt step.registry step.removed }.announce (removals .web step.removed)

/-- The hub after a step. -/
def step (application : Application α) (hub : Hub α) : WebStep → Hub α
  | .act action => hub.perform application action
  | .contains key => hub.adoptWeb (hub.web.handles.contains hub.now key)
  | .renew key => hub.adoptWeb (hub.web.handles.renew hub.now key)

theorem identityAt?_of_adoptWeb {R : Type} {hub : Hub α} {step : Registry.Step Key WebSession R}
    {seat : Seat} {id : Identity} (known : (hub.adoptWeb step).identityAt? seat = some id) :
    hub.identityAt? seat = some id := by
  cases seat with
  | web session => exact (Directory.identity?_adopt_eq_some_iff.mp known).1
  | socket _ _ | inProcess _ => exact known

/-- The sessions of a gateway whose web is looked at. -/
def watchedTenancy (application : Application α) : Tenancy (Hub α) WebStep Seat where
  perform := step application
  mint hub := hub.commons.mint
  held := identityAt?
  taker
    | .act action => action.seat?
    | .contains _ | .renew _ => none
  frugal hub step := by
    cases step with
    | act action => exact hub.mint_perform application action
    | contains key | renew key => exact .inl rfl
  granted hub step seat id known := by
    cases step with
    | act action => exact identityAt?_of_perform known
    | contains key | renew key => exact .inl (identityAt?_of_adoptWeb known)

/-- Operations that only evict keep the roster and the handles in agreement. -/
theorem WebConsistent.adoptWeb {R : Type} {start : UInt64} {count : Nat} {hub : Hub α}
    {step : Registry.Step Key WebSession R} (consistent : hub.WebConsistent start count)
    (culls : hub.web.handles.Culls hub.now step) : (hub.adoptWeb step).WebConsistent start count :=
  Reception.Consistent.cull consistent culls

theorem WebConsistent.step {application : Application α} (aliases : application.NamesAliases)
    {start : UInt64} {count : Nat} {hub : Hub α} (consistent : hub.WebConsistent start count)
    (few : count < 2 ^ 64) (step : WebStep) :
    (hub.step application step).WebConsistent start
      (count + hub.commons.mint.steps (hub.step application step).commons.mint) := by
  cases step with
  | act action => exact consistent.perform aliases few action
  | contains key =>
    have same : (hub.step application (.contains key)).commons.mint = hub.commons.mint := rfl
    rw [same, Mint.steps_self]
    exact consistent.adoptWeb (Registry.culls_contains _ hub.now key)
  | renew key =>
    have same : (hub.step application (.renew key)).commons.mint = hub.commons.mint := rfl
    rw [same, Mint.steps_self]
    exact consistent.adoptWeb (Registry.culls_renew _ hub.now key)

/-- In every run whose handlers name aliases only, a session of the web has an identity exactly if the
handle stored under the identity is its own, whether or not that has expired. So nobody has an identity
without a handle under it, whoever is stored under an identity has it, and no two have the same. -/
theorem web_sessions_have_identities_of_their_handles (settings : HubSettings)
    (subscribers : List Subscriber) (mint : Mint) (entropy : Entropy) (own : α)
    (application : Application α) (aliases : application.NamesAliases) (steps : List WebStep)
    (few : (watchedTenancy application).taken (.initial settings subscribers mint entropy own) steps <
      2 ^ 64) :
    let hub := (watchedTenancy application).run (.initial settings subscribers mint entropy own) steps
    (∀ session id, hub.web.identity? session = some id ↔
        ∃ stored, hub.web.handles.stored? (.system id) = some stored ∧ stored.id = session) ∧
      (∀ id, hub.web.handles.stored? (.system id) = none →
        ∀ session, hub.web.identity? session ≠ some id) ∧
      (∀ id stored, hub.web.handles.stored? (.system id) = some stored →
        hub.web.identity? stored.id = some id) ∧
      ∀ one two id, hub.web.identity? one = some id → hub.web.identity? two = some id → one = two := by
  intro hub
  have initial := webConsistent_initial settings subscribers mint entropy own
  rw [← Nat.zero_add (Tenancy.taken ..)] at few
  have consistent : hub.WebConsistent mint.next _ :=
    (watchedTenancy application).counted_run
      (fun _ _ step few consistent => consistent.step aliases few step) initial steps few
  have agreed : ∀ session id, hub.web.identity? session = some id ↔
      ∃ stored, hub.web.handles.stored? (.system id) = some stored ∧ stored.id = session :=
    consistent.reached
  refine ⟨agreed, fun id gone session known => ?_, fun id stored found => ?_, fun _ _ _ => ?_⟩
  · obtain ⟨stored, found, -⟩ := (agreed session id).mp known
    exact nomatch gone.symm.trans found
  · exact (agreed stored.id id).mpr ⟨stored, found, rfl⟩
  · exact consistent.injective

namespace Search

def guest : WebSession := ⟨"guest", ⟨none, none⟩⟩

/-- The guest's handle has expired when someone asks for it, and the guest connects again. -/
def steps : List WebStep :=
  [.act (.greet (.web guest)), .act (.move (.elapse 31)), .contains (.system ⟨1⟩),
    .act (.greet (.web guest)), .renew (.system ⟨2⟩)]

end Search

/-- Nobody is left with the identity whose handle was evicted, and the guest has the one of its new
handle. -/
theorem web_sessions_lose_identities_with_handles :
    Lobby.onWeb.NamesAliases ∧
      (watchedTenancy Lobby.onWeb).taken Lobby.fresh Search.steps < 2 ^ 64 ∧
      (∀ session, ((watchedTenancy Lobby.onWeb).run Lobby.fresh Search.steps).web.identity? session ≠
        some ⟨1⟩) ∧
      ((watchedTenancy Lobby.onWeb).run Lobby.fresh Search.steps).web.identity? "guest" =
        some ⟨2⟩ := by
  have few : (watchedTenancy Lobby.onWeb).taken Lobby.fresh Search.steps < 2 ^ 64 := by
    decide +kernel
  have evicted : ((watchedTenancy Lobby.onWeb).run Lobby.fresh Search.steps).web.handles.stored?
      (.system ⟨1⟩) = none := by decide +kernel
  have renewed : ((watchedTenancy Lobby.onWeb).run Lobby.fresh Search.steps).web.handles.stored?
      (.system ⟨2⟩) = some Search.guest := by decide +kernel
  obtain ⟨-, nobody, holder, -⟩ := web_sessions_have_identities_of_their_handles Lobby.settings []
    .initial ⟨fun _ => 0, 0⟩ () Lobby.onWeb Lobby.namesAliases_onWeb Search.steps few
  exact ⟨Lobby.namesAliases_onWeb, few, nobody ⟨1⟩ evicted, holder ⟨2⟩ Search.guest renewed⟩

end Gateway.Hub
