import Gateway.Proofs.Directory.Reception
import Mathlib.Data.Sigma.Basic
import Mathlib.Logic.Function.Basic

/-! # Who has which identity over time

A *tenancy* is a system that takes identities from one mint and has places at which they are held.
An event takes at most one identity, and what a place holds it held before, unless it is the place
that the identity was taken for. Nothing else is asked: identities may be lost, taken for nobody, or
replaced. Until the mint has come round, an identity that has been taken is new to nobody, so it stays
with one place for good.

Receptions are tenancies, one by one and in any number: with rosters and handles of their own or
shared ones, with handles that expire or stay, and whether or not someone makes rosters forget.
-/

namespace Gateway

/-- A system whose events take identities from one mint, and the places that hold them. -/
structure Tenancy (X : Type u) (E : Type v) (P : Type w) where
  perform : X → E → X
  mint : X → Mint
  held : X → P → Option Identity
  /-- The place that an event may take an identity for. -/
  taker : E → Option P
  /-- An event takes at most one identity. -/
  frugal : ∀ state event, mint (perform state event) = mint state ∨
    mint (perform state event) = (mint state).issue.2
  /-- What a place holds it held before, or it was just taken for it. -/
  granted : ∀ state event place id, held (perform state event) place = some id →
    held state place = some id ∨ mint (perform state event) = (mint state).issue.2 ∧
      id = (mint state).issue.1 ∧ taker event = some place

namespace Tenancy

variable {X : Type u} {E : Type v} {P : Type w} (tenancy : Tenancy X E P)

/-- The state after some events. -/
def run (state : X) (events : List E) : X := events.foldl tenancy.perform state

theorem run_append (state : X) (first second : List E) :
    tenancy.run state (first ++ second) = tenancy.run (tenancy.run state first) second :=
  List.foldl_append

/-- How many identities some events take. -/
def taken (state : X) : List E → Nat
  | [] => 0
  | event :: rest =>
    (tenancy.mint state).steps (tenancy.mint (tenancy.perform state event)) +
      taken (tenancy.perform state event) rest

theorem taken_append (state : X) (first second : List E) :
    tenancy.taken state (first ++ second) =
      tenancy.taken state first + tenancy.taken (tenancy.run state first) second := by
  induction first generalizing state with
  | nil => exact (Nat.zero_add _).symm
  | cons event rest ih => rw [List.cons_append, taken, taken, ih, Nat.add_assoc]; rfl

/-- What every event keeps, as it counts the identities that were taken, a run keeps. -/
theorem counted_run {holds : Nat → X → Prop}
    (kept : ∀ count state event, count < 2 ^ 64 → holds count state →
      holds (count + (tenancy.mint state).steps (tenancy.mint (tenancy.perform state event)))
        (tenancy.perform state event))
    {state : X} {count : Nat} (held : holds count state) (events : List E)
    (few : count + tenancy.taken state events < 2 ^ 64) :
    holds (count + tenancy.taken state events) (tenancy.run state events) := by
  induction events generalizing state count with
  | nil => exact held
  | cons event rest ih =>
    rw [taken, ← Nat.add_assoc] at few ⊢
    have little : count < 2 ^ 64 := by omega
    exact ih (kept count state event little held) few

/-- What holds between two events of a tenancy: of its mint, `count` identities were taken. -/
structure Sound (start : UInt64) (count : Nat) (state : X) : Prop where
  minted : (tenancy.mint state).next = start + UInt64.ofNat count
  issued : ∀ place id, tenancy.held state place = some id → id.Issued start count
  injective : ∀ here there id, tenancy.held state here = some id →
    tenancy.held state there = some id → here = there

variable {tenancy} {start : UInt64} {count : Nat} {state : X}

/-- An identity that was taken before is held by no place that did not hold it. -/
theorem Sound.held_of_issued (sound : tenancy.Sound start count state) (few : count < 2 ^ 64)
    {event : E} {place : P} {id : Identity} (issued : id.Issued start count)
    (held : tenancy.held (tenancy.perform state event) place = some id) :
    tenancy.held state place = some id := by
  obtain before | ⟨-, rfl, -⟩ := tenancy.granted state event place id held
  · exact before
  · exact absurd issued (Identity.not_issued_issue sound.minted few)

theorem Sound.perform (sound : tenancy.Sound start count state) (few : count < 2 ^ 64) (event : E) :
    tenancy.Sound start
      (count + (tenancy.mint state).steps (tenancy.mint (tenancy.perform state event)))
      (tenancy.perform state event) where
  minted := by
    obtain same | taken := tenancy.frugal state event
    · rw [same, Mint.steps_self]
      exact sound.minted
    · rw [taken, Mint.steps_issue]
      exact Identity.minted_issue sound.minted
  issued place id held := by
    obtain before | ⟨taken, rfl, -⟩ := tenancy.granted state event place id held
    · exact (sound.issued place id before).mono (Nat.le_add_right _ _)
    · rw [taken, Mint.steps_issue]
      exact Identity.issued_issue sound.minted few
  injective here there id one two := by
    obtain before | ⟨-, rfl, favoured⟩ := tenancy.granted state event here id one
    · have old := sound.issued here id before
      exact sound.injective here there id before (sound.held_of_issued few old two)
    · obtain before | ⟨-, -, favoured'⟩ := tenancy.granted state event there _ two
      · exact absurd (sound.issued there _ before) (Identity.not_issued_issue sound.minted few)
      · exact Option.some.inj (favoured.symm.trans favoured')

theorem Sound.run (sound : tenancy.Sound start count state) (events : List E)
    (few : count + tenancy.taken state events < 2 ^ 64) :
    tenancy.Sound start (count + tenancy.taken state events) (tenancy.run state events) :=
  tenancy.counted_run (fun _ _ event few sound => sound.perform few event) sound events few

/-- Whoever holds an identity after further events held it when it had been taken. -/
theorem Sound.held_of_run (sound : tenancy.Sound start count state) (events : List E)
    (few : count + tenancy.taken state events < 2 ^ 64) {place : P} {id : Identity}
    (issued : id.Issued start count) (held : tenancy.held (tenancy.run state events) place = some id) :
    tenancy.held state place = some id := by
  induction events generalizing count state with
  | nil => exact held
  | cons event rest ih =>
    rw [taken, ← Nat.add_assoc] at few
    have little : count < 2 ^ 64 := by omega
    have before := ih (sound.perform little event) few (issued.mono (Nat.le_add_right _ _)) held
    exact sound.held_of_issued little issued before

variable (tenancy) in
/-- No identity is held at two places, at whatever two points of a run, and at every point all
identities that are held are among those taken from the mint. -/
structure NeverReused (start : X) (events : List E) : Prop where
  apart : ∀ one two, one <+: events → two <+: events → ∀ here there id,
    tenancy.held (tenancy.run start one) here = some id →
      tenancy.held (tenancy.run start two) there = some id → here = there
  /-- The next identity has the number that follows those taken so far, as a word. -/
  next : ∀ past, past <+: events →
    (tenancy.mint (tenancy.run start past)).next = UInt64.ofNat (1 + tenancy.taken start past)
  /-- Whatever is held has one of the numbers taken so far. -/
  numbered : ∀ past, past <+: events → ∀ place id,
    tenancy.held (tenancy.run start past) place = some id →
      0 < id.value.toNat ∧ id.value.toNat < 1 + tenancy.taken start past
  /-- The same in words; `numbered` says it without a guard. No word is left for the next identity once
  it comes round to zero. -/
  below : ∀ past, past <+: events → ∀ place id,
    tenancy.held (tenancy.run start past) place = some id →
      (tenancy.mint (tenancy.run start past)).next ≠ 0 →
        id.value < (tenancy.mint (tenancy.run start past)).next

theorem sound_of_vacant (vacant : ∀ place, tenancy.held state place = none) :
    tenancy.Sound (tenancy.mint state).next 0 state where
  minted := (UInt64.add_zero _).symm
  issued place id held := by
    rw [vacant] at held
    cases held
  injective here there id held := by
    rw [vacant] at held
    cases held

/-- How often the mint is drawn on in a part of a run. -/
theorem taken_le_taken {past events : List E} (past_le : past <+: events) (state : X) :
    tenancy.taken state past ≤ tenancy.taken state events := by
  obtain ⟨later, rfl⟩ := past_le
  rw [taken_append]
  exact Nat.le_add_right _ _

/-- An identity among the first `count` of a mint that starts with one. -/
theorem number_of_issued {id : Identity} {count : Nat} (issued : id.Issued 1 count)
    (few : count < 2 ^ 64) : 0 < id.value.toNat ∧ id.value.toNat < 1 + count := by
  rw [Identity.Issued, UInt64.toNat_sub] at issued
  have small := id.value.toNat_lt
  simp only [UInt64.toNat_one] at issued
  omega

/-- In a run that takes fewer identities than there are, none is shared or given out again. -/
theorem neverReused (initial : tenancy.mint state = .initial)
    (vacant : ∀ place, tenancy.held state place = none) (events : List E)
    (few : tenancy.taken state events < 2 ^ 64) : tenancy.NeverReused state events := by
  have little : ∀ past, past <+: events → 0 + tenancy.taken state past < 2 ^ 64 := by
    intro past part
    rw [Nat.zero_add]
    exact Nat.lt_of_le_of_lt (taken_le_taken part state) few
  have vacantly : tenancy.Sound 1 0 state := by
    have first : (tenancy.mint state).next = 1 := congrArg Mint.next initial
    rw [← first]
    exact sound_of_vacant vacant
  have sound : ∀ past, past <+: events →
      tenancy.Sound 1 (0 + tenancy.taken state past) (tenancy.run state past) :=
    fun past part => vacantly.run past (little past part)
  have next : ∀ past, past <+: events → (tenancy.mint (tenancy.run state past)).next =
      UInt64.ofNat (1 + tenancy.taken state past) := by
    intro past part
    rw [(sound past part).minted, Nat.zero_add, UInt64.ofNat_add]
    rfl
  have numbered : ∀ past, past <+: events → ∀ place id,
      tenancy.held (tenancy.run state past) place = some id →
        0 < id.value.toNat ∧ id.value.toNat < 1 + tenancy.taken state past := by
    intro past part place id held
    rw [← Nat.zero_add (tenancy.taken state past)]
    exact number_of_issued ((sound past part).issued place id held) (little past part)
  -- Of two points of a run, one comes first, and nobody gets its identities later.
  have ordered : ∀ one later, one ++ later <+: events → ∀ here there id,
      tenancy.held (tenancy.run state one) here = some id →
        tenancy.held (tenancy.run state (one ++ later)) there = some id → here = there := by
    intro one later part here there id first second
    have earlier := sound one ((List.prefix_append one later).trans part)
    have few := little (one ++ later) part
    rw [taken_append, ← Nat.add_assoc] at few
    rw [run_append] at second
    exact earlier.injective here there id first
      (earlier.held_of_run later few (earlier.issued here id first) second)
  refine ⟨fun one two part part' here there id first second => ?_, next, numbered, ?_⟩
  · obtain ⟨later, rfl⟩ | ⟨later, rfl⟩ := List.prefix_or_prefix_of_prefix part part'
    · exact ordered one later part' here there id first second
    · exact (ordered two later part there here id second first).symm
  · intro past part place id held left
    obtain ⟨-, less⟩ := numbered past part place id held
    rw [next past part] at left ⊢
    rw [UInt64.lt_iff_toNat_lt, UInt64.toNat_ofNat']
    have word : (UInt64.ofNat (1 + tenancy.taken state past)).toNat ≠ 0 :=
      fun zero => left (UInt64.toNat_inj.mp zero)
    rw [UInt64.toNat_ofNat'] at word
    have bound := little past part
    omega

end Tenancy

namespace Directory

variable {S : Type u} {H : Type v} [DecidableEq S]

/-- Only whoever connects may get an identity by that, and it gets the next one. -/
theorem identity?_of_connect {directory : Directory S H} {mint : Mint} {now : Nat}
    {session other : S} {handle : H} {id : Identity}
    (known : (directory.connect mint now session handle).directory.identity? other = some id) :
    directory.identity? other = some id ∨
      (directory.connect mint now session handle).mint = mint.issue.2 ∧ id = mint.issue.1 ∧
        some session = some other := by
  obtain ⟨-, same⟩ | ⟨minted, -, roster, inserted, left⟩ :=
    directory.connect_cases mint now session handle
  · rw [identity?, same] at known
    exact .inl known
  · rw [identity?, inserted, Roster.get?_insert] at known
    split_ifs at known with same
    · exact .inr ⟨minted, (Option.some.inj known).symm, congrArg some same⟩
    · exact .inl (left other id known)

end Directory

namespace Reception

variable {S : Type u} {H : Type v} [DecidableEq S]

/-- The session that an event may give an identity to. -/
def Event.session? : Event S H → Option S
  | .connect session _ | .message session _ _ => some session
  | _ => none

theorem mint_identify (reception : Reception S H) (session : S) (handle : H) :
    (reception.identify session handle).2.mint = reception.mint ∨
      (reception.identify session handle).2.mint = reception.mint.issue.2 := by
  rw [identify]
  split
  · exact .inl rfl
  · exact reception.directory.mint_connect reception.mint reception.now session handle

theorem identity?_of_identify {reception : Reception S H} {session other : S} {handle : H}
    {id : Identity}
    (known : (reception.identify session handle).2.directory.identity? other = some id) :
    reception.directory.identity? other = some id ∨
      (reception.identify session handle).2.mint = reception.mint.issue.2 ∧
        id = reception.mint.issue.1 ∧ some session = some other := by
  rw [identify] at known ⊢
  cases before : reception.directory.identity? session with
  | some _ =>
    rw [before] at known
    exact .inl known
  | none =>
    rw [before] at known
    exact Directory.identity?_of_connect known

variable [BEq H]

theorem mint_perform (reception : Reception S H) (event : Event S H) :
    (reception.perform event).mint = reception.mint ∨
      (reception.perform event).mint = reception.mint.issue.2 := by
  cases event with
  | connect session handle =>
    exact reception.directory.mint_connect reception.mint reception.now session handle
  | message session handle keys => exact reception.mint_identify session handle
  | disconnect _ _ | find _ | sweep => exact .inl rfl
  | elsewhere mints nanoseconds =>
    cases mints with
    | false => exact .inl rfl
    | true => exact .inr rfl

/-- Of all sessions only the one that an event is about may get an identity, and it gets the next
one. -/
theorem identity?_of_perform {before after : Reception S H} {event : Event S H}
    (happened : after = before.perform event) {session : S} {id : Identity}
    (known : after.directory.identity? session = some id) :
    before.directory.identity? session = some id ∨
      after.mint = before.mint.issue.2 ∧ id = before.mint.issue.1 ∧
        event.session? = some session := by
  subst happened
  cases event with
  | connect sender handle => exact Directory.identity?_of_connect known
  | message sender handle keys =>
    rw [perform, Directory.identity?, Directory.roster_registerAll] at known
    exact identity?_of_identify known
  | disconnect sender handle =>
    obtain ⟨left, -⟩ := Directory.identity?_releaseAll_eq_some_iff.mp known
    rw [Directory.identity?, Roster.get?_remove] at left
    split_ifs at left
    exact .inl left
  | find _ | sweep => exact .inl (Directory.identity?_adopt_eq_some_iff.mp known).1
  | elsewhere _ _ => exact .inl known

end Reception

/-- Which roster and which handles each of some receptions works with. Rosters are named by `T`,
registries of handles by `G` and the receptions by `P`. -/
structure Wiring (T : Type u) (G : Type v) (P : Type w) where
  roster : P → T
  handles : P → G
  /-- Whether a session loses its identity when the handle under that identity goes. -/
  forgetful : P → Bool

/-- The rosters and the handles of some receptions, the mint that all draw on, and the time. -/
structure Premises {T : Type u} {G : Type v} (S : T → Type u') (H : G → Type v') where
  rosters : ∀ roster, Roster (S roster)
  handles : ∀ registry, Registry Key (H registry)
  mint : Mint
  now : Nat

namespace Wiring

variable {T : Type u} {G : Type v} {P : Type w} (wiring : Wiring T G P)

/-- What can happen at some receptions. -/
inductive Event (S : T → Type u') (H : G → Type v') where
  | visit (reception : P)
    (event : Reception.Event (S (wiring.roster reception)) (H (wiring.handles reception)))
  /-- Whoever watches handles or releases keys makes a roster forget an identity. -/
  | forget (roster : T) (id : Identity)

variable {S : T → Type u'} {H : G → Type v'}

/-- A reception as it finds the premises. -/
def reception (premises : Premises S H) (reception : P) :
    Reception (S (wiring.roster reception)) (H (wiring.handles reception)) where
  directory :=
    { roster := premises.rosters (wiring.roster reception)
      handles := premises.handles (wiring.handles reception)
      forgetful := wiring.forgetful reception }
  mint := premises.mint
  now := premises.now

variable [DecidableEq T] [DecidableEq G]

/-- The premises as a reception leaves them. -/
def leave (premises : Premises S H) (reception : P)
    (after : Reception (S (wiring.roster reception)) (H (wiring.handles reception))) :
    Premises S H where
  rosters := Function.update premises.rosters (wiring.roster reception) after.directory.roster
  handles := Function.update premises.handles (wiring.handles reception) after.directory.handles
  mint := after.mint
  now := after.now

variable [∀ roster, DecidableEq (S roster)] [∀ registry, BEq (H registry)]

/-- The premises after an event. -/
def perform (premises : Premises S H) : wiring.Event S H → Premises S H
  | .visit reception event =>
    wiring.leave premises reception ((wiring.reception premises reception).perform event)
  | .forget roster id =>
    { premises with
      rosters := Function.update premises.rosters roster ((premises.rosters roster).forget id) }

/-- The identity of a session of one of the rosters. -/
def identityAt? (premises : Premises S H) (place : Sigma S) : Option Identity :=
  (premises.rosters place.1).get? place.2

/-- The session that an event may give an identity to. -/
def Event.place? : wiring.Event S H → Option (Sigma S)
  | .visit reception event => event.session?.map (Sigma.mk (wiring.roster reception))
  | .forget _ _ => none

/-- Only the session that visits a reception may get an identity, in the roster of the reception. -/
theorem identityAt?_of_visit {premises : Premises S H} {reception : P}
    {event : Reception.Event (S (wiring.roster reception)) (H (wiring.handles reception))}
    {place : Sigma S} {id : Identity}
    (known : identityAt? (wiring.perform premises (.visit reception event)) place = some id) :
    identityAt? premises place = some id ∨
      (wiring.perform premises (.visit reception event)).mint = premises.mint.issue.2 ∧
        id = premises.mint.issue.1 ∧ Event.place? wiring (.visit reception event) = some place := by
  obtain ⟨roster, session⟩ := place
  have known : (Function.update premises.rosters (wiring.roster reception)
      ((wiring.reception premises reception).perform event).directory.roster roster).get? session =
        some id := known
  by_cases here : roster = wiring.roster reception
  · subst here
    rw [Function.update_self] at known
    refine (Reception.identity?_of_perform rfl known).imp_right fun ⟨minted, fresh, visitor⟩ => ?_
    exact ⟨minted, fresh, by rw [Event.place?, visitor]; rfl⟩
  · rw [Function.update_of_ne here] at known
    exact .inl known

theorem identityAt?_of_forget {premises : Premises S H} {roster : T} {forgotten : Identity}
    {place : Sigma S} {id : Identity}
    (known : identityAt? (wiring.perform premises (.forget roster forgotten)) place = some id) :
    identityAt? premises place = some id := by
  obtain ⟨other, session⟩ := place
  have known : (Function.update premises.rosters roster
      ((premises.rosters roster).forget forgotten) other).get? session = some id := known
  by_cases here : other = roster
  · subst here
    rw [Function.update_self] at known
    exact (Roster.get?_forget_eq_some_iff.mp known).1
  · rwa [Function.update_of_ne here] at known

/-- Receptions that share a mint are a tenancy of all their sessions. -/
def tenancy : Tenancy (Premises S H) (wiring.Event S H) (Sigma S) where
  perform := wiring.perform
  mint := Premises.mint
  held := identityAt?
  taker := Event.place? wiring
  frugal premises event := by
    cases event with
    | visit reception event => exact (wiring.reception premises reception).mint_perform event
    | forget roster id => exact .inl rfl
  granted premises event place id known := by
    cases event with
    | visit reception event => exact wiring.identityAt?_of_visit known
    | forget roster forgotten => exact .inl (wiring.identityAt?_of_forget known)

end Wiring

/-- The premises before anybody came. -/
def Premises.vacant {T : Type u} {G : Type v} {S : T → Type u'} {H : G → Type v'}
    (ttl : G → Option Nat) : Premises S H where
  rosters _ := .empty
  handles registry := .empty (ttl registry)
  mint := .initial
  now := 0

end Gateway
