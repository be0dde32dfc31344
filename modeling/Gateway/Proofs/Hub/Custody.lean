import Gateway.Lobby
import Gateway.Proofs.Channels.Custody
import Gateway.Proofs.Hub.Run

/-! # Pads go with their pairs

Nobody may store a pad for a key without a pair, so in a run in which nobody stores pads by hand every
pad ought to have a pair in every state. One action can break that: a request whose connection is closed
by the eviction that its own seating leads to, and that gets its pad all the same. The pads of the pair
have been revoked by then, so nothing takes the new one back. Runs without such a request, and no
others, keep all pads in the custody of their pairs throughout.
-/

namespace Gateway

namespace Channels

/-- A reply neither takes out a waiting pad nor makes a pair. -/
theorem Stranded.perform {channels : Channels} {key : Key} (stranded : channels.Stranded key)
    {move : Move} (reply : move.isReply = true) : (channels.perform move).Stranded key := by
  cases move with
  | send id frame =>
    have pads : (channels.send id frame).2.pads = channels.pads := by
      rw [send]
      split <;> rfl
    have pairs := (tweaks_send channels id frame).pairs
    constructor
    · rw [Channels.perform, pads]
      exact stranded.waiting
    · rw [Channels.perform, hasPair, pair?, pairs]
      exact stranded.unpaired
  | activePad other => exact ⟨stranded.waiting, stranded.unpaired⟩
  | _ => cases reply

theorem Stranded.reply {before after : Channels} {key : Key} (stranded : before.Stranded key)
    (reaches : before.ReachesBy Move.isReply after) : after.Stranded key := by
  have kept : ∀ (channels : Channels) (move : Move), move.isReply = true → channels.Stranded key →
      (channels.perform move).Stranded key := fun _ _ reply stranded => stranded.perform reply
  exact reaches.keeps kept stranded

/-- Neither does a routine move store a pad by hand. -/
theorem PadsPaired.routine {before after : Channels} (custody : before.PadsPaired)
    (reaches : before.ReachesBy Move.isRoutine after) : after.PadsPaired := by
  refine reaches.keeps (fun channels move routine custody => custody.perform ?_) custody
  cases move <;> first | rfl | cases routine

end Channels

namespace Hub

variable {α : Type}

/-- Whether an action stores a pad without regard to pairs. -/
def Action.storesBare : Action → Bool
  | .move step => step.storesBare
  | _ => false

/-- Whether an action is a request that strands the pad which it is granted. -/
def strandsPad (application : Application α) (hub : Hub α) (action : Action) : Bool :=
  (hub.asked? application action).any fun call =>
    (call.requested? application).any fun (key, id) => call.floor.channels.strandsPad key id

/-- Whether some action of a run strands a pad. -/
def everStrands (application : Application α) (hub : Hub α) : List Action → Bool
  | [] => false
  | action :: rest =>
    hub.strandsPad application action ||
      everStrands application (hub.perform application action) rest

section

variable {application : Application α} {hub : Hub α}

/-- A call keeps pads in custody exactly if it does not strand one. -/
theorem Call.padsPaired_served (application : Application α) {call : Call α}
    (custody : call.floor.channels.PadsPaired) :
    match call.requested? application with
    | some (key, id) =>
      if call.floor.channels.strandsPad key id then
        (call.served application).2.channels.Stranded key
      else (call.served application).2.channels.PadsPaired
    | none => (call.served application).2.channels.PadsPaired := by
  rw [call.channels_served application]
  cases call.requested? application with
  | some request =>
    obtain ⟨key, id⟩ := request
    simp only
    split_ifs with strands
    · exact Channels.stranded_grantPad strands
    · exact (Channels.padsPaired_grantPad custody key id).mpr (Bool.eq_false_iff.mpr strands)
  | none =>
    cases application.confirmed? call.envelope with
    | some key => exact custody.activatePad key
    | none => exact custody

/-- An action keeps pads in custody exactly if it does not strand one. -/
theorem padsPaired_perform (application : Application α) (custody : hub.channels.PadsPaired)
    {action : Action} (bare : action.storesBare = false) :
    (hub.perform application action).channels.PadsPaired ↔
      hub.strandsPad application action = false := by
  cases asked : hub.asked? application action with
  | none =>
    have kept : (hub.perform application action).channels.PadsPaired := by
      cases moves : action.isMove with
      | true =>
        cases action with
        | move move =>
          have bare : move.storesBare = false := bare
          exact custody.perform bare
        | _ => cases moves
      | false => exact custody.routine (perform_of_unasked moves asked)
    simp only [kept, strandsPad, asked, Option.any_none]
  | some call =>
    obtain ⟨looking, replying⟩ := perform_of_asked asked
    have served := Call.padsPaired_served application (custody.routine looking.routine)
    simp only [strandsPad, asked, Option.any_some]
    cases requested : call.requested? application with
    | none =>
      rw [requested] at served
      simp only [served.routine replying.routine, Option.any_none]
    | some request =>
      obtain ⟨key, id⟩ := request
      simp only [requested] at served
      cases strands : call.floor.channels.strandsPad key id with
      | false =>
        rw [strands] at served
        have kept : (hub.perform application action).channels.PadsPaired :=
          Channels.PadsPaired.routine served replying.routine
        simp only [kept, Option.any_some, strands]
      -- What follows the call only replies, so it neither takes the pad back nor pairs it.
      | true =>
        rw [strands] at served
        have stranded : (hub.perform application action).channels.Stranded key :=
          Channels.Stranded.reply served replying
        simp only [stranded.not_padsPaired, Option.any_some, strands, Bool.true_eq_false]

/-- A run keeps pads in custody in all its states exactly if none of its actions strands one. -/
theorem padsPaired_run (custody : hub.channels.PadsPaired) {actions : List Action}
    (bare : ∀ action ∈ actions, action.storesBare = false) :
    (∀ front, front <+: actions → (hub.run application front).channels.PadsPaired) ↔
      hub.everStrands application actions = false := by
  induction actions generalizing hub with
  | nil =>
    simp only [List.prefix_nil, forall_eq, run_nil, custody, everStrands]
  | cons action rest ih =>
    have step := padsPaired_perform application custody
      (bare action List.mem_cons_self)
    have later := fun other member => bare other (List.mem_cons_of_mem action member)
    rw [everStrands, Bool.or_eq_false_iff, ← step]
    constructor
    · intro kept
      have first := kept [action] ⟨rest, rfl⟩
      refine ⟨first, (ih first later).mp fun front begins => ?_⟩
      exact kept (action :: front) ((List.prefix_cons_inj action).mpr begins)
    · rintro ⟨first, others⟩ front begins
      obtain rfl | ⟨more, rfl, follows⟩ := List.prefix_cons_iff.mp begins
      · exact custody
      · exact (ih first later).mpr others more follows

/-- Where pairs live as long as their channels, a request strands its pad only if seating its connection
evicts a former occupant whose close closes the connection as well. -/
theorem eviction_of_strandsPad (sound : hub.channels.Sound) {action : Action}
    (strands : hub.strandsPad application action = true) :
    ∃ call key id former, hub.asked? application action = some call ∧
      call.requested? application = some (key, id) ∧
      call.floor.channels.eviction? key .encrypted id =
        some ((call.floor.channels.seat key .encrypted id).2, former) ∧
      ((call.floor.channels.seat key .encrypted id).2.close former).2.isActive id = false := by
  obtain ⟨call, asked, strands⟩ := (Option.any_eq_true _ _).mp strands
  obtain ⟨⟨key, id⟩, requested, strands⟩ := (Option.any_eq_true _ _).mp strands
  have floor : call.floor.channels.Sound :=
    (perform_of_asked asked).1.keeps (fun _ move _ sound => sound.perform move) sound
  obtain ⟨former, evicts, closed⟩ := Channels.eviction_of_strandsPad floor strands
  exact ⟨call, key, id, former, asked, requested, evicts, closed⟩

end

/-- In every run of channels whose pairs someone looks at, in which nobody stores pads by hand: all pads
have a pair for their key in every state between two actions exactly if no request strands its own pad.
A request does so only by evicting a former occupant whose close closes its own connection as well. -/
theorem pads_go_with_their_pairs (settings : HubSettings) (front back : List Subscriber)
    (label : String) (mint : Mint) (entropy : Entropy) (own : α) (application : Application α)
    (actions : List Action) (bare : ∀ action ∈ actions, action.storesBare = false) :
    let start := Hub.initial settings (front ++ ⟨label, .retirePairs⟩ :: back) mint entropy own
    ((∀ earlier, earlier <+: actions → (start.run application earlier).channels.PadsPaired) ↔
      start.everStrands application actions = false) ∧
    ∀ earlier action, (start.run application earlier).strandsPad application action = true →
      ∃ call key id former,
        (start.run application earlier).asked? application action = some call ∧
        call.requested? application = some (key, id) ∧
        call.floor.channels.eviction? key .encrypted id =
          some ((call.floor.channels.seat key .encrypted id).2, former) ∧
        ((call.floor.channels.seat key .encrypted id).2.close former).2.isActive id = false := by
  intro start
  constructor
  · apply padsPaired_run _ bare
    intro key held
    cases held
  · intro earlier action strands
    have sound := sound_run settings mint entropy own application earlier front back label
    exact eviction_of_strandsPad sound strands

namespace Eviction

def settings : HubSettings := ⟨16, 60, 30, none, 1⟩

/-- A secure connection. -/
def former : ConnectionId := ⟨1, 1⟩

/-- Another secure connection, for the same pair. -/
def newcomer : ConnectionId := ⟨1, 2⟩

def request : Frame := .text "\x7b\"type\":\"OTP_NEW_KEY_REQUEST\",\"id\":1,\"key\":\"addr:1\"\x7d"

/-- The first connection has asked for a pad of the pair. -/
def first : List Action :=
  [.move (.accept former ⟨⟨none, none⟩, true⟩ 4), .move (.accept newcomer ⟨⟨none, none⟩, true⟩ 4),
    .greet (.socket .secure former), .greet (.socket .secure newcomer),
    .receive request (.socket .secure former)]

/-- Then the other one has, which whoever closes the first connection closes too. -/
def both : List Action :=
  first ++ [.move (.link former newcomer), .receive request (.socket .secure newcomer)]

def fresh : Hub Unit :=
  .initial settings [⟨"links", .close fun _ => []⟩, ⟨"pairs", .retirePairs⟩] .initial
    ⟨fun _ => 0, 0⟩ ()

end Eviction

section

open Eviction

/-- The pad that the first connection is granted has a pair. -/
theorem pad_of_first_request_has_pair :
    (∀ action ∈ first, action.storesBare = false) ∧
      (fresh.run Lobby.application first).channels.hasPad (.name "addr:1") = true ∧
      (∀ earlier, earlier <+: first →
        (fresh.run Lobby.application earlier).channels.PadsPaired) := by
  have bare : ∀ action ∈ first, action.storesBare = false := by decide +kernel
  refine ⟨bare, by decide +kernel, ?_⟩
  exact (pads_go_with_their_pairs settings [⟨"links", .close fun _ => []⟩] [] "pairs" .initial
    ⟨fun _ => 0, 0⟩ () Lobby.application first bare).1.mpr (by decide +kernel)

/-- The pad that the other one is granted has none: the eviction of the first connection closed it. -/
theorem pad_of_evicting_request_is_stranded :
    (∀ action ∈ both, action.storesBare = false) ∧
      (fresh.run Lobby.application both).channels.hasPad (.name "addr:1") = true ∧
      (fresh.run Lobby.application both).channels.hasPair (.name "addr:1") = false := by
  refine ⟨?_, by decide +kernel, by decide +kernel⟩
  decide +kernel

end

end Hub

end Gateway
