import Gateway.Proofs.Channels.Liveness
import Gateway.Proofs.Hub.Call

/-! # Runs of a hub

Everything that can happen to a gateway between two steps: callers arrive, send messages and leave,
frames are sent and pushed, keys are looked up, sweeps run, and the channels move by themselves. A run
is a list of such actions from the hub before anything happened. Sweepers only choose when time passes
and what is swept, so a run does without them.

Whatever an action does to the channels is done by moves of the channels. So what holds of the
channels in every run of moves holds of the channels of every hub that a run reaches.
-/

namespace Gateway

/-- What can happen to a gateway. -/
inductive Hub.Action where
  | move (move : Channels.Move)
  | greet (caller : Caller)
  | receive (frame : Frame) (caller : Caller)
  | sendTo (frame : Frame) (caller : Caller)
  | sendErrorTo (code : ErrorCode) (parameters : List Json) (caller : Caller)
  | dismiss (caller : Caller)
  | push (endpoint : Endpoint) (key : Key) (frame : Frame)
  | find (key : Key) (desk : Desk)
  /-- The pipeline alone answers an envelope. -/
  | process (envelope : Option Envelope)
  /-- Someone else takes an identity. -/
  | mint
  | closePool
  | sweepWeb
  | sweepInProcess

namespace Hub

variable {α : Type}

/-- The hub after an action. -/
def perform (application : Application α) (hub : Hub α) : Action → Hub α
  | .move move => { hub with channels := hub.channels.perform move }
  | .greet caller => (hub.greet caller).2
  | .receive frame caller => (hub.receive application frame caller).2
  | .sendTo frame caller => (hub.sendTo frame caller).2
  | .sendErrorTo code parameters caller => (hub.sendErrorTo application code parameters caller).2
  | .dismiss caller => hub.dismiss caller
  | .push endpoint key frame => (hub.push endpoint key frame).2
  | .find key desk => (hub.find key desk).2
  | .process envelope => (hub.process application envelope).2
  | .mint => hub.mint.2
  | .closePool => hub.closePool
  | .sweepWeb => hub.sweepWeb.2
  | .sweepInProcess => hub.sweepInProcess.2

/-- The hub after a list of actions. -/
def run (application : Application α) (hub : Hub α) (actions : List Action) : Hub α :=
  actions.foldl (perform application) hub

@[simp] theorem run_nil (application : Application α) (hub : Hub α) :
    hub.run application [] = hub := rfl

theorem run_cons (application : Application α) (hub : Hub α) (action : Action)
    (rest : List Action) :
    hub.run application (action :: rest) = (hub.perform application action).run application rest :=
  rfl

theorem run_append (application : Application α) (hub : Hub α) (first second : List Action) :
    hub.run application (first ++ second) = (hub.run application first).run application second :=
  List.foldl_append

theorem removals_eq (desk : Desk) (keys : List Key) :
    removals desk keys = (keys.map DirectoryNotice.removed).map (deskNotice desk) := by
  rw [removals, List.map_map]
  rfl

theorem reaches_announce_removals (channels : Channels) (desk : Desk) (keys : List Key) :
    channels.ReachesBy Channels.Move.isRoutine (channels.announce (removals desk keys)) := by
  rw [removals_eq]
  exact .tellings (fun _ _ => rfl) channels desk _

theorem reaches_registerClear (hub : Hub α) (id : ConnectionId) :
    hub.channels.ReachesBy Channels.Move.isRoutine (hub.registerClear id).channels := by
  rw [registerClear]
  cases hub.pairKey? id with
  | none => exact .refl hub.channels
  | some key => exact .move hub.channels (.joinClear key id) rfl

theorem reaches_connect (hub : Hub α) (endpoint : Endpoint) (id : ConnectionId) :
    hub.channels.ReachesBy Channels.Move.isRoutine (hub.connect endpoint id).2.channels := by
  have announcing := reaches_announce_removals hub.channels (.sockets endpoint.desk)
    ((hub.desks.get endpoint.desk).connect hub.commons.mint hub.now id id).removed
  simp only [connect]
  split_ifs with padded
  · exact announcing.trans (reaches_registerClear _ id)
  · exact announcing

theorem reaches_push (hub : Hub α) (endpoint : Endpoint) (key : Key) (frame : Frame) :
    hub.channels.ReachesBy Channels.Move.isRoutine (hub.push endpoint key frame).2.channels := by
  have finding : hub.channels.ReachesBy Channels.Move.isRoutine
      (hub.findSocket endpoint.desk key).2.channels := reaches_announce_removals hub.channels _ _
  rw [push]
  rcases found : hub.findSocket endpoint.desk key with ⟨_ | id, after⟩ <;> rw [found] at finding
  · exact finding
  · exact finding.trans (after.replies_send endpoint id frame).channels.routine

/-- Whether an action is a move of the channels by themselves. -/
def Action.isMove : Action → Bool
  | .move _ => true
  | _ => false

/-- The call that an action leads to, if it leads to one. -/
def asked? (application : Application α) (hub : Hub α) : Action → Option (Call α)
  | .receive frame caller =>
    match hub.read frame caller with
    | (some bytes, arrived) => arrived.call? application bytes caller
    | (none, _) => none
  | .process (some envelope) => some ⟨hub.desks.shared, envelope, hub.floor⟩
  | _ => none

/-- An action that leads to a call only looks at pads before it and sends frames after it. -/
theorem perform_of_asked {application : Application α} {hub : Hub α} {action : Action}
    {call : Call α} (asked : hub.asked? application action = some call) :
    hub.channels.ReachesBy Channels.Move.isReply call.floor.channels ∧
      (call.served application).2.channels.ReachesBy Channels.Move.isReply
        (hub.perform application action).channels := by
  cases action with
  | receive frame caller =>
    have reading := hub.replies_read frame caller
    rw [asked?] at asked
    rcases read : hub.read frame caller with ⟨_ | bytes, arrived⟩ <;> rw [read] at asked reading
    · cases asked
    · have called : arrived.call? application bytes caller = some call := asked
      have replying := (receive_of_read read application).2
      rw [floor_of_call called, ← (respond_of_call called).2]
      exact ⟨reading.channels, replying.channels⟩
  | process envelope =>
    cases envelope with
    | none => cases asked
    | some envelope =>
      obtain rfl := Option.some.inj asked
      exact ⟨.refl hub.channels, .refl _⟩
  | _ => cases asked

/-- Without a call an action makes routine moves only, unless it is a move itself. -/
theorem perform_of_unasked {application : Application α} {hub : Hub α} {action : Action}
    (moves : action.isMove = false) (unasked : hub.asked? application action = none) :
    hub.channels.ReachesBy Channels.Move.isRoutine (hub.perform application action).channels := by
  cases action with
  | move move => cases moves
  | receive frame caller =>
    have reading := (hub.replies_read frame caller).channels
    rw [asked?] at unasked
    rcases read : hub.read frame caller with ⟨_ | bytes, arrived⟩ <;> rw [read] at unasked reading
    · exact (receive_of_unread read application).2.channels.routine
    · have uncalled : arrived.call? application bytes caller = none := unasked
      have replying := (receive_of_read read application).2.channels
      rw [(respond_of_uncalled uncalled).2] at replying
      exact (reading.trans replying).routine
  | process envelope =>
    cases envelope with
    | none => exact .refl hub.channels
    | some envelope => cases unasked
  | greet caller =>
    cases caller with
    | socket endpoint id => exact hub.reaches_connect endpoint id
    | web session => exact reaches_announce_removals hub.channels .web _
    | inProcess session handle addresses =>
      exact reaches_announce_removals hub.channels .inProcess _
  | sendTo frame caller =>
    cases caller with
    | socket endpoint id => exact (hub.replies_send endpoint id frame).channels.routine
    | web _ | inProcess _ _ _ => exact .refl hub.channels
  | sendErrorTo code parameters caller =>
    cases caller with
    | socket endpoint id => exact (hub.replies_send endpoint id _).channels.routine
    | web _ | inProcess _ _ _ => exact .refl hub.channels
  | dismiss caller => cases caller <;> exact .tellings (fun _ _ => rfl) hub.channels _ _
  | push endpoint key frame => exact hub.reaches_push endpoint key frame
  | find key desk => cases desk <;> exact reaches_announce_removals hub.channels _ _
  | mint | closePool => exact .refl hub.channels
  | sweepWeb => exact reaches_announce_removals hub.channels .web _
  | sweepInProcess => exact reaches_announce_removals hub.channels .inProcess _

/-- Whatever an action does to the channels is done by internal moves, unless it is a move itself. -/
theorem reaches_perform (application : Application α) (hub : Hub α) {action : Action}
    (moves : action.isMove = false) :
    hub.channels.Reaches (hub.perform application action).channels := by
  cases asked : hub.asked? application action with
  | none => exact (perform_of_unasked moves asked).internal
  | some call =>
    obtain ⟨looking, replying⟩ := perform_of_asked asked
    exact (looking.routine.internal.trans (call.reaches_served application).served).trans
      replying.routine.internal

/-- What every move keeps, every run of a hub keeps. -/
theorem channels_run {keeps : Channels → Prop}
    (kept : ∀ channels move, keeps channels → keeps (channels.perform move))
    (application : Application α) {hub : Hub α} (holds : keeps hub.channels)
    (actions : List Action) : keeps (hub.run application actions).channels := by
  induction actions generalizing hub with
  | nil => exact holds
  | cons action rest ih =>
    refine ih ?_
    cases moves : action.isMove with
    | false =>
      exact Channels.ReachesBy.keeps (fun channels move _ => kept channels move)
        (hub.reaches_perform application moves) holds
    | true =>
      cases action with
      | move move => exact kept hub.channels move holds
      | _ => cases moves

section

variable (settings : HubSettings) (mint : Mint) (entropy : Entropy) (own : α)
  (application : Application α) (actions : List Action)

/-- Where someone looks at the pairs of closed connections, pairs live as long as their channels. -/
theorem sound_run (front back : List Subscriber) (label : String) :
    ((Hub.initial settings (front ++ ⟨label, .retirePairs⟩ :: back) mint entropy own).run application
      actions).channels.Sound := by
  have watched : ∃ subscriber ∈ front ++ ⟨label, .retirePairs⟩ :: back,
      subscriber.reaction = .retirePairs :=
    ⟨⟨label, .retirePairs⟩, List.mem_append_right _ List.mem_cons_self, rfl⟩
  have sound := Channels.sound_initial watched settings.pendingTtl settings.padSize entropy
  exact channels_run (fun _ move sound => sound.perform move) application sound actions

/-- Pads in use do not expire. -/
theorem permanent_run (subscribers : List Subscriber) :
    ((Hub.initial settings subscribers mint entropy own).run application
      actions).channels.pads.active.ttl = none :=
  channels_run (fun channels move => (Channels.ttl_active_perform channels move).trans) application
    rfl actions

end

end Hub

end Gateway
