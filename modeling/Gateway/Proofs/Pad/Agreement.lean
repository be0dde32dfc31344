import Gateway.Proofs.Channels.Custody

/-! # What a confirmation confirms

A client receives pads over the encrypted channel of a pair and confirms each of them over the clear
channel. Both channels deliver in order, but neither waits for the other, and a confirmation does not
say which pad it confirms: the gateway puts to use whatever pad waits when it gets to it. The pad that
waits is always the newest one that was handed out, the last of what the client has received and what
is still under way. So both ends agree on the pad in use exactly if nothing newer was handed out between
the last pad that the client had received and the moment its confirmation is served.
-/

namespace Gateway

namespace Channels

/-- Whether a move hands a pad of a pair to somebody. -/
def Move.handsOut (key : Key) : Move → Bool
  | .stagePad other _ | .newPendingPad other | .issuePad other _ => other = key
  | _ => false

/-- Nothing else makes another pad wait for the pair. -/
theorem pending_perform {channels : Channels} {key : Key} {move : Move}
    (silent : move.handsOut key = false) {pad : Bytes}
    (waiting : (channels.perform move).pads.pending.stored? key = some pad) :
    channels.pads.pending.stored? key = some pad := by
  cases stores : move.storesPad with
  | false => exact (dwindles_perform channels stores).pending key pad waiting
  | true =>
    cases move with
    | activatePad other =>
      rw [perform, pending_activatePad] at waiting
      split_ifs at waiting
      exact waiting
    | usePad other material =>
      rw [perform, usePad, PadStore.install, Registry.stored?_remove] at waiting
      split_ifs at waiting
      exact waiting
    | stagePad other material =>
      have distinct : other ≠ key := by simpa [Move.handsOut] using silent
      rwa [perform, stagePad, PadStore.stage, Registry.put, Registry.stored?_store,
        if_neg distinct] at waiting
    | newPendingPad other =>
      have distinct : other ≠ key := by simpa [Move.handsOut] using silent
      rw [perform] at waiting
      by_cases unsized : channels.padSize = 0
      · rwa [newPendingPad_of_unsized unsized] at waiting
      · simpa only [newPendingPad, generatePad, Pad.generate, if_neg unsized, noteHandedOut, stagePad,
          PadStore.stage, Registry.put, Registry.stored?_store, if_neg distinct] using waiting
    | issuePad other requireAck =>
      have distinct : other ≠ key := by simpa [Move.handsOut] using silent
      rw [perform] at waiting
      obtain ⟨material, occupant, -, issues⟩ | ⟨-, -, pads⟩ :=
        issuePad_cases channels other requireAck
      · rw [issues.pads] at waiting
        split_ifs at waiting
        · rwa [PadStore.stage, Registry.put, Registry.stored?_store, if_neg distinct] at waiting
        · rwa [PadStore.install, Registry.stored?_remove, if_neg distinct] at waiting
      · rwa [pads] at waiting
    | _ => cases stores

/-- What waits once a pad was asked for is the pad that was granted, or what waited before. -/
theorem pending_grantPad {channels : Channels} {key : Key} {id : ConnectionId} {pad : Bytes}
    (waiting : (channels.grantPad key id).2.pads.pending.stored? key = some pad) :
    (channels.grantPad key id).1 = some pad ∨
      (channels.grantPad key id).1 = none ∧ channels.pads.pending.stored? key = some pad := by
  have joining : Dwindles channels (channels.perform (.joinEncrypted key id)) :=
    dwindles_perform channels rfl
  rw [perform] at joining
  rcases joined : channels.joinEncrypted key id with ⟨error | _, seated⟩ <;> rw [joined] at joining
  · rw [grantPad_of_refused joined] at waiting ⊢
    exact .inr ⟨rfl, joining.pending key pad waiting⟩
  · simp only [grantPad, joined, newPendingPad, generatePad, Pad.generate] at waiting ⊢
    by_cases unsized : seated.padSize = 0
    · simp only [if_pos unsized] at waiting ⊢
      exact .inr ⟨trivial, joining.pending key pad waiting⟩
    · simp only [if_neg unsized, noteHandedOut, stagePad, PadStore.stage, Registry.put,
        Registry.stored?_store, ↓reduceIte] at waiting ⊢
      exact .inl waiting

/-- A pad that is issued and has to be confirmed waits; otherwise what waited before does. -/
theorem pending_issuePad (channels : Channels) (key : Key) :
    (channels.issuePad key true).1 = .ok true ∨
      (channels.issuePad key true).1 ≠ .ok true ∧
        (channels.issuePad key true).2.pads = channels.pads := by
  obtain ⟨_, _, issued, -⟩ | ⟨unissued, -, pads⟩ := issuePad_cases channels key true
  · exact .inl issued
  · exact .inr ⟨unissued, pads⟩

end Channels

namespace PadExchange

/-- A client that exchanges pads with a gateway. -/
structure Conversation where
  channels : Channels
  /-- The pads on the encrypted channel, oldest first. -/
  underway : List Bytes
  /-- The pads that the client has received, oldest first. -/
  received : List Bytes
  /-- How many of them it has confirmed. -/
  confirmed : Nat
  /-- The confirmations on the clear channel, oldest first, each with what the client had received when
  it sent it. -/
  confirmations : List (List Bytes)

/-- What can happen next. -/
inductive Event where
  /-- The client asks for a pad on a connection and is sent the response. -/
  | request (id : ConnectionId)
  /-- The gateway issues a pad that has to be confirmed. -/
  | issue
  /-- The client receives the next pad. -/
  | deliver
  /-- The client confirms a pad. -/
  | confirm
  /-- The gateway serves the next confirmation. -/
  | serve
  /-- Something happens that hands no pad of the pair to anybody. -/
  | meanwhile (move : Channels.Move)

namespace Conversation

/-- Nothing has been said yet. -/
def start (channels : Channels) : Conversation := ⟨channels, [], [], 0, []⟩

/-- The conversation about the pair of an address after an event. What is not possible does not
happen. -/
def step (address : String) (talk : Conversation) : Event → Conversation
  | .request id =>
    let (granted, channels) := talk.channels.grantPad (.name address) id
    { talk with channels := channels, underway := talk.underway ++ granted.toList }
  | .issue =>
    match talk.channels.issuePad (.name address) true with
    | (.ok true, channels) =>
      { talk with
        channels := channels
        underway := talk.underway ++ (channels.pads.pending.stored? (.name address)).toList }
    | (_, channels) => { talk with channels := channels }
  | .deliver =>
    match talk.underway with
    | [] => talk
    | pad :: rest => { talk with underway := rest, received := talk.received ++ [pad] }
  | .confirm =>
    if talk.confirmed < talk.received.length then
      { talk with
        confirmed := talk.confirmed + 1
        confirmations := talk.confirmations ++ [talk.received] }
    else talk
  | .serve =>
    match talk.confirmations with
    | [] => talk
    | _ :: rest =>
      { talk with
        channels := (talk.channels.activatePad (.name address)).2
        confirmations := rest }
  | .meanwhile move =>
    if move.handsOut (.name address) then talk
    else { talk with channels := talk.channels.perform move }

/-- The conversation after some events. -/
def run (address : String) (talk : Conversation) (events : List Event) : Conversation :=
  events.foldl (step address) talk

/-- All pads of the pair that the client was handed, oldest first, whether it has received them or not.
-/
def handed (talk : Conversation) : List Bytes := talk.received ++ talk.underway

/-- What holds throughout a conversation. -/
structure Tracked (address : String) (talk : Conversation) : Prop where
  newest : ∀ pad, talk.channels.pads.pending.stored? (.name address) = some pad →
    talk.handed.getLast? = some pad
  confirmed : talk.confirmed ≤ talk.received.length
  seen : ∀ seen ∈ talk.confirmations, seen ≠ [] ∧ seen <+: talk.received

namespace Tracked

variable {address : String} {talk : Conversation}

theorem start {channels : Channels}
    (fresh : channels.pads.pending.stored? (.name address) = none) :
    (Conversation.start channels).Tracked address where
  newest _ waiting := nomatch fresh.symm.trans waiting
  confirmed := Nat.le_refl 0
  seen := nofun

/-- The pad that is handed out waits from then on. -/
theorem handOut (tracked : talk.Tracked address) {channels : Channels} {granted : Option Bytes}
    (waits : ∀ pad, channels.pads.pending.stored? (.name address) = some pad →
      granted = some pad ∨
        granted = none ∧ talk.channels.pads.pending.stored? (.name address) = some pad) :
    ({ talk with channels := channels, underway := talk.underway ++ granted.toList } :
      Conversation).Tracked address where
  newest pad waiting := by
    obtain rfl | ⟨rfl, before⟩ := waits pad waiting
    · simp only [handed, Option.toList_some, ← List.append_assoc, List.getLast?_concat]
    · simpa only [handed, Option.toList_none, List.append_nil] using tracked.newest pad before
  confirmed := tracked.confirmed
  seen := tracked.seen

/-- Less may wait from now on. -/
theorem dwindle (tracked : talk.Tracked address) {channels : Channels}
    (less : ∀ pad, channels.pads.pending.stored? (.name address) = some pad →
      talk.channels.pads.pending.stored? (.name address) = some pad) :
    ({ talk with channels := channels } : Conversation).Tracked address where
  newest pad waiting := tracked.newest pad (less pad waiting)
  confirmed := tracked.confirmed
  seen := tracked.seen

theorem deliver (tracked : talk.Tracked address) {pad : Bytes} {rest : List Bytes}
    (next : talk.underway = pad :: rest) :
    ({ talk with underway := rest, received := talk.received ++ [pad] } :
      Conversation).Tracked address where
  newest other waiting := by
    rw [← tracked.newest other waiting, handed, handed, next, List.append_assoc,
      List.singleton_append]
  confirmed := by
    have before := tracked.confirmed
    have longer : talk.received.length ≤ (talk.received ++ [pad]).length := by simp
    exact Nat.le_trans before longer
  seen seen member := by
    obtain ⟨nonempty, earlier⟩ := tracked.seen seen member
    exact ⟨nonempty, earlier.trans (List.prefix_append talk.received [pad])⟩

theorem confirm (tracked : talk.Tracked address) (owed : talk.confirmed < talk.received.length) :
    ({ talk with
      confirmed := talk.confirmed + 1
      confirmations := talk.confirmations ++ [talk.received] } : Conversation).Tracked address where
  newest := tracked.newest
  confirmed := owed
  seen seen member := by
    obtain before | now := List.mem_append.mp member
    · exact tracked.seen seen before
    · obtain rfl := List.mem_singleton.mp now
      refine ⟨?_, List.prefix_refl talk.received⟩
      apply List.ne_nil_of_length_pos
      omega

theorem serve (tracked : talk.Tracked address) {seen : List Bytes} {rest : List (List Bytes)}
    (next : talk.confirmations = seen :: rest) :
    ({ talk with
      channels := (talk.channels.activatePad (.name address)).2
      confirmations := rest } : Conversation).Tracked address where
  newest pad waiting := by
    rw [Channels.pending_activatePad, if_pos rfl] at waiting
    cases waiting
  confirmed := tracked.confirmed
  seen other member := tracked.seen other (next ▸ List.mem_cons_of_mem seen member)

theorem step (tracked : talk.Tracked address) (event : Event) :
    (talk.step address event).Tracked address := by
  cases event with
  | request id => exact tracked.handOut fun pad waiting => Channels.pending_grantPad waiting
  | issue =>
    rw [Conversation.step]
    have fate := Channels.pending_issuePad talk.channels (.name address)
    rcases issued : talk.channels.issuePad (.name address) true with ⟨error | _ | _, channels⟩ <;>
      rw [issued] at fate
    · have pads : channels.pads = talk.channels.pads := (fate.resolve_left nofun).2
      exact tracked.dwindle fun pad waiting => pads ▸ waiting
    · have pads : channels.pads = talk.channels.pads := (fate.resolve_left nofun).2
      exact tracked.dwindle fun pad waiting => pads ▸ waiting
    · exact tracked.handOut fun pad waiting => .inl waiting
  | deliver =>
    rw [Conversation.step]
    cases next : talk.underway with
    | nil => exact tracked
    | cons pad rest => exact tracked.deliver next
  | confirm =>
    rw [Conversation.step]
    split_ifs with owed
    · exact tracked.confirm owed
    · exact tracked
  | serve =>
    rw [Conversation.step]
    cases next : talk.confirmations with
    | nil => exact tracked
    | cons seen rest => exact tracked.serve next
  | meanwhile move =>
    rw [Conversation.step]
    split_ifs with handsOut
    · exact tracked
    · exact tracked.dwindle fun pad waiting =>
        Channels.pending_perform (Bool.eq_false_iff.mpr handsOut) waiting

theorem run (tracked : talk.Tracked address) (events : List Event) :
    (talk.run address events).Tracked address := by
  induction events generalizing talk with
  | nil => exact tracked
  | cons event rest ih => exact ih (tracked.step event)

/-- What a confirmation puts to use is the newest pad that was handed out. -/
theorem newest_of_activated (tracked : talk.Tracked address)
    (activated : (talk.channels.activatePad (.name address)).1 = true) :
    ∃ pad, talk.handed.getLast? = some pad ∧
      (talk.channels.activatePad (.name address)).2.pads.active.stored? (.name address) =
        some pad := by
  obtain ⟨pad, waiting, -, active⟩ | ⟨failed, -⟩ :=
    Channels.activatePad_cases talk.channels (.name address)
  · exact ⟨pad, tracked.newest pad waiting, (active _).trans (if_pos rfl)⟩
  · exact absurd activated (Bool.eq_false_iff.mp failed)

end Tracked

end Conversation

/-- Of a list without repetitions no proper part from the front ends in the same element. -/
theorem eq_of_prefix_of_getLast? {α : Type u} {front all : List α} (begins : front <+: all)
    (distinct : all.Nodup) {last : α} (ends : front.getLast? = some last)
    (ends' : all.getLast? = some last) : front = all := by
  obtain ⟨back, rfl⟩ := begins
  cases back with
  | nil => rw [List.append_nil]
  | cons next rest =>
    have inFront : last ∈ front := List.mem_of_getLast? ends
    have inBack : last ∈ next :: rest := by
      rw [List.getLast?_append, List.getLast?_cons, Option.some_or] at ends'
      exact List.mem_of_getLast? (List.getLast?_cons.trans ends')
    exact absurd rfl ((List.nodup_append.mp distinct).2.2 last inFront last inBack)

open Conversation

/-- In every conversation about the pair of an address, whatever happens meanwhile: a confirmation that
succeeds puts the newest pad to use that the client was handed. That is the last one the client had
received when it sent the confirmation if nothing was handed out since, and, where no pad is handed out
twice, only then. -/
theorem confirmation_puts_newest_pad_to_use (subscribers : List Subscriber)
    (pendingTtl padSize : Nat) (entropy : Entropy) (address : String) (events : List Event)
    (context : Context) (envelope : Envelope)
    (addressed : envelope.addresses.client = some address) :
    let talk := (start (.initial subscribers pendingTtl padSize entropy)).run address events
    let served := processAck context envelope talk.channels
    ∀ seen rest, talk.confirmations = seen :: rest → (∃ response, served.1 = .done response) →
      (talk.step address .serve).channels = served.2 ∧
      ∃ pad, talk.handed.getLast? = some pad ∧
        served.2.pads.active.stored? (.name address) = some pad ∧
        (seen = talk.handed → seen.getLast? = some pad) ∧
        (talk.handed.Nodup → seen.getLast? = some pad → seen = talk.handed) := by
  intro talk served seen rest next succeeds
  have tracked : talk.Tracked address := (Tracked.start rfl).run events
  obtain ⟨channels, activates⟩ : served.2 = (talk.channels.activatePad (.name address)).2 ∧ _ :=
    processAck_of_addressed context talk.channels addressed
  obtain ⟨pad, newest, active⟩ := tracked.newest_of_activated (activates.mp succeeds)
  have earlier : seen <+: talk.handed :=
    (tracked.seen seen (next ▸ List.mem_cons_self)).2.trans (List.prefix_append _ _)
  refine ⟨?_, pad, newest, ?_, ?_, ?_⟩
  · rw [step, next]
    exact channels.symm
  · rw [channels]
    exact active
  · rintro rfl
    exact newest
  · intro distinct ends
    exact eq_of_prefix_of_getLast? earlier distinct ends newest

namespace Crossing

def address : String := "addr:1"

/-- The client's secure connection. -/
def courier : ConnectionId := ⟨1, 1⟩

/-- Pads of one byte: one, two and so on. -/
def entropy : Entropy := ⟨fun position => UInt8.ofNat (position + 1), 0⟩

/-- The client has received a pad and confirmed it. -/
def confirmed : List Event :=
  [.meanwhile (.accept courier ⟨⟨none, none⟩, true⟩ 4), .request courier, .deliver, .confirm]

/-- It has asked for another one before the confirmation is served. -/
def crossed : List Event := confirmed ++ [.request courier]

def talk (events : List Event) : Conversation :=
  (start (.initial [⟨"pairs", .retirePairs⟩] 60 1 entropy)).run address events

/-- The confirmation, as it arrives from the client's address. -/
def confirmation : Envelope :=
  ⟨ackKind, 1, none, some .websocket, ⟨none, some address⟩, .record ackKind []⟩

def context : Context := ⟨Templates.builtIn.describe⟩

end Crossing

open Crossing

/-- A confirmation that nothing crosses puts the pad to use that it confirms. -/
theorem confirmation_puts_confirmed_pad_to_use :
    confirmation.addresses.client = some address ∧ (talk confirmed).confirmations = [[[1]]] ∧
      (∃ response, (processAck context confirmation (talk confirmed).channels).1 =
        .done response) ∧
      (talk confirmed).handed = [[1]] ∧
      (processAck context confirmation (talk confirmed).channels).2.pads.active.stored?
        (.name address) = some [1] := by
  have addressed : confirmation.addresses.client = some address := rfl
  have next : (talk confirmed).confirmations = [[[1]]] := by decide +kernel
  have handed : (talk confirmed).handed = [[1]] := by decide +kernel
  have succeeds : ∃ response, (processAck context confirmation (talk confirmed).channels).1 =
      .done response :=
    (processAck_of_addressed context (talk confirmed).channels addressed).2.mpr (by decide +kernel)
  obtain ⟨-, pad, newest, active, -⟩ := confirmation_puts_newest_pad_to_use
    [⟨"pairs", .retirePairs⟩] 60 1 entropy address confirmed context confirmation addressed [[1]] []
    next succeeds
  have same : some [1] = some pad := (congrArg List.getLast? handed).symm.trans newest
  exact ⟨addressed, next, succeeds, handed, active.trans same.symm⟩

/-- A confirmation of the first pad that is crossed by a second one puts the second one to use. -/
theorem crossed_confirmation_puts_other_pad_to_use :
    (talk crossed).confirmations = [[[1]]] ∧
      (∃ response, (processAck context confirmation (talk crossed).channels).1 =
        .done response) ∧
      (processAck context confirmation (talk crossed).channels).2.pads.active.stored?
        (.name address) = some [2] := by
  refine ⟨by decide +kernel, ?_, by decide +kernel⟩
  exact (processAck_of_addressed context (talk crossed).channels rfl).2.mpr (by decide +kernel)

end PadExchange

end Gateway
