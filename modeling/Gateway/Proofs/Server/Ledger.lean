import Gateway.Proofs.Server.Dialogue

/-! # The ledger of a dialogue

In a dialogue with a client every message that was sent has been answered or waits to be read, and every
reply has been heard or is on its way, both in the order of the messages. Each exchange keeps these two
accounts, as long as the connection is open; once it is closed replies may be missing, but no other
frames turn up. While a session is in use, all its answers carry the identity of its connection.
-/

namespace Gateway

open Hub.Action

namespace Utterance

/-- The message that a client sends by an utterance, if it sends one. -/
def messages : Utterance → List Frame
  | .sent message => message.frames
  | _ => []

def answers : Utterance → List Answer
  | .answered answer => [answer]
  | _ => []

/-- The frame that a client receives by an utterance, if it receives one. -/
def frames : Utterance → List Frame
  | .heard message => message.frames
  | _ => []

end Utterance

/-- The messages of the client, in the order in which it sent them. -/
def messagesIn (dialogue : List Utterance) : List Frame := dialogue.flatMap Utterance.messages

/-- The answers to the client, in the order in which its messages were dispatched. -/
def answersIn (dialogue : List Utterance) : List Answer := dialogue.flatMap Utterance.answers

/-- The frames that the client received, in the order in which it heard them. -/
def framesIn (dialogue : List Utterance) : List Frame := dialogue.flatMap Utterance.frames

/-- The frames in which the answers go to the client. -/
def repliesIn (dialogue : List Utterance) : List Frame := (answersIn dialogue).map Answer.reply

section

variable (first second : List Utterance)

theorem messagesIn_append : messagesIn (first ++ second) = messagesIn first ++ messagesIn second :=
  List.flatMap_append

theorem answersIn_append : answersIn (first ++ second) = answersIn first ++ answersIn second :=
  List.flatMap_append

theorem framesIn_append : framesIn (first ++ second) = framesIn first ++ framesIn second :=
  List.flatMap_append

theorem repliesIn_append : repliesIn (first ++ second) = repliesIn first ++ repliesIn second := by
  rw [repliesIn, answersIn_append, List.map_append, repliesIn, repliesIn]

end

theorem mem_answersIn_toList {utterance : Option Utterance} {answer : Answer} :
    answer ∈ answersIn utterance.toList ↔ utterance = some (.answered answer) := by
  cases utterance with
  | none => simp [answersIn]
  | some utterance =>
    cases utterance <;> simp [answersIn, Utterance.answers, eq_comm]

theorem ServerMessage.flatMap_frames (queue : List Frame) :
    (queue.map ServerMessage.frame).flatMap ServerMessage.frames = queue := by
  rw [List.flatMap_map]
  exact List.flatMap_singleton' queue

namespace Exchange

variable {id : ConnectionId} {channels : Channels} {before after : Backlog}
  {utterance : Option Utterance}

/-- Messages are answered in the order in which they were sent. -/
theorem unread (exchange : Exchange id channels before utterance after) :
    before.unread ++ messagesIn utterance.toList =
      (answersIn utterance.toList).map Answer.message ++ after.unread := by
  cases exchange <;>
    simp_all [Backlog.unread, messagesIn, answersIn, Utterance.messages, Utterance.answers,
      ClientMessage.frames]

/-- While a connection is open, replies arrive in the order in which messages are answered. -/
theorem underway (exchange : Exchange id channels before utterance after)
    (opened : channels.isClosed id = false) :
    before.underway ++ repliesIn utterance.toList = framesIn utterance.toList ++ after.underway := by
  cases exchange <;>
    simp_all [Backlog.underway, repliesIn, answersIn, framesIn, Utterance.answers, Utterance.frames,
      ServerMessage.frames]

/-- Whatever becomes of a connection, nothing but replies arrives. -/
theorem sublist (exchange : Exchange id channels before utterance after) :
    (framesIn utterance.toList ++ after.underway).Sublist
      (before.underway ++ repliesIn utterance.toList) := by
  cases exchange <;>
    simp_all [Backlog.underway, repliesIn, answersIn, framesIn, Utterance.answers, Utterance.frames,
      ServerMessage.frames, ServerMessage.flatMap_frames]

/-- Nothing is exchanged with a client that has no connection. -/
theorem of_absent (exchange : Exchange id channels .empty utterance after)
    (absent : channels.connection? id = none) : utterance = none ∧ after = .empty := by
  have opened : channels.isClosed id = false := by rw [Channels.isClosed, absent]; rfl
  cases exchange with
  | still => exact ⟨rfl, rfl⟩
  | sent message there => simp [absent] at there
  | queued next | stalled next | ponged next | passed next => cases next
  | resumed waits => cases waits
  | wrote oldest => cases oldest
  | heard written => cases written
  | refused next shut | dropped waits shut => exact absurd (opened.symm.trans shut) Bool.false_ne_true
  | released shut => exact absurd (opened.symm.trans shut) Bool.false_ne_true

end Exchange

/-- What is known of a dialogue, given the channels and the backlog that it leaves. -/
structure Ledger (id : ConnectionId) (channels : Channels) (backlog : Backlog)
    (dialogue : List Utterance) : Prop where
  silent : channels.connection? id = none → dialogue = [] ∧ backlog = .empty
  read : messagesIn dialogue = (answersIn dialogue).map Answer.message ++ backlog.unread
  replied : channels.isClosed id = false → repliesIn dialogue = framesIn dialogue ++ backlog.underway
  own : (framesIn dialogue ++ backlog.underway).Sublist (repliesIn dialogue)

theorem Ledger.exchange {id : ConnectionId} {channels channels' : Channels}
    {backlog backlog' : Backlog} {dialogue : List Utterance} {utterance : Option Utterance}
    (ledger : Ledger id channels backlog dialogue)
    (exchange : Exchange id channels' backlog utterance backlog')
    (arrives : channels'.connection? id = none → channels.connection? id = none)
    (shut : channels.isClosed id = true → channels'.isClosed id = true) :
    Ledger id channels' backlog' (dialogue ++ utterance.toList) := by
  constructor
  case silent =>
    intro absent
    obtain ⟨rfl, rfl⟩ := ledger.silent (arrives absent)
    obtain ⟨rfl, rfl⟩ := exchange.of_absent absent
    exact ⟨rfl, rfl⟩
  case read =>
    rw [messagesIn_append, answersIn_append, ledger.read, List.append_assoc, exchange.unread,
      List.map_append, List.append_assoc]
  case replied =>
    intro opened'
    have opened : channels.isClosed id = false := by
      rw [Bool.eq_false_iff] at opened' ⊢
      exact fun closed => opened' (shut closed)
    rw [repliesIn_append, framesIn_append, ledger.replied opened, List.append_assoc,
      exchange.underway opened', List.append_assoc]
  case own =>
    rw [repliesIn_append, framesIn_append, List.append_assoc]
    refine (exchange.sublist.append_left (framesIn dialogue)).trans ?_
    rw [← List.append_assoc]
    exact ledger.own.append_right (repliesIn utterance.toList)

theorem receives_of_uncalled {action : Hub.Action} {endpoint : Endpoint} {id : ConnectionId}
    (socket : action.socket? = some (endpoint, id)) (uncalled : action.isCallOf id = false) :
    ∃ frame, action = .receive frame (.socket endpoint id) := by
  cases action with
  | receive frame caller =>
    cases caller with
    | socket other visitor =>
      cases socket
      exact ⟨frame, rfl⟩
    | web _ | inProcess _ _ _ => cases socket
  | greet caller | dismiss caller =>
    cases caller with
    | socket other visitor =>
      cases socket
      simp [isCallOf] at uncalled
    | web _ | inProcess _ _ _ => cases socket
  | _ => cases socket

namespace Server

variable {α : Type} {application : Application α} {start before after : Server α}
  {actions asked : List Hub.Action} {completed : Option ConnectionId} {done : List ConnectionId}
  {said : Option (ConnectionId × Utterance)} {id : ConnectionId}

/-- Whoever is in use after a turn was in use before and is neither connected nor disconnected by it,
or completes its handshake. -/
theorem Turn.inUse_cases (turn : Turn application before actions completed said after)
    {endpoint : Endpoint} (inUse : after.InUse endpoint id) :
    (before.InUse endpoint id ∧ ∀ action ∈ actions, action.isCallOf id = false) ∨
      completed = some id := by
  have passage := turn.passage id
  have uncalled : callsOf id actions = [] → ∀ action ∈ actions, action.isCallOf id = false :=
    fun calls action member => Bool.eq_false_iff.mpr (List.filter_eq_nil_iff.mp calls action member)
  rw [InUse] at inUse ⊢
  generalize before.status? id = status at passage ⊢
  generalize after.status? id = status' at passage inUse
  generalize callsOf id actions = calls at passage uncalled
  generalize joins : decide (completed = some id) = done at passage
  cases passage with
  | stays _ => exact .inl ⟨inUse, uncalled rfl⟩
  | leaves other shut =>
    obtain rfl : other = endpoint := by simpa using inUse
    exact .inl ⟨.inl rfl, uncalled rfl⟩
  | connects _ => exact .inr (of_decide_eq_true joins)
  | begins _ | fails _ | ends _ => simp at inUse

/-- Whoever completes its handshake had no connection before, and has an identity from then on. -/
theorem Turn.greeted (turn : Turn application before actions (some id) said after)
    (account : Account start asked done before) {endpoint : Endpoint}
    (inUse : after.InUse endpoint id) :
    before.hub.channels.connection? id = none ∧ said = none ∧
      ∃ identity, after.hub.identity? (.socket endpoint id) = some identity := by
  cases turn with
  | @connected id session known waiting =>
    have status := status?_setSession (before.asking application
      [.move (.accept id session.info session.buffer), .greet (.socket session.endpoint id)]) known
      { session with stage := .running } id
    rw [if_pos rfl] at status
    obtain rfl : session.endpoint = endpoint := by simpa [InUse, status, Session.status] using inUse
    exact ⟨account.fresh id session known waiting, rfl, Hub.identity?_greet _ session.endpoint id⟩

/-- A message is answered while its session is running, with the response that dispatching gives for
it. -/
theorem Turn.answered (turn : Turn application before actions completed said after)
    {answer : Answer} (spoken : said.bind (utteranceOf id) = some (.answered answer)) :
    before.InUse answer.endpoint id ∧
      answer.response =
        (before.hub.dispatchBytes application answer.endpoint id answer.message.bytes).1 := by
  cases turn with
  | @served other session next actions utterance known service =>
    cases service with
    | answered reading next =>
      simp only [Option.map_some, Option.bind_some, utteranceOf] at spoken
      split_ifs at spoken with mine
      cases spoken
      subst mine
      refine ⟨.inl ?_, rfl⟩
      rw [status?_eq known, Session.status, (Session.running_of_reading reading).1]
    | arrived | heard =>
      simp only [Option.map_some, Option.bind_some, utteranceOf] at spoken
      split_ifs at spoken
      cases spoken
    | _ => cases spoken
  | _ => cases spoken

theorem InUse.endpoint_eq {server : Server α} {endpoint other : Endpoint}
    (inUse : server.InUse endpoint id) (inUse' : server.InUse other id) : endpoint = other := by
  obtain status | status := inUse <;> obtain status' | status' := inUse' <;>
    cases status.symm.trans status' <;> rfl

/-- While a session is in use, all its answers carry the identity of its connection. -/
def Named (server : Server α) (id : ConnectionId) (dialogue : List Utterance) : Prop :=
  ∀ endpoint, server.InUse endpoint id → ∃ identity,
    server.hub.identity? (.socket endpoint id) = some identity ∧
      ∀ answer ∈ answersIn dialogue,
        answer.endpoint = endpoint ∧ answer.response.identity = some identity

theorem Named.turn {dialogue : List Utterance} (named : before.Named id dialogue)
    (turn : Turn application before actions completed said after)
    (account : Account start asked done before)
    (silent : before.hub.channels.connection? id = none → dialogue = []) :
    after.Named id (dialogue ++ (said.bind (utteranceOf id)).toList) := by
  intro endpoint inUse
  obtain ⟨used, uncalled⟩ | rfl := turn.inUse_cases inUse
  · obtain ⟨identity, known, carry⟩ := named endpoint used
    obtain ⟨visits, records⟩ := account.records endpoint.desk
    refine ⟨identity, ?_, fun answer member => ?_⟩
    · rw [turn.hub]
      exact Hub.identity?_run records known fun action member other socket =>
        receives_of_uncalled socket (uncalled action member)
    · rw [answersIn_append, List.mem_append] at member
      obtain old | new := member
      · exact carry answer old
      · obtain ⟨used', answered⟩ := turn.answered (mem_answersIn_toList.mp new)
        obtain rfl := used.endpoint_eq used'
        exact ⟨rfl, answered ▸ Hub.identity_dispatchBytes application known _⟩
  · obtain ⟨absent, rfl, identity, known⟩ := turn.greeted account inUse
    refine ⟨identity, known, fun answer member => ?_⟩
    rw [silent absent] at member
    cases member

end Server

end Gateway
