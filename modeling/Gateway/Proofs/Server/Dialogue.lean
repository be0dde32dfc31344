import Gateway.Proofs.Hub.Delivery
import Gateway.Proofs.Server.Sessions

/-! # Dialogues with clients

What a client sent and what is written for it waits in four places: messages in the inbox, frames in the
queue of the connection and in the outbox, and perhaps one reply that has found no room in the queue
yet. Unless frames are pushed to a client or a pad is in use for it, a turn is to its *backlog* one of a
few exchanges: a message comes to the inbox, or is read and leaves a reply behind, a frame moves on, or
the client hears one. Frames are lost only once the connection is closed.
-/

namespace Gateway

open Hub.Action

/-- The frame that a client sends, if it sends one. -/
def ClientMessage.frames : ClientMessage → List Frame
  | .frame content => [content]
  | _ => []

/-- The frame that a server writes, if it writes one. -/
def ServerMessage.frames : ServerMessage → List Frame
  | .frame content => [content]
  | _ => []

/-- The frame in which an answer goes to the client. -/
def Answer.reply (answer : Answer) : Frame :=
  Hub.replyTo answer.endpoint answer.message.isText answer.response

/-- What waits between a client and the gateway. -/
structure Backlog where
  inbox : List ClientMessage
  waiting : Option Frame
  queue : List Frame
  outbox : List ServerMessage

namespace Backlog

def empty : Backlog := ⟨[], none, [], []⟩

/-- The messages that are yet to be read, oldest first. -/
def unread (backlog : Backlog) : List Frame := backlog.inbox.flatMap ClientMessage.frames

/-- The frames on their way to the client, oldest first. -/
def underway (backlog : Backlog) : List Frame :=
  backlog.outbox.flatMap ServerMessage.frames ++ (backlog.queue ++ backlog.waiting.toList)

end Backlog

/-- What waits of a session, given the frames that wait on its connection. -/
def Session.backlog (session : Session) (queue : List Frame) : Backlog :=
  ⟨session.inbox, session.waiting, queue, session.outbox⟩

/-- What was said, if the client of a connection had part in it. -/
def utteranceOf (id : ConnectionId) (entry : ConnectionId × Utterance) : Option Utterance :=
  if entry.1 = id then some entry.2 else none

/-- How a turn changes the backlog of a connection, what is said along with it, and the channels after
it. -/
inductive Exchange (id : ConnectionId) (channels : Channels) :
    Backlog → Option Utterance → Backlog → Prop
  | still (backlog : Backlog) : Exchange id channels backlog none backlog
  | sent (backlog : Backlog) (message : ClientMessage)
    (there : (channels.connection? id).isSome = true) :
    Exchange id channels backlog (some (.sent message))
      { backlog with inbox := backlog.inbox ++ [message] }
  | queued {backlog : Backlog} {answer : Answer} {rest : List ClientMessage}
    (next : backlog.inbox = .frame answer.message :: rest) (free : backlog.waiting = none) :
    Exchange id channels backlog (some (.answered answer))
      { backlog with inbox := rest, queue := backlog.queue ++ [answer.reply] }
  | stalled {backlog : Backlog} {answer : Answer} {rest : List ClientMessage}
    (next : backlog.inbox = .frame answer.message :: rest) (free : backlog.waiting = none) :
    Exchange id channels backlog (some (.answered answer))
      { backlog with inbox := rest, waiting := some answer.reply }
  | refused {backlog : Backlog} {answer : Answer} {rest : List ClientMessage}
    (next : backlog.inbox = .frame answer.message :: rest) (shut : channels.isClosed id = true) :
    Exchange id channels backlog (some (.answered answer)) { backlog with inbox := rest }
  | ponged {backlog : Backlog} {payload : Bytes} {rest : List ClientMessage}
    (next : backlog.inbox = .ping payload :: rest) :
    Exchange id channels backlog none
      { backlog with inbox := rest, outbox := backlog.outbox ++ [.pong payload] }
  | passed {backlog : Backlog} {message : ClientMessage} {rest : List ClientMessage}
    (next : backlog.inbox = message :: rest) (frameless : message.frames = []) :
    Exchange id channels backlog none { backlog with inbox := rest }
  | resumed {backlog : Backlog} {frame : Frame} (waits : backlog.waiting = some frame) :
    Exchange id channels backlog none
      { backlog with waiting := none, queue := backlog.queue ++ [frame] }
  | dropped {backlog : Backlog} {frame : Frame} (waits : backlog.waiting = some frame)
    (shut : channels.isClosed id = true) :
    Exchange id channels backlog none { backlog with waiting := none }
  | wrote {backlog : Backlog} {frame : Frame} {rest : List Frame}
    (oldest : backlog.queue = frame :: rest) :
    Exchange id channels backlog none
      { backlog with queue := rest, outbox := backlog.outbox ++ [.frame frame] }
  | heard {backlog : Backlog} {message : ServerMessage} {rest : List ServerMessage}
    (written : backlog.outbox = message :: rest) :
    Exchange id channels backlog (some (.heard message)) { backlog with outbox := rest }
  | released (backlog : Backlog) (shut : channels.isClosed id = true) :
    Exchange id channels backlog none
      { backlog with
        queue := []
        outbox := backlog.outbox ++ backlog.queue.map .frame ++ [.close] }

namespace Hub.Action

theorem isLasting_of_isAround {action : Hub.Action} (around : action.isAround = true) :
    action.isLasting = true := by
  cases action with
  | move made => cases made <;> first | rfl | cases around
  | _ => rfl

theorem isLasting_of_carries {action : Hub.Action} {id : ConnectionId}
    (carries : action.carries id = true) : action.isLasting = true := by
  cases action with
  | move made => cases made <;> first | rfl | cases carries
  | _ => cases carries

/-- What goes on around the sessions leaves a connection's queue alone unless it pushes. -/
theorem spares_of_isAround {action : Hub.Action} (around : action.isAround = true)
    (pushless : action.isPush = false) (id : ConnectionId) : action.spares id = true := by
  cases action with
  | move made =>
    cases made with
    | send _ _ | offer _ _ | sendPad _ _ | sendClear _ _ | issuePad _ _ => cases pushless
    | _ => first | rfl | cases around
  | receive _ caller => cases caller <;> first | rfl | cases around
  | sendTo _ caller | sendErrorTo _ _ caller => cases caller <;> first | rfl | cases pushless
  | push _ _ _ => cases pushless
  | _ => rfl

theorem spares_of_carries {action : Hub.Action} {id other : ConnectionId}
    (carries : action.carries other = true) (differs : other ≠ id) : action.spares id = true := by
  cases action with
  | move made =>
    cases made with
    | take taker | resume taker _ =>
      obtain rfl : taker = other := of_decide_eq_true carries
      exact decide_eq_true differs
    | _ => cases carries
  | _ => cases carries

end Hub.Action

namespace Server

variable {α : Type} {application : Application α} {start before after : Server α}
  {actions asked : List Hub.Action} {completed : Option ConnectionId} {done : List ConnectionId}
  {said : Option (ConnectionId × Utterance)} {id : ConnectionId} {session : Session}

/-- What waits between the client of a connection and the gateway. -/
def backlog (server : Server α) (id : ConnectionId) : Backlog :=
  (server.session? id).elim .empty fun session =>
    session.backlog (server.hub.channels.queueOf id)

theorem backlog_of_known {server : Server α} (known : server.session? id = some session) :
    server.backlog id = session.backlog (server.hub.channels.queueOf id) := by
  rw [backlog, known, Option.elim_some]

theorem backlog_setSession_self {server : Server α} (known : server.session? id = some session)
    (next : Session) :
    (server.setSession id next).backlog id = next.backlog (server.hub.channels.queueOf id) :=
  backlog_of_known (session?_setSession_self known next)

theorem backlog_vacate_self {server : Server α} (known : server.session? id = some session)
    (next : Session) :
    (server.vacate id next).backlog id = next.backlog (server.hub.channels.queueOf id) :=
  backlog_setSession_self known { next with stage := .over }

/-- A closed connection stays so. -/
theorem Turn.isClosed (turn : Turn application before actions completed said after)
    (account : Account start asked done before) (shut : before.hub.channels.isClosed id = true) :
    after.hub.channels.isClosed id = true := by
  rw [Channels.isClosed_eq, Bool.and_eq_true] at shut ⊢
  obtain ⟨there, inactive⟩ := shut
  refine ⟨by rw [turn.opened, there, Bool.true_or], ?_⟩
  rw [Bool.not_eq_true', Bool.eq_false_iff] at inactive ⊢
  intro active
  obtain still | joins := turn.active active
  · exact inactive still
  · cases turn with
    | connected known waiting =>
      obtain rfl := Option.some.inj joins
      rw [account.fresh _ _ known waiting] at there
      cases there
    | _ => cases joins

/-- Turns leave no active connection without a receiver. -/
theorem Turn.attended (turn : Turn application before actions completed said after)
    (account : Account start asked done before) (attended : before.hub.channels.Attended) :
    after.hub.channels.Attended := by
  rw [turn.hub]
  cases turn with
  | aside around kept =>
    exact Hub.attended_run application attended fun action member =>
      ⟨isLasting_of_isAround (around action member),
        (isSilent_of_isAround (around action member)).old⟩
  | accepted | refused => exact attended
  | @connected id session known waiting =>
    have arrived : (before.hub.perform application
        (.move (.accept id session.info session.buffer))).channels.Attended :=
      attended.accept id session.info session.buffer
    rw [Hub.run_cons]
    refine Hub.attended_run application arrived ?_
    simp [Hub.Action.isLasting, Hub.Action.isNew]
  | served known service =>
    refine Hub.attended_run application attended ?_
    cases service <;>
      simp [Hub.Action.isLasting, Hub.Action.isNew, Channels.Move.isLasting, Channels.Move.isNew]
  | left known reading unread =>
    refine Hub.attended_run application attended ?_
    simp [Hub.Action.isLasting, Hub.Action.isNew, Channels.Move.isLasting, Channels.Move.isNew]
  | @released id session takes known leaving carried =>
    have lasting : ∀ action ∈ Hub.Action.dismiss (.socket session.endpoint id) :: takes,
        action.isLasting = true ∧ action.isNew = false := by
      intro action member
      obtain rfl | taken := List.mem_cons.mp member
      · exact ⟨rfl, rfl⟩
      · exact ⟨isLasting_of_carries (carried action taken),
          (isSilent_of_carries (carried action taken)).old⟩
    have drained := Hub.attended_run application attended lasting
    have fades := before.hub.fades_run application fun action member => (lasting action member).2
    have inactive := account.isClosed_of_leaving known leaving
    rw [Channels.isClosed_eq, Bool.and_eq_true, Bool.not_eq_true', Bool.eq_false_iff] at inactive
    rw [← List.cons_append, Hub.run_append]
    exact drained.dropReceiver (Bool.eq_false_iff.mpr fun active =>
      inactive.2 (fades.active id active))

/-- A turn leaves a backlog as it is if the session keeps what waits and nothing that the hub is asked
for touches the queue. -/
theorem exchange_of_kept (application : Application α) (actions : List Hub.Action)
    {other : ConnectionId} {next : Session} (known : before.session? other = some session)
    (hub : after.hub = before.hub.run application actions)
    (sessions : after.session? id =
      if id = other then (before.session? id).map fun _ => next else before.session? id)
    (permanent : before.hub.channels.pads.active.ttl = none)
    (spares : ∀ action ∈ actions, action.spares id = true)
    (kept : id = other → ∀ queue, next.backlog queue = session.backlog queue) :
    Exchange id after.hub.channels (before.backlog id) none (after.backlog id) := by
  have queue := Hub.queueOf_run_of_spares application permanent spares
  rw [← hub] at queue
  have unchanged : after.backlog id = before.backlog id := by
    rw [backlog, sessions, queue]
    split_ifs with mine
    · subst mine
      rw [backlog_of_known known, known, Option.map_some, Option.elim_some, kept rfl]
    · rfl
  rw [unchanged]
  exact .still _

/-- What a session that goes on does for its client is an exchange. -/
theorem Service.exchange {next : Session} {utterance : Option Utterance}
    (service : Service application before.hub id session actions utterance next)
    (known : before.session? id = some session) (account : Account start asked done before)
    (attended : before.hub.channels.Attended)
    (permanent : before.hub.channels.pads.active.ttl = none)
    (bare : session.endpoint.isPadded = true → before.hub.padFor? id = none ∧
      (before.hub.run application actions).padFor? id = none) :
    Exchange id (before.hub.run application actions).channels (before.backlog id) utterance
      (next.backlog ((before.hub.run application actions).channels.queueOf id)) := by
  have turn : Turn application before actions none _ _ := .served known service
  have attended' := turn.attended account attended
  have shut : before.hub.channels.isClosed id = true → _ := turn.isClosed account
  have opened := turn.opened id
  rw [turn.hub] at attended' shut opened
  rw [backlog_of_known known]
  cases service with
  | arrived message running =>
    obtain ⟨connection, found⟩ := account.connection known running
    exact .sent _ message (congrArg Option.isSome found)
  | heard written => exact .heard written
  | @answered frame rest reading next =>
    obtain ⟨running, free⟩ := Session.running_of_reading reading
    obtain ⟨connection, found⟩ := account.connection known running
    let answer : Answer := ⟨session.endpoint, frame,
      (before.hub.dispatchBytes application session.endpoint id frame.bytes).1⟩
    have next : (session.backlog (before.hub.channels.queueOf id)).inbox =
        .frame answer.message :: rest := next
    have replied : Hub.Replied before.hub id answer.reply
        (before.hub.run application [.receive frame (.socket session.endpoint id)])
        (before.hub.message application session.endpoint id frame).1.delivery :=
      Hub.replied_message permanent application bare
    generalize (before.hub.message application session.endpoint id frame).1.delivery = delivery
      at replied
    cases replied with
    | queued queue =>
      rw [queue]
      exact .queued next free
    | stalled queue =>
      rw [queue]
      exact .stalled next free
    | refused queue closed =>
      rw [queue]
      rw [found] at opened
      obtain ⟨connection', found'⟩ := Option.isSome_iff_exists.mp opened
      exact .refused next (attended'.isClosed found' (closed connection' found'))
  | ponged reading next => exact .ponged next
  | ignored reading next => exact .passed next rfl
  | @wrote frame oldest =>
    obtain ⟨taken, queues⟩ := before.hub.channels.receive_eq id
    obtain ⟨rest, waits⟩ := List.head?_eq_some_iff.mp (taken.symm.trans oldest)
    have left : (before.hub.channels.receive id).2.queueOf id = rest := by
      rw [queues, if_pos rfl, waits, List.tail_cons]
    change Exchange _ _ _ _ ((session.post _).backlog ((before.hub.channels.receive id).2.queueOf id))
    rw [left]
    exact .wrote waits
  | @resumed frame connection waiting found resumes =>
    have queue : before.hub.channels.queueOf id = connection.queue := by
      rw [Channels.queueOf, found, Option.map_some, Option.getD_some]
    have waits : (before.hub.run application [.move (.resume id frame)]).channels.queueOf id =
        (connection.resume frame).2.queue := by
      change (before.hub.channels.perform (.resume id frame)).queueOf id = _
      rw [Channels.perform, found]
      exact (Channels.queueOf_setConnection found id).trans (if_pos rfl)
    rw [waits, queue]
    rw [Connection.resume] at resumes ⊢
    cases receiving : connection.receiving with
    | false =>
      simp only [Bool.not_false, ↓reduceIte]
      exact .dropped waiting (shut (attended.isClosed found (.inr receiving)))
    | true =>
      simp only [receiving, Bool.not_true, Bool.false_eq_true, ↓reduceIte] at resumes ⊢
      split_ifs at resumes ⊢
      exact .resumed waiting

/-- What a session does for its client leaves the queues of other connections alone. -/
theorem Service.spares {next : Session} {utterance : Option Utterance} {other : ConnectionId}
    (service : Service application before.hub other session actions utterance next)
    (differs : other ≠ id) : ∀ action ∈ actions, action.spares id = true := by
  cases service <;> simp [Hub.Action.spares, Channels.Move.spares, differs]

/-- Every turn is an exchange to every connection, unless it pushes or a pad is in use for the
connection. -/
theorem Turn.exchange (turn : Turn application before actions completed said after)
    (account : Account start asked done before) (attended : before.hub.channels.Attended)
    (permanent : before.hub.channels.pads.active.ttl = none)
    (pushless : ∀ action ∈ actions, action.isPush = false)
    (bare : ∀ session, before.session? id = some session → session.endpoint.isPadded = true →
      before.hub.padFor? id = none ∧ after.hub.padFor? id = none) :
    Exchange id after.hub.channels (before.backlog id) (said.bind (utteranceOf id))
      (after.backlog id) := by
  have shut : before.hub.channels.isClosed id = true → _ := turn.isClosed account
  cases turn with
  | @aside actions listeners around kept =>
    have queue := Hub.queueOf_run_of_spares application permanent fun action member =>
      spares_of_isAround (around action member) (pushless action member) id
    have unchanged : Server.backlog { before.asking application actions with listeners := listeners }
        id = before.backlog id := by
      change (before.session? id).elim _ (Session.backlog · _) = _
      rw [backlog]
      exact congrArg _ (funext fun _ => congrArg _ queue)
    rw [unchanged]
    exact .still _
  | @accepted name client other listener unused listens place =>
    by_cases mine : id = other
    · subst mine
      have arrived : before.backlog id = .empty := by rw [backlog, unused, Option.elim_none]
      rw [arrived, backlog, session?, Table.get?_insert, if_pos rfl, Option.elim_some,
        Channels.queueOf_of_absent (account.absent unused)]
      exact .still _
    · have unchanged : Server.backlog { before with
          listeners := before.listeners.modify name Listener.occupied
          sessions := before.sessions.insert other (listener.welcome name client) } id =
            before.backlog id := by
        rw [backlog, session?, Table.get?_insert, if_neg (Ne.symm mine)]
        rfl
      rw [unchanged]
      exact .still _
  | @connected other session known waiting =>
    exact exchange_of_kept application _ known rfl
      (session?_setSession (before.asking application _) other id _) permanent
      (by simp [Hub.Action.spares, Channels.Move.spares]) fun _ _ => rfl
  | @refused other session known waiting =>
    exact exchange_of_kept application [] known rfl (session?_setSession before other id _) permanent
      (List.forall_mem_nil _) fun _ _ => rfl
  | @served other session next actions utterance known service =>
    by_cases mine : other = id
    · subst mine
      have spoken : (utterance.map (other, ·)).bind (utteranceOf other) = utterance := by
        cases utterance <;> simp [utteranceOf]
      have there : (before.asking application actions).session? other = some session := known
      rw [spoken, backlog_setSession_self there]
      exact service.exchange known account attended permanent (bare session known)
    · have silent : (utterance.map (other, ·)).bind (utteranceOf id) = none := by
        cases utterance <;> simp [utteranceOf, mine]
      rw [silent]
      exact exchange_of_kept application actions known rfl
        (session?_setSession (before.asking application actions) other id _) permanent
        (service.spares mine) fun same => absurd same.symm mine
  | @left other session rest known reading unread =>
    have spares : ∀ action ∈ [Hub.Action.move (.close other)], action.spares id = true := by
      simp [Hub.Action.spares, Channels.Move.spares]
    obtain same | ⟨message, next, frameless⟩ : session.inbox = rest ∨
        ∃ message, session.inbox = message :: rest ∧ message.frames = [] := by
      obtain same | next | next := unread
      · exact .inl same
      · exact .inr ⟨.close, next, rfl⟩
      · exact .inr ⟨.broken, next, rfl⟩
    · exact exchange_of_kept application _ known rfl
        (session?_setSession (before.asking application _) other id _) permanent spares
        fun _ queue => by rw [Session.backlog, Session.backlog, same]
    · by_cases mine : id = other
      · subst mine
        have there : (before.asking application [.move (.close id)]).session? id = some session :=
          known
        have queue := Hub.queueOf_run_of_spares application permanent spares
        rw [backlog_setSession_self there, backlog_of_known known, asking, queue]
        exact .passed next frameless
      · exact exchange_of_kept application _ known rfl
          (session?_setSession (before.asking application _) other id _) permanent spares
          fun same => absurd same mine
  | @released other session takes known leaving carried =>
    by_cases mine : id = other
    · subst mine
      have closed := shut (account.isClosed_of_leaving known leaving)
      have drained : (before.hub.run application (.dismiss (.socket session.endpoint id) ::
          (takes ++ [.move (.dropReceiver id)]))).channels.queueOf id = [] := by
        rw [← List.cons_append, Hub.run_append]
        exact (Channels.queueOf_dropReceiver _ id id).trans (if_pos rfl)
      have there : (before.asking application (.dismiss (.socket session.endpoint id) ::
          (takes ++ [.move (.dropReceiver id)]))).session? id = some session := known
      rw [backlog_vacate_self there, backlog_of_known known, asking, drained]
      exact .released _ closed
    · refine exchange_of_kept application _ known rfl
        (session?_setSession (before.asking application _) other id _) permanent ?_
        fun same => absurd same mine
      simpa [Hub.Action.spares, Channels.Move.spares, Ne.symm mine, or_imp, forall_and] using
        fun action member => spares_of_carries (carried action member) (Ne.symm mine)

end Server

end Gateway
