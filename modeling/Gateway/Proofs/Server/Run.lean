import Gateway.Proofs.Channels.Queue
import Gateway.Proofs.Hub.Run
import Gateway.Server.Client

/-! # Runs of a server

Everything that can happen to a server between two steps of its sessions: clients arrive at a listener,
complete the handshake or fail it, send messages and read what was written for them; sessions read,
write, leave and are cleaned up; listeners stop; and around the sessions the gateway goes on with
everything else. The steps of different sessions come in any order.

What a step does to the hub is done by the actions that it asks of the hub, so a run of a server is a
run of its hub. What it does otherwise is a *turn* of at most one session: the session begins, goes on
or ends, and something may be said between the session and its client. Whatever holds of all runs of a
server is read off the turns.
-/

namespace Gateway

namespace Table

variable {K : Type u} {V : Type v} [DecidableEq K]

theorem modify_modify (table : Table K V) (key : K) (first second : V → V) :
    (table.modify key first).modify key second = table.modify key (second ∘ first) := by
  simp only [modify, List.map_map, mk.injEq]
  refine List.map_congr_left fun entry _ => ?_
  by_cases here : entry.1 = key <;> simp [here]

/-- Storing a value that is stored already changes nothing. -/
theorem modify_self {table : Table K V} {key : K} {value : V}
    (found : table.get? key = some value) : (table.modify key fun _ => value) = table := by
  obtain ⟨entries, nodup⟩ := table
  rw [get?] at found
  simp only [modify, mk.injEq]
  refine (List.map_congr_left fun entry member => ?_).trans (List.map_id entries)
  split_ifs with here
  · have stored : lookup key entries = some entry.2 := (lookup_eq_some nodup).mpr (here ▸ member)
    rw [Option.some.inj (found.symm.trans stored)]
    rfl
  · rfl

@[simp] theorem get?_map {W : Type w} (table : Table K V) (change : V → W) (key : K) :
    (table.map change).get? key = (table.get? key).map change :=
  lookup_map (fun _ => change) key table.entries

end Table

/-- The listener with all its places free. -/
def Listener.emptied (listener : Listener) : Listener := { listener with active := 0 }

/-- Whether an action is one that goes on around the sessions of a server. No socket is part of it but
one that the gateway closes, pairs or sends to. -/
def Hub.Action.isAround : Hub.Action → Bool
  | .move (.elapse _) | .move (.link _ _) => true
  | .move made => made.isInternal
  | .greet (.socket _ _) | .receive _ (.socket _ _) | .dismiss (.socket _ _) => false
  | _ => true

/-- Whether an action takes a frame from the queue of a connection or puts one there that waited. -/
def Hub.Action.carries (id : ConnectionId) : Hub.Action → Bool
  | .move (.take other) | .move (.resume other _) => other = id
  | _ => false

theorem Session.running_of_reading {session : Session} (reading : session.isReading = true) :
    session.stage = .running ∧ session.waiting = none := by
  simpa [isReading] using reading

/-- The response to a message that arrived at an endpoint. -/
structure Answer where
  endpoint : Endpoint
  message : Frame
  response : Response

/-- Something that is said between a client and its session. -/
inductive Utterance where
  | sent (message : ClientMessage)
  /-- The session read a message and had it dispatched. -/
  | answered (answer : Answer)
  /-- The client read what was written for it. -/
  | heard (message : ServerMessage)

namespace Server

/-- What can happen to a server. -/
inductive Step where
  /-- A client arrives at a listener. Its connection is to have an identifier that was never used. -/
  | accept (name client : String) (id : ConnectionId)
  | completeHandshake (id : ConnectionId)
  | failHandshake (id : ConnectionId)
  /-- A client sends a message. -/
  | arrive (id : ConnectionId) (message : ClientMessage)
  | read (id : ConnectionId)
  | write (id : ConnectionId)
  | resume (id : ConnectionId)
  | leaveIfDue (id : ConnectionId)
  | release (id : ConnectionId)
  /-- A client reads a message that was written for it. -/
  | hear (id : ConnectionId)
  | stop (name : String)
  /-- The gateway goes on around the sessions. -/
  | around (action : Hub.Action)

variable {α : Type}

/-- A server before anyone has arrived. -/
def initial (hub : Hub α) (listeners : Table String Listener) : Server α :=
  ⟨hub, listeners.map Listener.emptied, .empty⟩

/-- The server after a step. -/
def perform (application : Application α) (server : Server α) : Step → Server α
  | .accept name client id =>
    if (server.session? id).isSome then server else (server.accept name client id).2
  | .completeHandshake id => (server.completeHandshake id).2
  | .failHandshake id => server.failHandshake id
  | .arrive id message => (server.arrive id message).2
  | .read id => server.read application id
  | .write id => server.write id
  | .resume id => server.resume id
  | .leaveIfDue id => server.leaveIfDue id
  | .release id => server.release id
  | .hear id => (server.hear id).2
  | .stop name => (server.stop name).2
  | .around action =>
    if action.isAround then { server with hub := server.hub.perform application action } else server

/-- The server after a list of steps. -/
def run (application : Application α) (server : Server α) (steps : List Step) : Server α :=
  steps.foldl (perform application) server

theorem run_append (application : Application α) (server : Server α) (first second : List Step) :
    server.run application (first ++ second) =
      (server.run application first).run application second := List.foldl_append

/-- The connection whose handshake a step completes, if it completes one. -/
def completes? (server : Server α) : Step → Option ConnectionId
  | .completeHandshake id => (server.completeHandshake id).1.map fun _ => id
  | _ => none

/-- The connections whose handshake a run completes, in order. -/
def completed (application : Application α) (server : Server α) : List Step → List ConnectionId
  | [] => []
  | step :: rest =>
    (server.completes? step).toList ++ (server.perform application step).completed application rest

/-- What is said by a step, if anything is, and whose session has part in it. -/
def says? (application : Application α) (server : Server α) :
    Step → Option (ConnectionId × Utterance)
  | .arrive id message =>
    if (server.arrive id message).1 then some (id, .sent message) else none
  | .read id =>
    (server.session? id).bind fun session =>
      match session.isReading, session.inbox with
      | true, .frame frame :: _ =>
        some (id, .answered ⟨session.endpoint, frame,
          (server.hub.dispatchBytes application session.endpoint id frame.bytes).1⟩)
      | _, _ => none
  | .hear id => (server.hear id).1.map fun message => (id, .heard message)
  | _ => none

/-- All that is said in a run, in order. -/
def said (application : Application α) (server : Server α) :
    List Step → List (ConnectionId × Utterance)
  | [] => []
  | step :: rest =>
    (server.says? application step).toList ++
      (server.perform application step).said application rest

/-- What a message of a client asks of the hub when it is read. -/
def asksToReact (id : ConnectionId) (session : Session) : ClientMessage → List Hub.Action
  | .frame frame => [.receive frame (.socket session.endpoint id)]
  | .ping _ | .pong _ => []
  | .close | .broken => [.move (.close id)]

/-- What a step asks of the hub. -/
def asks (server : Server α) : Step → List Hub.Action
  | .completeHandshake id =>
    (server.session? id).elim [] fun session =>
      if session.stage = .handshake then
        [.move (.accept id session.info session.buffer), .greet (.socket session.endpoint id)]
      else []
  | .read id =>
    (server.session? id).elim [] fun session =>
      match session.isReading, session.inbox with
      | true, message :: _ => asksToReact id session message
      | _, _ => []
  | .write id =>
    match server.session? id, (server.hub.channels.receive id).1 with
    | some _, some _ => [.move (.take id)]
    | _, _ => []
  | .resume id =>
    match server.session? id, server.hub.channels.connection? id with
    | some session, some connection =>
      match session.waiting with
      | none => []
      | some frame => if (connection.resume frame).1 then [.move (.resume id frame)] else []
    | _, _ => []
  | .leaveIfDue id =>
    (server.session? id).elim [] fun session =>
      if server.hub.channels.isActive id && !server.isStopped session.listener then []
      else if session.isReading then [.move (.close id)] else []
  | .release id =>
    (server.session? id).elim [] fun session =>
      if session.stage = .leaving then
        .dismiss (.socket session.endpoint id) ::
          (List.replicate (server.queued id) (.move (.take id)) ++ [.move (.dropReceiver id)])
      else []
  | .around action => if action.isAround then [action] else []
  | .accept _ _ _ | .failHandshake _ | .arrive _ _ | .hear _ | .stop _ => []

/-- What a run asks of the hub. -/
def asked (application : Application α) (server : Server α) : List Step → List Hub.Action
  | [] => []
  | step :: rest => server.asks step ++ (server.perform application step).asked application rest

/-- The server after its hub has done what it was asked. -/
def asking (server : Server α) (application : Application α) (actions : List Hub.Action) :
    Server α :=
  { server with hub := server.hub.run application actions }

/-- How a session that goes on serves its client: what it asks of the hub, what is said between the
two, and what becomes of the session. -/
inductive Service (application : Application α) (hub : Hub α) (id : ConnectionId)
    (session : Session) : List Hub.Action → Option Utterance → Session → Prop
  | arrived (message : ClientMessage) (running : session.stage = .running) :
    Service application hub id session [] (some (.sent message))
      { session with inbox := session.inbox ++ [message] }
  | heard {message : ServerMessage} {rest : List ServerMessage}
    (written : session.outbox = message :: rest) :
    Service application hub id session [] (some (.heard message)) { session with outbox := rest }
  | answered {frame : Frame} {rest : List ClientMessage} (reading : session.isReading = true)
    (next : session.inbox = .frame frame :: rest) :
    Service application hub id session [.receive frame (.socket session.endpoint id)]
      (some (.answered ⟨session.endpoint, frame,
        (hub.dispatchBytes application session.endpoint id frame.bytes).1⟩))
      ({ session with inbox := rest }.hold
        (hub.message application session.endpoint id frame).1.delivery)
  | ponged {payload : Bytes} {rest : List ClientMessage} (reading : session.isReading = true)
    (next : session.inbox = .ping payload :: rest) :
    Service application hub id session [] none
      ({ session with inbox := rest }.post (.pong payload))
  | ignored {payload : Bytes} {rest : List ClientMessage} (reading : session.isReading = true)
    (next : session.inbox = .pong payload :: rest) :
    Service application hub id session [] none { session with inbox := rest }
  | wrote {frame : Frame} (oldest : (hub.channels.receive id).1 = some frame) :
    Service application hub id session [.move (.take id)] none (session.post (.frame frame))
  | resumed {frame : Frame} {connection : Connection} (waiting : session.waiting = some frame)
    (found : hub.channels.connection? id = some connection)
    (resumes : (connection.resume frame).1 = true) :
    Service application hub id session [.move (.resume id frame)] none
      { session with waiting := none }

/-- What a step can do: what it asks of the hub, whose handshake it completes, what is said, and the
server after it. -/
inductive Turn (application : Application α) (before : Server α) :
    List Hub.Action → Option ConnectionId → Option (ConnectionId × Utterance) → Server α → Prop
  /-- No session has a turn. Listeners may have stopped. -/
  | aside {actions : List Hub.Action} {listeners : Table String Listener}
    (around : ∀ action ∈ actions, action.isAround = true)
    (kept : listeners = before.listeners ∨
      ∃ name, listeners = before.listeners.modify name Listener.stopped) :
    Turn application before actions none none
      { before.asking application actions with listeners := listeners }
  | accepted {name client : String} {id : ConnectionId} {listener : Listener}
    (unused : before.session? id = none) (listens : before.listeners.get? name = some listener)
    (place : listener.hasPlace = true) :
    Turn application before [] none none
      { before with
        listeners := before.listeners.modify name Listener.occupied
        sessions := before.sessions.insert id (listener.welcome name client) }
  | connected {id : ConnectionId} {session : Session} (known : before.session? id = some session)
    (waiting : session.stage = .handshake) :
    Turn application before
      [.move (.accept id session.info session.buffer), .greet (.socket session.endpoint id)]
      (some id) none
      ((before.asking application
        [.move (.accept id session.info session.buffer),
          .greet (.socket session.endpoint id)]).setSession id { session with stage := .running })
  | refused {id : ConnectionId} {session : Session} (known : before.session? id = some session)
    (waiting : session.stage = .handshake) :
    Turn application before [] none none (before.vacate id session)
  | served {id : ConnectionId} {session next : Session} {actions : List Hub.Action}
    {utterance : Option Utterance} (known : before.session? id = some session)
    (service : Service application before.hub id session actions utterance next) :
    Turn application before actions none (utterance.map (id, ·))
      ((before.asking application actions).setSession id next)
  | left {id : ConnectionId} {session : Session} {rest : List ClientMessage}
    (known : before.session? id = some session) (reading : session.isReading = true)
    (unread : session.inbox = rest ∨ session.inbox = .close :: rest ∨
      session.inbox = .broken :: rest) :
    Turn application before [.move (.close id)] none none
      ((before.asking application [.move (.close id)]).setSession id
        { session with inbox := rest, stage := .leaving })
  | released {id : ConnectionId} {session : Session} {takes : List Hub.Action}
    (known : before.session? id = some session) (leaving : session.stage = .leaving)
    (carried : ∀ action ∈ takes, action.carries id = true) :
    Turn application before
      (.dismiss (.socket session.endpoint id) :: (takes ++ [.move (.dropReceiver id)])) none none
      ((before.asking application
        (.dismiss (.socket session.endpoint id) ::
          (takes ++ [.move (.dropReceiver id)]))).vacate id
        (Session.post
          { session with
            outbox := session.outbox ++ (before.hub.channels.queueOf id).map .frame } .close))

/-- A session that goes on stays where it is. -/
theorem Service.keeps {application : Application α} {hub : Hub α} {id : ConnectionId}
    {session next : Session} {actions : List Hub.Action} {utterance : Option Utterance}
    (service : Service application hub id session actions utterance next) :
    next.listener = session.listener ∧ next.endpoint = session.endpoint ∧
      next.stage = session.stage := by
  cases service with
  | answered reading inbox =>
    rw [Session.hold.eq_def]
    split <;> exact ⟨rfl, rfl, rfl⟩
  | _ => exact ⟨rfl, rfl, rfl⟩

section

variable {server : Server α} {id : ConnectionId} {session : Session}

theorem session?_setSession (server : Server α) (id other : ConnectionId) (session : Session) :
    (server.setSession id session).session? other =
      if other = id then (server.session? other).map fun _ => session
      else server.session? other := Table.get?_modify ..

theorem session?_setSession_self (known : server.session? id = some session) (next : Session) :
    (server.setSession id next).session? id = some next := by
  rw [session?_setSession, if_pos rfl, known, Option.map_some]

theorem setSession_setSession (server : Server α) (id : ConnectionId) (first second : Session) :
    (server.setSession id first).setSession id second = server.setSession id second :=
  congrArg (fun sessions => { server with sessions := sessions })
    (Table.modify_modify server.sessions id (fun _ => first) fun _ => second)

theorem vacate_setSession (server : Server α) (id : ConnectionId) (first second : Session) :
    (server.setSession id first).vacate id second = server.vacate id second := by
  rw [vacate, setSession_setSession]
  rfl

theorem setSession_self (known : server.session? id = some session) :
    server.setSession id session = server :=
  congrArg (fun sessions => { server with sessions := sessions }) (Table.modify_self known)

theorem asking_asking (server : Server α) (application : Application α)
    (first second : List Hub.Action) :
    (server.asking application first).asking application second =
      server.asking application (first ++ second) := by
  simp only [asking, Hub.run_append]

theorem write_eq (application : Application α) (known : server.session? id = some session)
    {frame : Frame} {rest : List Frame}
    (waits : server.hub.channels.queueOf id = frame :: rest) :
    server.write id =
      (server.asking application [.move (.take id)]).setSession id (session.post (.frame frame)) := by
  have oldest := (server.hub.channels.receive_eq id).1
  rw [waits, List.head?_cons] at oldest
  rw [write, known]
  rcases taken : server.hub.channels.receive id with ⟨_ | frame', channels⟩ <;> rw [taken] at oldest
  · cases oldest
  · cases oldest
    obtain rfl := congrArg Prod.snd taken
    rfl

theorem queued_eq (server : Server α) (id : ConnectionId) :
    server.queued id = (server.hub.channels.queueOf id).length := by
  rw [queued, Channels.queueOf]
  cases server.hub.channels.connection? id <;> rfl

/-- All that waits on the connection of a session is written in order. -/
theorem writeMany_eq (application : Application α) {server : Server α} {session : Session}
    (known : server.session? id = some session) {queue : List Frame}
    (waits : server.hub.channels.queueOf id = queue) :
    writeMany queue.length server id =
      (server.asking application (List.replicate queue.length (.move (.take id)))).setSession id
        { session with outbox := session.outbox ++ queue.map .frame } := by
  induction queue generalizing server session with
  | nil =>
    rw [List.map_nil, List.append_nil]
    exact (setSession_self known).symm
  | cons frame rest ih =>
    have written := write_eq application known waits
    have left : (server.write id).hub.channels.queueOf id = rest := by
      rw [written]
      refine ((server.hub.channels.receive_eq id).2 id).trans ?_
      rw [if_pos rfl, waits, List.tail_cons]
    have posted : (server.write id).session? id = some (session.post (.frame frame)) := by
      rw [written, session?_setSession, if_pos rfl]
      exact congrArg (Option.map _) known
    rw [List.length_cons, writeMany, ih posted left, written]
    change (((server.asking application _).asking application _).setSession id _).setSession id _ = _
    rw [setSession_setSession, asking_asking, Session.post, List.append_assoc]
    rfl

theorem drain_eq (application : Application α) (known : server.session? id = some session) :
    server.drain id =
      (server.asking application (List.replicate (server.queued id) (.move (.take id)))).setSession id
        { session with outbox := session.outbox ++ (server.hub.channels.queueOf id).map .frame } := by
  rw [drain, queued_eq]
  exact writeMany_eq application known rfl

/-- What a session that has stopped reading leaves when it is released. -/
theorem release_of_leaving {written : Server α} {last : Session}
    (known : server.session? id = some session) (leaving : session.stage = .leaving)
    (drained : { server with hub := server.hub.disconnect session.endpoint id }.drain id = written)
    (there : written.session? id = some last) :
    server.release id = (written.vacate id (last.post .close)).setChannels
      (written.hub.channels.dropReceiver id) := by
  simp only [release, known, leaving, ↓reduceIte, drained, there]

end

/-- No connection is there for a client that has not completed its handshake. -/
def Fresh (server : Server α) : Prop :=
  ∀ id session, server.session? id = some session → session.stage = .handshake →
    server.hub.channels.connection? id = none

section

variable (application : Application α) (server : Server α)

/-- Nothing happens. -/
theorem Turn.idle : Turn application server [] none none server :=
  .aside (List.forall_mem_nil _) (.inl rfl)

theorem turn_accept (name client : String) (id : ConnectionId) :
    Turn application server [] none none (server.perform application (.accept name client id)) := by
  rw [perform]
  split_ifs with known
  · exact .idle application server
  · rw [Option.not_isSome_iff_eq_none] at known
    rw [accept]
    cases listens : server.listeners.get? name with
    | none => exact .idle application server
    | some listener =>
      simp only
      split_ifs with place
      · exact .accepted known listens place
      · exact .idle application server

theorem turn_completeHandshake (fresh : server.Fresh) (id : ConnectionId) :
    Turn application server (server.asks (.completeHandshake id))
      (server.completes? (.completeHandshake id)) none (server.completeHandshake id).2 := by
  rw [asks, completes?, completeHandshake]
  cases known : server.session? id with
  | none => exact .idle application server
  | some session =>
    simp only [Option.elim_some]
    split_ifs with waiting
    · have absent := fresh id session known waiting
      have opened : server.hub.perform application (.move (.accept id session.info session.buffer)) =
          server.hub.openConnection id session.info session.buffer := by
        rw [Hub.perform, Channels.perform, absent]
        rfl
      have turn : Turn application server _ (some id) none _ := .connected known waiting
      rw [asking, Hub.run_cons, opened] at turn
      exact turn
    · exact .idle application server

theorem turn_failHandshake (id : ConnectionId) :
    Turn application server [] none none (server.failHandshake id) := by
  rw [failHandshake]
  cases known : server.session? id with
  | none => exact .idle application server
  | some session =>
    simp only
    split_ifs with waiting
    · exact .refused known waiting
    · exact .idle application server

theorem turn_arrive (id : ConnectionId) (message : ClientMessage) :
    Turn application server [] none (server.says? application (.arrive id message))
      (server.arrive id message).2 := by
  rw [says?, arrive]
  cases known : server.session? id with
  | none => exact .idle application server
  | some session =>
    by_cases running : session.stage = .running
    · simp only [if_pos running]
      exact .served known (.arrived message running)
    · simp only [if_neg running]
      exact .idle application server

theorem turn_hear (id : ConnectionId) :
    Turn application server [] none (server.says? application (.hear id)) (server.hear id).2 := by
  rw [says?, hear]
  cases known : server.session? id with
  | none => exact .idle application server
  | some session =>
    cases written : session.outbox with
    | nil =>
      simp only [written]
      exact .idle application server
    | cons message rest =>
      simp only [written]
      exact .served known (.heard written)

theorem turn_write (id : ConnectionId) :
    Turn application server (server.asks (.write id)) none none (server.write id) := by
  rw [asks, write]
  cases known : server.session? id with
  | none => exact .idle application server
  | some session =>
    rcases taken : server.hub.channels.receive id with ⟨_ | frame, channels⟩
    · exact .idle application server
    · obtain rfl := congrArg Prod.snd taken
      exact .served known (.wrote (congrArg Prod.fst taken))

theorem turn_resume (id : ConnectionId) :
    Turn application server (server.asks (.resume id)) none none (server.resume id) := by
  rw [asks, resume]
  cases known : server.session? id with
  | none => exact .idle application server
  | some session =>
    cases found : server.hub.channels.connection? id with
    | none => exact .idle application server
    | some connection =>
      cases waiting : session.waiting with
      | none =>
        simp only [waiting]
        exact .idle application server
      | some frame =>
        simp only [waiting]
        rcases resumes : connection.resume frame with ⟨_ | _, after⟩
        · exact .idle application server
        · have turn : Turn application server _ none _ _ :=
            .served known (.resumed waiting found (congrArg Prod.fst resumes))
          have moved : server.hub.perform application (.move (.resume id frame)) =
              { server.hub with channels := server.hub.channels.setConnection id after } := by
            rw [Hub.perform, Channels.perform, found]
            simp only [resumes]
          rw [asking, Hub.run_cons, moved] at turn
          exact turn

/-- A session that reads leaves when it is told to, whatever it has read last. -/
theorem turn_leave {id : ConnectionId} {session : Session} {rest : List ClientMessage}
    (known : server.session? id = some session) (reading : session.isReading = true)
    (unread : session.inbox = rest ∨ session.inbox = .close :: rest ∨
      session.inbox = .broken :: rest) :
    Turn application server [.move (.close id)] none none
      ((server.setSession id { session with inbox := rest }).leave id) := by
  have left : Turn application server _ none _ _ := .left known reading unread
  have reading : Session.isReading { session with inbox := rest } = true := reading
  rw [leave, session?_setSession_self known]
  simp only [reading, ↓reduceIte]
  rw [setSession_setSession]
  exact left

theorem turn_leaveIfDue (id : ConnectionId) :
    Turn application server (server.asks (.leaveIfDue id)) none none (server.leaveIfDue id) := by
  rw [asks, leaveIfDue]
  cases known : server.session? id with
  | none => exact .idle application server
  | some session =>
    simp only [Option.elim_some]
    split_ifs with stays reading
    · exact .idle application server
    · have left := turn_leave application server known reading (.inl rfl)
      rwa [setSession_self known] at left
    · rw [leave, known]
      simp only [reading, Bool.false_eq_true, ↓reduceIte]
      exact .idle application server

theorem turn_read (id : ConnectionId) :
    Turn application server (server.asks (.read id)) none
      (server.says? application (.read id)) (server.read application id) := by
  rw [asks, says?, read]
  cases known : server.session? id with
  | none => exact .idle application server
  | some session =>
    simp only [Option.elim_some, Option.bind_some]
    cases reading : session.isReading with
    | false => exact .idle application server
    | true =>
      cases next : session.inbox with
      | nil => exact .idle application server
      | cons message rest =>
        cases message with
        | frame frame =>
          have turn : Turn application server _ none _ _ := .served known (.answered reading next)
          rw [← setSession_setSession _ id { session with inbox := rest }] at turn
          exact turn
        | ping payload =>
          have turn : Turn application server _ none _ _ := .served known (.ponged reading next)
          rw [← setSession_setSession _ id { session with inbox := rest }] at turn
          exact turn
        | pong payload => exact .served known (.ignored reading next)
        | close => exact turn_leave application server known reading (.inr (.inl next))
        | broken => exact turn_leave application server known reading (.inr (.inr next))

theorem turn_release (id : ConnectionId) :
    Turn application server (server.asks (.release id)) none none (server.release id) := by
  rw [asks]
  cases known : server.session? id with
  | none =>
    rw [release, known]
    exact .idle application server
  | some session =>
    rw [Option.elim_some]
    split_ifs with leaving
    · let dismissed : Server α := { server with hub := server.hub.disconnect session.endpoint id }
      let takes : List Hub.Action := List.replicate (server.queued id) (.move (.take id))
      have drained : dismissed.drain id = (dismissed.asking application takes).setSession id
          { session with outbox := session.outbox ++ (server.hub.channels.queueOf id).map .frame } :=
        drain_eq application known
      have turn : Turn application server
          (.dismiss (.socket session.endpoint id) :: (takes ++ [.move (.dropReceiver id)])) none none _ :=
        .released known leaving fun action member => by
          simp [List.eq_of_mem_replicate member, Hub.Action.carries]
      have settled : server.asking application
            (.dismiss (.socket session.endpoint id) :: (takes ++ [.move (.dropReceiver id)])) =
          (dismissed.asking application takes).setChannels
            ((dismissed.asking application takes).hub.channels.dropReceiver id) := by
        rw [asking, Hub.run_cons, Hub.run_append]
        rfl
      rw [settled] at turn
      have there : (dismissed.asking application takes).session? id = some session := known
      rw [release_of_leaving known leaving drained (session?_setSession_self there _),
        vacate_setSession]
      exact turn
    · rw [release, known]
      simp only [leaving, ↓reduceIte]
      exact .idle application server

theorem turn_stop (name : String) : Turn application server [] none none (server.stop name).2 := by
  have stopped : Turn application server [] none none
      { server with listeners := server.listeners.modify name Listener.stopped } :=
    .aside (List.forall_mem_nil _) (.inr ⟨name, rfl⟩)
  rw [stop]
  rcases (server.listeners.get? name).map Listener.stage with _ | _ | _ | _
  · exact .idle application server
  · exact stopped
  · exact stopped
  · exact .idle application server

/-- Every step is a turn. -/
theorem turn_perform (fresh : server.Fresh) (step : Step) :
    Turn application server (server.asks step) (server.completes? step)
      (server.says? application step) (server.perform application step) := by
  cases step with
  | accept name client id => exact turn_accept application server name client id
  | completeHandshake id => exact turn_completeHandshake application server fresh id
  | failHandshake id => exact turn_failHandshake application server id
  | arrive id message => exact turn_arrive application server id message
  | read id => exact turn_read application server id
  | write id => exact turn_write application server id
  | resume id => exact turn_resume application server id
  | leaveIfDue id => exact turn_leaveIfDue application server id
  | release id => exact turn_release application server id
  | hear id => exact turn_hear application server id
  | stop name => exact turn_stop application server name
  | around action =>
    rw [asks, perform]
    split_ifs with around
    · exact .aside (fun _ member => List.mem_singleton.mp member ▸ around) (.inl rfl)
    · exact .idle application server

end

end Server

end Gateway
